import Mathlib.Data.List.Forall2
import RouteTemplate.Proofs.Percent

/-!
Percent-encoded texts, apart from the encoder. Such a text is made of pieces: unreserved characters
and escapes in upper case, each of which stands for a byte. It is canonical if no byte is escaped
that has a character of its own, and if the bytes are UTF-8. A byte then has just one piece, which
is what it is encoded as (`piece_reserved_iff`); so the canonical texts are what encoding gives, and
they are the texts that decoding and encoding leaves as they are: `encode_decode_canonical`.
-/

namespace RouteTemplate.Percent

/-- Letters and digits of ASCII, hyphen, point, underscore and tilde. -/
def Unreserved (c : Char) : Prop := c.isAlphanum = true ∨ c ∈ ['-', '.', '_', '~']

instance : DecidablePred Unreserved := fun _ => inferInstanceAs (Decidable (_ ∨ _))

/-- The characters that encoded texts are written with. -/
def Alphabet (c : Char) : Prop := Unreserved c ∨ c = '%'

instance : DecidablePred Alphabet := fun _ => inferInstanceAs (Decidable (_ ∨ _))

/-- No unreserved character is this byte. -/
def Reserved (b : UInt8) : Prop := ∀ c, Unreserved c → c.toNat ≠ b.toNat

def upperDigits : List Char :=
  ['0', '1', '2', '3', '4', '5', '6', '7', '8', '9', 'A', 'B', 'C', 'D', 'E', 'F']

/-- What a byte may be written as: the unreserved character that it is, or an escape of a byte that
may be escaped. -/
inductive Piece (MayEscape : UInt8 → Prop) : List Char → UInt8 → Prop
  | char {c : Char} : Unreserved c → Piece MayEscape [c] (.ofNat c.toNat)
  | escape {m n : Nat} {high low : Char} : upperDigits[m]? = some high →
      upperDigits[n]? = some low → MayEscape (.ofNat (16 * m + n)) →
      Piece MayEscape ['%', high, low] (.ofNat (16 * m + n))

/-- The text is made of pieces that stand for the bytes. -/
def Written (MayEscape : UInt8 → Prop) (text : String) (bs : List UInt8) : Prop :=
  ∃ pieces, List.Forall₂ (Piece MayEscape) pieces bs ∧ text.toList = pieces.flatten

/-- Only reserved bytes are escaped, and the bytes are those of a text. -/
def Canonical (text : String) : Prop :=
  ∃ bs, Written Reserved text bs ∧ bs.toByteArray.IsValidUTF8

/-! ## Pieces -/

theorem unreserved_iff {c : Char} : Unreserved c ↔
    (97 ≤ c.toNat ∧ c.toNat ≤ 122) ∨ (65 ≤ c.toNat ∧ c.toNat ≤ 90) ∨
      (48 ≤ c.toNat ∧ c.toNat ≤ 57) ∨ c.toNat = 45 ∨ c.toNat = 46 ∨ c.toNat = 95 ∨
        c.toNat = 126 := by
  have hsigns : c ∈ ['-', '.', '_', '~'] ↔
      c.toNat = 45 ∨ c.toNat = 46 ∨ c.toNat = 95 ∨ c.toNat = 126 := by
    simp [← Char.toNat_inj]
  have halphanum : c.isAlphanum = true ↔ ((65 ≤ c.toNat ∧ c.toNat ≤ 90) ∨
      (97 ≤ c.toNat ∧ c.toNat ≤ 122)) ∨ (48 ≤ c.toNat ∧ c.toNat ≤ 57) := by
    delta Char.isAlphanum Char.isAlpha Char.isUpper Char.isLower Char.isDigit
    simp [UInt32.le_iff_toNat_le, ← Char.toNat_val]
  rw [Unreserved, halphanum, hsigns]
  omega

theorem Unreserved.lt {c : Char} (h : Unreserved c) : c.toNat < 128 := by
  have hrange := unreserved_iff.1 h
  omega

theorem isUnreserved_toNat_iff {c : Char} (hc : c.toNat < 256) :
    isUnreserved (.ofNat c.toNat) = true ↔ Unreserved c := by
  rw [isUnreserved_iff, unreserved_iff, UInt8.toNat_ofNat', Nat.mod_eq_of_lt hc]

theorem reserved_iff {b : UInt8} : Reserved b ↔ isUnreserved b = false := by
  have hb := b.toNat_lt
  have hchar := toNat_ofNat_toNat b
  constructor
  · intro h
    rw [Bool.eq_false_iff]
    intro hu
    refine h (Char.ofNat b.toNat) ((isUnreserved_toNat_iff (by omega)).1 ?_) hchar
    rwa [hchar, UInt8.ofNat_toNat]
  · intro h c hc hcb
    have hu := (isUnreserved_toNat_iff (by omega)).2 hc
    rw [hcb, UInt8.ofNat_toNat, h] at hu
    exact absurd hu Bool.false_ne_true

theorem getElem?_upperDigits_iff {n : Nat} {c : Char} :
    upperDigits[n]? = some c ↔ n < 16 ∧ c = hexDigit n := by
  have hdigit : ∀ n < 16, upperDigits[n]? = some (hexDigit n) := by decide
  constructor
  · intro h
    have hn : n < 16 := (List.getElem?_eq_some_iff.1 h).1
    rw [hdigit n hn] at h
    exact ⟨hn, (Option.some.inj h).symm⟩
  · rintro ⟨hn, rfl⟩
    exact hdigit n hn

theorem Piece.mono {P Q : UInt8 → Prop} (h : ∀ b, P b → Q b) {piece : List Char} {b : UInt8}
    (hp : Piece P piece b) : Piece Q piece b := by
  cases hp with
  | char hc => exact .char hc
  | escape hhigh hlow hb => exact .escape hhigh hlow (h _ hb)

theorem unreserved_of_mem_upperDigits {c : Char} (hc : c ∈ upperDigits) : Unreserved c := by
  have hall : upperDigits.all (Unreserved ·) = true := by decide
  exact of_decide_eq_true (List.all_eq_true.1 hall c hc)

theorem Piece.alphabet {P : UInt8 → Prop} {piece : List Char} {b : UInt8} (h : Piece P piece b) :
    ∀ c ∈ piece, Alphabet c := by
  cases h with
  | char hc => exact List.forall_mem_singleton.2 (.inl hc)
  | escape hhigh hlow =>
    have hdigits : ∀ {n : Nat} {c : Char}, upperDigits[n]? = some c → Alphabet c :=
      fun hc => .inl (unreserved_of_mem_upperDigits (List.mem_of_getElem? hc))
    simp only [List.forall_mem_cons]
    exact ⟨.inr rfl, hdigits hhigh, hdigits hlow, List.forall_mem_nil _⟩

/-- If only reserved bytes are escaped, a byte has just one piece. -/
theorem piece_reserved_iff {piece : List Char} {b : UInt8} :
    Piece Reserved piece b ↔ piece = encodeByte b := by
  constructor
  · intro h
    cases h with
    | @char c hc =>
      have hlt := hc.lt
      rw [encodeByte, (isUnreserved_toNat_iff (by omega)).2 hc, if_pos rfl, UInt8.toNat_ofNat',
        Nat.mod_eq_of_lt (by omega), Char.ofNat_toNat]
    | @escape m n high low hhigh hlow hb =>
      obtain ⟨hm, rfl⟩ := getElem?_upperDigits_iff.1 hhigh
      obtain ⟨hn, rfl⟩ := getElem?_upperDigits_iff.1 hlow
      have hfirst : (16 * m + n) / 16 = m := by omega
      have hlast : (16 * m + n) % 16 = n := by omega
      rw [encodeByte, reserved_iff.1 hb, if_neg Bool.false_ne_true, UInt8.toNat_ofNat',
        Nat.mod_eq_of_lt (by omega), hfirst, hlast]
  · rintro rfl
    have hb := b.toNat_lt
    cases hu : isUnreserved b with
    | true =>
      have hchar := toNat_ofNat_toNat b
      have hc : Unreserved (Char.ofNat b.toNat) := by
        refine (isUnreserved_toNat_iff (by omega)).1 ?_
        rwa [hchar, UInt8.ofNat_toNat]
      have hpiece : Piece Reserved _ _ := .char hc
      rw [hchar, UInt8.ofNat_toNat] at hpiece
      rwa [encodeByte, hu, if_pos rfl]
    | false =>
      have hvalue : UInt8.ofNat (16 * (b.toNat / 16) + b.toNat % 16) = b := by
        rw [Nat.div_add_mod, UInt8.ofNat_toNat]
      have hpiece : Piece Reserved _ _ := .escape
        (getElem?_upperDigits_iff.2 ⟨by omega, rfl⟩ : upperDigits[b.toNat / 16]? = _)
        (getElem?_upperDigits_iff.2 ⟨by omega, rfl⟩ : upperDigits[b.toNat % 16]? = _)
        (by rw [hvalue]; exact reserved_iff.2 hu)
      rw [hvalue] at hpiece
      rwa [encodeByte, hu, if_neg Bool.false_ne_true]

/-! ## Texts -/

variable {text : String} {bs : List UInt8}

/-- Bytes are written in just one way if only reserved ones are escaped. -/
theorem written_reserved_iff :
    Written Reserved text bs ↔ text = .ofList (bs.flatMap encodeByte) := by
  have hpiece : Piece Reserved = fun piece b => piece = encodeByte b := by
    funext piece b
    exact propext piece_reserved_iff
  have hpieces (pieces : List (List Char)) :
      List.Forall₂ (Piece Reserved) pieces bs ↔ pieces = bs.map encodeByte := by
    rw [hpiece, ← List.forall₂_map_right_iff (R := Eq), List.forall₂_eq_eq_eq]
  simp only [Written, hpieces, exists_eq_left]
  rw [← List.flatMap_def, ← String.toList_inj, String.toList_ofList]

theorem Written.mono {P Q : UInt8 → Prop} (h : ∀ b, P b → Q b) (hw : Written P text bs) :
    Written Q text bs := by
  obtain ⟨pieces, hpieces, htext⟩ := hw
  exact ⟨pieces, hpieces.imp fun _ _ => Piece.mono h, htext⟩

theorem Written.alphabet {P : UInt8 → Prop} (h : Written P text bs) :
    ∀ c ∈ text.toList, Alphabet c := by
  obtain ⟨pieces, hpieces, htext⟩ := h
  intro c hc
  rw [htext] at hc
  clear htext
  induction hpieces with
  | nil => exact absurd hc List.not_mem_nil
  | cons hpiece _ ih =>
    rw [List.flatten_cons] at hc
    exact (List.mem_append.1 hc).elim (hpiece.alphabet c) ih

theorem written_encode (text : String) :
    Written Reserved (encode text) (bytes text.toList) := written_reserved_iff.2 rfl

/-- The canonical texts are what encoding gives. -/
theorem canonical_iff : Canonical text ↔ ∃ s, text = encode s := by
  constructor
  · rintro ⟨bs, hw, cs, hcs⟩
    refine ⟨.ofList cs, ?_⟩
    rw [written_reserved_iff.1 hw, encode, String.toList_ofList, List.toByteArray_inj.1 hcs]
    rfl
  · rintro ⟨s, rfl⟩
    exact ⟨_, written_encode s, s.toList, rfl⟩

/-- Encoding writes unreserved characters and escapes in upper case, and decoding takes it back. The
other way around, a text is decoded and encoded to itself exactly if it is canonical. -/
theorem encode_decode_canonical (text : String) :
    (∃ bs, Written (fun _ => True) (encode text) bs) ∧ decode (encode text) = text ∧
      (encode (decode text) = text ↔ Canonical text) := by
  refine ⟨⟨_, (written_encode text).mono fun _ _ => trivial⟩, decode_encode text, ?_⟩
  rw [canonical_iff]
  constructor
  · intro h
    exact ⟨_, h.symm⟩
  · rintro ⟨s, rfl⟩
    rw [decode_encode]

end RouteTemplate.Percent
