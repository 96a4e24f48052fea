import RouteTemplate.Unicode.Character

/-!
Word characters of ASCII. The tables behind `\w` list only letters, digits and the underscore below
128, so comparing ASCII characters first gives what the tables say (`isWord_eq`).
-/

namespace RouteTemplate.Unicode

/-- The range that has been read, if it begins below `n`. -/
def rangeBelow (n : Nat) (low : Option Nat) (number : Nat) : List (Nat × Nat) :=
  if low.getD number < n then [(low.getD number, number)] else []

/-- The ranges of a text that begin below `n`, from the middle of a range on. -/
def rangesBelow (n : Nat) : Option Nat → Nat → Bool → List Char → List (Nat × Nat)
  | low, number, digits, [] => if digits then rangeBelow n low number else []
  | low, number, digits, c :: cs =>
    match hexDigit? c with
    | some d => rangesBelow n low (16 * number + d) true cs
    | none =>
      if c = '-' then rangesBelow n (some number) 0 false cs
      else if digits then rangeBelow n low number ++ rangesBelow n none 0 false cs
      else rangesBelow n low number digits cs

theorem filter_foldl_step (n : Nat) (cs : List Char) (t : RangeText) :
    (cs.foldl RangeText.step t).close.done.reverse.filter (·.1 < n) =
      t.done.reverse.filter (·.1 < n) ++ rangesBelow n t.low t.number t.digits cs := by
  induction cs generalizing t with
  | nil =>
    rw [List.foldl_nil, rangesBelow, RangeText.close]
    cases t.digits with
    | true => simp [rangeBelow, List.filter_cons]
    | false => simp
  | cons c cs ih =>
    rw [List.foldl_cons, ih, rangesBelow, RangeText.step]
    cases hexDigit? c with
    | some d => rfl
    | none =>
      simp only
      split
      · rfl
      · rw [RangeText.close]
        cases hd : t.digits with
        | true => simp [rangeBelow, List.filter_cons]
        | false => simp [hd]

theorem filter_rangesOfText (n : Nat) (text : String) :
    (rangesOfText text).filter (·.1 < n) = rangesBelow n none 0 false text.toList := by
  rw [rangesOfText, String.foldl_eq_foldl_toList, filter_foldl_step]
  rfl

/-- Below `n`, a table holds what its ranges do that begin there. -/
theorem contains_charClassOf {tables : List NamedTable} {name : String} {t : NamedTable}
    {cs : List Char} {n : Nat} (known : List (Nat × Nat))
    (ht : NamedTable.find? tables name = some t) (hcs : t.text = String.ofList cs)
    (h : rangesBelow n none 0 false cs = known) {c : Char} (hc : c.toNat < n) :
    (NamedTable.charClassOf tables name).contains c =
      known.any fun r => r.1 ≤ c.toNat && c.toNat ≤ r.2 := by
  have hmem (r : Nat × Nat) : r ∈ known ↔ r ∈ rangesOfText t.text ∧ r.1 < n := by
    rw [← h, ← String.toList_ofList (l := cs), ← hcs, ← filter_rangesOfText, List.mem_filter,
      decide_eq_true_eq]
  rw [NamedTable.charClassOf, ht, Bool.eq_iff_iff]
  simp only [NamedTable.charClass, CharClass.ofRanges, CharClass.contains_unions, List.any_map,
    List.any_eq_true, Function.comp_apply, CharClass.contains_between_iff, Bool.and_eq_true,
    decide_eq_true_eq, hmem]
  constructor
  · rintro ⟨r, hr, hlow, hhigh⟩
    exact ⟨r, ⟨hr, by omega⟩, hlow, hhigh⟩
  · rintro ⟨r, ⟨hr, -⟩, hlow, hhigh⟩
    exact ⟨r, hr, hlow, hhigh⟩

-- the tables are long literals, and their characters are unfolded one by one
set_option maxRecDepth 100000 in
/-- The tables and the comparisons agree on ASCII. -/
theorem contains_wordClass_of_lt {c : Char} (hc : c.toNat < 128) :
    wordClass.contains c = isAsciiWord c := by
  have halphabetic : (binaryClass "alphabetic").contains c = _ :=
    contains_charClassOf [(0x41, 0x5A), (0x61, 0x7A)] rfl rfl (by decide +kernel) hc
  have hmn : (categoryClass "mn").contains c = _ :=
    contains_charClassOf [] rfl rfl (by decide +kernel) hc
  have hmc : (categoryClass "mc").contains c = _ :=
    contains_charClassOf [] rfl rfl (by decide +kernel) hc
  have hme : (categoryClass "me").contains c = _ :=
    contains_charClassOf [] rfl rfl (by decide +kernel) hc
  have hnd : (categoryClass "nd").contains c = _ :=
    contains_charClassOf [(0x30, 0x39)] rfl rfl (by decide +kernel) hc
  have hpc : (categoryClass "pc").contains c = _ :=
    contains_charClassOf [(0x5F, 0x5F)] rfl rfl (by decide +kernel) hc
  have hjoin : (binaryClass "joincontrol").contains c = _ :=
    contains_charClassOf [] rfl rfl (by decide +kernel) hc
  have hle (a b : Char) : a ≤ b ↔ a.toNat ≤ b.toNat := Iff.rfl
  have hunderscore : c = '_' ↔ c.toNat = 95 := by
    rw [← Char.toNat_inj]
    rfl
  rw [wordClass, CharClass.contains_unions, Bool.eq_iff_iff]
  simp only [List.any_cons, List.any_nil, halphabetic, hmn, hmc, hme, hnd, hpc, hjoin, isAsciiWord,
    isAsciiLetter, isAsciiDigit, Bool.or_eq_true, Bool.and_eq_true, decide_eq_true_eq, beq_iff_eq,
    hunderscore, hle, Bool.false_eq_true, or_false, false_or]
  simp only [show 'a'.toNat = 97 from rfl, show 'z'.toNat = 122 from rfl,
    show 'A'.toNat = 65 from rfl, show 'Z'.toNat = 90 from rfl, show '0'.toNat = 48 from rfl,
    show '9'.toNat = 57 from rfl]
  omega

theorem isWord_eq : isWord = wordClass.contains := by
  funext c
  unfold isWord
  split
  next h => exact (contains_wordClass_of_lt (of_decide_eq_true h)).symm
  next => rfl

end RouteTemplate.Unicode
