import RouteTemplate.Percent

/-!
What percent encoding does to a text: it can be undone, `decode_encode`, and brings in no character
but percent signs and digits, so `not_mem_encode` says what does not occur in an encoded text.
-/

namespace RouteTemplate.Percent

theorem utf8EncodeChar_of_lt {c : Char} (h : c.toNat < 128) :
    String.utf8EncodeChar c = [c.toNat.toUInt8] := by
  have hle : c.val.toNat ≤ 0x7f := Nat.le_of_lt_succ h
  simp only [String.utf8EncodeChar, if_pos hle]
  rfl

theorem isUnreserved_iff {b : UInt8} : isUnreserved b = true ↔
    (97 ≤ b.toNat ∧ b.toNat ≤ 122) ∨ (65 ≤ b.toNat ∧ b.toNat ≤ 90) ∨
      (48 ≤ b.toNat ∧ b.toNat ≤ 57) ∨ b.toNat = 45 ∨ b.toNat = 46 ∨ b.toNat = 95 ∨
        b.toNat = 126 := by
  simp [isUnreserved, UInt8.le_iff_toNat_le, ← UInt8.toNat_inj, or_assoc]

theorem toNat_ofNat_toNat (b : UInt8) : (Char.ofNat b.toNat).toNat = b.toNat := by
  have hb := b.toNat_lt
  have hvalid : b.toNat.isValidChar := .inl (by omega)
  rw [Char.ofNat, dif_pos hvalid]
  rfl

theorem toNat_hexDigit_lt : ∀ n < 16, (hexDigit n).toNat < 128 := by decide

theorem hexValue?_hexDigit :
    ∀ n < 16, hexValue? (hexDigit n).toNat.toUInt8 = some n.toUInt8 := by decide

/-! ## Back to the text -/

theorem unescape_cons_of_ne {b : UInt8} (h : b ≠ 37) (rest : List UInt8) :
    unescape (b :: rest) = b :: unescape rest := by
  rw [unescape]
  intro high low rest hb
  exact absurd hb h

theorem bytes_encodeByte_of_reserved {b : UInt8} (h : isUnreserved b = false) :
    bytes (encodeByte b) = [37, (hexDigit (b.toNat / 16)).toNat.toUInt8,
      (hexDigit (b.toNat % 16)).toNat.toUInt8] := by
  have hb := b.toNat_lt
  have hhigh := toNat_hexDigit_lt (b.toNat / 16) (by omega)
  have hlow := toNat_hexDigit_lt (b.toNat % 16) (by omega)
  rw [encodeByte, h, if_neg Bool.false_ne_true]
  simp only [bytes, List.flatMap_cons, List.flatMap_nil, utf8EncodeChar_of_lt hhigh,
    utf8EncodeChar_of_lt hlow]
  rfl

/-- What a byte is written as is read as this byte. -/
theorem unescape_bytes_encodeByte (b : UInt8) (rest : List UInt8) :
    unescape (bytes (encodeByte b) ++ rest) = b :: unescape rest := by
  have hb := b.toNat_lt
  cases hu : isUnreserved b with
  | true =>
    have hrange := isUnreserved_iff.1 hu
    have hbytes : bytes (encodeByte b) = [b] := by
      rw [encodeByte, hu, if_pos rfl, bytes, List.flatMap_singleton,
        utf8EncodeChar_of_lt (by rw [toNat_ofNat_toNat]; omega), toNat_ofNat_toNat]
      simp
    have hne : b ≠ 37 := by
      rintro rfl
      exact absurd hu (by decide)
    rw [hbytes, List.singleton_append, unescape_cons_of_ne hne]
  | false =>
    have hvalue : 16 * (b.toNat / 16).toUInt8 + (b.toNat % 16).toUInt8 = b := by
      rw [← UInt8.toNat_inj]
      simp
      omega
    rw [bytes_encodeByte_of_reserved hu]
    simp only [List.cons_append, List.nil_append, unescape,
      hexValue?_hexDigit (b.toNat / 16) (by omega), hexValue?_hexDigit (b.toNat % 16) (by omega)]
    rw [hvalue]

theorem unescape_bytes_flatMap_encodeByte (bs : List UInt8) :
    unescape (bytes (bs.flatMap encodeByte)) = bs := by
  induction bs with
  | nil => rfl
  | cons b bs ih =>
    have happend : bytes (encodeByte b ++ bs.flatMap encodeByte) =
        bytes (encodeByte b) ++ bytes (bs.flatMap encodeByte) := List.flatMap_append
    rw [List.flatMap_cons, happend, unescape_bytes_encodeByte, ih]

theorem fromUTF8?_bytes (text : String) :
    String.fromUTF8? (bytes text.toList).toByteArray = some text := by
  have hbytes : (bytes text.toList).toByteArray = text.toByteArray := String.utf8Encode_toList
  rw [hbytes, String.fromUTF8?, dif_pos text.isValidUTF8]
  rfl

/-- Decoding gives back what has been encoded. -/
theorem decode_encode (text : String) : decode (encode text) = text := by
  rw [decode, encode, String.toList_ofList, unescape_bytes_flatMap_encodeByte, fromUTF8?_bytes]
  rfl

/-! ## The characters of an encoded text -/

/-- Only ASCII characters have bytes below 128. -/
theorem toNat_of_mem_utf8EncodeChar {c : Char} {b : UInt8} (h : b ∈ String.utf8EncodeChar c)
    (hb : b.toNat < 128) : c.toNat = b.toNat := by
  have hval : c.val.toNat = c.toNat := rfl
  simp only [String.utf8EncodeChar, hval] at h
  split at h
  · obtain rfl := List.mem_singleton.1 h
    rw [UInt8.toNat_ofNat']
    omega
  · split at h
    · simp only [List.mem_cons, List.not_mem_nil, or_false] at h
      rcases h with rfl | rfl <;> rw [UInt8.toNat_ofNat'] at hb <;> omega
    · split at h
      · simp only [List.mem_cons, List.not_mem_nil, or_false] at h
        rcases h with rfl | rfl | rfl <;> rw [UInt8.toNat_ofNat'] at hb <;> omega
      · simp only [List.mem_cons, List.not_mem_nil, or_false] at h
        rcases h with rfl | rfl | rfl | rfl <;> rw [UInt8.toNat_ofNat'] at hb <;> omega

theorem mem_encode {text : String} {c : Char} (h : c ∈ (encode text).toList) :
    c = '%' ∨ (∃ n < 16, c = hexDigit n) ∨
      isUnreserved c.toNat.toUInt8 = true ∧ c ∈ text.toList := by
  rw [encode, String.toList_ofList] at h
  obtain ⟨b, hb, hc⟩ := List.mem_flatMap.1 h
  have hlt := b.toNat_lt
  cases hu : isUnreserved b with
  | true =>
    have hrange := isUnreserved_iff.1 hu
    rw [encodeByte, hu, if_pos rfl, List.mem_singleton] at hc
    have hnat : c.toNat = b.toNat := by rw [hc, toNat_ofNat_toNat]
    obtain ⟨d, hd, hbd⟩ := List.mem_flatMap.1 hb
    have hdb := toNat_of_mem_utf8EncodeChar hbd (by omega)
    obtain rfl : d = c := Char.toNat_inj.1 (hdb.trans hnat.symm)
    refine .inr (.inr ⟨?_, hd⟩)
    rw [hnat]
    simpa using hu
  | false =>
    rw [encodeByte, hu, if_neg Bool.false_ne_true] at hc
    simp only [List.mem_cons, List.not_mem_nil, or_false] at hc
    rcases hc with hc | hc | hc
    · exact .inl hc
    · exact .inr (.inl ⟨_, by omega, hc⟩)
    · exact .inr (.inl ⟨_, by omega, hc⟩)

/-- A character that escapes do not bring in occurs in an encoded text only if it is unreserved and
occurs in the text itself. -/
theorem not_mem_encode {text : String} {c : Char} (hpercent : c ≠ '%')
    (hdigit : ∀ n < 16, c ≠ hexDigit n)
    (h : isUnreserved c.toNat.toUInt8 = false ∨ c ∉ text.toList) :
    c ∉ (encode text).toList := by
  intro hc
  rcases mem_encode hc with hc | ⟨n, hn, hc⟩ | ⟨hu, hc⟩
  · exact hpercent hc
  · exact hdigit n hn hc
  · rcases h with h | h
    · rw [h] at hu
      exact absurd hu Bool.false_ne_true
    · exact h hc

theorem slash_not_mem_encode (text : String) : '/' ∉ (encode text).toList :=
  not_mem_encode (by decide) (by decide) (.inl (by decide))

theorem dot_not_mem_encode {text : String} (h : '.' ∉ text.toList) :
    '.' ∉ (encode text).toList :=
  not_mem_encode (by decide) (by decide) (.inr h)

theorem encode_ne_empty {text : String} (h : text ≠ "") : encode text ≠ "" := by
  intro he
  refine h ?_
  rw [← decode_encode text, he]
  rfl

end RouteTemplate.Percent
