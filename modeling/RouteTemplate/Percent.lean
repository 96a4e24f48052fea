/-!
Percent encoding of path components: every byte of the UTF-8 form is written as `%` and two upper
case hexadecimal digits, but for the unreserved ones. Decoding takes digits of either case, and a
text whose decoded bytes are not UTF-8 is left as it is.
-/

namespace RouteTemplate.Percent

/-- Letters, digits, hyphen, point, underscore and tilde. -/
def isUnreserved (b : UInt8) : Bool :=
  (97 ≤ b && b ≤ 122) || (65 ≤ b && b ≤ 90) || (48 ≤ b && b ≤ 57) ||
    b == 45 || b == 46 || b == 95 || b == 126

/-- The hexadecimal digit of a number below 16. -/
def hexDigit (n : Nat) : Char := Char.ofNat (if n < 10 then 48 + n else 55 + n)

def encodeByte (b : UInt8) : List Char :=
  if isUnreserved b then [Char.ofNat b.toNat]
  else ['%', hexDigit (b.toNat / 16), hexDigit (b.toNat % 16)]

def bytes (text : List Char) : List UInt8 := text.flatMap String.utf8EncodeChar

def encode (text : String) : String := .ofList ((bytes text.toList).flatMap encodeByte)

def hexValue? (b : UInt8) : Option UInt8 :=
  if 48 ≤ b && b ≤ 57 then some (b - 48)
  else if 65 ≤ b && b ≤ 70 then some (b - 55)
  else if 97 ≤ b && b ≤ 102 then some (b - 87)
  else none

/-- Replaces every `%` and two hexadecimal digits by the byte that they name, from left to right. -/
def unescape : List UInt8 → List UInt8
  | [] => []
  | 37 :: high :: low :: rest =>
    match hexValue? high, hexValue? low with
    | some h, some l => (16 * h + l) :: unescape rest
    | _, _ => 37 :: unescape (high :: low :: rest)
  | b :: rest => b :: unescape rest

def decode (text : String) : String :=
  (String.fromUTF8? (unescape (bytes text.toList)).toByteArray).getD text

end RouteTemplate.Percent
