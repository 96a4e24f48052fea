import RouteTemplate.Unicode.BinaryProperty
import RouteTemplate.Unicode.GeneralCategory

/-!
The kinds of character that patterns and templates speak of: blanks, decimal digits, letters,
numbers and word characters. Each is decided by comparison for ASCII and by a table beyond it.
-/

namespace RouteTemplate.Unicode

def categoryClass (name : String) : CharClass := NamedTable.charClassOf categoryTables name

def binaryClass (name : String) : CharClass := NamedTable.charClassOf binaryTables name

def isAscii (c : Char) : Bool := c.toNat < 128

def isAsciiDigit (c : Char) : Bool := '0' ≤ c ∧ c ≤ '9'

def isAsciiLetter (c : Char) : Bool := ('a' ≤ c ∧ c ≤ 'z') ∨ ('A' ≤ c ∧ c ≤ 'Z')

def isAsciiWord (c : Char) : Bool := isAsciiLetter c || isAsciiDigit c || c == '_'

/-- Tab to carriage return, and the blank. -/
def isAsciiSpace (c : Char) : Bool := (9 ≤ c.toNat ∧ c.toNat ≤ 13) ∨ c.toNat = 32

/-- The characters with the property `White_Space`. -/
def isSpace (c : Char) : Bool :=
  let n := c.toNat
  isAsciiSpace c || n == 0x85 || n == 0xA0 || n == 0x1680 || (0x2000 ≤ n && n ≤ 0x200A) ||
    n == 0x2028 || n == 0x2029 || n == 0x202F || n == 0x205F || n == 0x3000

/-- Letters, marks, decimal digits, connector punctuation and the two join controls. -/
def wordClass : CharClass :=
  .unions [binaryClass "alphabetic", categoryClass "mn", categoryClass "mc", categoryClass "me",
    categoryClass "nd", categoryClass "pc", binaryClass "joincontrol"]

def digitClass : CharClass := categoryClass "nd"

def spaceClass : CharClass := binaryClass "whitespace"

def isWord (c : Char) : Bool := if isAscii c then isAsciiWord c else wordClass.contains c

/-- The alphabetic characters that Unicode 17 has added to those of Unicode 16. -/
def laterAlphabeticText : String :=
  "88F C5C CDC A7CE-A7CF A7D2 A7D4 A7F1 10940-10959 10EC5-10EC7 10EFA-10EFB 11B60-11B67
   11DB0-11DDB 16EA0-16EB8 16EBB-16ED3 16FF2-16FF6 187F8-187FF 18D09-18D1E 18D80-18DF2
   1E6C0-1E6DE 1E6E0-1E6F5 1E6FE-1E6FF 2B73A-2B73F 2CEA2-2CEAD 323B0-33479"

/-- The numbers that Unicode 17 has added to those of Unicode 16. -/
def laterNumberText : String :=
  "11DE0-11DE9 16FF4-16FF6"

/-- The alphabetic characters of Unicode 17. -/
def letterClass : CharClass :=
  (binaryClass "alphabetic").union (.ofRanges (rangesOfText laterAlphabeticText))

/-- Decimal digits, letters that stand for numbers, and other numbers of Unicode 17. -/
def numberClass : CharClass :=
  .unions [categoryClass "nd", categoryClass "nl", categoryClass "no",
    .ofRanges (rangesOfText laterNumberText)]

/-- Whether a name may begin with the character. Names go by a later version of Unicode than
classes. -/
def isLetter (c : Char) : Bool := if isAscii c then isAsciiLetter c else letterClass.contains c

def isNumber (c : Char) : Bool := if isAscii c then isAsciiDigit c else numberClass.contains c

end RouteTemplate.Unicode
