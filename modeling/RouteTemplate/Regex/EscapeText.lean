import RouteTemplate.Regex.Flags
import RouteTemplate.Unicode.Property

/-!
Escapes, read character by character behind the backslash: literal characters, characters by number,
shorthand classes, character properties and assertions.
-/

namespace RouteTemplate.Regex

/-- An escape that has been read in part. `number` is a character number in braces, `digits` one
with so many digits to come, the last of them at `last`. -/
inductive EscapeText
  | start
  | numberStart (digits : Nat)
  | digits (left : Nat) (byte : Bool) (value : Nat)
  | number (any : Bool) (value : Nat)
  | property (negated : Bool)
  | propertyName (negated : Bool) (name : List Char)

/-- What an escape comes to, or where its reading stands. A word boundary may be told more closely
by what follows it, so it is kept apart from the other assertions. -/
inductive EscapeStep
  | more (e : EscapeText)
  | literal (c : Char)
  | set (s : CharClass)
  | look (l : Look)
  | wordBoundary

/-- Splits at the first place where `sep` stands, and drops it. -/
def cutAt (sep : List Char) : List Char → Option (List Char × List Char)
  | [] => none
  | c :: rest =>
    if sep.isPrefixOf (c :: rest) then some ([], (c :: rest).drop sep.length)
    else (cutAt sep rest).map fun p => (c :: p.1, p.2)

/-- The class of a property as it stands in braces, and whether its complement is meant: a name, or
a name and a value, which have an equals sign, a colon or `!=` between them. -/
def propertyClass (text : List Char) : Except Error (Bool × CharClass) :=
  let found :=
    match cutAt ['!', '='] text with
    | some (name, value) => (Unicode.propertyValue? name value).map fun s => (true, s)
    | none =>
      match (cutAt [':'] text).or (cutAt ['='] text) with
      | some (name, value) => (Unicode.propertyValue? name value).map fun s => (false, s)
      | none => (Unicode.property? text).map fun s => (false, s)
  match found with
  | some p => .ok p
  | none => .error .propertyUnknown

/-- The control characters that have a letter of their own. -/
def controlLetter? : Char → Option Char
  | 'a' => some '\x07'
  | 'f' => some '\x0c'
  | 'n' => some '\n'
  | 'r' => some '\r'
  | 't' => some '\t'
  | 'v' => some '\x0b'
  | _ => none

/-- Whether a backslash takes away the meaning of a character: all of ASCII but letters, digits and
angle brackets. -/
def escapable (c : Char) : Bool :=
  Unicode.isAscii c && !Unicode.isAsciiLetter c && !Unicode.isAsciiDigit c && c != '<' && c != '>'

namespace EscapeText

def numbered (value : Nat) : Except Error EscapeStep :=
  if value.isValidChar then .ok (.literal (Char.ofNat value)) else .error .hexInvalid

/-- A number of two digits is a byte, which is a character by itself only if it is ASCII. -/
def fixedNumber (f : Flags) (byte : Bool) (value : Nat) : Except Error EscapeStep :=
  if byte && !f.unicode && 0x7F < value then .error .notText else numbered value

def stepStart (f : Flags) (c : Char) : Except Error EscapeStep :=
  if Unicode.isAsciiDigit c then .error .backReference
  else if escapable c then .ok (.literal c)
  else match controlLetter? c with
    | some d => .ok (.literal d)
    | none =>
      match c with
      | 'x' => .ok (.more (.numberStart 2))
      | 'u' => .ok (.more (.numberStart 4))
      | 'U' => .ok (.more (.numberStart 8))
      | 'p' => .ok (.more (.property false))
      | 'P' => .ok (.more (.property true))
      | 'd' | 's' | 'w' => .ok (.set (f.shorthand c))
      | 'D' | 'S' | 'W' => .set <$> f.negate true (f.shorthand c.toLower)
      | 'A' => .ok (.look .textStart)
      | 'z' => .ok (.look .textEnd)
      | 'b' => .ok .wordBoundary
      | 'B' => .ok (.look (.notWordBoundary f.unicode))
      | '<' => .ok (.look (.wordStart f.unicode))
      | '>' => .ok (.look (.wordEnd f.unicode))
      | _ => .error .escapeUnknown

def property? (f : Flags) (negated : Bool) (name : List Char) : Except Error EscapeStep :=
  if !f.unicode then .error .needsUnicode
  else do
    let (differs, s) ← propertyClass name
    let s ← f.close (negated != differs) s
    return .set s

def step (f : Flags) (c : Char) : EscapeText → Except Error EscapeStep
  | start => stepStart f c
  | numberStart n =>
    if c = '\x7b' then .ok (.more (.number false 0))
    else match Unicode.hexDigit? c with
      | some d => .ok (.more (.digits (n - 1) (n == 2) d))
      | none => .error .hexInvalid
  | digits left byte value =>
    match Unicode.hexDigit? c with
    | some d =>
      if left = 1 then fixedNumber f byte (16 * value + d)
      else .ok (.more (.digits (left - 1) byte (16 * value + d)))
    | none => .error .hexInvalid
  | number any value =>
    if c = '\x7d' then (if any then numbered value else .error .hexInvalid)
    else match Unicode.hexDigit? c with
      | some d => .ok (.more (.number true (16 * value + d)))
      | none => .error .hexInvalid
  | property negated =>
    if c = '\x7b' then .ok (.more (.propertyName negated []))
    else if c = '\\' then .error .propertyUnknown
    else property? f negated [c]
  | propertyName negated name =>
    if c = '\x7d' then property? f negated name.reverse
    else .ok (.more (.propertyName negated (c :: name)))

/-- Whether blanks are skipped here in verbose patterns: everywhere but right behind the
backslash. -/
def skipsBlanks : EscapeText → Bool
  | start => false
  | _ => true

end EscapeText

end RouteTemplate.Regex
