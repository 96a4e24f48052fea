import RouteTemplate.Json
import RouteTemplate.Unicode.Character

/-!
Reading of JSON texts. Every function takes what is left of the text and gives what is left behind
the part that it read. `read?` takes exactly one value with blanks around it.
-/

namespace RouteTemplate.Json

def isBlank (c : Char) : Bool := c == ' ' || c == '\t' || c == '\n' || c == '\r'

def skipBlanks (cs : List Char) : List Char := cs.dropWhile isBlank

def literal? (word : String) (cs : List Char) : Option (List Char) :=
  if word.toList.isPrefixOf cs then some (cs.drop word.toList.length) else none

/-- One digit or more. -/
def digits? : List Char → Option (List Char)
  | c :: rest =>
    if Unicode.isAsciiDigit c then some (rest.dropWhile Unicode.isAsciiDigit) else none
  | [] => none

def fraction? : List Char → Option (List Char)
  | '.' :: rest => digits? rest
  | cs => some cs

def exponent? : List Char → Option (List Char)
  | c :: rest =>
    if c = 'e' ∨ c = 'E' then
      match rest with
      | '+' :: rest => digits? rest
      | '-' :: rest => digits? rest
      | _ => digits? rest
    else some (c :: rest)
  | [] => some []

/-- Digits without a leading zero, or zero. -/
def natural? : List Char → Option (List Char)
  | '0' :: c :: rest => if Unicode.isAsciiDigit c then none else some (c :: rest)
  | cs => digits? cs

def number? (cs : List Char) : Option (List Char) := do
  let cs := match cs with
    | '-' :: rest => rest
    | _ => cs
  let cs ← natural? cs
  let cs ← fraction? cs
  exponent? cs

/-- A character of a text: written as such, or as a 16-bit unit by number. -/
inductive TextUnit
  | char (c : Char)
  | unit (n : Nat)

def simpleEscape? : Char → Option Char
  | '"' => some '"'
  | '\\' => some '\\'
  | '/' => some '/'
  | 'b' => some '\x08'
  | 'f' => some '\x0c'
  | 'n' => some '\n'
  | 'r' => some '\r'
  | 't' => some '\t'
  | _ => none

def unit? (a b c d : Char) : Option TextUnit := do
  let a ← Unicode.hexDigit? a
  let b ← Unicode.hexDigit? b
  let c ← Unicode.hexDigit? c
  let d ← Unicode.hexDigit? d
  return .unit (((16 * a + b) * 16 + c) * 16 + d)

/-- The units up to the closing quote. -/
def units? : List Char → Option (List TextUnit × List Char)
  | [] => none
  | '"' :: rest => some ([], rest)
  | '\\' :: 'u' :: a :: b :: c :: d :: rest => do
    let u ← unit? a b c d
    let (us, rest) ← units? rest
    return (u :: us, rest)
  | '\\' :: c :: rest => do
    let c ← simpleEscape? c
    let (us, rest) ← units? rest
    return (.char c :: us, rest)
  | c :: rest =>
    if c.toNat < 32 ∨ c = '\\' then none
    else do
      let (us, rest) ← units? rest
      return (.char c :: us, rest)

/-- Joins surrogate pairs; a surrogate by itself is no character. -/
def resolve? : List TextUnit → Option (List Char)
  | [] => some []
  | .char c :: rest => (resolve? rest).map (c :: ·)
  | .unit high :: .unit low :: rest =>
    if 0xD800 ≤ high ∧ high < 0xDC00 then
      if 0xDC00 ≤ low ∧ low < 0xE000 then
        (resolve? rest).map (Char.ofNat (0x10000 + (high - 0xD800) * 0x400 + (low - 0xDC00)) :: ·)
      else none
    else if 0xDC00 ≤ high ∧ high < 0xE000 then none
    else (resolve? (.unit low :: rest)).map (Char.ofNat high :: ·)
  | .unit n :: rest =>
    if 0xD800 ≤ n ∧ n < 0xE000 then none else (resolve? rest).map (Char.ofNat n :: ·)

/-- The text behind an opening quote. -/
def text? (cs : List Char) : Option (Option String × List Char) :=
  (units? cs).map fun p => ((resolve? p.1).map String.ofList, p.2)

mutual

/-- A value without blanks before it. -/
def value? : Nat → List Char → Option (Json × List Char)
  | 0, _ => none
  | fuel + 1, cs =>
    match cs with
    | '"' :: rest => (text? rest).map fun p => (.string p.1, p.2)
    | '[' :: rest =>
      match skipBlanks rest with
      | ']' :: rest => some (.array [], rest)
      | rest => (items? fuel rest).map fun p => (.array p.1, p.2)
    | '\x7b' :: rest =>
      match skipBlanks rest with
      | '\x7d' :: rest => some (.object [], rest)
      | rest => (members? fuel rest).map fun p => (.object p.1, p.2)
    | 'n' :: _ => (literal? "null" cs).map fun rest => (.null, rest)
    | 't' :: _ => (literal? "true" cs).map fun rest => (.bool true, rest)
    | 'f' :: _ => (literal? "false" cs).map fun rest => (.bool false, rest)
    | _ => (number? cs).map fun rest => (.number, rest)

/-- The items of an array, from the first one to the closing bracket. -/
def items? : Nat → List Char → Option (List Json × List Char)
  | 0, _ => none
  | fuel + 1, cs => do
    let (v, rest) ← value? fuel cs
    match skipBlanks rest with
    | ',' :: rest =>
      let (vs, rest) ← items? fuel (skipBlanks rest)
      return (v :: vs, rest)
    | ']' :: rest => return ([v], rest)
    | _ => none

/-- The members of an object, from the first one to the closing brace. -/
def members? : Nat → List Char → Option (List (Option String × Json) × List Char)
  | 0, _ => none
  | fuel + 1, cs => do
    let '"' :: rest := cs | none
    let (key, rest) ← text? rest
    let ':' :: rest := skipBlanks rest | none
    let (v, rest) ← value? fuel (skipBlanks rest)
    match skipBlanks rest with
    | ',' :: rest =>
      let (ms, rest) ← members? fuel (skipBlanks rest)
      return ((key, v) :: ms, rest)
    | '\x7d' :: rest => return ([(key, v)], rest)
    | _ => none

end

/-- Reads a text that is one value. Of two steps of the recursion one takes a character, so twice
the length of the text is fuel enough. -/
def read? (text : String) : Option Json := do
  let cs := skipBlanks text.toList
  let (v, rest) ← value? (2 * cs.length + 2) cs
  if (skipBlanks rest).isEmpty then return v else none

end RouteTemplate.Json
