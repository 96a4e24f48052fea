import RouteTemplate.CharClass.AsciiKind
import RouteTemplate.Regex.Build
import RouteTemplate.Regex.Error
import RouteTemplate.Unicode.CaseForm

/-!
The flags that govern how the rest of a group is read, and what the single constructs mean under
them. A flag directive such as `(?i-s)` is read letter by letter by `FlagText.step`.
-/

namespace RouteTemplate.Regex

structure Flags where
  ignoreCase : Bool := false
  multiLine : Bool := false
  dotAll : Bool := false
  swapGreed : Bool := false
  unicode : Bool := true
  crlf : Bool := false
  verbose : Bool := false
  deriving DecidableEq, Repr

namespace Flags

def set? (f : Flags) (letter : Char) (value : Bool) : Option Flags :=
  match letter with
  | 'i' => some { f with ignoreCase := value }
  | 'm' => some { f with multiLine := value }
  | 's' => some { f with dotAll := value }
  | 'U' => some { f with swapGreed := value }
  | 'u' => some { f with unicode := value }
  | 'R' => some { f with crlf := value }
  | 'x' => some { f with verbose := value }
  | _ => none

/-- A class together with the case forms of its members, if case is ignored. -/
def fold (f : Flags) (s : CharClass) : CharClass :=
  if f.ignoreCase then (if f.unicode then s.folded else s.asciiFolded) else s

/-- The complement of a class. Without Unicode a class holds bytes, and a complement would hold
some that are no text. -/
def negate (f : Flags) (negated : Bool) (s : CharClass) : Except Error CharClass :=
  if negated then (if f.unicode then .ok s.outside else .error .notText) else .ok s

/-- A class as it stands in the text: case first, then the complement. -/
def close (f : Flags) (negated : Bool) (s : CharClass) : Except Error CharClass :=
  f.negate negated (f.fold s)

/-- A class as an expression. -/
def ofClass (f : Flags) (s : CharClass) : Expr := .ofClass f.unicode s

/-- A character outside of a class. -/
def literal (f : Flags) (c : Char) : Expr := f.ofClass (f.fold (.single c))

/-- The dot: any character, but for line ends unless these are asked for. -/
def dot (f : Flags) : Except Error Expr :=
  if !f.unicode then .error .notText
  else if f.dotAll then .ok (f.ofClass .any)
  else if f.crlf then .ok (f.ofClass (CharClass.ofChars ['\n', '\r']).compl)
  else .ok (f.ofClass (CharClass.single '\n').compl)

def lineStart (f : Flags) : Look :=
  if f.multiLine then (if f.crlf then .crlfStart else .lineStart) else .textStart

def lineEnd (f : Flags) : Look :=
  if f.multiLine then (if f.crlf then .crlfEnd else .lineEnd) else .textEnd

/-- The classes `\d`, `\s` and `\w`. -/
def shorthand (f : Flags) : Char → CharClass
  | 'd' => if f.unicode then Unicode.digitClass else AsciiKind.digit.charClass
  | 's' => if f.unicode then Unicode.spaceClass else AsciiKind.space.charClass
  | _ => if f.unicode then Unicode.wordClass else AsciiKind.word.charClass

/-- A repetition that prefers more copies, or fewer if marked lazy; a flag swaps the two. -/
def greedy (f : Flags) (lazy : Bool) : Bool := lazy == f.swapGreed

end Flags

/-- A flag directive that has been read in part: the letters so far, whether they are past the
hyphen, whether the hyphen came last, and the flags as set so far. -/
structure FlagText where
  letters : List Char
  off : Bool
  dangling : Bool
  flags : Flags
  deriving DecidableEq, Repr

namespace FlagText

def begin (f : Flags) : FlagText := ⟨[], false, false, f⟩

def step (t : FlagText) (c : Char) : Except Error FlagText :=
  if c = '-' then
    if t.off then .error .flagDuplicate else .ok { t with off := true, dangling := true }
  else
    match t.flags.set? c !t.off with
    | none => .error .flagUnknown
    | some f =>
      if t.letters.contains c then .error .flagDuplicate
      else .ok { letters := c :: t.letters, off := t.off, dangling := false, flags := f }

/-- The flags once the directive ends; a hyphen needs a letter behind it. -/
def finish (t : FlagText) : Except Error Flags :=
  if t.dangling then .error .flagDangling else .ok t.flags

end FlagText

end RouteTemplate.Regex
