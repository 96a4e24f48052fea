import RouteTemplate.Regex.EscapeText

/-!
Bracketed classes, read character by character behind the opening bracket. Brackets nest; a nested
pair around `:name:` is a named ASCII class. Members are joined, and `&&`, `--` and `~~` combine
what stands on their two sides, from left to right.
-/

namespace RouteTemplate.Regex

inductive SetOp
  | inter
  | diff
  | symmDiff
  deriving DecidableEq, Repr

namespace SetOp

/-- The operator that a doubled sign stands for. -/
def ofSign (c : Char) : SetOp :=
  if c = '&' then inter else if c = '-' then diff else symmDiff

def apply : SetOp → CharClass → CharClass → CharClass
  | inter => .inter
  | diff => .diff
  | symmDiff => .symmDiff

end SetOp

/-- A class with the depth of its nesting. -/
structure DeepClass where
  set : CharClass
  height : Nat

/-- A pair of brackets that has been read in part: what stands in it, latest first; what stands left
of the last operator; and the members behind it, with their number and greatest depth. -/
structure ClassLevel where
  negated : Bool := false
  text : List Char := []
  left : Option (SetOp × DeepClass) := none
  members : CharClass := .empty
  count : Nat := 0
  height : Nat := 0

namespace ClassLevel

def add (l : ClassLevel) (s : CharClass) (height : Nat) : ClassLevel :=
  { l with members := l.members.union s, count := l.count + 1, height := max l.height height }

/-- The members behind the last operator; two or more of them nest one level deeper. -/
def last (l : ClassLevel) : DeepClass :=
  ⟨l.members, if 2 ≤ l.count then l.height + 1 else l.height⟩

/-- All that has been read, with the operator applied. Case is ignored on both sides before they are
combined. -/
def combined (f : Flags) (l : ClassLevel) : DeepClass :=
  match l.left with
  | none => l.last
  | some (op, d) => ⟨op.apply (f.fold d.set) (f.fold l.last.set), 1 + max d.height l.last.height⟩

def operate (f : Flags) (l : ClassLevel) (op : SetOp) : ClassLevel :=
  { negated := l.negated, text := l.text, left := some (op, l.combined f) }

/-- The named class that the text between the brackets stands for. -/
def named? (l : ClassLevel) : Option (Bool × AsciiKind) :=
  match l.text with
  | ':' :: rest =>
    match rest.reverse with
    | ':' :: '^' :: name => (AsciiKind.ofName? (String.ofList name)).map fun k => (true, k)
    | ':' :: name => (AsciiKind.ofName? (String.ofList name)).map fun k => (false, k)
    | _ => none
  | _ => none

end ClassLevel

/-- A member that may turn out to begin a range. -/
inductive Member
  | char (c : Char)
  | set (s : CharClass)

/-- Where the reading of a class stands: behind the opening bracket; before the first members, among
which hyphens and a bracket are literal; between members; behind a sign that may be doubled; behind
a member; behind a member and a hyphen; there too, but in a comment or behind it; in an escape,
perhaps at the upper end of a range. -/
inductive ClassMode
  | opening
  | leading (hyphen : Bool)
  | between
  | sign (c : Char)
  | member (m : Member)
  | hyphen (m : Member) (spaced : Bool)
  | remark (m : Member)
  | escape (low : Option Member) (e : EscapeText)

/-- A bracketed class that has been read in part, with the brackets around it, innermost first. -/
structure ClassText where
  level : ClassLevel := {}
  outer : List ClassLevel := []
  mode : ClassMode := .opening

namespace ClassText

/-- Without Unicode, a class holds ASCII characters only. -/
def charClass (f : Flags) (c : Char) : Except Error CharClass :=
  if f.unicode || Unicode.isAscii c then .ok (.single c) else .error .needsUnicode

def addMember (f : Flags) (m : Member) (t : ClassText) : Except Error ClassText :=
  match m with
  | .char c => do
    let s ← charClass f c
    return { t with level := t.level.add s 0, mode := .between }
  | .set s => .ok { t with level := t.level.add s 0, mode := .between }

def addRange (f : Flags) (low : Member) (high : Char) (t : ClassText) :
    Except Error ClassText :=
  match low with
  | .set _ => .error .classRange
  | .char low =>
    if !f.unicode && !(Unicode.isAscii low && Unicode.isAscii high) then .error .needsUnicode
    else if high < low then .error .classRange
    else .ok { t with level := t.level.add (.range low high) 0, mode := .between }

/-- A closed bracket: back in the brackets around it, or the whole class. -/
def close (f : Flags) (t : ClassText) : Except Error (ClassText ⊕ DeepClass) :=
  let whole := t.level.combined f
  match t.outer with
  | [] => do
    let s ← f.close t.level.negated whole.set
    return .inr ⟨s, whole.height + 1⟩
  | l :: outer =>
    match t.level.named? with
    | some (negated, kind) => do
      let s ← f.close negated kind.charClass
      return .inl { level := l.add s 0, outer := outer, mode := .between }
    | none => do
      let s ← f.close t.level.negated whole.set
      return .inl { level := l.add s (whole.height + 1), outer := outer, mode := .between }

def stepBetween (f : Flags) (c : Char) (t : ClassText) : Except Error (ClassText ⊕ DeepClass) :=
  if c = '[' then .ok (.inl { outer := t.level :: t.outer })
  else if c = ']' then t.close f
  else if c = '&' ∨ c = '-' ∨ c = '~' then .ok (.inl { t with mode := .sign c })
  else if c = '\\' then .ok (.inl { t with mode := .escape none .start })
  else .ok (.inl { t with mode := .member (.char c) })

def stepLeading (f : Flags) (hyphen : Bool) (c : Char) (t : ClassText) :
    Except Error (ClassText ⊕ DeepClass) :=
  if c = '-' then
    .ok (.inl { t with level := t.level.add (.single '-') 0, mode := .leading true })
  else if c = ']' ∧ hyphen = false then
    .ok (.inl { t with level := t.level.add (.single ']') 0, mode := .between })
  else t.stepBetween f c

def stepMember (f : Flags) (m : Member) (c : Char) (t : ClassText) :
    Except Error (ClassText ⊕ DeepClass) :=
  if c = '-' then .ok (.inl { t with mode := .hyphen m false })
  else do
    let t ← t.addMember f m
    t.stepBetween f c

/-- Behind a member and a hyphen, a bracket makes the hyphen literal and a second hyphen makes it an
operator; anything else ends a range. -/
def stepHyphen (f : Flags) (m : Member) (spaced : Bool) (c : Char) (t : ClassText) :
    Except Error (ClassText ⊕ DeepClass) :=
  if c = ']' then do
    let t ← t.addMember f m
    let t ← t.addMember f (.char '-')
    t.close f
  else if c = '-' then do
    let t ← t.addMember f m
    if spaced then return .inl { t with mode := .hyphen (.char '-') false }
    else return .inl { t with level := t.level.operate f .diff, mode := .between }
  else if c = '\\' then .ok (.inl { t with mode := .escape (some m) .start })
  else .inl <$> t.addRange f m c

def stepEscape (f : Flags) (low : Option Member) (e : EscapeText) (c : Char) (t : ClassText) :
    Except Error (ClassText ⊕ DeepClass) := do
  match ← e.step f c, low with
  | .more e, _ => return .inl { t with mode := .escape low e }
  | .literal c, none => return .inl { t with mode := .member (.char c) }
  | .literal c, some m => .inl <$> t.addRange f m c
  | .set s, none => return .inl { t with mode := .member (.set s) }
  | .set _, some _ => throw .classRange
  | .look _, _ => throw .classMember
  | .wordBoundary, _ => throw .classMember

def stepMode (f : Flags) (c : Char) (t : ClassText) : Except Error (ClassText ⊕ DeepClass) :=
  match t.mode with
  | .opening =>
    if c = '^' then
      .ok (.inl { t with level := { t.level with negated := true }, mode := .leading false })
    else t.stepLeading f false c
  | .leading hyphen => t.stepLeading f hyphen c
  | .between => t.stepBetween f c
  | .sign s =>
    if c = s then
      .ok (.inl { t with level := t.level.operate f (.ofSign s), mode := .between })
    else t.stepMember f (.char s) c
  | .member m => t.stepMember f m c
  | .hyphen m spaced => t.stepHyphen f m spaced c
  | .remark m => t.stepHyphen f m true c
  | .escape low e => t.stepEscape f low e c

/-- Notes a character in the innermost brackets. -/
def note (c : Char) (t : ClassText) : ClassText :=
  { t with level := { t.level with text := c :: t.level.text } }

/-- Reads a character. A closing bracket is not noted in the brackets that it closes. -/
def step (f : Flags) (c : Char) (t : ClassText) : Except Error (ClassText ⊕ DeepClass) :=
  if c = ']' then do
    match ← t.stepMode f c with
    | .inl u => return .inl (if u.outer.length = t.outer.length then u.note c else u)
    | .inr d => return .inr d
  else (t.note c).stepMode f c

def skipsBlanks (t : ClassText) : Bool :=
  match t.mode with
  | .escape _ e => e.skipsBlanks
  | _ => true

/-- Passes over a blank of a verbose pattern, which parts a sign from its double, or over the sign
that begins a comment. -/
def blank (c : Char) (t : ClassText) : ClassText :=
  let t := t.note c
  match t.mode with
  | .sign s => { t with mode := .member (.char s) }
  | .hyphen m _ => { t with mode := if c = '#' then .remark m else .hyphen m true }
  | .remark m => { t with mode := if c = '#' then .hyphen m true else .remark m }
  | _ => t

/-- Passes over a character of a comment. The first one that is not blank tells what the hyphen
before the comment is: it is literal if a bracket or a hyphen seems to follow. -/
def comment (f : Flags) (c : Char) (t : ClassText) : Except Error ClassText :=
  match t.mode with
  | .remark m =>
    if Unicode.isSpace c then .ok t
    else if c = ']' ∨ c = '-' then do
      let t ← t.addMember f m
      return { t with mode := .member (.char '-') }
    else .ok { t with mode := .hyphen m true }
  | _ => .ok t

end ClassText

end RouteTemplate.Regex
