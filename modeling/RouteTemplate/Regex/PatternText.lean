import RouteTemplate.Regex.ClassText
import RouteTemplate.Regex.CountText

/-!
Patterns, read character by character. The state holds the innermost open group, the groups around
it and what the next character may still add to. A character acts on the innermost group only, but
for the parentheses, so that reading a pattern inside of a group is reading it by itself.
-/

namespace RouteTemplate.Regex

/-- An item of a sequence. Flag directives are items that cannot be repeated. -/
structure Item where
  expr : Expr
  height : Nat := 0
  repeatable : Bool := true

/-- A group that has been read in part: its number if it captures, the flags around it, the finished
alternatives and the items of the current one, both latest first. -/
structure Level where
  capture : Option Nat
  flags : Flags
  branches : List Item := []
  items : List Item := []

namespace Level

def push (l : Level) (i : Item) : Level := { l with items := i :: l.items }

/-- The current alternative. Two or more items nest one level deeper. -/
def branch (l : Level) : Item :=
  let depth := (l.items.map Item.height).foldr max 0
  { expr := .seq (l.items.reverse.map Item.expr),
    height := if 2 ≤ l.items.length then depth + 1 else depth }

def nextBranch (l : Level) : Level := { l with branches := l.branch :: l.branches, items := [] }

/-- All alternatives, in order. -/
def body (l : Level) : Item :=
  match (l.branch :: l.branches).reverse with
  | [] => l.branch
  | [i] => i
  | i :: rest =>
    { expr := .choice ((i :: rest).map Item.expr),
      height := ((i :: rest).map Item.height).foldr max 0 + 1 }

/-- The group as an item of the group around it. -/
def close (l : Level) : Item :=
  let b := l.body
  { expr := match l.capture with
      | some n => .group n b.expr
      | none => b.expr
    height := b.height + 1 }

end Level

/-- What the next character belongs to: a new item; a repetition that may be lazy; an escape; a word
boundary that may be told more closely in braces; a count; the opening of a group; a class. -/
inductive Mode
  | item
  | repetition (times : Times) (spaced : Bool)
  | escape (e : EscapeText)
  | edge
  | edgeOpen
  | edgeName (name : List Char)
  | count (t : CountText)
  | groupOpen
  | groupMark
  | groupP
  | groupAngle
  | groupName (name : List Char)
  | groupFlags (t : FlagText)
  | brackets (t : ClassText)

/-- A pattern that has been read in part. Capture groups count from `groups` on. -/
structure PatternText where
  level : Level
  outer : List Level
  flags : Flags
  groups : Nat
  names : List (List Char)
  mode : Mode
  inComment : Bool

namespace PatternText

/-- Nothing has been read yet; group 0 is the whole match. -/
def start (f : Flags) : PatternText :=
  { level := ⟨none, f, [], []⟩, outer := [], flags := f, groups := 1, names := [], mode := .item,
    inComment := false }

def push (t : PatternText) (i : Item) : PatternText :=
  { t with level := t.level.push i, mode := .item }

def pushLook (t : PatternText) (l : Look) : PatternText := t.push { expr := .look l }

/-- Opens a group, under flags of its own. -/
def openGroup (t : PatternText) (capture : Option Nat) (f : Flags) : PatternText :=
  { t with level := ⟨capture, t.flags, [], []⟩, outer := t.level :: t.outer, flags := f,
           mode := .item }

def openCapture (t : PatternText) : PatternText :=
  { t.openGroup (some t.groups) t.flags with groups := t.groups + 1 }

def closeGroup (t : PatternText) : Except Error PatternText :=
  match t.outer with
  | [] => .error .groupUnopened
  | l :: outer =>
    .ok { t with level := l.push t.level.close, outer := outer, flags := t.level.flags,
                 mode := .item }

/-- Repeats the last item. -/
def repeatLast (t : PatternText) (times : Times) (lazy : Bool) : Except Error PatternText :=
  match t.level.items with
  | [] => .error .nothingToRepeat
  | i :: items =>
    if i.repeatable then
      .ok { t with
        level := { t.level with items :=
          { expr := .repeated times (t.flags.greedy lazy) i.expr, height := i.height + 1 } :: items }
        mode := .item }
    else .error .nothingToRepeat

/-- Whether a character only spaces out a verbose pattern. -/
def isBlank (t : PatternText) (c : Char) : Bool :=
  t.flags.verbose && (Unicode.isSpace c || c == '#')

/-- Passes over a blank, or begins a comment. -/
def skip (t : PatternText) (c : Char) : PatternText := { t with inComment := c == '#' }

def stepItem (t : PatternText) (c : Char) : Except Error PatternText :=
  if t.isBlank c then .ok (t.skip c)
  else if c = '(' then .ok { t with mode := .groupOpen }
  else if c = ')' then t.closeGroup
  else if c = '|' then .ok { t with level := t.level.nextBranch, mode := .item }
  else if c = '[' then .ok { t with mode := .brackets {} }
  else if c = '?' then .ok { t with mode := .repetition ⟨0, some 1⟩ false }
  else if c = '*' then .ok { t with mode := .repetition ⟨0, none⟩ false }
  else if c = '+' then .ok { t with mode := .repetition ⟨1, none⟩ false }
  else if c = '\x7b' then .ok { t with mode := .count .before }
  else if c = '\\' then .ok { t with mode := .escape .start }
  else if c = '.' then do
    let e ← t.flags.dot
    return t.push { expr := e }
  else if c = '^' then .ok (t.pushLook t.flags.lineStart)
  else if c = '$' then .ok (t.pushLook t.flags.lineEnd)
  else .ok (t.push { expr := t.flags.literal c })

def stepRepetition (t : PatternText) (times : Times) (spaced : Bool) (c : Char) :
    Except Error PatternText :=
  if c = '?' then t.repeatLast times true
  else if spaced && t.isBlank c then .ok (t.skip c)
  else do
    let t ← t.repeatLast times false
    t.stepItem c

def stepEscape (t : PatternText) (e : EscapeText) (c : Char) : Except Error PatternText :=
  if e.skipsBlanks && t.isBlank c then .ok (t.skip c)
  else do
    match ← e.step t.flags c with
    | .more e => return { t with mode := .escape e }
    | .literal c => return t.push { expr := t.flags.literal c }
    | .set s => return t.push { expr := t.flags.ofClass s }
    | .look l => return t.pushLook l
    | .wordBoundary => return { t with mode := .edge }

def stepCount (t : PatternText) (u : CountText) (c : Char) : Except Error PatternText :=
  if t.isBlank c then .ok (t.skip c)
  else do
    match ← u.step c with
    | .inl u => return { t with mode := .count u }
    | .inr times => return { t with mode := .repetition times true }

def wordBoundary (t : PatternText) : PatternText := t.pushLook (.wordBoundary t.flags.unicode)

/-- The word conditions that are named in braces. -/
def edgeOfName? (unicode : Bool) (name : String) : Option Look :=
  match name with
  | "start" => some (.wordStart unicode)
  | "end" => some (.wordEnd unicode)
  | "start-half" => some (.wordStartHalf unicode)
  | "end-half" => some (.wordEndHalf unicode)
  | _ => none

def isEdgeLetter (c : Char) : Bool := Unicode.isAsciiLetter c || c == '-'

def stepEdge (t : PatternText) (c : Char) : Except Error PatternText :=
  if c = '\x7b' then .ok { t with mode := .edgeOpen } else t.wordBoundary.stepItem c

/-- What stands in braces behind a word boundary is its name or else a count. -/
def stepEdgeOpen (t : PatternText) (c : Char) : Except Error PatternText :=
  if t.isBlank c then .ok (t.skip c)
  else if isEdgeLetter c then .ok { t with mode := .edgeName [c] }
  else t.wordBoundary.stepCount .before c

def stepEdgeName (t : PatternText) (name : List Char) (c : Char) : Except Error PatternText :=
  if t.isBlank c then .ok (t.skip c)
  else if isEdgeLetter c then .ok { t with mode := .edgeName (c :: name) }
  else if c = '\x7d' then
    match edgeOfName? t.flags.unicode (String.ofList name.reverse) with
    | some l => .ok (t.pushLook l)
    | none => .error .wordBoundaryInvalid
  else .error .wordBoundaryInvalid

def stepGroupOpen (t : PatternText) (c : Char) : Except Error PatternText :=
  if t.isBlank c then .ok (t.skip c)
  else if c = '?' then .ok { t with mode := .groupMark }
  else t.openCapture.stepItem c

def stepGroupFlags (t : PatternText) (u : FlagText) (c : Char) : Except Error PatternText :=
  if c = ':' then do
    let f ← u.finish
    return t.openGroup none f
  else if c = ')' then do
    let f ← u.finish
    return { t.push { expr := .empty, repeatable := false } with flags := f }
  else do
    let u ← u.step c
    return { t with mode := .groupFlags u }

def stepGroupMark (t : PatternText) (c : Char) : Except Error PatternText :=
  if c = 'P' then .ok { t with mode := .groupP }
  else if c = '<' then .ok { t with mode := .groupAngle }
  else if c = '=' ∨ c = '!' then .error .lookAround
  else if c = ')' then .error .flagsEmpty
  else t.stepGroupFlags (.begin t.flags) c

def isNameStart (c : Char) : Bool := c == '_' || Unicode.isLetter c

def isNameChar (c : Char) : Bool :=
  c == '_' || c == '.' || c == '[' || c == ']' || Unicode.isLetter c || Unicode.isNumber c

def stepGroupName (t : PatternText) (name : List Char) (c : Char) : Except Error PatternText :=
  if c = '>' then
    if name.isEmpty then .error .groupNameInvalid
    else if t.names.contains name then .error .groupNameDuplicate
    else .ok { t.openCapture with names := name :: t.names }
  else if (if name.isEmpty then isNameStart c else isNameChar c) then
    .ok { t with mode := .groupName (c :: name) }
  else .error .groupNameInvalid

def stepGroupAngle (t : PatternText) (c : Char) : Except Error PatternText :=
  if c = '=' ∨ c = '!' then .error .lookAround else t.stepGroupName [] c

def stepBrackets (t : PatternText) (u : ClassText) (c : Char) : Except Error PatternText :=
  if u.skipsBlanks && t.isBlank c then .ok { t.skip c with mode := .brackets (u.blank c) }
  else do
    match ← u.step t.flags c with
    | .inl u => return { t with mode := .brackets u }
    | .inr d => return t.push { expr := t.flags.ofClass d.set, height := d.height }

/-- Passes over a character of a comment, which ends with its line. -/
def stepComment (t : PatternText) (c : Char) : Except Error PatternText :=
  let t := { t with inComment := c != '\n' }
  match t.mode with
  | .brackets u => do
    let u ← u.comment t.flags c
    return { t with mode := .brackets u }
  | _ => .ok t

def step (t : PatternText) (c : Char) : Except Error PatternText :=
  if t.inComment then t.stepComment c
  else match t.mode with
    | .item => t.stepItem c
    | .repetition times spaced => t.stepRepetition times spaced c
    | .escape e => t.stepEscape e c
    | .edge => t.stepEdge c
    | .edgeOpen => t.stepEdgeOpen c
    | .edgeName name => t.stepEdgeName name c
    | .count u => t.stepCount u c
    | .groupOpen => t.stepGroupOpen c
    | .groupMark => t.stepGroupMark c
    | .groupP => if c = '<' then .ok { t with mode := .groupName [] } else .error .flagUnknown
    | .groupAngle => t.stepGroupAngle c
    | .groupName name => t.stepGroupName name c
    | .groupFlags u => t.stepGroupFlags u c
    | .brackets u => t.stepBrackets u c

/-- Ends what may end with the text. -/
def settle (t : PatternText) : Except Error PatternText :=
  match t.mode with
  | .item => .ok t
  | .repetition times _ => t.repeatLast times false
  | .edge => .ok t.wordBoundary
  | .escape _ => .error .escapeUnclosed
  | .edgeOpen | .edgeName _ => .error .wordBoundaryInvalid
  | .count _ => .error .countUnclosed
  | .groupMark | .groupFlags _ => .error .flagsUnclosed
  | .groupOpen | .groupP | .groupAngle | .groupName _ => .error .groupUnclosed
  | .brackets _ => .error .classUnclosed

/-- The greatest depth to which a pattern may nest. -/
def maxHeight : Nat := 250

def finish (t : PatternText) : Except Error Expr := do
  let t ← t.settle
  if t.outer.isEmpty then
    let i := t.level.body
    if i.height ≤ maxHeight then return i.expr else throw .nestedTooDeep
  else throw .groupUnclosed

end PatternText

/-- Reads a pattern. -/
def Expr.read (f : Flags) (pattern : List Char) : Except Error Expr := do
  let t ← pattern.foldlM PatternText.step (.start f)
  t.finish

end RouteTemplate.Regex
