import RouteTemplate.Regex.Expr

/-!
Building expressions. Sequences and alternations are kept flat, alternatives that are classes are
joined into one, and what all alternatives begin with is taken out in front: `xa|xb` is read as
`x(?:a|b)`. This decides which match is preferred if the common beginning can match in several
ways.
-/

namespace RouteTemplate.Regex

namespace Expr

/-- A class as an expression. Where it holds one character or none, it does not matter how it was
read. -/
def ofClass (unicode : Bool) (s : CharClass) : Expr :=
  set (unicode || s.isEmpty || s.single?.isSome) s

def char (c : Char) : Expr := ofClass true (.single c)

def ofPieces : List Expr → Expr
  | [] => empty
  | [e] => e
  | e :: rest => cat e (ofPieces rest)

def seq (l : List Expr) : Expr := ofPieces (l.flatMap pieces)

/-- One of several expressions, earlier ones preferred. Without any, nothing matches. -/
def ofBranches : List Expr → Expr
  | [] => ofClass true .empty
  | [e] => e
  | e :: rest => alt e (ofBranches rest)

/-- Alternatives that are all single characters, or all other classes, make up one class. -/
def joined? (l : List Expr) : Option Expr :=
  if l.all (·.literal?.isSome) || l.all isWideSet then
    some (ofClass true (.unions (l.filterMap charClass?)))
  else none

/-- One of several alternatives, or the class that they make up. -/
def oneOf (l : List Expr) : Expr :=
  match l with
  | [e] => e
  | _ => (joined? l).getD (ofBranches l)

/-- Groups the parts of a sequence: neighbouring single characters are one part. -/
def runs : List Expr → List (List Expr)
  | [] => []
  | e :: rest =>
    match runs rest with
    | (d :: run) :: more =>
      if e.literal?.isSome && d.literal?.isSome then (e :: d :: run) :: more
      else [e] :: (d :: run) :: more
    | more => [e] :: more

/-- What two lists begin with. -/
def sharedStart {α : Type} [DecidableEq α] : List α → List α → List α
  | a :: s, b :: t => if a = b then a :: sharedStart s t else []
  | _, _ => []

/-- What all lists begin with. -/
def commonStart {α : Type} [DecidableEq α] : List (List α) → List α
  | [] => []
  | l :: rest => rest.foldl sharedStart l

/-- Takes out what all alternatives begin with. Each of them has to be a sequence of two parts or
more. -/
def factored? (l : List Expr) : Option Expr :=
  let parts := l.map fun e => runs e.pieces
  let start := commonStart parts
  if parts.all (2 ≤ ·.length) && !start.isEmpty then
    let rests := parts.map fun p => seq (p.drop start.length).flatten
    some (seq (start.flatten ++ [oneOf (rests.flatMap branches)]))
  else none

/-- One of several alternatives. -/
def choice (l : List Expr) : Expr :=
  let l := l.flatMap branches
  match l with
  | [e] => e
  | _ => (joined? l).getD ((factored? l).getD (ofBranches l))

/-- A repetition. What matches only the empty text is repeated once at most. -/
def repeated (times : Times) (greedy : Bool) (e : Expr) : Expr :=
  let times : Times :=
    if e.zeroWidth then ⟨min times.least 1, some (min (times.most.getD 1) 1)⟩ else times
  if times = ⟨0, some 0⟩ then empty
  else if times = ⟨1, some 1⟩ then e
  else rep times greedy e

end Expr

end RouteTemplate.Regex
