import RouteTemplate.Regex.Look

/-!
Regular expressions. An expression is what a pattern text means, with all flags resolved: letter
case, greediness and line modes are spelled out in its classes, assertions and repetitions. The
order of an alternation and the greediness of a repetition say which match is preferred.
-/

namespace RouteTemplate.Regex

/-- How often an item is repeated: `most` is absent if there is no bound. -/
structure Times where
  least : Nat
  most : Option Nat
  deriving DecidableEq, Repr

/-- A class tells whether it was read as one of Unicode characters; one of bytes holds ASCII only,
and the two are never the same expression. -/
inductive Expr
  | empty
  | set (unicode : Bool) (s : CharClass)
  | look (l : Look)
  | cat (a b : Expr)
  | alt (a b : Expr)
  | rep (times : Times) (greedy : Bool) (e : Expr)
  | group (index : Nat) (e : Expr)
  deriving DecidableEq

namespace Expr

/-- Whether the expression can match the empty text at some place. -/
def nullable : Expr → Bool
  | empty => true
  | set _ _ => false
  | look _ => true
  | cat a b => a.nullable && b.nullable
  | alt a b => a.nullable || b.nullable
  | rep times _ e => times.least == 0 || e.nullable
  | group _ e => e.nullable

/-- Whether the expression matches the empty text only. -/
def zeroWidth : Expr → Bool
  | empty => true
  | set _ _ => false
  | look _ => true
  | cat a b => a.zeroWidth && b.zeroWidth
  | alt a b => a.zeroWidth && b.zeroWidth
  | rep _ _ e => e.zeroWidth
  | group _ e => e.zeroWidth

/-- The character that a class of one character stands for. -/
def literal? : Expr → Option Char
  | set _ s => s.single?
  | _ => none

/-- Whether the expression is a class, but not of one character. -/
def isWideSet : Expr → Bool
  | set _ s => s.single?.isNone
  | _ => false

def charClass? : Expr → Option CharClass
  | set _ s => some s
  | _ => none

/-- The parts of a sequence. -/
def pieces : Expr → List Expr
  | empty => []
  | cat a b => a.pieces ++ b.pieces
  | e => [e]

/-- The choices of an alternation. -/
def branches : Expr → List Expr
  | alt a b => a.branches ++ b.branches
  | e => [e]

end Expr

end RouteTemplate.Regex
