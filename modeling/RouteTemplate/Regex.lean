import RouteTemplate.Regex.PatternText
import RouteTemplate.Regex.Search

/-!
Compiled patterns: a pattern is read once and then looked for in texts.

An engine also bounds the size of a compiled program (at 10 MiB unless told otherwise) and rejects a
pattern whose program is larger. That bound is not modelled: here a pattern is rejected only because
it cannot be read or nests too deep. So a theorem that concludes that something compiles assumes
that the bound is not reached. A theorem about what has been compiled assumes nothing of the kind.
-/

namespace RouteTemplate

structure Regex where
  pattern : String
  expr : Regex.Expr
  program : Array Regex.Node
  program_eq : program = expr.program := by rfl

/-- A match: the slots saved on the way to it, latest first. -/
structure Captures where
  text : List Char
  marks : List (Nat × Nat)

namespace Captures

/-- The text of a group as matched last; there is none if the group took no part. -/
def group? (m : Captures) (i : Nat) : Option String :=
  match m.marks.lookup (2 * i), m.marks.lookup (2 * i + 1) with
  | some first, some last => some (.ofList ((m.text.drop first).take (last - first)))
  | _, _ => none

end Captures

namespace Regex

/-- Reads a pattern and lays out its program, however large it is. -/
def compile (caseSensitive : Bool) (pattern : String) : Except Error Regex := do
  let e ← Expr.read { ignoreCase := !caseSensitive } pattern.toList
  return { pattern := pattern, expr := e, program := e.program }

/-- The leftmost match in a text, and the preferred one of those that begin there. -/
def find? (r : Regex) (text : String) : Option Captures :=
  (Search.start r.program text.toList.toArray).map fun marks => ⟨text.toList, marks⟩

def isMatch (r : Regex) (text : String) : Bool := (r.find? text).isSome

end Regex

end RouteTemplate
