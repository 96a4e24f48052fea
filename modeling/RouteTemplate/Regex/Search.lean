import RouteTemplate.Regex.Program

/-!
Leftmost-first search. A run of a program is explored depth first, the preferred way first, and a
pair of address and place in the text is entered at most once: what failed there fails again. So
the search takes time linear in the program and the text. `Expr.anywhere` passes over as little as
possible before the match, so of all matches the leftmost ones come first, the preferred one ahead.
-/

namespace RouteTemplate.Regex

/-- A way that is still to be explored; the marks are the slots saved so far, latest first. -/
structure Thread where
  node : Nat
  pos : Nat
  marks : List (Nat × Nat)

namespace Search

variable (program : Array Node) (text : Array Char)

/-- The ways on from a thread, preferred first. -/
def follow (t : Thread) : List Thread :=
  match program[t.node]? with
  | none => []
  | some (.set s next) =>
    match text[t.pos]? with
    | some c => if s.contains c then [{ t with node := next, pos := t.pos + 1 }] else []
    | none => []
  | some (.look l next) =>
    let before := if t.pos = 0 then none else text[t.pos - 1]?
    if l.holds before text[t.pos]? then [{ t with node := next }] else []
  | some (.fork first second) => [{ t with node := first }, { t with node := second }]
  | some (.save slot next) => [{ t with node := next, marks := (slot, t.pos) :: t.marks }]
  | some (.jump next) => [{ t with node := next }]

/-- Where a pair of address and place stands among all such pairs. -/
def index (t : Thread) : Nat := t.node * (text.size + 1) + t.pos

/-- Explores the threads in turn. A thread that has left the program has matched. -/
def run : Nat → Array Bool → List Thread → Option (List (Nat × Nat))
  | 0, _, _ => none
  | _ + 1, _, [] => none
  | fuel + 1, seen, t :: rest =>
    if t.node = program.size then some t.marks
    else if seen.getD (index text t) true then run fuel seen rest
    else run fuel (seen.setIfInBounds (index text t) true) (follow program text t ++ rest)

/-- Each pair is entered once and leaves two threads at most, so this many steps are enough. -/
def steps : Nat := 2 * (program.size * (text.size + 1)) + 2

/-- The marks of the preferred run from the beginning of the text. -/
def start : Option (List (Nat × Nat)) :=
  run program text (steps program text)
    (Array.replicate (program.size * (text.size + 1)) false) [⟨0, 0, []⟩]

end Search

namespace Expr

/-- The expression anywhere in a text, as far left as possible; group 0 is the match. -/
def anywhere (e : Expr) : Expr := cat (rep ⟨0, none⟩ false (set true .any)) (group 0 e)

def program (e : Expr) : Array Node := (e.anywhere.code 0 e.anywhere.size).toArray

end Expr

end RouteTemplate.Regex
