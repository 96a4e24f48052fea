import RouteTemplate.Regex.Expr

/-!
Expressions as programs. The code of an expression is laid out from a base address, is entered
there, and leaves for a given address once it has matched. `length_code` says how long it is.
-/

namespace RouteTemplate.Regex

/-- An instruction and the addresses where the run goes on; of two, the first is preferred. -/
inductive Node
  | set (s : CharClass) (next : Nat)
  | look (l : Look) (next : Nat)
  | fork (first second : Nat)
  | save (slot next : Nat)
  | jump (next : Nat)

namespace Node

/-- A choice between entering a repeated part and leaving. -/
def loop (greedy : Bool) (body leave : Nat) : Node :=
  if greedy then fork body leave else fork leave body

end Node

namespace Expr

/-- The size of a repetition of a part: its copies one after the other, then the optional copies,
each behind a fork. Without a bound the last copy is run again and again; if there need not be a
first one, and a copy can be empty, the first one is told apart from the others by another fork. -/
def repeatSize (size : Nat) (nullable : Bool) : Times → Nat
  | ⟨n, some m⟩ => n * size + (m - n) * (1 + size) + 1
  | ⟨0, none⟩ => if nullable then 1 + size + 1 else 1 + size
  | ⟨n + 1, none⟩ => n * size + (size + 1)

def size : Expr → Nat
  | empty => 1
  | set _ _ => 1
  | look _ => 1
  | cat a b => a.size + b.size
  | alt a b => 1 + a.size + b.size
  | rep times _ e => repeatSize e.size e.nullable times
  | group _ e => 1 + e.size + 1

section

variable (code : Nat → Nat → List Node) (size : Nat)

/-- Copies of a part one after the other; the last one leaves for the address behind them. -/
def copies (n base : Nat) : List Node :=
  (List.range n).flatMap fun i => code (base + i * size) (base + (i + 1) * size)

/-- Optional copies of a part, each of which stands only if the ones before it do. -/
def options (greedy : Bool) (n base next : Nat) : List Node :=
  (List.range n).flatMap fun i =>
    let here := base + i * (1 + size)
    Node.loop greedy (here + 1) next :: code (here + 1) (here + (1 + size))

/-- A part that is run once or more. -/
def again (greedy : Bool) (base next : Nat) : List Node :=
  code base (base + size) ++ [Node.loop greedy base next]

/-- Lays out a repetition. The search gives up a copy that leads back to where it began; so that
this does not touch the first copy, it is entered by a fork of its own if a copy can be empty. -/
def repeatCode (nullable greedy : Bool) : Times → Nat → Nat → List Node
  | ⟨n, some m⟩, base, next =>
    copies code size n base ++
      (options code size greedy (m - n) (base + n * size) next ++ [.jump next])
  | ⟨0, none⟩, base, next =>
    if nullable then Node.loop greedy (base + 1) next :: again code size greedy (base + 1) next
    else Node.loop greedy (base + 1) next :: code (base + 1) base
  | ⟨n + 1, none⟩, base, next =>
    copies code size n base ++ again code size greedy (base + n * size) next

end

/-- Lays out an expression from address `base` on, leaving for `next`. A group saves where it
begins and ends in the slots `2 * index` and `2 * index + 1`. -/
def code : Expr → Nat → Nat → List Node
  | empty, _, next => [.jump next]
  | set _ s, _, next => [.set s next]
  | look l, _, next => [.look l next]
  | cat a b, base, next => a.code base (base + a.size) ++ b.code (base + a.size) next
  | alt a b, base, next =>
    .fork (base + 1) (base + 1 + a.size) ::
      (a.code (base + 1) next ++ b.code (base + 1 + a.size) next)
  | rep times greedy e, base, next =>
    repeatCode e.code e.size e.nullable greedy times base next
  | group index e, base, next =>
    .save (2 * index) (base + 1) ::
      (e.code (base + 1) (base + 1 + e.size) ++ [.save (2 * index + 1) next])

theorem length_flatMap_range {α : Type} (f : Nat → List α) (k n : Nat)
    (h : ∀ i, (f i).length = k) : ((List.range n).flatMap f).length = n * k := by
  induction n with
  | zero => simp
  | succ n ih => simp [List.range_succ, ih, h, Nat.succ_mul]

theorem length_copies {code : Nat → Nat → List Node} {size : Nat}
    (h : ∀ b n, (code b n).length = size) (n base : Nat) :
    (copies code size n base).length = n * size :=
  length_flatMap_range _ _ n fun _ => h _ _

theorem length_options {code : Nat → Nat → List Node} {size : Nat}
    (h : ∀ b n, (code b n).length = size) (greedy : Bool) (n base next : Nat) :
    (options code size greedy n base next).length = n * (1 + size) :=
  length_flatMap_range _ _ n fun _ => by simp [h, Nat.add_comm]

theorem length_repeatCode {code : Nat → Nat → List Node} {size : Nat}
    (h : ∀ b n, (code b n).length = size) (nullable greedy : Bool) (times : Times)
    (base next : Nat) :
    (repeatCode code size nullable greedy times base next).length =
      repeatSize size nullable times := by
  rcases times with ⟨n, _ | m⟩
  · cases n with
    | zero =>
      simp only [repeatCode, repeatSize]
      split
      · simp only [again, List.length_cons, List.length_append, h, List.length_nil]; omega
      · simp only [List.length_cons, h]; omega
    | succ n => simp [repeatCode, repeatSize, again, length_copies h, h]
  · simp [repeatCode, repeatSize, length_copies h, length_options h, Nat.add_assoc]

theorem length_code (e : Expr) (base next : Nat) : (e.code base next).length = e.size := by
  induction e generalizing base next with
  | empty | set | look => rfl
  | cat a b iha ihb => simp [code, size, iha, ihb]
  | alt a b iha ihb => simp only [code, size, List.length_cons, List.length_append, iha, ihb]; omega
  | rep times greedy e ih => exact length_repeatCode ih _ _ _ _ _
  | group i e ih => simp only [code, size, List.length_cons, List.length_append, ih,
      List.length_nil]; omega

end Expr

end RouteTemplate.Regex
