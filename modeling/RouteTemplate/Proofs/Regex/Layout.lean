import RouteTemplate.Proofs.Regex.Building
import RouteTemplate.Regex.Search

/-!
The code of an expression does what the expression matches. A block is a piece of a program that is
entered at its first address and left for one other address, with a walk between the two
(`Block.enters` and `Block.leaves`). Every construct makes a block of blocks, and `block_code` puts
them together by induction on the expression.
-/

namespace RouteTemplate.Regex

/-- Where a thread goes on from an instruction. -/
def Node.ways (text : List Char) (t : Thread) : Node → List Thread
  | set s next =>
    match text[t.pos]? with
    | some c => if s.contains c then [{ t with node := next, pos := t.pos + 1 }] else []
    | none => []
  | look l next =>
    if l.holds (Expr.before text t.pos) text[t.pos]? then [{ t with node := next }] else []
  | fork first second => [{ t with node := first }, { t with node := second }]
  | save slot next => [{ t with node := next, marks := (slot, t.pos) :: t.marks }]
  | jump next => [{ t with node := next }]

/-- A run of so many steps. -/
def Steps (program : Array Node) (text : List Char) : Nat → Thread → Thread → Prop
  | 0, t, u => u = t
  | n + 1, t, u => ∃ v ∈ Search.follow program text.toArray t, Steps program text n v u

/-- The program has the given nodes from an address on. -/
def Laid (program : Array Node) (base : Nat) (nodes : List Node) : Prop :=
  ∀ k node, nodes[k]? = some node → program[base + k]? = some node

/-- The addresses from `base` on are entered at `base` and left for `next`. A run that is outside
of them in the end has got there by the walk. -/
structure Block (program : Array Node) (text : List Char) (p : Walk) (base size next : Nat) :
    Prop where
  enters : ∀ {i j ms} (marks : List (Nat × Nat)), p i j ms →
    ∃ n, Steps program text n ⟨base, i, marks⟩ ⟨next, j, ms ++ marks⟩
  leaves : ∀ {n i marks u}, Steps program text n ⟨base, i, marks⟩ u →
    u.node < base ∨ base + size ≤ u.node →
    ∃ j ms k, p i j ms ∧ k ≤ n ∧ Steps program text k ⟨next, j, ms ++ marks⟩ u

section

variable {program : Array Node} {text : List Char}

theorem Steps.trans {m n : Nat} {t u v : Thread} (h₁ : Steps program text m t u)
    (h₂ : Steps program text n u v) : Steps program text (m + n) t v := by
  induction m generalizing t with
  | zero =>
    obtain rfl : u = t := h₁
    rwa [Nat.zero_add]
  | succ m ih =>
    obtain ⟨w, hw, hs⟩ := h₁
    rw [Nat.succ_add]
    exact ⟨w, hw, ih hs⟩

theorem Steps.single {t u : Thread} (h : u ∈ Search.follow program text.toArray t) :
    Steps program text 1 t u := ⟨u, h, rfl⟩

/-- A run that does not end where it begins has a first step. -/
theorem Steps.first {n : Nat} {t u : Thread} (h : Steps program text n t u)
    (hu : u.node ≠ t.node) :
    ∃ k, n = k + 1 ∧ ∃ v ∈ Search.follow program text.toArray t, Steps program text k v u := by
  cases n with
  | zero =>
    obtain rfl : u = t := h
    exact absurd rfl hu
  | succ n => exact ⟨n, rfl, h⟩

theorem laid_append_iff {base : Nat} {a b : List Node} :
    Laid program base (a ++ b) ↔ Laid program base a ∧ Laid program (base + a.length) b := by
  constructor
  · intro h
    refine ⟨fun k node hk => h k node ?_, fun k node hk => ?_⟩
    · rw [List.getElem?_append_left (List.getElem?_eq_some_iff.1 hk).1, hk]
    · rw [Nat.add_assoc]
      refine h _ node ?_
      rw [List.getElem?_append_right (Nat.le_add_right _ _), Nat.add_sub_cancel_left, hk]
  · rintro ⟨ha, hb⟩ k node hk
    by_cases hka : k < a.length
    · rw [List.getElem?_append_left hka] at hk
      exact ha k node hk
    · rw [List.getElem?_append_right (by omega)] at hk
      have := hb _ node hk
      rwa [show base + a.length + (k - a.length) = base + k by omega] at this

theorem laid_cons_iff {base : Nat} {node : Node} {l : List Node} :
    Laid program base (node :: l) ↔ program[base]? = some node ∧ Laid program (base + 1) l := by
  rw [← List.singleton_append, laid_append_iff]
  refine and_congr_left fun _ => ⟨fun h => h 0 node rfl, fun h k n hk => ?_⟩
  cases k with
  | zero => rwa [← Option.some.inj hk]
  | succ k => simp at hk

theorem follow_of_node {t : Thread} {node : Node} (h : program[t.node]? = some node) :
    Search.follow program text.toArray t = node.ways text t := by
  unfold Search.follow
  rw [h]
  cases node with
  | set s next =>
    cases hc : text[t.pos]? with
    | none => simp [Node.ways, hc]
    | some c => simp [Node.ways, hc]
  | look l next =>
    simp only [Node.ways, Expr.before, List.getElem?_toArray]
    rfl
  | fork | save | jump => rfl

theorem mem_follow_loop {t v : Thread} {greedy : Bool} {body leave : Nat}
    (h : program[t.node]? = some (.loop greedy body leave)) :
    v ∈ Search.follow program text.toArray t ↔
      v = { t with node := body } ∨ v = { t with node := leave } := by
  rw [follow_of_node h]
  cases greedy with
  | true => simp [Node.loop, Node.ways]
  | false => simp [Node.loop, Node.ways, or_comm]

namespace Block

variable {p q : Walk} {base size next : Nat}

/-- A single node that goes on to one address. -/
theorem of_node
    (h : ∀ i marks v, v ∈ Search.follow program text.toArray ⟨base, i, marks⟩ ↔
      ∃ j ms, p i j ms ∧ v = ⟨next, j, ms ++ marks⟩) : Block program text p base 1 next where
  enters marks hp := ⟨1, Steps.single ((h _ _ _).2 ⟨_, _, hp, rfl⟩)⟩
  leaves hs hu := by
    obtain ⟨k, rfl, v, hv, hs⟩ := hs.first (by simp only; omega)
    obtain ⟨j, ms, hp, rfl⟩ := (h _ _ _).1 hv
    exact ⟨j, ms, k, hp, Nat.le_succ k, hs⟩

/-- A single way on, as what a walk that ends in one place makes of a thread. -/
theorem mem_way_iff (i : Nat) (ns : List (Nat × Nat)) {marks : List (Nat × Nat)} {v : Thread} :
    v ∈ [(⟨next, i, ns ++ marks⟩ : Thread)] ↔
      ∃ j ms, (j = i ∧ ms = ns) ∧ v = ⟨next, j, ms ++ marks⟩ := by
  rw [List.mem_singleton]
  constructor
  · intro hv
    exact ⟨i, ns, ⟨rfl, rfl⟩, hv⟩
  · rintro ⟨j, ms, ⟨rfl, rfl⟩, hv⟩
    exact hv

theorem jump (h : program[base]? = some (.jump next)) :
    Block program text .stay base 1 next := by
  refine of_node fun i marks v => ?_
  rw [follow_of_node (t := ⟨base, i, marks⟩) h, Node.ways]
  exact mem_way_iff i []

theorem set {u : Bool} {s : CharClass} (h : program[base]? = some (.set s next)) :
    Block program text ((Expr.set u s).walk text) base 1 next := by
  refine of_node fun i marks v => ?_
  rw [follow_of_node (t := ⟨base, i, marks⟩) h, Node.ways]
  simp only [Expr.walk]
  cases hc : text[i]? with
  | none => simp
  | some c =>
    cases hs : s.contains c with
    | false => simp [hs]
    | true =>
      simp only [hs, if_true, Option.some.injEq, exists_eq_left', true_and]
      exact mem_way_iff (i + 1) []

theorem look {l : Look} (h : program[base]? = some (.look l next)) :
    Block program text ((Expr.look l).walk text) base 1 next := by
  refine of_node fun i marks v => ?_
  rw [follow_of_node (t := ⟨base, i, marks⟩) h, Node.ways]
  simp only [Expr.walk]
  cases hl : l.holds (Expr.before text i) text[i]? with
  | false => simp
  | true =>
    simp only [if_true, true_and]
    exact mem_way_iff i []

theorem save {slot : Nat} (h : program[base]? = some (.save slot next)) :
    Block program text (fun i j ms => j = i ∧ ms = [(slot, i)]) base 1 next := by
  refine of_node fun i marks v => ?_
  rw [follow_of_node (t := ⟨base, i, marks⟩) h, Node.ways]
  exact mem_way_iff i [(slot, i)]

theorem andThen {s s' : Nat} (hp : Block program text p base s (base + s))
    (hq : Block program text q (base + s) s' next) :
    Block program text (p.andThen q) base (s + s') next where
  enters marks hw := by
    obtain ⟨k, ns, os, h₁, h₂, rfl⟩ := hw
    obtain ⟨m, hm⟩ := hp.enters marks h₁
    obtain ⟨n, hn⟩ := hq.enters (ns ++ marks) h₂
    refine ⟨m + n, ?_⟩
    rw [List.append_assoc]
    exact hm.trans hn
  leaves hs hu := by
    obtain ⟨k, ns, m, h₁, hm, hs⟩ := hp.leaves hs (by omega)
    obtain ⟨j, os, n, h₂, hn, hs⟩ := hq.leaves hs (by omega)
    refine ⟨j, os ++ ns, n, ⟨k, ns, os, h₁, h₂, rfl⟩, Nat.le_trans hn hm, ?_⟩
    rwa [List.append_assoc]

theorem either {s s' : Nat} (h : program[base]? = some (.fork (base + 1) (base + 1 + s)))
    (hp : Block program text p (base + 1) s next)
    (hq : Block program text q (base + 1 + s) s' next) :
    Block program text (p.either q) base (1 + s + s') next where
  enters marks hw := by
    rcases hw with hw | hw
    · obtain ⟨n, hn⟩ := hp.enters marks hw
      exact ⟨n + 1, _, by rw [follow_of_node (by exact h)]; exact .head _, hn⟩
    · obtain ⟨n, hn⟩ := hq.enters marks hw
      exact ⟨n + 1, _, by rw [follow_of_node (by exact h)]; exact .tail _ (.head _), hn⟩
  leaves {n i marks u} hs hu := by
    obtain ⟨k, rfl, v, hv, hs⟩ := hs.first (by simp only; omega)
    rw [follow_of_node (t := ⟨base, i, marks⟩) h, Node.ways] at hv
    simp only [List.mem_cons, List.not_mem_nil, or_false] at hv
    rcases hv with rfl | rfl
    · obtain ⟨j, ms, l, hw, hl, hs⟩ := hp.leaves hs (by omega)
      exact ⟨j, ms, l, .inl hw, Nat.le_succ_of_le hl, hs⟩
    · obtain ⟨j, ms, l, hw, hl, hs⟩ := hq.leaves hs (by omega)
      exact ⟨j, ms, l, .inr hw, Nat.le_succ_of_le hl, hs⟩

/-- A block that may be passed over. -/
theorem orStay {s : Nat} {greedy : Bool}
    (h : program[base]? = some (.loop greedy (base + 1) next))
    (hp : Block program text p (base + 1) s next) :
    Block program text (p.either .stay) base (1 + s) next where
  enters {i j ms} marks hw := by
    have hf (v : Thread) : v ∈ Search.follow program text.toArray ⟨base, i, marks⟩ ↔ _ :=
      mem_follow_loop h
    rcases hw with hw | ⟨rfl, rfl⟩
    · obtain ⟨n, hn⟩ := hp.enters marks hw
      exact ⟨n + 1, _, (hf _).2 (.inl rfl), hn⟩
    · exact ⟨1, Steps.single ((hf _).2 (.inr rfl))⟩
  leaves {n i marks u} hs hu := by
    obtain ⟨k, rfl, v, hv, hs⟩ := hs.first (by simp only; omega)
    rcases (mem_follow_loop (t := ⟨base, i, marks⟩) h).1 hv with rfl | rfl
    · obtain ⟨j, ms, l, hw, hl, hs⟩ := hp.leaves hs (by omega)
      exact ⟨j, ms, l, .inl hw, Nat.le_succ_of_le hl, hs⟩
    · exact ⟨i, [], k, .inr ⟨rfl, rfl⟩, Nat.le_succ k, hs⟩

theorem saving {s g : Nat} (h₁ : program[base]? = some (.save (2 * g) (base + 1)))
    (hp : Block program text p (base + 1) s (base + 1 + s))
    (h₂ : program[base + 1 + s]? = some (.save (2 * g + 1) next)) :
    Block program text (p.saving g) base (1 + s + 1) next := by
  have h₂' : Block program text (fun i j ms => j = i ∧ ms = [(2 * g + 1, i)]) (base + (1 + s)) 1
      next := by
    rw [← Nat.add_assoc]
    exact save h₂
  rw [Nat.add_assoc base] at hp
  have hb := ((save h₁).andThen hp).andThen h₂'
  suffices h : p.saving g = _ by
    rw [h]
    exact hb
  apply Walk.ext
  intro i j ms
  constructor
  · rintro ⟨ns, hw, rfl⟩
    exact ⟨j, ns ++ [(2 * g, i)], [(2 * g + 1, j)], ⟨i, [(2 * g, i)], ns, ⟨rfl, rfl⟩, hw, rfl⟩,
      ⟨rfl, rfl⟩, rfl⟩
  · rintro ⟨k, _, _, ⟨_, _, ns, ⟨rfl, rfl⟩, hw, rfl⟩, ⟨rfl, rfl⟩, rfl⟩
    exact ⟨ns, hw, rfl⟩

/-- A part that is run again and again, decided behind each copy. -/
theorem again {s : Nat} {greedy : Bool} (hp : Block program text p base s (base + s))
    (h : program[base + s]? = some (.loop greedy base next)) :
    Block program text (p.some (1 ≤ ·)) base (s + 1) next where
  enters {i j ms} marks hw := by
    obtain ⟨n, hn, hw⟩ := hw
    obtain ⟨n, rfl⟩ : ∃ m, n = m + 1 := ⟨n - 1, by omega⟩
    clear hn
    induction n generalizing i ms marks with
    | zero =>
      rw [Nat.zero_add, Walk.times_one] at hw
      obtain ⟨m, hm⟩ := hp.enters marks hw
      exact ⟨m + 1, hm.trans (Steps.single ((mem_follow_loop h).2 (.inr rfl)))⟩
    | succ n ih =>
      obtain ⟨k, ns, os, h₁, h₂, rfl⟩ := hw
      obtain ⟨m, hm⟩ := hp.enters marks h₁
      obtain ⟨l, hl⟩ := ih (ns ++ marks) h₂
      rw [List.append_assoc]
      exact ⟨m + 1 + l, (hm.trans (Steps.single ((mem_follow_loop h).2 (.inl rfl)))).trans hl⟩
  leaves {n i marks u} hs hu := by
    -- each copy and the decision behind it shorten the run
    induction n using Nat.strongRecOn generalizing i marks with
    | _ n ih =>
      obtain ⟨j, ms, k, hw, hk, hs⟩ := hp.leaves hs (by omega)
      obtain ⟨l, rfl, v, hv, hs⟩ := hs.first (by simp only; omega)
      rcases (mem_follow_loop (t := ⟨base + s, j, ms ++ marks⟩) h).1 hv with rfl | rfl
      · obtain ⟨j', os, m, ⟨c, hc, hw'⟩, hm, hs⟩ := ih l (by omega) hs
        refine ⟨j', os ++ ms, m, ⟨c + 1, by omega, j, ms, os, hw, hw', rfl⟩, by omega, ?_⟩
        rwa [List.append_assoc]
      · exact ⟨j, ms, l, ⟨1, Nat.le_refl 1, by rwa [Walk.times_one]⟩, by omega, hs⟩

/-- A part that is run again and again, decided ahead of each copy. -/
theorem star {s : Nat} {greedy : Bool} (h : program[base]? = some (.loop greedy (base + 1) next))
    (hp : Block program text p (base + 1) s base) :
    Block program text (p.some fun _ => True) base (1 + s) next where
  enters {i j ms} marks hw := by
    obtain ⟨n, -, hw⟩ := hw
    induction n generalizing i ms marks with
    | zero =>
      obtain ⟨rfl, rfl⟩ := hw
      exact ⟨1, Steps.single ((mem_follow_loop h).2 (.inr rfl))⟩
    | succ n ih =>
      obtain ⟨k, ns, os, h₁, h₂, rfl⟩ := hw
      obtain ⟨m, hm⟩ := hp.enters marks h₁
      obtain ⟨l, hl⟩ := ih (ns ++ marks) h₂
      rw [List.append_assoc]
      exact ⟨1 + m + l, ((Steps.single ((mem_follow_loop h).2 (.inl rfl))).trans hm).trans hl⟩
  leaves {n i marks u} hs hu := by
    induction n using Nat.strongRecOn generalizing i marks with
    | _ n ih =>
      obtain ⟨k, rfl, v, hv, hs⟩ := hs.first (by simp only; omega)
      rcases (mem_follow_loop (t := ⟨base, i, marks⟩) h).1 hv with rfl | rfl
      · obtain ⟨j, ms, l, hw, hl, hs⟩ := hp.leaves hs (by omega)
        obtain ⟨j', os, m, ⟨c, -, hw'⟩, hm, hs⟩ := ih l (by omega) hs
        refine ⟨j', os ++ ms, m, ⟨c + 1, trivial, j, ms, os, hw, hw', rfl⟩, by omega, ?_⟩
        rwa [List.append_assoc]
      · exact ⟨i, [], k, ⟨0, trivial, rfl, rfl⟩, Nat.le_succ k, hs⟩

end Block

end

/-! ## Repetitions -/

namespace Walk

variable (p : Walk)

theorem some_le_zero : p.some (· ≤ 0) = stay := by
  apply ext
  intro i j ms
  constructor
  · rintro ⟨n, hn, hw⟩
    obtain rfl : n = 0 := Nat.le_zero.1 hn
    exact hw
  · intro hw
    exact ⟨0, Nat.le_refl 0, hw⟩

theorem some_le_succ (n : Nat) : p.some (· ≤ n + 1) = (p.andThen (p.some (· ≤ n))).either stay := by
  apply ext
  intro i j ms
  constructor
  · rintro ⟨k, hk, hw⟩
    cases k with
    | zero => exact .inr hw
    | succ k =>
      obtain ⟨l, ns, os, h₁, h₂, rfl⟩ := hw
      exact .inl ⟨l, ns, os, h₁, ⟨k, Nat.le_of_succ_le_succ hk, h₂⟩, rfl⟩
  · rintro (⟨l, ns, os, h₁, ⟨k, hk, h₂⟩, rfl⟩ | hw)
    · exact ⟨k + 1, Nat.succ_le_succ hk, l, ns, os, h₁, h₂, rfl⟩
    · exact ⟨0, Nat.zero_le _, hw⟩

theorem some_true : p.some (fun _ => True) = (p.some (1 ≤ ·)).either stay := by
  apply ext
  intro i j ms
  constructor
  · rintro ⟨n, -, hw⟩
    cases n with
    | zero => exact .inr hw
    | succ n => exact .inl ⟨n + 1, by omega, hw⟩
  · rintro (⟨n, -, hw⟩ | hw)
    · exact ⟨n, trivial, hw⟩
    · exact ⟨0, trivial, hw⟩

/-- The copies that have to be there come first. -/
theorem times_andThen_some (n : Nat) (admits : Nat → Prop) :
    (p.times n).andThen (p.some admits) = p.some fun k => ∃ l, admits l ∧ k = n + l := by
  apply ext
  intro i j ms
  constructor
  · rintro ⟨k, ns, os, h₁, ⟨l, hl, h₂⟩, rfl⟩
    refine ⟨n + l, ⟨l, hl, rfl⟩, ?_⟩
    rw [times_add]
    exact ⟨k, ns, os, h₁, h₂, rfl⟩
  · rintro ⟨_, ⟨l, hl, rfl⟩, hw⟩
    rw [times_add] at hw
    obtain ⟨k, ns, os, h₁, h₂, rfl⟩ := hw
    exact ⟨k, ns, os, h₁, ⟨l, hl, h₂⟩, rfl⟩

theorem some_congr {a b : Nat → Prop} (h : ∀ n, a n ↔ b n) : p.some a = p.some b := by
  rw [show a = b from funext fun n => propext (h n)]

theorem some_admits_bounded (n m : Nat) :
    p.some (Times.Admits ⟨n, .some m⟩) = (p.times n).andThen (p.some (· ≤ m - n)) := by
  rw [times_andThen_some]
  refine some_congr p fun k => ⟨fun ⟨hl, hm⟩ => ⟨k - n, ?_, ?_⟩, ?_⟩
  · have := hm m rfl
    simp only at hl this ⊢
    omega
  · simp only at hl
    omega
  · rintro ⟨l, hl, rfl⟩
    refine ⟨Nat.le_add_right _ _, fun m' hm' => ?_⟩
    obtain rfl := Option.some.inj hm'
    simp only at hl ⊢
    omega

theorem some_admits_star : p.some (Times.Admits ⟨0, none⟩) = p.some fun _ => True :=
  some_congr p fun _ => ⟨fun _ => trivial, fun _ => ⟨Nat.zero_le _, by simp⟩⟩

theorem some_admits_least (n : Nat) :
    p.some (Times.Admits ⟨n, none⟩) = (p.times n).andThen (p.some fun _ => True) := by
  rw [times_andThen_some]
  refine some_congr p fun k => ⟨fun ⟨hk, _⟩ => ?_, ?_⟩
  · exact ⟨k - n, trivial, (Nat.add_sub_cancel' hk).symm⟩
  · rintro ⟨l, -, rfl⟩
    exact ⟨Nat.le_add_right n l, by simp⟩

theorem some_admits_unbounded (n : Nat) :
    p.some (Times.Admits ⟨n + 1, none⟩) = (p.times n).andThen (p.some (1 ≤ ·)) := by
  rw [times_andThen_some]
  refine some_congr p fun k => ⟨fun ⟨hl, _⟩ => ⟨k - n, ?_, ?_⟩, ?_⟩
  · simp only at hl
    omega
  · simp only at hl
    omega
  · rintro ⟨l, hl, rfl⟩
    exact ⟨by simp only; omega, by simp⟩

end Walk

namespace Expr

variable {program : Array Node} {text : List Char}

theorem copies_succ (code : Nat → Nat → List Node) (size n base : Nat) :
    copies code size (n + 1) base =
      code base (base + size) ++ copies code size n (base + size) := by
  rw [copies, List.range_succ_eq_map, List.flatMap_cons, List.flatMap_map, copies]
  congr 1
  · simp
  · congr 1
    funext i
    congr 1 <;> rw [Nat.succ_mul] <;> omega

theorem options_succ (code : Nat → Nat → List Node) (size : Nat) (greedy : Bool)
    (n base next : Nat) :
    options code size greedy (n + 1) base next =
      Node.loop greedy (base + 1) next :: (code (base + 1) (base + (1 + size)) ++
        options code size greedy n (base + (1 + size)) next) := by
  rw [options, List.range_succ_eq_map, List.flatMap_cons, List.flatMap_map, options]
  simp only [Nat.zero_mul, Nat.add_zero, List.cons_append]
  congr 2
  congr 1
  funext i
  rw [Nat.succ_mul, show base + (i * (1 + size) + (1 + size)) = base + (1 + size) +
    i * (1 + size) by omega]

section

variable {p : Walk} {code : Nat → Nat → List Node} {size : Nat}

/-- The code of a part makes a block wherever it is laid out. -/
def Blocks (program : Array Node) (text : List Char) (p : Walk) (code : Nat → Nat → List Node)
    (size : Nat) : Prop :=
  (∀ base next, (code base next).length = size) ∧
    ∀ base next, Laid program base (code base next) → Block program text p base size next

theorem block_copies (h : Blocks program text p code size) (n : Nat) {base : Nat}
    (hl : Laid program base (copies code size n base)) :
    Block program text (p.times n) base (n * size) (base + n * size) := by
  induction n generalizing base with
  | zero =>
    refine ⟨fun marks hw => ?_, fun hs _ => ?_⟩
    · obtain ⟨rfl, rfl⟩ := hw
      exact ⟨0, by simp [Steps]⟩
    · exact ⟨_, [], _, ⟨rfl, rfl⟩, Nat.le_refl _, by simpa using hs⟩
  | succ n ih =>
    rw [copies_succ, laid_append_iff, h.1] at hl
    have hb := (h.2 _ _ hl.1).andThen (ih hl.2)
    rwa [show size + n * size = (n + 1) * size by rw [Nat.succ_mul]; omega,
      show base + size + n * size = base + (n + 1) * size by rw [Nat.succ_mul]; omega] at hb

theorem block_options (h : Blocks program text p code size) (greedy : Bool) (n : Nat)
    {base next : Nat}
    (hl : Laid program base (options code size greedy n base next ++ [.jump next])) :
    Block program text (p.some (· ≤ n)) base (n * (1 + size) + 1) next := by
  induction n generalizing base with
  | zero =>
    rw [Walk.some_le_zero, Nat.zero_mul, Nat.zero_add]
    exact Block.jump (hl 0 _ rfl)
  | succ n ih =>
    rw [options_succ, List.cons_append, List.append_assoc, laid_cons_iff, laid_append_iff,
      h.1] at hl
    obtain ⟨h₁, h₂, h₃⟩ := hl
    rw [show base + 1 + size = base + (1 + size) by omega] at h₃
    have hb := h.2 _ _ h₂
    rw [show base + (1 + size) = base + 1 + size by omega] at hb h₃
    have := (hb.andThen (ih h₃)).orStay h₁
    rw [Walk.some_le_succ]
    rwa [show 1 + (size + (n * (1 + size) + 1)) = (n + 1) * (1 + size) + 1 by
      rw [Nat.succ_mul]; omega] at this

theorem block_again (h : Blocks program text p code size) {greedy : Bool} {base next : Nat}
    (hl : Laid program base (again code size greedy base next)) :
    Block program text (p.some (1 ≤ ·)) base (size + 1) next := by
  rw [again, laid_append_iff, h.1, laid_cons_iff] at hl
  exact (h.2 _ _ hl.1).again hl.2.1

theorem block_repeatCode (h : Blocks program text p code size) (nullable greedy : Bool)
    (t : Times) {base next : Nat}
    (hl : Laid program base (repeatCode code size nullable greedy t base next)) :
    Block program text (p.some t.Admits) base (repeatSize size nullable t) next := by
  rcases t with ⟨n, _ | m⟩
  · cases n with
    | zero =>
      rw [Walk.some_admits_star]
      rw [repeatCode] at hl
      cases nullable with
      | true =>
        rw [if_pos rfl, laid_cons_iff] at hl
        rw [Walk.some_true]
        have hb := (block_again h hl.2).orStay hl.1
        rwa [← Nat.add_assoc] at hb
      | false =>
        rw [if_neg Bool.false_ne_true, laid_cons_iff] at hl
        exact Block.star hl.1 (h.2 _ _ hl.2)
    | succ n =>
      rw [repeatCode, laid_append_iff, length_copies h.1] at hl
      rw [Walk.some_admits_unbounded]
      exact (block_copies h n hl.1).andThen (block_again h hl.2)
  · rw [repeatCode, laid_append_iff, length_copies h.1] at hl
    rw [Walk.some_admits_bounded]
    exact (block_copies h n hl.1).andThen (block_options h greedy (m - n) hl.2)

end

theorem size_pos (e : Expr) : 0 < e.size := by
  induction e with
  | empty | set | look => exact Nat.zero_lt_one
  | cat a b iha _ => exact Nat.add_pos_left iha _
  | alt a b => rw [size, Nat.add_assoc]; exact Nat.add_pos_left Nat.zero_lt_one _
  | rep t greedy e =>
    rcases t with ⟨_ | n, _ | m⟩ <;> simp only [size, repeatSize]
    · split <;> omega
    all_goals omega
  | group g e => exact Nat.succ_pos _

theorem block_code (e : Expr) {base next : Nat} (h : Laid program base (e.code base next)) :
    Block program text (e.walk text) base e.size next := by
  induction e generalizing base next with
  | empty => exact Block.jump (h 0 _ rfl)
  | set u s => exact Block.set (h 0 _ rfl)
  | look l => exact Block.look (h 0 _ rfl)
  | cat a b iha ihb =>
    rw [code, laid_append_iff, length_code] at h
    exact (iha h.1).andThen (ihb h.2)
  | alt a b iha ihb =>
    rw [code, laid_cons_iff, laid_append_iff, length_code] at h
    exact Block.either h.1 (iha h.2.1) (ihb h.2.2)
  | rep t greedy e ih =>
    exact block_repeatCode ⟨length_code e, fun _ _ => ih⟩ e.nullable greedy t h
  | group g e ih =>
    rw [code, laid_cons_iff, laid_append_iff, length_code, laid_cons_iff] at h
    exact Block.saving h.1 (ih h.2.1) h.2.2.1

end Expr

end RouteTemplate.Regex
