import RouteTemplate.Proofs.Regex.Search

/-!
What backtracking picks. Of all matches of an expression from a place, `Expr.pick` describes the one
that is preferred if the rest of the pattern matches where a condition holds: a choice goes to its
first branch that leads there. The search finds this match at the first place where there is any
(`Regex.find?_eq_some_of_pick`), because a run that always takes the first way that leads to a goal
never comes back to where it has been (`First.preferred`).
-/

namespace RouteTemplate

namespace Regex

namespace Machine

/-- A run of so many steps that takes the first way from which a goal can be reached. It saves the
given slots, latest first. -/
inductive First (M : Machine) : Nat → Place → List (Nat × Nat) → Prop
  | goal {p : Place} : M.goal p → First M 0 p []
  | step {n : Nat} {p : Place} {before after : List (Place × List (Nat × Nat))}
      {w : Place × List (Nat × Nat)} {ms : List (Nat × Nat)} :
      ¬ M.goal p → M.ways p = before ++ w :: after → (∀ v ∈ before, ¬ M.Reaches ∅ v.1) →
      First M n w.1 ms → First M (n + 1) p (ms ++ w.2)

variable {M : Machine} {V : Set Place} {p : Place} {n k : Nat} {ms ns : List (Nat × Nat)}

theorem First.reaches (h : M.First n p ms) : M.Reaches ∅ p := by
  induction h with
  | goal hg => exact .goal hg
  | @step n p before after w ms _ hw _ _ ih =>
    refine .step (Set.notMem_empty p) ?_ ih
    rw [hw]
    exact List.mem_append_right _ (List.mem_cons_self ..)

theorem First.steps_unique (h : M.First n p ms) (h' : M.First k p ns) : n = k := by
  induction h generalizing k ns with
  | goal hg =>
    cases h' with
    | goal => rfl
    | step hg' => exact absurd hg hg'
  | step hg hw hb hr ih =>
    cases h' with
    | goal hg' => exact absurd hg' hg
    | step _ hw' hb' hr' =>
      obtain rfl := eq_of_append_cons_eq (P := fun w => M.Reaches ∅ w.1)
        (hw.symm.trans hw') hb hb' hr.reaches hr'.reaches
      rw [ih hr']

/-- The way to a goal gets shorter with every step, so no place is met twice. -/
theorem First.preferred (h : M.First n p ms)
    (hV : ∀ q ∈ V, ∀ k ns, M.First k q ns → n < k) : M.Preferred V p ms := by
  induction h generalizing V with
  | goal hg => exact .goal hg
  | @step n p before after w ms hg hw hb hr ih =>
    have hp : M.First (n + 1) p (ms ++ w.2) := .step hg hw hb hr
    refine .step hg (fun hm => Nat.lt_irrefl _ (hV p hm _ _ hp)) hw
      (fun v hv hreach => hb v hv (hreach.anti (Set.empty_subset _))) (ih ?_)
    rintro q (rfl | hq) k ns hk
    · exact (hp.steps_unique hk) ▸ Nat.lt_succ_self n
    · exact Nat.lt_of_succ_lt (hV q hq k ns hk)

end Machine

/-! ## Picking a match -/

namespace Walk

/-- A walk leads from a place to where a condition holds. -/
def Leads (p : Walk) (live : Nat → Prop) (i : Nat) : Prop := ∃ j ms, p i j ms ∧ live j

theorem Leads.mono {p : Walk} {live live' : Nat → Prop} {i : Nat} (h : p.Leads live i)
    (hlive : ∀ j, live j → live' j) : p.Leads live' i := by
  obtain ⟨j, ms, hp, hj⟩ := h
  exact ⟨j, ms, hp, hlive j hj⟩

theorem leads_stay (live : Nat → Prop) : stay.Leads live = live := by
  funext i
  exact propext ⟨fun ⟨_, _, ⟨rfl, rfl⟩, h⟩ => h, fun h => ⟨i, [], ⟨rfl, rfl⟩, h⟩⟩

/-- The second walk is for where a condition does not hold. -/
def orElse (p : Walk) (holds : Nat → Prop) (q : Walk) : Walk := fun i j ms =>
  p i j ms ∨ ¬ holds i ∧ q i j ms

/-- One copy after another where `more` holds, until the end where `stop` holds. -/
inductive Rounds (one : Walk) (more stop : Nat → Prop) : Nat → Nat → List (Nat × Nat) → Prop
  | stop {i : Nat} : stop i → Rounds one more stop i i []
  | more {i j k : Nat} {ns os : List (Nat × Nat)} : more i → one i k ns →
      Rounds one more stop k j os → Rounds one more stop i j (os ++ ns)

end Walk

namespace Expr

section

variable (one : (Nat → Prop) → Walk) (p : Walk)

/-- So many copies of a part `p`, each picked with regard to the ones behind it. -/
def pickTimes : Nat → (Nat → Prop) → Walk
  | 0, _ => .stay
  | n + 1, live => (one ((p.times n).Leads live)).andThen (pickTimes n live)

/-- Up to so many copies. -/
def pickUpTo (greedy : Bool) : Nat → (Nat → Prop) → Walk
  | 0, _ => .stay
  | n + 1, live =>
    let more := (one ((p.some (· ≤ n)).Leads live)).andThen (pickUpTo greedy n live)
    if greedy then more.orElse ((p.andThen (p.some (· ≤ n))).Leads live) .stay
    else Walk.stay.orElse live more

/-- Any number of copies. -/
def pickAny (greedy : Bool) (live : Nat → Prop) : Walk :=
  .Rounds (one ((p.some fun _ => True).Leads live)) (fun i => greedy = false → ¬ live i)
    fun i => greedy = true → ¬ (p.some (1 ≤ ·)).Leads live i

end

/-- The preferred match from a place, if the rest of the pattern matches where `live` holds. -/
def pick (text : List Char) : Expr → (Nat → Prop) → Walk
  | cat a b, live => (a.pick text ((b.walk text).Leads live)).andThen (b.pick text live)
  | alt a b, live => (a.pick text live).orElse ((a.walk text).Leads live) (b.pick text live)
  | rep ⟨n, some m⟩ greedy e, live =>
    (pickTimes (e.pick text) (e.walk text) n (((e.walk text).some (· ≤ m - n)).Leads live)).andThen
      (pickUpTo (e.pick text) (e.walk text) greedy (m - n) live)
  | rep ⟨n, none⟩ greedy e, live =>
    (pickTimes (e.pick text) (e.walk text) n
      (((e.walk text).some fun _ => True).Leads live)).andThen
        (pickAny (e.pick text) (e.walk text) greedy live)
  | group g e, live => (e.pick text live).saving g
  | e, _ => e.walk text

end Expr

/-! ## Programs pick -/

section

variable {program : Array Node} {text : List Char} {base mid next : Nat}

/-- What leads to a match behind `base` leads there through a walk to `next`. -/
def Leading (program : Array Node) (text : List Char) (p : Walk) (base next : Nat) : Prop :=
  ∀ i, (Machine.ofProgram program text).Reaches ∅ (base, i) →
    p.Leads (fun j => (Machine.ofProgram program text).Reaches ∅ (next, j)) i

/-- The preferred run from `base` is what is picked up to `next`, and the preferred run from there.
-/
def Picks (program : Array Node) (text : List Char) (pick : (Nat → Prop) → Walk)
    (base next : Nat) : Prop :=
  ∀ live : Nat → Prop, (∀ j, (Machine.ofProgram program text).Reaches ∅ (next, j) → live j) →
    ∀ i j ms n ns, pick live i j ms → (Machine.ofProgram program text).First n (next, j) ns →
      ∃ k, (Machine.ofProgram program text).First k (base, i) (ns ++ ms)

theorem Block.leading {p : Walk} {size : Nat} (h : Block program text p base size next)
    (hsize : base + size ≤ program.size) : Leading program text p base next := by
  intro i hr
  obtain ⟨n, j, ms, hs⟩ := Search.Reaches.exists_steps hr []
  obtain ⟨k, ns, l, hp, -, hs⟩ := h.leaves hs (.inr hsize)
  exact ⟨k, ns, hp, Search.reaches_of_steps hs rfl⟩

theorem Leading.andThen {p q : Walk} (hp : Leading program text p base mid)
    (hq : Leading program text q mid next) : Leading program text (p.andThen q) base next := by
  intro i hr
  obtain ⟨k, ns, hk, hr⟩ := hp i hr
  obtain ⟨j, os, hj, hr⟩ := hq k hr
  exact ⟨j, os ++ ns, ⟨k, ns, os, hk, hj, rfl⟩, hr⟩

theorem Laid.le_size {nodes : List Node} (h : Laid program base nodes) (hne : nodes ≠ []) :
    base + nodes.length ≤ program.size := by
  have hpos := List.length_pos_iff.2 hne
  have hlast := h (nodes.length - 1) _ (List.getElem?_eq_getElem (by omega))
  have := (Array.getElem?_eq_some_iff.1 hlast).1
  omega

theorem not_goal_of_node {node : Node} (h : program[base]? = some node) (i : Nat) :
    ¬ (Machine.ofProgram program text).goal (base, i) := by
  intro hg
  have hlt := (Array.getElem?_eq_some_iff.1 h).1
  exact Nat.ne_of_lt hlt hg

theorem ways_of_node {node : Node} (h : program[base]? = some node) (i : Nat) :
    (Machine.ofProgram program text).ways (base, i) =
      (node.ways text ⟨base, i, []⟩).map fun u => (u.place, u.marks) :=
  congrArg _ (follow_of_node (t := ⟨base, i, []⟩) h)

/-- A node with a single way on. -/
theorem Picks.of_node {node : Node} {p : Walk} (h : program[base]? = some node)
    (hp : ∀ i j ms, p i j ms → node.ways text ⟨base, i, []⟩ = [⟨next, j, ms⟩]) :
    Picks program text (fun _ => p) base next := by
  intro live _ i j ms n ns hw hfirst
  have hways : (Machine.ofProgram program text).ways (base, i) = [] ++ [((next, j), ms)] := by
    rw [ways_of_node h, hp i j ms hw]
    rfl
  exact ⟨n + 1, .step (not_goal_of_node h i) hways (by simp) hfirst⟩

theorem Picks.jump (h : program[base]? = some (.jump next)) :
    Picks program text (fun _ => .stay) base next := by
  refine .of_node h fun i j ms hw => ?_
  obtain ⟨rfl, rfl⟩ := hw
  rfl

theorem Picks.set {u : Bool} {s : CharClass} (h : program[base]? = some (.set s next)) :
    Picks program text (fun _ => (Expr.set u s).walk text) base next := by
  refine .of_node h fun i j ms hw => ?_
  obtain ⟨⟨c, hc, hs⟩, rfl, rfl⟩ := hw
  simp [Node.ways, hc, hs]

theorem Picks.look {l : Look} (h : program[base]? = some (.look l next)) :
    Picks program text (fun _ => (Expr.look l).walk text) base next := by
  refine .of_node h fun i j ms hw => ?_
  obtain ⟨hl, rfl, rfl⟩ := hw
  simp [Node.ways, hl]

theorem Picks.save {slot : Nat} (h : program[base]? = some (.save slot next)) :
    Picks program text (fun _ i j ms => j = i ∧ ms = [(slot, i)]) base next := by
  refine .of_node h fun i j ms hw => ?_
  obtain ⟨rfl, rfl⟩ := hw
  rfl

variable {pick pick' : (Nat → Prop) → Walk} {p q : Walk}

theorem Picks.andThen (hp : Picks program text pick base mid)
    (hq : Picks program text pick' mid next) (hl : Leading program text q mid next) :
    Picks program text (fun live => (pick (q.Leads live)).andThen (pick' live)) base next := by
  intro live hlive i j ms n ns hw hfirst
  obtain ⟨k, os₁, os₂, h₁, h₂, rfl⟩ := hw
  obtain ⟨m, hm⟩ := hq live hlive k j os₂ n ns h₂ hfirst
  obtain ⟨l, hl'⟩ := hp (q.Leads live) (fun k hk => (hl k hk).mono hlive) i k os₁ m _ h₁ hm
  exact ⟨l, by rwa [← List.append_assoc]⟩

/-- The first way of a fork. -/
theorem Machine.First.fork_left {a b i n : Nat} {ns : List (Nat × Nat)}
    (h : program[base]? = some (.fork a b))
    (hfirst : (Machine.ofProgram program text).First n (a, i) ns) :
    (Machine.ofProgram program text).First (n + 1) (base, i) ns := by
  have hways : (Machine.ofProgram program text).ways (base, i) =
      [] ++ ((a, i), []) :: [((b, i), [])] := by
    rw [ways_of_node h]
    rfl
  have hs := First.step (not_goal_of_node h i) hways (by simp) hfirst
  rwa [List.append_nil] at hs

/-- The second way of a fork whose first way does not lead to a goal. -/
theorem Machine.First.fork_right {a b i n : Nat} {ns : List (Nat × Nat)}
    (h : program[base]? = some (.fork a b))
    (hdead : ¬ (Machine.ofProgram program text).Reaches ∅ (a, i))
    (hfirst : (Machine.ofProgram program text).First n (b, i) ns) :
    (Machine.ofProgram program text).First (n + 1) (base, i) ns := by
  have hways : (Machine.ofProgram program text).ways (base, i) =
      [((a, i), [])] ++ [((b, i), [])] := by
    rw [ways_of_node h]
    rfl
  have hs := First.step (not_goal_of_node h i) hways (by simpa using hdead) hfirst
  rwa [List.append_nil] at hs

theorem Machine.First.loop_enter {greedy : Bool} {body i n : Nat} {ns : List (Nat × Nat)}
    (h : program[base]? = some (.loop greedy body next))
    (hdead : greedy = false → ¬ (Machine.ofProgram program text).Reaches ∅ (next, i))
    (hfirst : (Machine.ofProgram program text).First n (body, i) ns) :
    (Machine.ofProgram program text).First (n + 1) (base, i) ns := by
  cases greedy with
  | true => exact .fork_left h hfirst
  | false => exact .fork_right h (hdead rfl) hfirst

theorem Machine.First.loop_leave {greedy : Bool} {body i n : Nat} {ns : List (Nat × Nat)}
    (h : program[base]? = some (.loop greedy body next))
    (hdead : greedy = true → ¬ (Machine.ofProgram program text).Reaches ∅ (body, i))
    (hfirst : (Machine.ofProgram program text).First n (next, i) ns) :
    (Machine.ofProgram program text).First (n + 1) (base, i) ns := by
  cases greedy with
  | true => exact .fork_right h (hdead rfl) hfirst
  | false => exact .fork_left h hfirst

theorem Picks.orElse {a b : Nat} (h : program[base]? = some (.fork a b))
    (hp : Picks program text pick a next) (hq : Picks program text pick' b next)
    (hl : Leading program text p a next) :
    Picks program text (fun live => (pick live).orElse (p.Leads live) (pick' live)) base next := by
  intro live hlive i j ms n ns hw hfirst
  rcases hw with hw | ⟨hdead, hw⟩
  · obtain ⟨k, hk⟩ := hp live hlive i j ms n ns hw hfirst
    exact ⟨k + 1, .fork_left h hk⟩
  · obtain ⟨k, hk⟩ := hq live hlive i j ms n ns hw hfirst
    exact ⟨k + 1, .fork_right h (fun hr => hdead ((hl i hr).mono hlive)) hk⟩

/-- A part that may be passed over. -/
theorem Picks.orStay {greedy : Bool} {body : Nat}
    (h : program[base]? = some (.loop greedy body next)) (hp : Picks program text pick body next)
    (hl : Leading program text p body next) :
    Picks program text (fun live =>
      if greedy then (pick live).orElse (p.Leads live) .stay else Walk.stay.orElse live (pick live))
      base next := by
  intro live hlive i j ms n ns hw hfirst
  cases greedy with
  | true =>
    rcases hw with hw | ⟨hdead, rfl, rfl⟩
    · obtain ⟨k, hk⟩ := hp live hlive i j ms n ns hw hfirst
      exact ⟨k + 1, .fork_left h hk⟩
    · rw [List.append_nil]
      exact ⟨n + 1, .fork_right h (fun hr => hdead ((hl _ hr).mono hlive)) hfirst⟩
  | false =>
    rcases hw with ⟨rfl, rfl⟩ | ⟨hdead, hw⟩
    · rw [List.append_nil]
      exact ⟨n + 1, .fork_left h hfirst⟩
    · obtain ⟨k, hk⟩ := hp live hlive i j ms n ns hw hfirst
      exact ⟨k + 1, .fork_right h (fun hr => hdead (hlive i hr)) hk⟩

theorem Picks.saving {size g : Nat} (h₁ : program[base]? = some (.save (2 * g) (base + 1)))
    (hp : Picks program text pick (base + 1) (base + 1 + size))
    (h₂ : program[base + 1 + size]? = some (.save (2 * g + 1) next)) :
    Picks program text (fun live => (pick live).saving g) base next := by
  intro live hlive i j ms n ns hw hfirst
  obtain ⟨os, hw, rfl⟩ := hw
  have hlive' (j : Nat)
      (hr : (Machine.ofProgram program text).Reaches ∅ (base + 1 + size, j)) : live j := by
    have hblock : Block program text _ (base + 1 + size) 1 next := Block.save h₂
    have hb := hblock.leading (Array.getElem?_eq_some_iff.1 h₂).1
    obtain ⟨k, -, ⟨rfl, -⟩, hk⟩ := hb j hr
    exact hlive _ hk
  obtain ⟨k, hk⟩ := Picks.save h₂ live hlive j j _ n ns ⟨rfl, rfl⟩ hfirst
  obtain ⟨l, hl⟩ := hp live hlive' i j os k _ hw hk
  obtain ⟨m, hm⟩ := Picks.save h₁ (fun _ => True) (fun _ _ => trivial) i i _ l _ ⟨rfl, rfl⟩ hl
  exact ⟨m, by simpa using hm⟩

theorem leading_loop {greedy : Bool} {body : Nat}
    (h : program[base]? = some (.loop greedy body next))
    (hbody : Leading program text (p.some (1 ≤ ·)) body next) :
    Leading program text (p.some fun _ => True) base next := by
  intro i hr
  cases hr with
  | goal hg => exact absurd hg (not_goal_of_node h i)
  | @step _ w _ hw hr =>
    rw [ways_of_node h] at hw
    obtain ⟨u, hu, rfl⟩ := List.mem_map.1 hw
    rw [← follow_of_node (t := ⟨base, i, []⟩) h] at hu
    rcases (mem_follow_loop (t := ⟨base, i, []⟩) h).1 hu with rfl | rfl
    · obtain ⟨j, ms, ⟨n, -, hn⟩, hj⟩ := hbody i hr
      exact ⟨j, ms, ⟨n, trivial, hn⟩, hj⟩
    · exact ⟨i, [], ⟨0, trivial, rfl, rfl⟩, hr⟩

/-- Rounds of a part that leads to `again`, where the next round is decided as the first one is at
`base`. -/
theorem Picks.rounds {greedy : Bool} {body again : Nat}
    (h : program[base]? = some (.loop greedy body next))
    (h' : program[again]? = some (.loop greedy body next))
    (hp : Picks program text pick body again)
    (hbody : Leading program text (p.some (1 ≤ ·)) body next) :
    Picks program text (Expr.pickAny pick p greedy) base next := by
  intro live hlive i j ms n ns hw hfirst
  induction hw generalizing base with
  | stop hstop =>
    rw [List.append_nil]
    exact ⟨n + 1, .loop_leave h (fun hg hr => hstop hg ((hbody _ hr).mono hlive)) hfirst⟩
  | more hmore hone _ ih =>
    obtain ⟨k, hk⟩ := ih h' hfirst
    obtain ⟨l, hl⟩ := hp _ (fun j hr => (leading_loop h' hbody j hr).mono hlive) _ _ _ k _ hone hk
    rw [← List.append_assoc]
    exact ⟨l + 1, .loop_enter h (fun hg hr => hmore hg (hlive _ hr)) hl⟩

end

/-! ## Expressions -/

namespace Expr

variable {program : Array Node} {text : List Char}

section

variable {p : Walk} {pick : (Nat → Prop) → Walk} {code : Nat → Nat → List Node} {size : Nat}

theorem leading_code (e : Expr) {base next : Nat} (h : Laid program base (e.code base next)) :
    Leading program text (e.walk text) base next := by
  refine (block_code e h).leading ?_
  have hle := h.le_size (List.length_pos_iff.1 (by rw [length_code]; exact e.size_pos))
  rwa [length_code] at hle

/-- The code of a part picks what the part picks, wherever it is laid out. -/
def PicksAll (program : Array Node) (text : List Char) (pick : (Nat → Prop) → Walk)
    (code : Nat → Nat → List Node) : Prop :=
  ∀ base next, Laid program base (code base next) → Picks program text pick base next

theorem picks_copies (h : Blocks program text p code size) (hp : PicksAll program text pick code)
    (n : Nat) {base : Nat} (hl : Laid program base (copies code size n base))
    (hle : base + n * size ≤ program.size) :
    Picks program text (pickTimes pick p n) base (base + n * size) := by
  induction n generalizing base with
  | zero =>
    rintro live - i j ms n ns ⟨rfl, rfl⟩ hfirst
    exact ⟨n, by simpa using hfirst⟩
  | succ n ih =>
    rw [copies_succ, laid_append_iff, h.1] at hl
    have hend : base + size + n * size = base + (n + 1) * size := by
      rw [Nat.succ_mul]
      omega
    rw [← hend] at hle ⊢
    exact (hp _ _ hl.1).andThen (ih hl.2 hle) ((block_copies h n hl.2).leading hle)

theorem picks_options (h : Blocks program text p code size) (hp : PicksAll program text pick code)
    (greedy : Bool) (n : Nat) {base next : Nat}
    (hl : Laid program base (options code size greedy n base next ++ [.jump next])) :
    Picks program text (pickUpTo pick p greedy n) base next := by
  induction n generalizing base with
  | zero => exact Picks.jump (hl 0 _ rfl)
  | succ n ih =>
    have hrest := hl
    rw [options_succ, List.cons_append, List.append_assoc, laid_cons_iff, laid_append_iff,
      h.1] at hrest
    obtain ⟨h₁, h₂, h₃⟩ := hrest
    rw [Nat.add_assoc] at h₃
    have hle := h₃.le_size (by simp)
    rw [List.length_append, length_options h.1] at hle
    have hbody := hp _ _ h₂
    have hmore := (block_options h greedy n h₃).leading hle
    exact Picks.orStay h₁ (hbody.andThen (ih h₃) hmore)
      (((h.2 _ _ h₂).leading (by omega)).andThen hmore)

/-- The last of several copies is laid out behind the others. -/
theorem copies_succ_right (code : Nat → Nat → List Node) (size n base : Nat) :
    copies code size (n + 1) base =
      copies code size n base ++ code (base + n * size) (base + n * size + size) := by
  rw [copies, List.range_succ, List.flatMap_append, List.flatMap_singleton, copies, Nat.succ_mul,
    Nat.add_assoc]

theorem picks_unbounded (h : Blocks program text p code size)
    (hp : PicksAll program text pick code) (hsize : 0 < size) (nullable greedy : Bool) (n : Nat)
    {base next : Nat}
    (hl : Laid program base (repeatCode code size nullable greedy ⟨n, none⟩ base next)) :
    Picks program text (fun live => (pickTimes pick p n ((p.some fun _ => True).Leads live)).andThen
      (pickAny pick p greedy live)) base next := by
  cases n with
  | zero =>
    rw [repeatCode] at hl
    show Picks program text (fun live => Walk.stay.andThen (pickAny pick p greedy live)) base next
    simp only [Walk.stay_andThen]
    cases nullable with
    | true =>
      rw [if_pos rfl, laid_cons_iff] at hl
      obtain ⟨hloop, hagain⟩ := hl
      have hle := hagain.le_size (by simp [again])
      have hbody := (block_again h hagain).leading (by simpa [again, h.1] using hle)
      rw [again, laid_append_iff, h.1, laid_cons_iff] at hagain
      exact .rounds hloop hagain.2.1 (hp _ _ hagain.1) hbody
    | false =>
      rw [if_neg Bool.false_ne_true, laid_cons_iff] at hl
      obtain ⟨hloop, hbody⟩ := hl
      have hle := hbody.le_size (List.length_pos_iff.1 (by rw [h.1]; exact hsize))
      rw [h.1] at hle
      refine .rounds hloop hloop (hp _ _ hbody) fun i hr => ?_
      obtain ⟨k, ns, hw, hr⟩ := (h.2 _ _ hbody).leading hle i hr
      obtain ⟨j, os, ⟨n, -, hn⟩, hj⟩ :=
        (Block.star hloop (h.2 _ _ hbody)).leading (by omega) k hr
      exact ⟨j, os ++ ns, ⟨n + 1, by omega, k, ns, os, hw, hn, rfl⟩, hj⟩
  | succ n =>
    have hlast := hl
    rw [repeatCode, laid_append_iff, length_copies h.1] at hlast
    have hend : base + n * size + size = base + (n + 1) * size := by
      rw [Nat.succ_mul, Nat.add_assoc]
    have hle := hlast.2.le_size (by simp [again])
    have hbody := (block_again h hlast.2).leading (by simpa [again, h.1] using hle)
    rw [again, laid_append_iff, h.1, laid_cons_iff, hend] at hlast
    rw [repeatCode, again, ← List.append_assoc, ← copies_succ_right, laid_append_iff,
      length_copies h.1, laid_cons_iff] at hl
    obtain ⟨hcopies, hloop, -⟩ := hl
    have hle := (Array.getElem?_eq_some_iff.1 hloop).1
    exact (picks_copies h hp (n + 1) hcopies (Nat.le_of_lt hle)).andThen
      (.rounds hloop hloop (hp _ _ hlast.2.1) hbody) (leading_loop hloop hbody)

end

theorem picks_code (e : Expr) {base next : Nat} (h : Laid program base (e.code base next)) :
    Picks program text (e.pick text) base next := by
  induction e generalizing base next with
  | empty => exact Picks.jump (h 0 _ rfl)
  | set u s => exact Picks.set (h 0 _ rfl)
  | look l => exact Picks.look (h 0 _ rfl)
  | cat a b iha ihb =>
    rw [code, laid_append_iff, length_code] at h
    exact (iha h.1).andThen (ihb h.2) (leading_code b h.2)
  | alt a b iha ihb =>
    rw [code, laid_cons_iff, laid_append_iff, length_code] at h
    exact .orElse h.1 (iha h.2.1) (ihb h.2.2) (leading_code a h.2.1)
  | rep t greedy e ih =>
    have hblocks : Blocks program text (e.walk text) e.code e.size :=
      ⟨length_code e, fun _ _ => block_code e⟩
    have hpicks : PicksAll program text (e.pick text) e.code := fun _ _ => ih
    rcases t with ⟨n, _ | m⟩
    · exact picks_unbounded hblocks hpicks e.size_pos e.nullable greedy n h
    · rw [code, repeatCode, laid_append_iff, length_copies hblocks.1] at h
      have hle := h.2.le_size (by simp)
      rw [List.length_append, length_options hblocks.1] at hle
      exact (picks_copies hblocks hpicks n h.1 (by omega)).andThen
        (picks_options hblocks hpicks greedy (m - n) h.2)
        ((block_options hblocks greedy (m - n) h.2).leading hle)
  | group g e ih =>
    rw [code, laid_cons_iff, laid_append_iff, length_code, laid_cons_iff] at h
    exact .saving h.1 (ih h.2.1) h.2.2.1

theorem pick_optional (text : List Char) (e : Expr) (live : Nat → Prop) :
    (rep ⟨0, some 1⟩ true e).pick text live =
      (e.pick text live).orElse ((e.walk text).Leads live) .stay := by
  show Walk.stay.andThen (pickUpTo (e.pick text) (e.walk text) true 1 live) = _
  rw [Walk.stay_andThen, pickUpTo, if_pos rfl, Walk.some_le_zero, Walk.leads_stay,
    pickUpTo, Walk.andThen_stay, Walk.andThen_stay]

/-- One or more copies are any number of them, if there are some. -/
theorem pick_oneOrMore {e : Expr} {live : Nat → Prop} {i j : Nat} {ms : List (Nat × Nat)}
    (h : pickAny (e.pick text) (e.walk text) true live i j ms) (hne : i ≠ j) :
    (rep ⟨1, none⟩ true e).pick text live i j ms := by
  show ((pickTimes (e.pick text) (e.walk text) 1 _).andThen _) i j ms
  rw [pickTimes, Walk.times, Walk.leads_stay, pickTimes, Walk.andThen_stay]
  cases h with
  | stop => exact absurd rfl hne
  | more _ hone hrest => exact ⟨_, _, _, hone, hrest, rfl⟩

theorem drop_eq_cons_iff {i : Nat} {c : Char} {rest : List Char} :
    text.drop i = c :: rest ↔ text[i]? = some c ∧ text.drop (i + 1) = rest := by
  rw [← List.tail_drop, ← List.head?_drop]
  cases text.drop i <;> simp

/-- The copies end where there is no other one. -/
theorem pickAny_stop {one : (Nat → Prop) → Walk} {p : Walk} {live : Nat → Prop} {i : Nat}
    (h : ∀ j ms, ¬ p i j ms) : pickAny one p true live i i [] := by
  refine .stop fun _ => ?_
  rintro ⟨j, ms, ⟨n, hn, hw⟩, -⟩
  obtain ⟨n, rfl⟩ : ∃ m, n = m + 1 := ⟨n - 1, (Nat.sub_add_cancel hn).symm⟩
  obtain ⟨k, ns, os, hone, -⟩ := hw
  exact h k ns hone

/-- A run of characters of a class is picked to its end. -/
theorem pickAny_set {u : Bool} {s : CharClass} {live : Nat → Prop} {i : Nat} {rest : List Char}
    (hrest : text.drop i = rest) : pickAny ((set u s).pick text) ((set u s).walk text) true live i
      (i + (rest.takeWhile s.contains).length) [] := by
  induction rest generalizing i with
  | nil =>
    refine pickAny_stop ?_
    rintro j ms ⟨⟨c, hc, -⟩, -⟩
    rw [← List.head?_drop, hrest] at hc
    simp at hc
  | cons c rest ih =>
    obtain ⟨hi, hrest⟩ := drop_eq_cons_iff.1 hrest
    rw [List.takeWhile_cons]
    cases hc : s.contains c with
    | true =>
      have hrounds := ih hrest
      rw [Nat.add_assoc, Nat.add_comm 1] at hrounds
      exact .more (by simp) ⟨⟨c, hi, hc⟩, rfl, rfl⟩ hrounds
    | false =>
      refine pickAny_stop ?_
      rintro j ms ⟨⟨d, hd, hs⟩, -⟩
      obtain rfl := Option.some.inj (hi.symm.trans hd)
      simp [hc] at hs

/-- The search passes over places where the expression does not match. -/
theorem pick_anywhere {e : Expr} {i j : Nat} {ms : List (Nat × Nat)} (hi : i ≤ text.length)
    (hbefore : ∀ k < i, ¬ ∃ j ms, e.walk text k j ms)
    (h : e.pick text (fun _ => True) i j ms) :
    e.anywhere.pick text (fun _ => True) 0 j ((1, j) :: (ms ++ [(0, i)])) := by
  have hleads (k : Nat) (hk : k < i) : ¬ ((group 0 e).walk text).Leads (fun _ => True) k := by
    rintro ⟨j, _, ⟨ms, hw, -⟩, -⟩
    exact hbefore k hk ⟨j, ms, hw⟩
  have hrounds (k : Nat) (hk : k ≤ i) : pickAny ((set true .any).pick text)
      ((set true .any).walk text) false (((group 0 e).walk text).Leads fun _ => True) (i - k) i
      [] := by
    induction k with
    | zero => exact .stop (by simp)
    | succ k ih =>
      have hlt : i - (k + 1) < text.length := by omega
      have hone : (set true .any).walk text (i - (k + 1)) (i - k) [] :=
        ⟨⟨_, List.getElem?_eq_getElem hlt, by simp⟩, by omega, rfl⟩
      exact .more (fun _ => hleads _ (by omega)) hone (ih (by omega))
  refine ⟨i, [], (1, j) :: (ms ++ [(0, i)]), ?_, ⟨ms, h, rfl⟩, (List.append_nil _).symm⟩
  have := hrounds i (Nat.le_refl i)
  rw [Nat.sub_self] at this
  exact ⟨0, [], [], ⟨rfl, rfl⟩, this, rfl⟩

end Expr

end Regex

/-- The match that is picked at the first place where there is any is the one that is found. -/
theorem Regex.find?_eq_some_of_pick {r : Regex} {text : String} {i j : Nat} {ms : List (Nat × Nat)}
    (hi : i ≤ text.toList.length) (hbefore : ∀ k < i, ¬ ∃ j ms, r.expr.walk text.toList k j ms)
    (h : r.expr.pick text.toList (fun _ => True) i j ms) :
    r.find? text = some ⟨text.toList, (1, j) :: (ms ++ [(0, i)])⟩ := by
  refine find?_eq_some_iff.2 ⟨rfl, ?_⟩
  obtain ⟨n, hn⟩ := Expr.picks_code r.expr.anywhere (laid_program r.expr) (fun _ => True)
    (fun _ _ => trivial) 0 j _ 0 [] (Expr.pick_anywhere hi hbefore h)
    (.goal (size_program r.expr).symm)
  exact Machine.First.preferred hn fun q hq => absurd hq (Set.notMem_empty q)

end RouteTemplate
