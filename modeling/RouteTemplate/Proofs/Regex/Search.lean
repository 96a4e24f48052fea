import RouteTemplate.Proofs.Regex.Layout
import RouteTemplate.Proofs.Regex.Preference
import RouteTemplate.Regex

/-!
The search finds the preferred run of a program: `start_eq_some_iff`. A place that it has been at is
behind the run or does not lead to a match (`Marked`), and so the ways on from a thread are passed
over until the first one that does (`explored_run`). With the layout of programs this makes
`isMatch_iff` and `exists_walk_of_find?`, which speak of expressions only.
-/

namespace RouteTemplate.Regex

def Thread.place (t : Thread) : Place := (t.node, t.pos)

/-- The thread behind a way. -/
def Thread.along (t : Thread) (w : Place × List (Nat × Nat)) : Thread :=
  ⟨w.1.1, w.1.2, w.2 ++ t.marks⟩

/-- A program as a machine. The goal is the address behind it. -/
def Machine.ofProgram (program : Array Node) (text : List Char) : Machine where
  ways p := (Search.follow program text.toArray ⟨p.1, p.2, []⟩).map fun u => (u.place, u.marks)
  goal p := p.1 = program.size

namespace Search

variable {program : Array Node} {text : List Char}

/-! ## Threads -/

/-- Where a thread goes does not depend on what it has saved. -/
theorem follow_eq (t : Thread) : follow program text.toArray t =
    ((Machine.ofProgram program text).ways t.place).map t.along := by
  simp only [Machine.ofProgram, List.map_map, Thread.place]
  cases h : program[t.node]? with
  | none => simp [follow, h]
  | some node =>
    rw [follow_of_node h, follow_of_node (t := ⟨t.node, t.pos, []⟩) h]
    cases node with
    | set s next =>
      simp only [Node.ways]
      cases text[t.pos]? with
      | none => rfl
      | some c =>
        simp only
        cases s.contains c <;> rfl
    | look l next =>
      simp only [Node.ways]
      cases l.holds (Expr.before text t.pos) text[t.pos]? <;> rfl
    | fork | save | jump => rfl

theorem length_follow_le (t : Thread) : (follow program text.toArray t).length ≤ 2 := by
  cases h : program[t.node]? with
  | none => simp [follow, h]
  | some node =>
    rw [follow_of_node h]
    cases node with
    | set s next =>
      simp only [Node.ways]
      split
      · split <;> simp
      · simp
    | look l next =>
      simp only [Node.ways]
      split <;> simp
    | fork | save | jump => simp [Node.ways]

theorem pos_le_of_mem_follow {t u : Thread} (hu : u ∈ follow program text.toArray t)
    (ht : t.pos ≤ text.length) : u.pos ≤ text.length := by
  cases h : program[t.node]? with
  | none => simp [follow, h] at hu
  | some node =>
    rw [follow_of_node h] at hu
    cases node with
    | set s next =>
      simp only [Node.ways] at hu
      split at hu
      next c hc =>
        split at hu
        · obtain rfl := List.mem_singleton.1 hu
          exact (List.getElem?_eq_some_iff.1 hc).1
        · simp at hu
      next => simp at hu
    | look l next =>
      simp only [Node.ways] at hu
      split at hu
      · obtain rfl := List.mem_singleton.1 hu
        exact ht
      · simp at hu
    | fork a b =>
      simp only [Node.ways, List.mem_cons, List.not_mem_nil, or_false] at hu
      rcases hu with rfl | rfl <;> exact ht
    | save slot next =>
      obtain rfl := List.mem_singleton.1 hu
      exact ht
    | jump next =>
      obtain rfl := List.mem_singleton.1 hu
      exact ht

/-! ## What has been seen -/

/-- Whether the search is done with an address and a place: it has been there, or nothing goes on
from there because the address is behind the program. -/
def Seen (program : Array Node) (text : List Char) (seen : Array Bool) (node pos : Nat) : Prop :=
  program.size < node ∨ node < program.size ∧ pos ≤ text.length ∧
    seen[node * (text.length + 1) + pos]? = some true

theorem index_eq (t : Thread) : index text.toArray t = t.node * (text.length + 1) + t.pos := by
  simp [index]

theorem index_lt_iff {seen : Array Bool} {t : Thread}
    (hs : seen.size = program.size * (text.length + 1)) (hp : t.pos ≤ text.length) :
    index text.toArray t < seen.size ↔ t.node < program.size := by
  rw [index_eq, hs]
  constructor
  · intro h
    apply Nat.lt_of_mul_lt_mul_right (a := text.length + 1)
    omega
  · intro h
    calc t.node * (text.length + 1) + t.pos < (t.node + 1) * (text.length + 1) := by
          rw [Nat.succ_mul]
          omega
      _ ≤ _ := Nat.mul_le_mul_right _ h

/-- The search passes over what it is done with. -/
theorem seen_of_getD {seen : Array Bool} {t : Thread}
    (hs : seen.size = program.size * (text.length + 1)) (hp : t.pos ≤ text.length)
    (hne : t.node ≠ program.size) (h : seen.getD (index text.toArray t) true = true) :
    Seen program text seen t.node t.pos := by
  by_cases hn : t.node < program.size
  · refine .inr ⟨hn, hp, ?_⟩
    have hi := (index_lt_iff hs hp).2 hn
    rw [← index_eq, Array.getElem?_eq_getElem hi]
    rw [Array.getD, dif_pos hi] at h
    exact congrArg some h
  · exact .inl (by omega)

/-- Pairs of address and place stand at different indices. -/
theorem index_inj {l m n i j : Nat} (hi : i ≤ l) (hj : j ≤ l)
    (h : m * (l + 1) + i = n * (l + 1) + j) : m = n ∧ i = j := by
  have hm := congrArg (· / (l + 1)) h
  have hr := congrArg (· % (l + 1)) h
  simp only [Nat.mul_comm _ (l + 1), Nat.mul_add_div (Nat.succ_pos l),
    Nat.div_eq_of_lt (Nat.lt_succ_of_le hi), Nat.div_eq_of_lt (Nat.lt_succ_of_le hj),
    Nat.add_zero] at hm
  simp only [Nat.mul_add_mod_self_right, Nat.mod_eq_of_lt (Nat.lt_succ_of_le hi),
    Nat.mod_eq_of_lt (Nat.lt_succ_of_le hj)] at hr
  exact ⟨hm, hr⟩

section

variable {seen : Array Bool} {t : Thread}

theorem index_lt_of_getD (hn : seen.getD (index text.toArray t) true ≠ true) :
    index text.toArray t < seen.size := by
  apply Classical.byContradiction
  intro hlt
  rw [Array.getD, dif_neg hlt] at hn
  exact hn rfl

theorem seen_set (ht : t.pos ≤ text.length)
    (hn : seen.getD (index text.toArray t) true ≠ true) (node pos : Nat) :
    Seen program text (seen.setIfInBounds (index text.toArray t) true) node pos ↔
      Seen program text seen node pos ∨
        node < program.size ∧ node = t.node ∧ pos = t.pos := by
  have hi := index_lt_of_getD hn
  simp only [Seen, index_eq] at hi ⊢
  rw [Array.getElem?_setIfInBounds]
  constructor
  · rintro (h₁ | ⟨h₁, h₂, h₃⟩)
    · exact .inl (.inl h₁)
    · split at h₃
      next he =>
        obtain ⟨hm, hp⟩ := index_inj ht h₂ he
        exact .inr ⟨h₁, hm.symm, hp.symm⟩
      next => exact .inl (.inr ⟨h₁, h₂, h₃⟩)
  · rintro ((h₁ | ⟨h₁, h₂, h₃⟩) | ⟨h₁, rfl, rfl⟩)
    · exact .inl h₁
    · refine .inr ⟨h₁, h₂, ?_⟩
      split
      · rfl
      · exact h₃
    · exact .inr ⟨h₁, ht, by rw [if_pos rfl, if_pos hi]⟩

/-- Marking a thread uses up an unmarked entry. -/
theorem count_set (hn : seen.getD (index text.toArray t) true ≠ true) :
    (seen.setIfInBounds (index text.toArray t) true).count false + 1 = seen.count false := by
  have hi := index_lt_of_getD hn
  have hf : seen[index text.toArray t] = false := by
    rw [Array.getD, dif_pos hi] at hn
    simpa using hn
  have hpos : 0 < seen.count false := Array.count_pos_iff.2 (hf ▸ Array.getElem_mem hi)
  rw [Array.setIfInBounds, dif_pos hi, Array.count_set, hf]
  simp only [beq_self_eq_true, if_true]
  simp
  omega

theorem not_seen (hlt : t.node < program.size)
    (hn : seen.getD (index text.toArray t) true ≠ true) :
    ¬ Seen program text seen t.place.1 t.place.2 := by
  rintro (h | ⟨-, -, h⟩)
  · exact Nat.lt_asymm hlt h
  · have hi := index_lt_of_getD hn
    rw [Array.getD, dif_pos hi] at hn
    rw [Thread.place, ← index_eq, Array.getElem?_eq_getElem hi] at h
    exact hn (Option.some.inj h)

end

/-- What has been seen is what lies behind the run and what does not lead to a goal. -/
structure Marked (program : Array Node) (text : List Char) (seen : Array Bool) (V : Set Place) :
    Prop where
  size : seen.size = program.size * (text.length + 1)
  seen_of_mem : ∀ p ∈ V, Seen program text seen p.1 p.2
  dead : ∀ p, Seen program text seen p.1 p.2 →
    p ∈ V ∨ ¬ (Machine.ofProgram program text).Reaches V p

/-- Either one of the threads leads to a goal, and the search finds the preferred run of the first
one that does; or none does, and the search goes on with the rest. -/
def Explored (program : Array Node) (text : List Char) (fuel : Nat) (seen : Array Bool)
    (V : Set Place) (ts rest : List Thread) : Prop :=
  (∃ before t after ms, ts = before ++ t :: after ∧
    (∀ u ∈ before, ¬ (Machine.ofProgram program text).Reaches V u.place) ∧
    (Machine.ofProgram program text).Preferred V t.place ms ∧
    run program text.toArray fuel seen (ts ++ rest) = some (ms ++ t.marks)) ∨
  (∀ t ∈ ts, ¬ (Machine.ofProgram program text).Reaches V t.place) ∧
    ∃ fuel' seen', fuel' ≤ fuel ∧ Marked program text seen' V ∧
      2 * seen'.count false + rest.length < fuel' ∧
      run program text.toArray fuel seen (ts ++ rest) = run program text.toArray fuel' seen' rest

variable {fuel fuel' : Nat} {seen seen' : Array Bool} {V : Set Place} {ts rest : List Thread}
  {t : Thread}

theorem Explored.cons (ht : ¬ (Machine.ofProgram program text).Reaches V t.place)
    (hf : fuel' ≤ fuel) (hrun : run program text.toArray fuel seen (t :: (ts ++ rest)) =
      run program text.toArray fuel' seen' (ts ++ rest))
    (h : Explored program text fuel' seen' V ts rest) :
    Explored program text fuel seen V (t :: ts) rest := by
  rw [← List.cons_append] at hrun
  rcases h with ⟨before, u, after, ms, rfl, hb, hu, hr⟩ | ⟨hts, f, s, hle, hs, hcount, hr⟩
  · exact .inl ⟨t :: before, u, after, ms, rfl, List.forall_mem_cons.2 ⟨ht, hb⟩, hu,
      hrun.trans hr⟩
  · exact .inr ⟨List.forall_mem_cons.2 ⟨ht, hts⟩, f, s, by omega, hs, hcount, hrun.trans hr⟩

/-- Entering a thread puts it behind the run. -/
theorem Marked.enter (h : Marked program text seen V) (hp : t.pos ≤ text.length)
    (hlt : t.node < program.size) (hn : seen.getD (index text.toArray t) true ≠ true) :
    Marked program text (seen.setIfInBounds (index text.toArray t) true) (insert t.place V) := by
  refine ⟨by rw [Array.size_setIfInBounds, h.size], ?_, ?_⟩
  · rintro p (rfl | hpV)
    · exact (seen_set hp hn _ _).2 (.inr ⟨hlt, rfl, rfl⟩)
    · exact (seen_set hp hn _ _).2 (.inl (h.seen_of_mem p hpV))
  · intro p hseen
    rcases (seen_set hp hn _ _).1 hseen with hseen | ⟨-, hnode, hpos⟩
    · rcases h.dead p hseen with hV | hdead
      · exact .inl (.inr hV)
      · exact .inr fun hr => hdead (hr.anti (Set.subset_insert _ _))
    · exact .inl (.inl (Prod.ext hnode hpos))

/-- A thread that does not lead on is dead when it is left. -/
theorem Marked.leave {p : Place} (h : Marked program text seen (insert p V))
    (hgoal : ¬ (Machine.ofProgram program text).goal p)
    (hdead : ∀ w ∈ (Machine.ofProgram program text).ways p,
      ¬ (Machine.ofProgram program text).Reaches (insert p V) w.1) :
    ¬ (Machine.ofProgram program text).Reaches V p ∧ Marked program text seen V := by
  have hp : ¬ (Machine.ofProgram program text).Reaches V p := fun hr =>
    hgoal ((hr.insert_of_dead hdead).goal_of_mem (Set.mem_insert p V))
  refine ⟨hp, h.size, fun q hq => h.seen_of_mem q (.inr hq), fun q hq => ?_⟩
  rcases h.dead q hq with (rfl | hV) | hdead'
  · exact .inr hp
  · exact .inl hV
  · exact .inr fun hr => hdead' (hr.insert_of_dead hdead)

/-- The fuel covers two threads for each unmarked entry and one for each thread that waits. -/
theorem explored_run (h : Marked program text seen V) (hp : ∀ t ∈ ts ++ rest, t.pos ≤ text.length)
    (hf : 2 * seen.count false + (ts ++ rest).length < fuel) :
    Explored program text fuel seen V ts rest := by
  induction fuel using Nat.strongRecOn generalizing seen V ts rest with
  | _ fuel ih =>
    cases ts with
    | nil => exact .inr ⟨by simp, fuel, seen, Nat.le_refl _, h, hf, rfl⟩
    | cons t ts =>
      obtain ⟨fuel, rfl⟩ : ∃ k, fuel = k + 1 := ⟨fuel - 1, by omega⟩
      rw [List.cons_append] at hp hf
      rw [List.length_cons] at hf
      have hpt := hp t (List.mem_cons_self ..)
      have hprest : ∀ u ∈ ts ++ rest, u.pos ≤ text.length :=
        fun u hu => hp u (List.mem_cons_of_mem _ hu)
      by_cases hgoal : t.node = program.size
      · refine .inl ⟨[], t, ts, [], rfl, by simp, .goal hgoal, ?_⟩
        rw [List.cons_append, run, if_pos hgoal]
        rfl
      by_cases hseen : seen.getD (index text.toArray t) true = true
      · have ht : ¬ (Machine.ofProgram program text).Reaches V t.place := by
          intro hr
          rcases h.dead t.place (seen_of_getD h.size hpt hgoal hseen) with hV | hdead
          · exact hgoal (hr.goal_of_mem hV)
          · exact hdead hr
        refine .cons ht (Nat.le_succ fuel) ?_ (ih fuel (Nat.lt_succ_self _) h hprest (by omega))
        rw [run, if_neg hgoal, if_pos hseen]
      · have hlt := (index_lt_iff h.size hpt).1 (index_lt_of_getD hseen)
        have hcount := count_set hseen
        have hlen : (follow program text.toArray t).length ≤ 2 := length_follow_le t
        have hrun : run program text.toArray (fuel + 1) seen (t :: (ts ++ rest)) =
            run program text.toArray fuel (seen.setIfInBounds (index text.toArray t) true)
              (follow program text.toArray t ++ (ts ++ rest)) := by
          rw [run, if_neg hgoal, if_neg hseen]
        have hpos : ∀ u ∈ follow program text.toArray t ++ (ts ++ rest), u.pos ≤ text.length := by
          intro u hu
          rcases List.mem_append.1 hu with hu | hu
          · exact pos_le_of_mem_follow hu hpt
          · exact hprest u hu
        rcases ih fuel (Nat.lt_succ_self _) (h.enter hpt hlt hseen) hpos
            (by rw [List.length_append]; omega) with
          ⟨before, u, after, ms, heq, hb, hu, hr⟩ | ⟨hdead, f, s, hle, hs, hf', hr⟩
        · obtain ⟨b, r, hw, rfl, hr'⟩ := List.map_eq_append_iff.1 ((follow_eq t).symm.trans heq)
          obtain ⟨w, a, rfl, rfl, -⟩ := List.map_eq_cons_iff.1 hr'
          have hbefore : ∀ v ∈ b, ¬ (Machine.ofProgram program text).Reaches
              (insert t.place V) v.1 := fun v hv => hb _ (List.mem_map_of_mem hv)
          refine .inl ⟨[], t, ts, ms ++ w.2, rfl, by simp,
            .step hgoal (fun hV => ?_) hw hbefore hu, ?_⟩
          · exact absurd (h.seen_of_mem _ hV) (not_seen hlt hseen)
          · rw [List.cons_append, hrun, hr, Thread.along, List.append_assoc]
        · have hways : ∀ w ∈ (Machine.ofProgram program text).ways t.place,
              ¬ (Machine.ofProgram program text).Reaches (insert t.place V) w.1 := by
            intro w hw
            exact hdead (t.along w) (follow_eq t ▸ List.mem_map_of_mem hw)
          obtain ⟨ht, hs⟩ := hs.leave (p := t.place) hgoal hways
          exact .cons ht (Nat.le_succ_of_le hle) (hrun.trans hr)
            (ih f (by omega) hs hprest hf')

theorem marked_start : Marked program text
    (Array.replicate (program.size * (text.length + 1)) false) ∅ := by
  refine ⟨by simp, fun p hp => absurd hp (Set.notMem_empty p), fun p hp => .inr ?_⟩
  rcases hp with hp | ⟨-, -, hp⟩
  · rintro (hg | ⟨-, hw, -⟩)
    · exact Nat.ne_of_gt hp hg
    · simp only [Machine.ofProgram, follow, Array.getElem?_eq_none (Nat.le_of_lt hp)] at hw
      simp at hw
  · rw [Array.getElem?_replicate] at hp
    split at hp <;> simp at hp

/-- The search finds the preferred run from the beginning of the text, or nothing leads to a
match. -/
theorem start_cases (program : Array Node) (text : List Char) :
    (∃ ms, (Machine.ofProgram program text).Preferred ∅ (0, 0) ms ∧
      start program text.toArray = some ms) ∨
    ¬ (Machine.ofProgram program text).Reaches ∅ (0, 0) ∧
      start program text.toArray = none := by
  have h : Explored program text (steps program text.toArray) _ ∅ [⟨0, 0, []⟩] [] :=
    explored_run marked_start (by simp) (by simp [steps])
  have hstart : start program text.toArray = run program text.toArray (steps program text.toArray)
      (Array.replicate (program.size * (text.length + 1)) false) ([⟨0, 0, []⟩] ++ []) := by
    rw [start, List.append_nil]
    rfl
  rw [hstart]
  rcases h with ⟨before, t, after, ms, heq, -, ht, hr⟩ | ⟨ht, f, s, -, -, hf, hr⟩
  · obtain ⟨rfl, rfl, rfl⟩ : before = [] ∧ t = ⟨0, 0, []⟩ ∧ after = [] := by
      cases before with
      | nil => simpa [eq_comm] using heq
      | cons u before => simp at heq
    exact .inl ⟨ms, ht, by rw [hr, List.append_nil]⟩
  · refine .inr ⟨ht _ (List.mem_singleton_self _), ?_⟩
    rw [hr]
    cases f <;> rfl

theorem start_eq_some_iff {ms : List (Nat × Nat)} :
    start program text.toArray = some ms ↔
      (Machine.ofProgram program text).Preferred ∅ (0, 0) ms := by
  rcases start_cases program text with ⟨ns, hns, hs⟩ | ⟨hn, hs⟩
  · rw [hs, Option.some.injEq]
    constructor
    · rintro rfl
      exact hns
    · exact hns.unique
  · rw [hs]
    constructor
    · intro h
      simp at h
    · intro h
      exact absurd h.reaches hn

theorem isSome_start_iff : (start program text.toArray).isSome = true ↔
    (Machine.ofProgram program text).Reaches ∅ (0, 0) := by
  rcases start_cases program text with ⟨ns, hns, hs⟩ | ⟨hn, hs⟩
  · simp [hs, hns.reaches]
  · simp [hs, hn]

/-! ## Runs of threads -/

/-- The preferred run takes a thread to the end of the program. -/
theorem Preferred.exists_steps {V : Set Place} {p : Place} {ms : List (Nat × Nat)}
    (h : (Machine.ofProgram program text).Preferred V p ms) (marks : List (Nat × Nat)) :
    ∃ n j, Steps program text n ⟨p.1, p.2, marks⟩ ⟨program.size, j, ms ++ marks⟩ := by
  induction h generalizing marks with
  | @goal V p hg =>
    exact ⟨0, p.2, by rw [← show p.1 = program.size from hg]; rfl⟩
  | @step V p before after w ms _ _ hw _ _ ih =>
    obtain ⟨n, j, hs⟩ := ih (w.2 ++ marks)
    refine ⟨n + 1, j, Thread.along ⟨p.1, p.2, marks⟩ w, ?_, by rwa [List.append_assoc]⟩
    rw [follow_eq]
    refine List.mem_map_of_mem ?_
    show w ∈ (Machine.ofProgram program text).ways p
    rw [hw]
    exact List.mem_append_right _ (List.mem_cons_self ..)

theorem Reaches.exists_steps {V : Set Place} {p : Place}
    (h : (Machine.ofProgram program text).Reaches V p) (marks : List (Nat × Nat)) :
    ∃ n j ms, Steps program text n ⟨p.1, p.2, marks⟩ ⟨program.size, j, ms ++ marks⟩ := by
  induction h generalizing marks with
  | @goal p hg =>
    exact ⟨0, p.2, [], by rw [← show p.1 = program.size from hg]; rfl⟩
  | @step p w _ hw _ ih =>
    obtain ⟨n, j, ms, hs⟩ := ih (w.2 ++ marks)
    refine ⟨n + 1, j, ms ++ w.2, Thread.along ⟨p.1, p.2, marks⟩ w, ?_, by rwa [List.append_assoc]⟩
    rw [follow_eq]
    exact List.mem_map_of_mem hw

theorem reaches_of_steps {n : Nat} {t u : Thread} (h : Steps program text n t u)
    (hu : u.node = program.size) : (Machine.ofProgram program text).Reaches ∅ t.place := by
  induction n generalizing t with
  | zero =>
    obtain rfl : u = t := h
    exact .goal hu
  | succ n ih =>
    obtain ⟨v, hv, hs⟩ := h
    rw [follow_eq] at hv
    obtain ⟨w, hw, rfl⟩ := List.mem_map.1 hv
    exact .step (Set.notMem_empty _) hw (ih hs)

end Search

/-- A run that ends behind the program ends there with the block that leads there. -/
theorem Block.exists_walk_of_steps {program : Array Node} {text : List Char} {p : Walk}
    {base size : Nat} (h : Block program text p base size program.size)
    (hsize : base + size ≤ program.size) {n i j : Nat} {marks ms : List (Nat × Nat)}
    (hs : Steps program text n ⟨base, i, marks⟩ ⟨program.size, j, ms⟩) :
    ∃ ns, p i j ns ∧ ms = ns ++ marks := by
  obtain ⟨j', ns, k, hw, -, hs⟩ := h.leaves hs (.inr hsize)
  cases k with
  | zero =>
    obtain ⟨-, rfl, rfl⟩ := (Thread.mk.injEq ..).mp hs
    exact ⟨ns, hw, rfl⟩
  | succ k =>
    obtain ⟨v, hv, -⟩ := hs
    rw [Search.follow, Array.getElem?_eq_none (Nat.le_refl _)] at hv
    simp at hv

/-! ## Matches of expressions -/

variable {text : List Char}

theorem laid_program (e : Expr) :
    Laid e.program 0 (e.anywhere.code 0 e.anywhere.size) := by
  intro k node hk
  rw [Nat.zero_add, Expr.program, List.getElem?_toArray, hk]

theorem size_program (e : Expr) : e.program.size = e.anywhere.size := by
  rw [Expr.program, List.size_toArray, Expr.length_code]

/-- The search runs the expression anywhere from the beginning of the text. -/
theorem block_program (e : Expr) :
    Block e.program text (e.anywhere.walk text) 0 e.program.size e.program.size := by
  have hb : Block e.program text _ _ _ _ := Expr.block_code e.anywhere (laid_program e)
  rwa [← size_program] at hb

theorem walk_any_times {n i j : Nat} {ms : List (Nat × Nat)} :
    ((Expr.set true .any).walk text).times n i j ms ↔
      j = i + n ∧ (n = 0 ∨ j ≤ text.length) ∧ ms = [] := by
  induction n generalizing i ms with
  | zero => simp [Walk.times, Walk.stay]
  | succ n ih =>
    constructor
    · rintro ⟨k, ns, os, ⟨⟨c, hc, -⟩, rfl, rfl⟩, hr, rfl⟩
      obtain ⟨rfl, hj, rfl⟩ := ih.1 hr
      have hi := (List.getElem?_eq_some_iff.1 hc).1
      exact ⟨by omega, .inr (by omega), rfl⟩
    · rintro ⟨rfl, hj, rfl⟩
      have hi : i < text.length := by omega
      refine ⟨i + 1, [], [], ⟨⟨text[i], List.getElem?_eq_getElem hi, by simp⟩, rfl, rfl⟩, ?_, rfl⟩
      exact ih.2 ⟨by omega, by omega, rfl⟩

theorem walk_anywhere_iff {e : Expr} {j : Nat} {ms : List (Nat × Nat)} :
    e.anywhere.walk text 0 j ms ↔
      ∃ i ns, i ≤ text.length ∧ e.walk text i j ns ∧ ms = (1, j) :: (ns ++ [(0, i)]) := by
  constructor
  · rintro ⟨i, ns, os, ⟨n, -, hn⟩, ⟨ms, hw, rfl⟩, rfl⟩
    obtain ⟨rfl, hle, rfl⟩ := walk_any_times.1 hn
    refine ⟨0 + n, ms, by omega, hw, ?_⟩
    simp
  · rintro ⟨i, ns, hi, hw, rfl⟩
    refine ⟨i, [], _, ⟨i, ⟨Nat.zero_le _, by simp⟩, ?_⟩, ⟨ns, hw, rfl⟩, by simp⟩
    exact walk_any_times.2 ⟨by omega, .inr hi, rfl⟩

end Regex

namespace Regex

theorem find?_eq_some_iff {r : Regex} {text : String} {m : Captures} :
    r.find? text = some m ↔ m.text = text.toList ∧
      (Machine.ofProgram r.expr.program text.toList).Preferred ∅ (0, 0) m.marks := by
  rw [find?, r.program_eq, Option.map_eq_some_iff]
  simp only [Search.start_eq_some_iff]
  constructor
  · rintro ⟨ms, hms, rfl⟩
    exact ⟨rfl, hms⟩
  · rintro ⟨htext, hms⟩
    exact ⟨_, hms, by rw [← htext]⟩

/-- What is found is a match, with the ends of group 0 around what it saves. -/
theorem exists_walk_of_find? {r : Regex} {text : String} {m : Captures}
    (h : r.find? text = some m) :
    m.text = text.toList ∧ ∃ i j ns, i ≤ text.toList.length ∧
      r.expr.walk text.toList i j ns ∧ m.marks = (1, j) :: (ns ++ [(0, i)]) := by
  obtain ⟨htext, hp⟩ := find?_eq_some_iff.1 h
  refine ⟨htext, ?_⟩
  obtain ⟨n, j, hs⟩ := Search.Preferred.exists_steps hp []
  obtain ⟨ms, hw, hms⟩ := (block_program r.expr).exists_walk_of_steps (by simp) hs
  rw [List.append_nil, List.append_nil] at hms
  obtain ⟨i, ns, hi, hw, hms'⟩ := walk_anywhere_iff.1 hw
  exact ⟨i, j, ns, hi, hw, hms.trans hms'⟩

/-- A pattern is found in a text if and only if its expression matches somewhere. -/
theorem isMatch_iff (r : Regex) (text : String) :
    r.isMatch text = true ↔
      ∃ i j ms, i ≤ text.toList.length ∧ r.expr.walk text.toList i j ms := by
  constructor
  · intro h
    obtain ⟨m, hm⟩ := Option.isSome_iff_exists.1 h
    obtain ⟨-, i, j, ns, hi, hw, -⟩ := exists_walk_of_find? hm
    exact ⟨i, j, ns, hi, hw⟩
  · rintro ⟨i, j, ms, hi, hw⟩
    rw [isMatch, find?, r.program_eq, Option.isSome_map]
    obtain ⟨n, hn⟩ := (block_program r.expr).enters [] (walk_anywhere_iff.2 ⟨i, ms, hi, hw, rfl⟩)
    exact Search.isSome_start_iff.2 (Search.reaches_of_steps hn rfl)

end Regex

end RouteTemplate
