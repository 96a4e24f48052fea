import RouteTemplate.Proofs.Regex.Building

/-!
The groups of expressions. `Expr.groups` lists them in the order in which they open. Building a
sequence keeps its groups (`groups_seq`), and what is built from parts without groups has none, so
it saves no slots (`GroupFree.quiet`). Taking out the common beginning of alternatives would move
groups, so nothing is said about alternatives that have any.
-/

namespace RouteTemplate.Regex

namespace Expr

/-- The groups with what they hold, in the order in which they open. -/
def groups : Expr → List (Nat × Expr)
  | empty => []
  | set _ _ => []
  | look _ => []
  | cat a b => a.groups ++ b.groups
  | alt a b => a.groups ++ b.groups
  | rep _ _ e => e.groups
  | group g e => (g, e) :: e.groups

def GroupFree (e : Expr) : Prop := e.groups = []

@[simp] theorem groups_ofClass (u : Bool) (s : CharClass) : (ofClass u s).groups = [] := rfl

/-! ## Sequences and repetitions -/

theorem groups_pieces (e : Expr) : e.pieces.flatMap groups = e.groups := by
  induction e with
  | cat a b iha ihb => rw [pieces, List.flatMap_append, iha, ihb, groups]
  | empty => rfl
  | set | look | alt | rep | group => exact List.flatMap_singleton _ _

theorem groups_ofPieces (l : List Expr) : (ofPieces l).groups = l.flatMap groups := by
  induction l with
  | nil => rfl
  | cons e l ih =>
    cases l with
    | nil => exact (List.flatMap_singleton _ _).symm
    | cons d l =>
      rw [ofPieces, groups, ih]
      · rfl
      · exact List.cons_ne_nil d l

theorem groups_seq (l : List Expr) : (seq l).groups = l.flatMap groups := by
  rw [seq, groups_ofPieces, List.flatMap_assoc]
  simp only [groups_pieces]

/-- A part that is repeated at most once is not dropped. -/
theorem groups_repeated_optional (g : Bool) (e : Expr) :
    (repeated ⟨0, some 1⟩ g e).groups = e.groups := by
  unfold repeated
  cases e.zeroWidth <;> rfl

/-! ## Parts without groups -/

variable {e : Expr} {l : List Expr}

theorem GroupFree.quiet (h : e.GroupFree) : e.Quiet := by
  intro text
  induction e with
  | empty => exact Walk.Quiet.stay
  | set u s => exact Quiet.set u s text
  | look l => exact Quiet.look l text
  | cat a b iha ihb =>
    obtain ⟨ha, hb⟩ := List.append_eq_nil_iff.1 h
    exact (iha ha).andThen (ihb hb)
  | alt a b iha ihb =>
    obtain ⟨ha, hb⟩ := List.append_eq_nil_iff.1 h
    exact (iha ha).either (ihb hb)
  | rep t g e ih =>
    rintro i j ms ⟨n, -, hw⟩
    exact Walk.times_induction (P := Walk.Quiet) Walk.Quiet.stay (fun q hq => (ih h).andThen hq)
      n _ _ _ hw
  | group g e => exact absurd h (List.cons_ne_nil _ _)

theorem GroupFree.ofClass (u : Bool) (s : CharClass) : (ofClass u s).GroupFree := rfl

theorem GroupFree.look (l : Look) : (Expr.look l).GroupFree := rfl

theorem groups_flatMap_eq_nil (h : ∀ e ∈ l, e.GroupFree) : l.flatMap groups = [] :=
  List.flatMap_eq_nil_iff.2 h

theorem GroupFree.seq (h : ∀ e ∈ l, e.GroupFree) : (seq l).GroupFree := by
  rw [GroupFree, groups_seq]
  exact groups_flatMap_eq_nil h

theorem GroupFree.of_mem_pieces {d : Expr} (h : e.GroupFree) (hd : d ∈ e.pieces) :
    d.GroupFree := by
  rw [GroupFree, ← groups_pieces] at h
  exact List.flatMap_eq_nil_iff.1 h d hd

theorem GroupFree.of_mem_branches {d : Expr} (h : e.GroupFree) (hd : d ∈ e.branches) :
    d.GroupFree := by
  induction e with
  | alt a b iha ihb =>
    obtain ⟨ha, hb⟩ := List.append_eq_nil_iff.1 h
    rcases List.mem_append.1 hd with hd | hd
    · exact iha ha hd
    · exact ihb hb hd
  | empty | set | look | cat | rep | group =>
    obtain rfl := List.mem_singleton.1 hd
    exact h

theorem GroupFree.ofBranches (h : ∀ e ∈ l, e.GroupFree) : (ofBranches l).GroupFree := by
  induction l with
  | nil => rfl
  | cons e l ih =>
    cases l with
    | nil => exact h e (List.mem_cons_self ..)
    | cons d l =>
      obtain ⟨he, hl⟩ := List.forall_mem_cons.1 h
      have hrest := ih hl
      rw [GroupFree] at he hrest
      rw [GroupFree, Expr.ofBranches, groups, he, hrest, List.nil_append]
      exact List.cons_ne_nil d l

theorem GroupFree.of_joined? (h : joined? l = some e) : e.GroupFree := by
  unfold Expr.joined? at h
  split at h
  · obtain rfl := Option.some.inj h
    rfl
  · simp at h

theorem GroupFree.oneOf (h : ∀ e ∈ l, e.GroupFree) : (oneOf l).GroupFree := by
  unfold Expr.oneOf
  split
  · exact h _ (List.mem_cons_self ..)
  · cases hj : joined? l with
    | some e => exact GroupFree.of_joined? hj
    | none => exact GroupFree.ofBranches h

theorem GroupFree.of_factored? (h : ∀ e ∈ l, e.GroupFree) (he : factored? l = some e) :
    e.GroupFree := by
  have hruns : ∀ d ∈ l, ∀ run ∈ runs d.pieces, ∀ x ∈ run, x.GroupFree := by
    intro d hd run hrun x hx
    refine (h d hd).of_mem_pieces ?_
    rw [← flatten_runs d.pieces]
    exact List.mem_flatten_of_mem hrun hx
  unfold Expr.factored? at he
  simp only at he
  split at he
  next hstart =>
    obtain rfl := Option.some.inj he
    refine GroupFree.seq fun x hx => ?_
    rcases List.mem_append.1 hx with hx | hx
    · -- the common start is part of each alternative, and there is one
      obtain ⟨run, hrun, hxrun⟩ := List.mem_flatten.1 hx
      cases l with
      | nil => simp [commonStart] at hrun
      | cons d l =>
        have hp := (commonStart_isPrefix (List.mem_map_of_mem (f := fun e => runs e.pieces)
          (List.mem_cons_self (a := d) (l := l)))).subset hrun
        exact hruns d (List.mem_cons_self ..) run hp x hxrun
    · obtain rfl := List.mem_singleton.1 hx
      refine GroupFree.oneOf fun y hy => ?_
      obtain ⟨z, hz, hy⟩ := List.mem_flatMap.1 hy
      obtain ⟨p, hp, rfl⟩ := List.mem_map.1 hz
      obtain ⟨d, hd, rfl⟩ := List.mem_map.1 hp
      refine GroupFree.of_mem_branches (GroupFree.seq fun w hw => ?_) hy
      obtain ⟨run, hrun, hw⟩ := List.mem_flatten.1 hw
      exact hruns d hd run (List.mem_of_mem_drop hrun) w hw
  next => simp at he

theorem GroupFree.choice (h : ∀ e ∈ l, e.GroupFree) : (choice l).GroupFree := by
  have hall : ∀ e ∈ l.flatMap branches, e.GroupFree := by
    intro e he
    obtain ⟨d, hd, he⟩ := List.mem_flatMap.1 he
    exact (h d hd).of_mem_branches he
  unfold Expr.choice
  generalize l.flatMap branches = l at hall
  simp only
  split
  · exact hall _ (List.mem_cons_self ..)
  · cases hj : joined? l with
    | some e => exact GroupFree.of_joined? hj
    | none =>
      cases hf : factored? l with
      | some e => exact GroupFree.of_factored? hall hf
      | none => exact GroupFree.ofBranches hall

theorem GroupFree.repeated (h : e.GroupFree) (t : Times) (g : Bool) :
    (repeated t g e).GroupFree := by
  unfold Expr.repeated
  simp only
  generalize (if e.zeroWidth = true then _ else t : Times) = t'
  split
  · rfl
  · split
    · exact h
    · exact h

end Expr

end RouteTemplate.Regex
