import Mathlib.Data.Set.Insert
import RouteTemplate.Regex.Search

/-!
Preferred runs. A machine has ways from place to place, in order of preference, and some places are
goals. The preferred run takes the first way from which a goal can still be reached without coming
back to where the run has been. There is one at most (`Preferred.unique`). Machines that agree up to
where they leave a common part, and on whether a goal can be reached from there, have preferred runs
that save the same in the common part (`Agree.exists_preferred`).
-/

namespace RouteTemplate.Regex

/-- An address of a program and a place in the text. -/
abbrev Place := Nat × Nat

/-- The ways on from each place, preferred ones first, with the slots that each of them saves. -/
structure Machine where
  ways : Place → List (Place × List (Nat × Nat))
  goal : Place → Prop

namespace Machine

/-- A goal can be reached without going on from a place in `V`. -/
inductive Reaches (M : Machine) (V : Set Place) : Place → Prop
  | goal {p : Place} : M.goal p → Reaches M V p
  | step {p : Place} {w : Place × List (Nat × Nat)} :
      p ∉ V → w ∈ M.ways p → Reaches M V w.1 → Reaches M V p

/-- What the preferred run from a place saves, latest first, if it has been in `V` before. -/
inductive Preferred (M : Machine) : Set Place → Place → List (Nat × Nat) → Prop
  | goal {V : Set Place} {p : Place} : M.goal p → Preferred M V p []
  | step {V : Set Place} {p : Place} {before after : List (Place × List (Nat × Nat))}
      {w : Place × List (Nat × Nat)} {ms : List (Nat × Nat)} :
      ¬ M.goal p → p ∉ V → M.ways p = before ++ w :: after →
      (∀ v ∈ before, ¬ M.Reaches (insert p V) v.1) → Preferred M (insert p V) w.1 ms →
      Preferred M V p (ms ++ w.2)

variable {M : Machine} {V W : Set Place} {p q : Place}

theorem Reaches.anti (hVW : V ⊆ W) (h : M.Reaches W p) : M.Reaches V p := by
  induction h with
  | goal hg => exact .goal hg
  | step hp hw _ ih => exact .step (fun hV => hp (hVW hV)) hw ih

theorem Reaches.goal_of_mem (hp : p ∈ V) (h : M.Reaches V p) : M.goal p := by
  cases h with
  | goal hg => exact hg
  | step hn => exact absurd hp hn

/-- What can be reached can be reached without a place that does not lead on. -/
theorem Reaches.insert_of_dead (hdead : ∀ w ∈ M.ways p, ¬ M.Reaches (insert p V) w.1)
    (h : M.Reaches V q) : M.Reaches (insert p V) q := by
  induction h with
  | goal hg => exact .goal hg
  | @step q w hq hw _ ih =>
    by_cases hqp : q = p
    · subst hqp
      exact absurd ih (hdead w hw)
    · exact .step (fun hV => hV.elim hqp hq) hw ih

theorem Preferred.reaches {ms : List (Nat × Nat)} (h : M.Preferred V p ms) : M.Reaches V p := by
  induction h with
  | goal hg => exact .goal hg
  | @step V p before after w ms _ hp hw _ _ ih =>
    refine .step hp ?_ (ih.anti (Set.subset_insert _ _))
    rw [hw]
    exact List.mem_append_right _ (List.mem_cons_self ..)

/-- Two ways that are the first ones with a property are the same. -/
theorem eq_of_append_cons_eq {α : Type} {P : α → Prop} {before before' after after' : List α}
    {a a' : α} (heq : before ++ a :: after = before' ++ a' :: after') (hb : ∀ x ∈ before, ¬ P x)
    (hb' : ∀ x ∈ before', ¬ P x) (ha : P a) (ha' : P a') : a = a' := by
  induction before generalizing before' with
  | nil =>
    cases before' with
    | nil => exact (List.cons.inj heq).1
    | cons b before' =>
      obtain rfl := (List.cons.inj heq).1
      exact absurd ha (hb' a (List.mem_cons_self ..))
  | cons b before ih =>
    cases before' with
    | nil =>
      obtain rfl := (List.cons.inj heq).1
      exact absurd ha' (hb b (List.mem_cons_self ..))
    | cons b' before' =>
      exact ih (List.cons.inj heq).2 (fun x hx => hb x (List.mem_cons_of_mem _ hx))
        (fun x hx => hb' x (List.mem_cons_of_mem _ hx))

theorem Preferred.unique {ms ns : List (Nat × Nat)} (h : M.Preferred V p ms)
    (h' : M.Preferred V p ns) : ms = ns := by
  induction h generalizing ns with
  | goal hg =>
    cases h' with
    | goal => rfl
    | step hg' => exact absurd hg hg'
  | step hg hp hw hb hr ih =>
    cases h' with
    | goal hg' => exact absurd hg' hg
    | step _ _ hw' hb' hr' =>
      obtain rfl := eq_of_append_cons_eq (P := fun w => M.Reaches (insert _ _) w.1)
        (hw.symm.trans hw') hb hb' hr.reaches hr'.reaches
      rw [ih hr']

/-! ## Machines with a common part -/

/-- Both machines take the same ways in `inner` and leave it at `exits` only, and a goal can be
reached from there in both of them or in none. -/
structure Agree (M N : Machine) (inner exits : Set Place) : Prop where
  ways_eq : ∀ p ∈ inner, M.ways p = N.ways p
  not_goal : ∀ p ∈ inner, ¬ M.goal p ∧ ¬ N.goal p
  onward : ∀ p ∈ inner, ∀ w ∈ M.ways p, w.1 ∈ inner ∨ w.1 ∈ exits
  reaches_exit : ∀ V ⊆ inner, ∀ p ∈ exits, M.Reaches V p ↔ N.Reaches V p

variable {N : Machine} {inner exits : Set Place}

theorem Agree.symm (h : Agree M N inner exits) : Agree N M inner exits where
  ways_eq p hp := (h.ways_eq p hp).symm
  not_goal p hp := (h.not_goal p hp).symm
  onward p hp w hw := h.onward p hp w (h.ways_eq p hp ▸ hw)
  reaches_exit V hV p hp := (h.reaches_exit V hV p hp).symm

theorem Agree.reaches (h : Agree M N inner exits) (hV : V ⊆ inner) (hp : p ∈ inner ∨ p ∈ exits)
    (hr : M.Reaches V p) : N.Reaches V p := by
  induction hr with
  | @goal p hg =>
    rcases hp with hp | hp
    · exact absurd hg (h.not_goal p hp).1
    · exact (h.reaches_exit V hV p hp).1 (.goal hg)
  | @step p w hpV hw hr ih =>
    rcases hp with hp | hp
    · exact .step hpV (h.ways_eq p hp ▸ hw) (ih (h.onward p hp w hw))
    · exact (h.reaches_exit V hV p hp).1 (.step hpV hw hr)

/-- What is saved for groups other than the match as a whole. -/
def savedInGroups (ms : List (Nat × Nat)) : List (Nat × Nat) := ms.filter (2 ≤ ·.1)

theorem Agree.exists_preferred (h : Agree M N inner exits)
    (hexits : ∀ V ⊆ inner, ∀ p ∈ exits, ∀ ms, M.Preferred V p ms →
      ∃ ns, N.Preferred V p ns ∧ savedInGroups ns = savedInGroups ms)
    (hV : V ⊆ inner) (hp : p ∈ inner ∨ p ∈ exits) {ms : List (Nat × Nat)}
    (hr : M.Preferred V p ms) :
    ∃ ns, N.Preferred V p ns ∧ savedInGroups ns = savedInGroups ms := by
  induction hr with
  | @goal V p hg =>
    rcases hp with hp | hp
    · exact absurd hg (h.not_goal p hp).1
    · exact hexits V hV p hp [] (.goal hg)
  | @step V p before after w ms hg hpV hw hb hr ih =>
    rcases hp with hp | hp
    · have hinsert : insert p V ⊆ inner := Set.insert_subset hp hV
      have honward (v : Place × List (Nat × Nat)) (hv : v ∈ before ++ w :: after) :
          v.1 ∈ inner ∨ v.1 ∈ exits := h.onward p hp v (hw ▸ hv)
      obtain ⟨ns, hns, hsame⟩ := ih hinsert (honward w (by simp))
      refine ⟨ns ++ w.2, .step (h.not_goal p hp).2 hpV ((h.ways_eq p hp).symm.trans hw) ?_ hns, ?_⟩
      · exact fun v hv hn => hb v hv (h.symm.reaches hinsert (honward v (by simp [hv])) hn)
      · rw [savedInGroups, savedInGroups, List.filter_append, List.filter_append]
        exact congrArg (· ++ _) hsame
    · exact hexits V hV p hp _ (.step hg hpV hw hb hr)

end Machine

end RouteTemplate.Regex
