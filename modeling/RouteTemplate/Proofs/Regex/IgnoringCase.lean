import Mathlib.Data.List.Forall2
import Mathlib.Order.Basic
import RouteTemplate.Proofs.Regex.LetterCase

/-!
What ignoring case does to what a pattern matches. A literal character then stands for its case
forms as well, but a class need not grow: the complement of a class loses the case forms of what it
leaves out. `PatternText.classes` lists the classes of a pattern. If ignoring case takes nothing
away from them, the pattern leads wherever it led before: `exists_readBody_below`.
-/

namespace RouteTemplate

/-- A class is part of another one if its characters are. -/
instance : HasSubset CharClass := ⟨fun s s' => ∀ c, s.contains c = true → s'.contains c = true⟩

theorem CharClass.Subset.refl (s : CharClass) : s ⊆ s := fun _ h => h

theorem CharClass.subset_folded (s : CharClass) : s ⊆ s.folded :=
  fun _ h => contains_folded_of_contains h

theorem CharClass.subset_asciiFolded (s : CharClass) : s ⊆ s.asciiFolded := by
  intro c h
  rw [asciiFolded, contains_union, h, Bool.true_or]

namespace Regex

theorem Flags.subset_fold (f : Flags) (s : CharClass) : s ⊆ f.fold s := by
  unfold fold
  split
  · split
    · exact s.subset_folded
    · exact s.subset_asciiFolded
  · exact CharClass.Subset.refl s

/-! ## Walks that lead wherever others lead -/

namespace Walk

variable {p p' q q' : Walk}

theorem andThen_mono (hp : p ≤ p') (hq : q ≤ q') : p.andThen q ≤ p'.andThen q' := by
  rintro i j ms ⟨k, ns, os, h₁, h₂, rfl⟩
  exact ⟨k, ns, os, hp _ _ _ h₁, hq _ _ _ h₂, rfl⟩

theorem either_mono (hp : p ≤ p') (hq : q ≤ q') : p.either q ≤ p'.either q' := by
  rintro i j ms (h | h)
  · exact .inl (hp _ _ _ h)
  · exact .inr (hq _ _ _ h)

theorem times_mono (hp : p ≤ p') (n : Nat) : p.times n ≤ p'.times n := by
  induction n with
  | zero => exact le_refl _
  | succ n ih => exact andThen_mono hp ih

theorem some_mono (hp : p ≤ p') (admits : Nat → Prop) : p.some admits ≤ p'.some admits := by
  rintro i j ms ⟨n, hn, h⟩
  exact ⟨n, hn, times_mono hp n _ _ _ h⟩

theorem saving_mono (hp : p ≤ p') (g : Nat) : p.saving g ≤ p'.saving g := by
  rintro i j ms ⟨ns, h, rfl⟩
  exact ⟨ns, hp _ _ _ h, rfl⟩

end Walk

namespace Expr

/-- Two expressions without groups, the second of which leads wherever the first one does. -/
structure Below (e e' : Expr) : Prop where
  left : e.GroupFree
  right : e'.GroupFree
  walk_le : ∀ text, e.walk text ≤ e'.walk text

variable {e e' : Expr} {l l' : List Expr}

theorem Below.refl (h : e.GroupFree) : e.Below e := ⟨h, h, fun _ => le_refl _⟩

theorem Below.ofClass {s s' : CharClass} (h : s ⊆ s') (u : Bool) :
    (ofClass u s).Below (ofClass u s') where
  left := .ofClass u s
  right := .ofClass u s'
  walk_le := by
    rintro text i j ms ⟨⟨c, hc, hs⟩, hj, hms⟩
    exact ⟨⟨c, hc, h c hs⟩, hj, hms⟩

theorem forall_left_of_below (h : List.Forall₂ Below l l') : ∀ e ∈ l, e.GroupFree :=
  ((List.forall₂_and_left l l').1 (h.imp fun _ _ hb => ⟨hb.left, hb⟩)).1

theorem forall_right_of_below (h : List.Forall₂ Below l l') : ∀ e ∈ l', e.GroupFree := by
  induction h with
  | nil => simp
  | cons hb _ ih => exact List.forall_mem_cons.2 ⟨hb.right, ih⟩

theorem walks_mono (h : List.Forall₂ Below l l') (text : List Char) :
    walks text l ≤ walks text l' := by
  induction h with
  | nil => exact le_refl _
  | cons hb _ ih => exact Walk.andThen_mono (hb.walk_le text) ih

theorem choices_mono (h : List.Forall₂ Below l l') (text : List Char) :
    choices text l ≤ choices text l' := by
  induction h with
  | nil => exact le_refl _
  | cons hb _ ih =>
    rw [choices_cons, choices_cons]
    exact Walk.either_mono (hb.walk_le text) ih

theorem Below.seq (h : List.Forall₂ Below l l') : (seq l).Below (seq l') where
  left := .seq (forall_left_of_below h)
  right := .seq (forall_right_of_below h)
  walk_le text := by
    rw [walk_seq, walk_seq]
    exact walks_mono h text

theorem Below.choice (h : List.Forall₂ Below l l') : (choice l).Below (choice l') where
  left := .choice (forall_left_of_below h)
  right := .choice (forall_right_of_below h)
  walk_le text := by
    rw [walk_choice, walk_choice]
    exact choices_mono h text

theorem Below.repeated (h : e.Below e') (t : Times) (g : Bool) :
    (repeated t g e).Below (repeated t g e') where
  left := h.left.repeated t g
  right := h.right.repeated t g
  walk_le text := by
    rw [walk_repeated text (.inl (h.left.quiet text)),
      walk_repeated text (.inl (h.right.quiet text))]
    exact Walk.some_mono (h.walk_le text) _

end Expr

theorem Flags.below_literal (f : Flags) (c : Char) : (f.shape.literal c).Below (f.literal c) :=
  Expr.Below.ofClass (f.subset_fold (.single c)) f.unicode

/-! ## Two readings of a pattern -/

structure Item.Below (i i' : Item) : Prop where
  expr : i.expr.Below i'.expr
  repeatable : i'.repeatable = i.repeatable

namespace Level

/-- Only what has been read in the groups is compared. -/
structure Below (l l' : Level) : Prop where
  items : List.Forall₂ Item.Below l.items l'.items
  branches : List.Forall₂ Item.Below l.branches l'.branches

variable {l l' : Level}

theorem Below.push (h : l.Below l') {i i' : Item} (hi : i.Below i') :
    (l.push i).Below (l'.push i') :=
  ⟨.cons hi h.items, h.branches⟩

theorem forall₂_expr {is is' : List Item} (h : List.Forall₂ Item.Below is is') :
    List.Forall₂ Expr.Below (is.map Item.expr) (is'.map Item.expr) := by
  rw [List.forall₂_map_left_iff, List.forall₂_map_right_iff]
  exact h.imp fun _ _ hi => hi.expr

theorem Below.branch (h : l.Below l') : l.branch.Below l'.branch where
  expr := .seq (forall₂_expr (List.rel_reverse h.items))
  repeatable := rfl

theorem Below.nextBranch (h : l.Below l') : l.nextBranch.Below l'.nextBranch :=
  ⟨.nil, .cons h.branch h.branches⟩

theorem Below.body (h : l.Below l') : l.body.expr.Below l'.body.expr := by
  have hall := List.rel_reverse (.cons h.branch h.branches)
  unfold Level.body
  generalize (l.branch :: l.branches).reverse = is at hall
  generalize (l'.branch :: l'.branches).reverse = is' at hall
  cases hall with
  | nil => exact h.branch.expr
  | cons hi hrest =>
    cases hrest with
    | nil => exact hi.expr
    | cons hj hrest => exact .choice (forall₂_expr (.cons hi (.cons hj hrest)))

end Level

theorem Mode.eq_or_of_shape {m m' : Mode} (h : m.shape = m'.shape) : m = m' ∨
    (∃ u u', m = .brackets u ∧ m' = .brackets u' ∧ u.shape = u'.shape) ∨
    ∃ u u', m = .groupFlags u ∧ m' = .groupFlags u' := by
  cases m with
  | brackets u =>
    cases m' with
    | brackets u' => exact .inr (.inl ⟨u, u', rfl, rfl, Mode.brackets.inj h⟩)
    | _ => simp [shape] at h
  | groupFlags u =>
    cases m' with
    | groupFlags u' => exact .inr (.inr ⟨u, u', rfl, rfl⟩)
    | _ => simp [shape] at h
  | _ =>
    cases m' with
    | brackets | groupFlags => simp [shape] at h
    | _ => exact .inl h

/-- The class that an escape stands for, if it does. -/
def EscapeStep.class? : EscapeStep → Option CharClass
  | set s => some s
  | _ => none

namespace PatternText

/-- The class that a character completes, if it does: an escape that stands for one, or the
outermost brackets. -/
def class? (t : PatternText) (c : Char) : Option CharClass :=
  match t.mode with
  | .escape e => (e.step t.flags c).toOption.bind EscapeStep.class?
  | .brackets u => (u.step t.flags c).toOption.bind fun r => r.getRight?.map DeepClass.set
  | _ => none

def classesFrom (t : PatternText) : List Char → List CharClass
  | [] => []
  | c :: rest =>
    (t.class? c).toList ++
      match t.step c with
      | .ok u => u.classesFrom rest
      | .error _ => []

/-- The classes of a pattern in order, blanks and comments apart. -/
def classes (f : Flags) (pattern : List Char) : List CharClass := (start f).classesFrom pattern

/-- Two readings of one text, where case counts in the first one, and the second one leads wherever
the first one does. -/
structure Below (t t' : PatternText) : Prop where
  flags : t.flags = t'.flags.shape
  verbose : t'.flags.verbose = false
  inComment : t.inComment = false
  inComment' : t'.inComment = false
  level : t.level.Below t'.level
  mode : t.mode.shape = t'.mode.shape

/-- Whatever the first reading gives, the second one gives something that it is below of. -/
def Follows (m m' : Except Error PatternText) : Prop :=
  ∀ u, m = .ok u → ∃ u', m' = .ok u' ∧ u.Below u'

section

variable {t t' : PatternText} {α β : Type}

theorem Below.follows (h : t.Below t') : Follows (.ok t) (.ok t') := by
  intro u hu
  obtain rfl := Except.ok.inj hu
  exact ⟨t', rfl, h⟩

theorem Follows.error (e : Error) (m : Except Error PatternText) : Follows (.error e) m := by
  intro u hu
  cases hu

theorem Follows.ite {p : Prop} [Decidable p] {a b a' b' : Except Error PatternText}
    (ha : p → Follows a a') (hb : ¬p → Follows b b') :
    Follows (if p then a else b) (if p then a' else b') := by
  split
  next h => exact ha h
  next h => exact hb h

/-- What comes next follows if it does for all results that have something in common. -/
theorem Follows.bind {m m' : Except Error α} {p : α → β} {k k' : α → Except Error PatternText}
    (hm : m.map p = m'.map p)
    (hk : ∀ a a', m = .ok a → m' = .ok a' → p a = p a' → Follows (k a) (k' a')) :
    Follows (m >>= k) (m' >>= k') := by
  cases m with
  | error e => exact Follows.error e _
  | ok a =>
    cases m' with
    | error e => simp [Except.map] at hm
    | ok a' => exact hk a a' rfl rfl (Except.ok.inj hm)

theorem Follows.after {m m' : Except Error PatternText}
    {k k' : PatternText → Except Error PatternText} (hm : Follows m m')
    (hk : ∀ u u', m = .ok u → m' = .ok u' → u.Below u' → Follows (k u) (k' u')) :
    Follows (m >>= k) (m' >>= k') := by
  intro v hv
  obtain ⟨u, hu, hv⟩ := Except.bind_eq_ok_iff.1 hv
  obtain ⟨u', hu', hb⟩ := hm u hu
  obtain ⟨v', hv', hb'⟩ := hk u u' hu hu' hb v hv
  exact ⟨v', Except.bind_eq_ok_iff.2 ⟨u', hu', hv'⟩, hb'⟩

/-- What does not ask for letter case is the same under the flags of both. -/
theorem Below.flags_congr (h : t.Below t') {g : Flags → α} (hg : ∀ f, g f.shape = g f) :
    g t.flags = g t'.flags := by
  rw [h.flags, hg]

theorem Below.verbose_left (h : t.Below t') : t.flags.verbose = false := by
  rw [h.flags, Flags.shape_verbose, h.verbose]

theorem Below.isBlank_left (h : t.Below t') (c : Char) : t.isBlank c = false :=
  isBlank_eq_false h.verbose_left c

theorem Below.isBlank_right (h : t.Below t') (c : Char) : t'.isBlank c = false :=
  isBlank_eq_false h.verbose c

theorem Below.withMode (h : t.Below t') {m m' : Mode} (hm : m.shape = m'.shape) :
    ({ t with mode := m } : PatternText).Below { t' with mode := m' } :=
  ⟨h.flags, h.verbose, h.inComment, h.inComment', h.level, hm⟩

theorem Below.push (h : t.Below t') {e e' : Expr} (he : e.Below e') {height height' : Nat} :
    (t.push ⟨e, height, true⟩).Below (t'.push ⟨e', height', true⟩) :=
  ⟨h.flags, h.verbose, h.inComment, h.inComment', h.level.push ⟨he, rfl⟩, rfl⟩

theorem Below.pushLook (h : t.Below t') {l l' : Look} (hl : l = l') :
    (t.pushLook l).Below (t'.pushLook l') :=
  hl ▸ h.push (.refl (.look l))

theorem Below.pushLiteral (h : t.Below t') (c : Char) :
    (t.push { expr := t.flags.literal c }).Below (t'.push { expr := t'.flags.literal c }) := by
  refine h.push ?_
  rw [h.flags]
  exact t'.flags.below_literal c

theorem Below.pushClass (h : t.Below t') {s s' : CharClass} (hs : s ⊆ s') {height height' : Nat} :
    (t.push { expr := t.flags.ofClass s, height := height }).Below
      (t'.push { expr := t'.flags.ofClass s', height := height' }) := by
  refine h.push ?_
  rw [h.flags]
  exact .ofClass hs t'.flags.unicode

theorem Below.wordBoundary (h : t.Below t') : t.wordBoundary.Below t'.wordBoundary :=
  h.pushLook (h.flags_congr (g := fun f => Look.wordBoundary f.unicode) fun _ => rfl)

theorem Below.repeatLast (h : t.Below t') (times : Times) (lazy : Bool) :
    Follows (t.repeatLast times lazy) (t'.repeatLast times lazy) := by
  have hgreedy := h.flags_congr (g := fun f => f.greedy lazy) fun _ => rfl
  have hitems := h.level.items
  unfold PatternText.repeatLast
  rw [hgreedy]
  generalize t.level.items = is at hitems
  generalize t'.level.items = is' at hitems
  cases hitems with
  | nil => exact Follows.error _ _
  | @cons i i' is is' hi hrest =>
    dsimp only
    rw [hi.repeatable]
    refine Follows.ite (fun _ => Below.follows ?_) fun _ => Follows.error _ _
    exact ⟨h.flags, h.verbose, h.inComment, h.inComment',
      ⟨.cons ⟨hi.expr.repeated _ _, rfl⟩ hrest, h.level.branches⟩, rfl⟩

/-! ### Steps -/

variable {c : Char}

theorem Below.stepItem (h : t.Below t') (h₁ : c ≠ '(') (h₂ : c ≠ ')') :
    Follows (t.stepItem c) (t'.stepItem c) := by
  have hmode (m : Mode) : Follows (.ok { t with mode := m }) (.ok { t' with mode := m }) :=
    (h.withMode rfl).follows
  simp only [PatternText.stepItem, h.isBlank_left, h.isBlank_right, if_neg h₁, if_neg h₂,
    Bool.false_eq_true, if_false]
  refine Follows.ite (fun _ => ?_) fun _ => Follows.ite (fun _ => hmode _) fun _ =>
    Follows.ite (fun _ => hmode _) fun _ => Follows.ite (fun _ => hmode _) fun _ =>
    Follows.ite (fun _ => hmode _) fun _ => Follows.ite (fun _ => hmode _) fun _ =>
    Follows.ite (fun _ => hmode _) fun _ => Follows.ite (fun _ => ?_) fun _ =>
    Follows.ite (fun _ => ?_) fun _ => Follows.ite (fun _ => ?_) fun _ =>
    (h.pushLiteral c).follows
  · exact Below.follows
      ⟨h.flags, h.verbose, h.inComment, h.inComment', h.level.nextBranch, rfl⟩
  · have hdot := h.flags_congr (g := Flags.dot) fun _ => rfl
    refine Follows.bind (p := id) (congrArg (Except.map id) hdot) fun e e' he _ hee => ?_
    obtain rfl : e = e' := hee
    exact (h.push (.refl (groupFree_of_dot he))).follows
  · exact (h.pushLook (h.flags_congr fun _ => rfl)).follows
  · exact (h.pushLook (h.flags_congr fun _ => rfl)).follows

theorem Below.stepRepetition (h : t.Below t') (h₁ : c ≠ '(') (h₂ : c ≠ ')') (times : Times)
    (spaced : Bool) :
    Follows (t.stepRepetition times spaced c) (t'.stepRepetition times spaced c) := by
  simp only [PatternText.stepRepetition, h.isBlank_left, h.isBlank_right, Bool.and_false,
    Bool.false_eq_true, if_false]
  exact Follows.ite (fun _ => h.repeatLast times true) fun _ =>
    (h.repeatLast times false).after fun u u' _ _ hu => hu.stepItem h₁ h₂

theorem Below.stepCount (h : t.Below t') (u : CountText) :
    Follows (t.stepCount u c) (t'.stepCount u c) := by
  simp only [PatternText.stepCount, h.isBlank_left, h.isBlank_right, Bool.false_eq_true, if_false]
  refine Follows.bind (p := id) rfl ?_
  rintro s _ - - rfl
  cases s with
  | inl u => exact (h.withMode rfl).follows
  | inr times => exact (h.withMode rfl).follows

theorem Below.stepEdge (h : t.Below t') (h₁ : c ≠ '(') (h₂ : c ≠ ')') :
    Follows (t.stepEdge c) (t'.stepEdge c) :=
  Follows.ite (fun _ => (h.withMode rfl).follows) fun _ => h.wordBoundary.stepItem h₁ h₂

theorem Below.stepEdgeOpen (h : t.Below t') :
    Follows (t.stepEdgeOpen c) (t'.stepEdgeOpen c) := by
  simp only [PatternText.stepEdgeOpen, h.isBlank_left, h.isBlank_right, Bool.false_eq_true,
    if_false]
  exact Follows.ite (fun _ => (h.withMode rfl).follows) fun _ => h.wordBoundary.stepCount .before

theorem Below.stepEdgeName (h : t.Below t') (name : List Char) :
    Follows (t.stepEdgeName name c) (t'.stepEdgeName name c) := by
  have hunicode := h.flags_congr (g := Flags.unicode) fun _ => rfl
  simp only [PatternText.stepEdgeName, h.isBlank_left, h.isBlank_right, Bool.false_eq_true,
    if_false, hunicode]
  refine Follows.ite (fun _ => (h.withMode rfl).follows) fun _ =>
    Follows.ite (fun _ => ?_) fun _ => Follows.error _ _
  cases edgeOfName? t'.flags.unicode (String.ofList name.reverse) with
  | none => exact Follows.error _ _
  | some l => exact (h.pushLook rfl).follows

theorem Below.map_step_escape (h : t.Below t') (e : EscapeText) (c : Char) :
    (e.step t.flags c).map EscapeStep.shape = (e.step t'.flags c).map EscapeStep.shape := by
  rw [h.flags]
  exact EscapeText.map_step_shape t'.flags c e

theorem Below.map_step_brackets (h : t.Below t') {u u' : ClassText} (hu : u.shape = u'.shape)
    (c : Char) :
    (u.step t.flags c).map ClassText.resultShape =
      (u'.step t'.flags c).map ClassText.resultShape := by
  rw [h.flags]
  exact ClassText.map_congr_shape (k := fun f t => t.step f c) t'.flags
    (fun f t => ClassText.map_step_shape f c t) hu

/-- An escape that stands for a class may stand for a greater one. -/
theorem Below.stepEscape (h : t.Below t') (e : EscapeText)
    (hset : ∀ s s', e.step t.flags c = .ok (.set s) → e.step t'.flags c = .ok (.set s') → s ⊆ s') :
    Follows (t.stepEscape e c) (t'.stepEscape e c) := by
  simp only [PatternText.stepEscape, h.isBlank_left, h.isBlank_right, Bool.and_false,
    Bool.false_eq_true, if_false]
  refine Follows.bind (h.map_step_escape e c) fun s s' hs hs' hshape => ?_
  obtain rfl | ⟨a, b, rfl, rfl⟩ := EscapeStep.eq_or_of_shape hshape
  · cases s with
    | more e => exact (h.withMode rfl).follows
    | literal d => exact (h.pushLiteral d).follows
    | set a => exact (h.pushClass (CharClass.Subset.refl a)).follows
    | look l => exact (h.pushLook rfl).follows
    | wordBoundary => exact (h.withMode rfl).follows
  · exact (h.pushClass (hset a b hs hs')).follows

theorem Below.stepBrackets (h : t.Below t') {u u' : ClassText} (hu : u.shape = u'.shape)
    (hset : ∀ d d', u.step t.flags c = .ok (.inr d) → u'.step t'.flags c = .ok (.inr d') →
      d.set ⊆ d'.set) :
    Follows (t.stepBrackets u c) (t'.stepBrackets u' c) := by
  simp only [PatternText.stepBrackets, h.isBlank_left, h.isBlank_right, Bool.and_false,
    Bool.false_eq_true, if_false]
  refine Follows.bind (h.map_step_brackets hu c) fun s s' hs hs' hshape => ?_
  cases s with
  | inl v =>
    cases s' with
    | inl v' =>
      have hv : (Mode.brackets v).shape = (Mode.brackets v').shape :=
        congrArg Mode.brackets (Sum.inl.inj hshape)
      exact (h.withMode hv).follows
    | inr d' => cases hshape
  | inr d =>
    cases s' with
    | inl v' => cases hshape
    | inr d' => exact (h.pushClass (hset d d' hs hs')).follows

/-- A character that does not open or close a group leads on in both readings, if the class that it
completes does not become smaller. -/
theorem Below.step (h : t.Below t') (hm : t.mode.isOpen = true ∨ t.mode.absorbs = true)
    (hc : c ≠ '(' ∧ c ≠ ')' ∨ t.mode.absorbs = true)
    (hclass : ∀ s s', t.class? c = some s → t'.class? c = some s' → s ⊆ s') :
    Follows (t.step c) (t'.step c) := by
  have hparen (ha : t.mode.absorbs = false) : c ≠ '(' ∧ c ≠ ')' :=
    hc.resolve_right (by rw [ha]; exact Bool.false_ne_true)
  unfold class? at hclass
  simp only [PatternText.step, h.inComment, h.inComment', Bool.false_eq_true, if_false]
  obtain hmode | ⟨u, u', hu, hu', hshape⟩ | ⟨u, u', hu, hu'⟩ := Mode.eq_or_of_shape h.mode
  · rw [← hmode] at hclass ⊢
    cases hmt : t.mode with
    | item =>
      obtain ⟨h₁, h₂⟩ := hparen (by rw [hmt]; rfl)
      exact h.stepItem h₁ h₂
    | repetition times spaced =>
      obtain ⟨h₁, h₂⟩ := hparen (by rw [hmt]; rfl)
      exact h.stepRepetition h₁ h₂ times spaced
    | escape e =>
      refine h.stepEscape e fun s s' hs hs' => hclass s s' ?_ ?_
      · simp [hmt, hs, Except.toOption, EscapeStep.class?]
      · simp [hmt, hs', Except.toOption, EscapeStep.class?]
    | edge =>
      obtain ⟨h₁, h₂⟩ := hparen (by rw [hmt]; rfl)
      exact h.stepEdge h₁ h₂
    | edgeOpen => exact h.stepEdgeOpen
    | edgeName name => exact h.stepEdgeName name
    | count u => exact h.stepCount u
    | brackets u =>
      refine h.stepBrackets rfl fun d d' hd hd' => hclass d.set d'.set ?_ ?_
      · simp [hmt, hd, Except.toOption]
      · simp [hmt, hd', Except.toOption]
    | groupOpen | groupMark | groupP | groupAngle | groupName | groupFlags =>
      simp [hmt, Mode.isOpen, Mode.absorbs] at hm
  · rw [hu, hu']
    refine h.stepBrackets hshape fun d d' hd hd' => hclass d.set d'.set ?_ ?_
    · simp [hu, hd, Except.toOption]
    · simp [hu', hd', Except.toOption]
  · simp [hu, Mode.isOpen, Mode.absorbs] at hm

theorem Below.settle (h : t.Below t') : Follows t.settle t'.settle := by
  unfold PatternText.settle
  obtain hmode | ⟨u, u', hu, -, -⟩ | ⟨u, u', hu, -⟩ := Mode.eq_or_of_shape h.mode
  · rw [← hmode]
    cases t.mode with
    | item => exact h.follows
    | repetition times spaced => exact h.repeatLast times false
    | edge => exact h.wordBoundary.follows
    | _ => exact Follows.error _ _
  · rw [hu]
    exact Follows.error _ _
  · rw [hu]
    exact Follows.error _ _

/-! ### Whole texts -/

/-- Of results that have a shape in common, both are classes or neither is. -/
theorem isSome_bind_toOption_congr {γ : Type} {m m' : Except Error α} {p : α → β}
    {k : α → Option γ} (hm : m.map p = m'.map p)
    (hk : ∀ a a', p a = p a' → (k a).isSome = (k a').isSome) :
    (m.toOption.bind k).isSome = (m'.toOption.bind k).isSome := by
  cases m with
  | error e =>
    cases m' with
    | error e' => rfl
    | ok a' => simp [Except.map] at hm
  | ok a =>
    cases m' with
    | error e' => simp [Except.map] at hm
    | ok a' => exact hk a a' (Except.ok.inj hm)

/-- A character completes a class in both readings or in neither. -/
theorem Below.isSome_class? (h : t.Below t') (c : Char) :
    (t.class? c).isSome = (t'.class? c).isSome := by
  have hbrackets {u u' : ClassText} (hu : u.shape = u'.shape) :
      ((u.step t.flags c).toOption.bind fun r => r.getRight?.map DeepClass.set).isSome =
        ((u'.step t'.flags c).toOption.bind fun r => r.getRight?.map DeepClass.set).isSome := by
    refine isSome_bind_toOption_congr (h.map_step_brackets hu c) fun s s' hs => ?_
    cases s with
    | inl v =>
      cases s' with
      | inl v' => rfl
      | inr d' => cases hs
    | inr d =>
      cases s' with
      | inl v' => cases hs
      | inr d' => rfl
  unfold class?
  obtain hmode | ⟨u, u', hu, hu', hshape⟩ | ⟨u, u', hu, hu'⟩ := Mode.eq_or_of_shape h.mode
  · rw [← hmode]
    cases t.mode with
    | escape e =>
      refine isSome_bind_toOption_congr (h.map_step_escape e c) fun s s' hs => ?_
      obtain rfl | ⟨a, b, rfl, rfl⟩ := EscapeStep.eq_or_of_shape hs
      · rfl
      · rfl
    | brackets u => exact hbrackets rfl
    | _ => rfl
  · rw [hu, hu']
    exact hbrackets hshape
  · rw [hu, hu']

theorem of_forall₂_toList_append {R : α → β → Prop} {a : Option α} {b : Option β} {l : List α}
    {m : List β} (hab : a.isSome = b.isSome)
    (h : List.Forall₂ R (a.toList ++ l) (b.toList ++ m)) :
    (∀ x y, a = some x → b = some y → R x y) ∧ List.Forall₂ R l m := by
  cases a with
  | none =>
    cases b with
    | none =>
      refine ⟨fun x y hx => ?_, h⟩
      cases hx
    | some y => cases hab
  | some x =>
    cases b with
    | none => cases hab
    | some y =>
      obtain ⟨hxy, hrest⟩ := List.forall₂_cons.1 h
      refine ⟨fun x' y' hx hy => ?_, hrest⟩
      obtain rfl := Option.some.inj hx
      obtain rfl := Option.some.inj hy
      exact hxy

/-- One character and what comes behind it. -/
theorem Below.step_cons (h : t.Below t') (hm : t.mode.isOpen = true ∨ t.mode.absorbs = true)
    (hc : c ≠ '(' ∧ c ≠ ')' ∨ t.mode.absorbs = true) {rest : List Char}
    {k k' : PatternText → Except Error PatternText}
    (hclasses : List.Forall₂ (· ⊆ ·) (t.classesFrom (c :: rest)) (t'.classesFrom (c :: rest)))
    (hk : ∀ u u', t.step c = .ok u → u.Below u' →
      List.Forall₂ (· ⊆ ·) (u.classesFrom rest) (u'.classesFrom rest) → Follows (k u) (k' u')) :
    Follows (t.step c >>= k) (t'.step c >>= k') := by
  rw [classesFrom, classesFrom] at hclasses
  obtain ⟨hclass, hrest⟩ := of_forall₂_toList_append (h.isSome_class? c) hclasses
  refine (h.step hm hc hclass).after fun u u' hu hu' hb => hk u u' hu hb ?_
  rwa [hu, hu'] at hrest

/-- If no class becomes smaller, the reading that ignores case stays above the other one. -/
theorem Below.foldlM {pattern : List Char} (hp : Enclosable pattern) (h : t.Below t')
    (hm : t.mode.isOpen = true)
    (hclasses : List.Forall₂ (· ⊆ ·) (t.classesFrom pattern) (t'.classesFrom pattern)) :
    Follows (pattern.foldlM PatternText.step t) (pattern.foldlM PatternText.step t') := by
  induction hp generalizing t t' with
  | nil => exact h.follows
  | @char c rest h₁ h₂ h₃ _ ih =>
    rw [List.foldlM_cons, List.foldlM_cons]
    refine h.step_cons (.inl hm) (.inl ⟨h₂, h₃⟩) hclasses fun u u' hu hb hrest => ?_
    exact ih hb (gives_step_char h.verbose_left h.inComment hm h₁ h₂ h₃ u hu).2.2.1 hrest
  | @escape c rest _ ih =>
    rw [List.foldlM_cons, List.foldlM_cons]
    refine h.step_cons (.inl hm) (.inl ⟨by decide, by decide⟩) hclasses fun u u' hu hb hrest => ?_
    have hmu : u.mode.absorbs = true :=
      (gives_step_backslash h.verbose_left h.inComment hm u hu).2.2.1
    rw [List.foldlM_cons, List.foldlM_cons]
    refine hb.step_cons (.inr hmu) (.inr hmu) hrest fun v v' hv hb' hrest' => ?_
    exact ih hb' (gives_step_of_absorbs hb.verbose_left hb.inComment hmu c v hv).2.2.1 hrest'

theorem below_start {f : Flags} (hv : f.verbose = false) : (start f.shape).Below (start f) :=
  ⟨rfl, hv, rfl, rfl, ⟨.nil, .nil⟩, rfl⟩

/-- If ignoring case takes nothing away from the classes of a pattern, it takes nothing away from
what the pattern leads over. -/
theorem exists_readBody_below {f : Flags} (hv : f.verbose = false) {pattern : List Char}
    (hp : Enclosable pattern)
    (hclasses : List.Forall₂ (· ⊆ ·) (classes f.shape pattern) (classes f pattern)) {b : Item}
    (hb : readBody f.shape pattern = .ok b) :
    ∃ b', readBody f pattern = .ok b' ∧ b.expr.Below b'.expr := by
  obtain ⟨u, w, hu, hw, rfl⟩ := readBody_eq_ok.1 hb
  obtain ⟨u', hu', hbelow⟩ := (below_start hv).foldlM hp rfl hclasses u hu
  obtain ⟨w', hw', hbelow'⟩ := hbelow.settle w hw
  exact ⟨_, readBody_eq_ok.2 ⟨u', w', hu', hw', rfl⟩, hbelow'.level.body⟩

end

end PatternText

end Regex

end RouteTemplate
