import RouteTemplate.Proofs.Except
import RouteTemplate.Proofs.Regex.Groups
import RouteTemplate.Regex.PatternText

/-!
Patterns that stand in parentheses. A text is enclosable if each of its parentheses stands behind a
backslash. Reading such a text touches the innermost group only: `foldlM_inFrame` says that the
groups around it, and what kind of group it is, make no difference. So the text means in any group
what it means by itself, which is what `readBody` reads.
-/

namespace RouteTemplate.Regex

/-- Every parenthesis and every backslash stands behind a backslash of its own. -/
inductive Enclosable : List Char → Prop
  | nil : Enclosable []
  | char {c : Char} {rest : List Char} :
      c ≠ '\\' → c ≠ '(' → c ≠ ')' → Enclosable rest → Enclosable (c :: rest)
  | escape {c : Char} {rest : List Char} : Enclosable rest → Enclosable ('\\' :: c :: rest)

theorem Enclosable.append {a b : List Char} (ha : Enclosable a) (hb : Enclosable b) :
    Enclosable (a ++ b) := by
  induction ha with
  | nil => exact hb
  | char h₁ h₂ h₃ _ ih => exact .char h₁ h₂ h₃ ih
  | escape _ ih => exact .escape ih

/-- Whether the next character may begin a character or an escape of the text. -/
def Mode.isOpen : Mode → Bool
  | .escape .start => false
  | .item | .repetition _ _ | .escape _ | .edge | .edgeOpen | .edgeName _ | .count _
  | .brackets _ => true
  | .groupOpen | .groupMark | .groupP | .groupAngle | .groupName _ | .groupFlags _ => false

/-- Whether a parenthesis is read like any other character. -/
def Mode.absorbs : Mode → Bool
  | .escape _ | .edgeOpen | .edgeName _ | .count _ | .brackets _ => true
  | .item | .repetition _ _ | .edge | .groupOpen | .groupMark | .groupP | .groupAngle
  | .groupName _ | .groupFlags _ => false

/-- Whether an item begins here. -/
def Mode.isItem : Mode → Bool
  | .item => true
  | _ => false

theorem Mode.eq_item {m : Mode} (h : m.isItem = true) : m = .item := by
  cases m with
  | item => rfl
  | _ => simp [isItem] at h

/-- What may be left open behind a character: a backslash is not alone. -/
def Mode.isBehind (c : Char) (m : Mode) : Bool := if c = '\\' then m.absorbs else m.isOpen

namespace Level

/-- Nothing that has been read in the group has groups of its own. -/
def GroupFree (l : Level) : Prop :=
  (∀ i ∈ l.items, i.expr.GroupFree) ∧ ∀ i ∈ l.branches, i.expr.GroupFree

variable {l : Level}

theorem GroupFree.push (h : l.GroupFree) {i : Item} (hi : i.expr.GroupFree) :
    (l.push i).GroupFree :=
  ⟨List.forall_mem_cons.2 ⟨hi, h.1⟩, h.2⟩

theorem GroupFree.branch (h : l.GroupFree) : l.branch.expr.GroupFree := by
  refine Expr.GroupFree.seq fun e he => ?_
  obtain ⟨i, hi, rfl⟩ := List.mem_map.1 he
  exact h.1 i (List.mem_reverse.1 hi)

theorem GroupFree.nextBranch (h : l.GroupFree) : l.nextBranch.GroupFree :=
  ⟨fun i hi => by simp [Level.nextBranch] at hi, List.forall_mem_cons.2 ⟨h.branch, h.2⟩⟩

theorem GroupFree.body (h : l.GroupFree) : l.body.expr.GroupFree := by
  have hall : ∀ i ∈ (l.branch :: l.branches).reverse, i.expr.GroupFree := by
    intro i hi
    rcases List.mem_cons.1 (List.mem_reverse.1 hi) with rfl | hi
    · exact h.branch
    · exact h.2 i hi
  unfold Level.body
  split
  · exact h.branch
  next i hl => exact hall i (by rw [hl]; exact List.mem_cons_self ..)
  next i rest _ hl =>
    rw [hl] at hall
    refine Expr.GroupFree.choice fun e he => ?_
    obtain ⟨j, hj, rfl⟩ := List.mem_map.1 he
    exact hall j hj

end Level

section

variable {α β γ δ : Type} {f : α → β} {g : γ → δ}

theorem map_ite {p : Prop} [Decidable p] {a b : Except Error α} {a' b' : Except Error β}
    (ha : a' = a.map f) (hb : b' = b.map f) :
    (if p then a' else b') = (if p then a else b).map f := by
  split
  · exact ha
  · exact hb

theorem map_bind {m : Except Error γ} {k : γ → Except Error α} {k' : γ → Except Error β}
    (h : ∀ c, k' c = (k c).map f) : (m >>= k') = (m >>= k).map f := by
  cases m with
  | error e => rfl
  | ok c => exact h c

theorem map_bind_map {m : Except Error γ} {k : γ → Except Error α} {k' : δ → Except Error β}
    (h : ∀ c, k' (g c) = (k c).map f) : (m.map g >>= k') = (m >>= k).map f := by
  cases m with
  | error e => rfl
  | ok c => exact h c

end

namespace EscapeText

theorem numbered_ne_more (value : Nat) (e : EscapeText) : numbered value ≠ .ok (.more e) := by
  unfold numbered
  split <;> simp

theorem property_ne_more (f : Flags) (negated : Bool) (name : List Char) (e : EscapeText) :
    property? f negated name ≠ .ok (.more e) := by
  unfold property?
  intro h
  split at h
  · simp at h
  · obtain ⟨p, -, h⟩ := Except.bind_eq_ok_iff.1 h
    obtain ⟨c, -, h⟩ := Except.bind_eq_ok_iff.1 h
    cases h

theorem stepStart_ne_start (f : Flags) (c : Char) : stepStart f c ≠ .ok (.more .start) := by
  have hs (m : Except Error CharClass) : EscapeStep.set <$> m ≠ .ok (.more .start) := by
    intro h
    obtain ⟨c, -, h⟩ := Except.map_eq_ok_iff.1 h
    cases h
  unfold stepStart
  intro h
  split at h
  · simp at h
  · split at h
    · simp at h
    · split at h
      · simp at h
      · split at h
        all_goals first | exact hs _ h | simp at h

theorem step_ne_start (f : Flags) (c : Char) (e : EscapeText) :
    e.step f c ≠ .ok (.more .start) := by
  intro h
  cases e with
  | start => exact stepStart_ne_start f c h
  | numberStart n =>
    simp only [step] at h
    split at h
    · simp at h
    · split at h <;> simp at h
  | digits left byte value =>
    simp only [step] at h
    split at h
    · split at h
      · unfold fixedNumber at h
        split at h
        · simp at h
        · exact numbered_ne_more _ _ h
      · simp at h
    · simp at h
  | number any value =>
    simp only [step] at h
    split at h
    · split at h
      · exact numbered_ne_more _ _ h
      · simp at h
    · split at h <;> simp at h
  | property negated =>
    simp only [step] at h
    split at h
    · simp at h
    · split at h
      · simp at h
      · exact property_ne_more _ _ _ _ h
  | propertyName negated name =>
    simp only [step] at h
    split at h
    · exact property_ne_more _ _ _ _ h
    · simp at h

/-- Behind its first character, an escape goes on with a backslash only as part of a name. -/
theorem step_backslash {f : Flags} {e : EscapeText} {s : EscapeStep} (he : e ≠ .start)
    (h : e.step f '\\' = .ok s) : ∃ negated name, s = .more (.propertyName negated name) := by
  have hh : Unicode.hexDigit? '\\' = none := by decide
  cases e with
  | start => exact absurd rfl he
  | numberStart n => simp [step, hh] at h
  | digits left byte value => simp [step, hh] at h
  | number any value => simp [step, hh] at h
  | property negated => simp [step] at h
  | propertyName negated name =>
    obtain rfl : _ = s := by simpa [step] using h
    exact ⟨_, _, rfl⟩

end EscapeText

theorem CountText.step_backslash (t : CountText) : t.step '\\' = .error .countUnclosed := by
  have h₁ : Unicode.isAsciiDigit '\\' = false := by decide
  have h₂ : Unicode.isSpace '\\' = false := by decide
  have h₃ : ¬ ('\\' : Char) = '\x7d' := by decide
  have h₄ : ¬ ('\\' : Char) = ',' := by decide
  unfold CountText.step
  rw [h₁, h₂, if_neg h₃, if_neg h₄]
  rfl

namespace ClassText

/-! Only a closing bracket can end a class. -/

section

variable {f : Flags} {c : Char}

theorem stepBetween_ne_inr (hc : c ≠ ']') (t : ClassText) (d : DeepClass) :
    t.stepBetween f c ≠ .ok (.inr d) := by
  unfold stepBetween
  intro h
  rw [if_neg hc] at h
  split at h
  · simp at h
  · split at h
    · simp at h
    · split at h <;> simp at h

theorem stepMember_ne_inr (hc : c ≠ ']') (m : Member) (t : ClassText) (d : DeepClass) :
    t.stepMember f m c ≠ .ok (.inr d) := by
  unfold stepMember
  intro h
  split at h
  · simp at h
  · obtain ⟨u, -, h⟩ := Except.bind_eq_ok_iff.1 h
    exact stepBetween_ne_inr hc u d h

theorem stepLeading_ne_inr (hc : c ≠ ']') (hyphen : Bool) (t : ClassText) (d : DeepClass) :
    t.stepLeading f hyphen c ≠ .ok (.inr d) := by
  unfold stepLeading
  intro h
  split at h
  · simp at h
  · rw [if_neg (by simp [hc])] at h
    exact stepBetween_ne_inr hc t d h

theorem addRange_ne_inr (m : Member) (high : Char) (t : ClassText) (d : DeepClass) :
    (Sum.inl <$> t.addRange f m high : Except Error (ClassText ⊕ DeepClass)) ≠ .ok (.inr d) := by
  intro h
  obtain ⟨u, -, h⟩ := Except.map_eq_ok_iff.1 h
  cases h

theorem stepHyphen_ne_inr (hc : c ≠ ']') (m : Member) (spaced : Bool) (t : ClassText)
    (d : DeepClass) : t.stepHyphen f m spaced c ≠ .ok (.inr d) := by
  unfold stepHyphen
  intro h
  rw [if_neg hc] at h
  split at h
  · obtain ⟨u, -, h⟩ := Except.bind_eq_ok_iff.1 h
    split at h <;> cases h
  · split at h
    · simp at h
    · exact addRange_ne_inr m c t d h

theorem stepEscape_ne_inr (low : Option Member) (e : EscapeText) (t : ClassText)
    (d : DeepClass) : t.stepEscape f low e c ≠ .ok (.inr d) := by
  unfold stepEscape
  intro h
  obtain ⟨s, -, h⟩ := Except.bind_eq_ok_iff.1 h
  split at h
  · cases h
  · cases h
  · exact addRange_ne_inr _ _ t d h
  all_goals cases h

theorem step_ne_inr (hc : c ≠ ']') (t : ClassText) (d : DeepClass) :
    t.step f c ≠ .ok (.inr d) := by
  unfold step
  rw [if_neg hc]
  unfold stepMode
  split
  · split
    · simp
    · exact stepLeading_ne_inr hc _ _ d
  · exact stepLeading_ne_inr hc _ _ d
  · exact stepBetween_ne_inr hc _ d
  · split
    · simp
    · exact stepMember_ne_inr hc _ _ d
  · exact stepMember_ne_inr hc _ _ d
  · exact stepHyphen_ne_inr hc _ _ _ d
  · exact stepHyphen_ne_inr hc _ _ _ d
  · exact stepEscape_ne_inr _ _ _ d

end

end ClassText

namespace PatternText

/-- What reading inside of a group leaves alone: what kind of group it is, the flags and the groups
around it, and the numbers and names of groups. -/
structure Frame where
  capture : Option Nat
  around : Flags
  outer : List Level
  groups : Nat
  names : List (List Char)

def inFrame (t : PatternText) (x : Frame) : PatternText :=
  { t with
    level := { t.level with capture := x.capture, flags := x.around }
    outer := x.outer
    groups := x.groups
    names := x.names }

def frame (t : PatternText) : Frame :=
  ⟨t.level.capture, t.level.flags, t.outer, t.groups, t.names⟩

section

variable (t : PatternText) (x : Frame)

@[simp] theorem inFrame_mode : (t.inFrame x).mode = t.mode := rfl

@[simp] theorem inFrame_flags : (t.inFrame x).flags = t.flags := rfl

@[simp] theorem inFrame_inComment : (t.inFrame x).inComment = t.inComment := rfl

@[simp] theorem frame_inFrame : (t.inFrame x).frame = x := rfl

@[simp] theorem inFrame_body : (t.inFrame x).level.body = t.level.body := rfl

@[simp] theorem isBlank_inFrame (c : Char) : (t.inFrame x).isBlank c = t.isBlank c := rfl

theorem repeatLast_inFrame (times : Times) (lazy : Bool) :
    (t.inFrame x).repeatLast times lazy = (t.repeatLast times lazy).map (inFrame · x) := by
  simp only [repeatLast, inFrame]
  cases t.level.items with
  | nil => rfl
  | cons i items => exact map_ite rfl rfl

theorem settle_inFrame : (t.inFrame x).settle = t.settle.map (inFrame · x) := by
  simp only [settle, inFrame_mode]
  cases t.mode with
  | repetition times spaced => exact repeatLast_inFrame t x times false
  | _ => rfl

variable {t} in
theorem stepItem_inFrame {c : Char} (h₁ : c ≠ '(') (h₂ : c ≠ ')') :
    (t.inFrame x).stepItem c = (t.stepItem c).map (inFrame · x) := by
  simp only [stepItem, isBlank_inFrame, inFrame_flags, if_neg h₁, if_neg h₂]
  refine map_ite rfl (map_ite rfl (map_ite rfl (map_ite rfl (map_ite rfl (map_ite rfl
    (map_ite rfl (map_ite rfl (map_ite ?_ (map_ite rfl (map_ite rfl rfl))))))))))
  exact map_bind fun e => rfl

variable {t} in
theorem stepRepetition_inFrame {c : Char} (h₁ : c ≠ '(') (h₂ : c ≠ ')') (times : Times)
    (spaced : Bool) :
    (t.inFrame x).stepRepetition times spaced c =
      (t.stepRepetition times spaced c).map (inFrame · x) := by
  simp only [stepRepetition, isBlank_inFrame, repeatLast_inFrame]
  exact map_ite rfl (map_ite rfl (map_bind_map fun u => stepItem_inFrame x h₁ h₂))

theorem stepEscape_inFrame (e : EscapeText) (c : Char) :
    (t.inFrame x).stepEscape e c = (t.stepEscape e c).map (inFrame · x) := by
  simp only [stepEscape, isBlank_inFrame, inFrame_flags]
  refine map_ite rfl (map_bind fun s => ?_)
  cases s <;> rfl

theorem stepCount_inFrame (u : CountText) (c : Char) :
    (t.inFrame x).stepCount u c = (t.stepCount u c).map (inFrame · x) := by
  simp only [stepCount, isBlank_inFrame]
  refine map_ite rfl (map_bind fun s => ?_)
  cases s <;> rfl

theorem stepEdgeOpen_inFrame (c : Char) :
    (t.inFrame x).stepEdgeOpen c = (t.stepEdgeOpen c).map (inFrame · x) := by
  simp only [stepEdgeOpen, isBlank_inFrame]
  exact map_ite rfl (map_ite rfl (stepCount_inFrame t.wordBoundary x .before c))

theorem stepEdgeName_inFrame (name : List Char) (c : Char) :
    (t.inFrame x).stepEdgeName name c = (t.stepEdgeName name c).map (inFrame · x) := by
  simp only [stepEdgeName, isBlank_inFrame, inFrame_flags]
  refine map_ite rfl (map_ite rfl (map_ite ?_ rfl))
  cases edgeOfName? t.flags.unicode (String.ofList name.reverse) <;> rfl

theorem stepBrackets_inFrame (u : ClassText) (c : Char) :
    (t.inFrame x).stepBrackets u c = (t.stepBrackets u c).map (inFrame · x) := by
  simp only [stepBrackets, isBlank_inFrame, inFrame_flags]
  refine map_ite rfl (map_bind fun s => ?_)
  cases s <;> rfl

theorem stepComment_inFrame (c : Char) :
    (t.inFrame x).stepComment c = (t.stepComment c).map (inFrame · x) := by
  simp only [stepComment, inFrame_mode, inFrame_flags]
  cases t.mode with
  | brackets u => exact map_bind fun u => rfl
  | _ => rfl

variable {t} in
/-- A character that does not open or close a group is read alike in every frame. -/
theorem step_inFrame {c : Char} (hm : t.mode.isOpen = true ∨ t.mode.absorbs = true)
    (hc : c ≠ '(' ∧ c ≠ ')' ∨ t.mode.absorbs = true) :
    (t.inFrame x).step c = (t.step c).map (inFrame · x) := by
  simp only [step, inFrame_inComment, inFrame_mode]
  refine map_ite (stepComment_inFrame t x c) ?_
  cases hmode : t.mode with
  | item =>
    simp only [hmode, Mode.absorbs, Bool.false_eq_true, or_false] at hc
    exact stepItem_inFrame x hc.1 hc.2
  | repetition times spaced =>
    simp only [hmode, Mode.absorbs, Bool.false_eq_true, or_false] at hc
    exact stepRepetition_inFrame x hc.1 hc.2 times spaced
  | escape e => exact stepEscape_inFrame t x e c
  | edge =>
    simp only [hmode, Mode.absorbs, Bool.false_eq_true, or_false] at hc
    exact map_ite rfl (stepItem_inFrame (t := t.wordBoundary) x hc.1 hc.2)
  | edgeOpen => exact stepEdgeOpen_inFrame t x c
  | edgeName name => exact stepEdgeName_inFrame t x name c
  | count u => exact stepCount_inFrame t x u c
  | brackets u => exact stepBrackets_inFrame t x u c
  | groupOpen | groupMark | groupP | groupAngle | groupName | groupFlags =>
    simp [hmode, Mode.isOpen, Mode.absorbs] at hm

end

/-! ## Where reading stands -/

/-- Whatever a reading gives has a mode of some kind; flags and comments are as before, and nothing
comes in that has groups. -/
def Gives (t : PatternText) (kind : Mode → Bool) (m : Except Error PatternText) : Prop :=
  ∀ u, m = .ok u → u.flags = t.flags ∧ u.inComment = t.inComment ∧ kind u.mode = true ∧
    (t.level.GroupFree → u.level.GroupFree)

section

variable {t : PatternText} {kind : Mode → Bool}

theorem Gives.ok {u : PatternText} (hf : u.flags = t.flags) (hc : u.inComment = t.inComment)
    (hm : kind u.mode = true) (hq : t.level.GroupFree → u.level.GroupFree) :
    Gives t kind (.ok u) := by
  intro v hv
  obtain rfl := Except.ok.inj hv
  exact ⟨hf, hc, hm, hq⟩

theorem Gives.error (e : Error) : Gives t kind (.error e) := by
  intro v hv
  simp at hv

theorem Gives.ite {p : Prop} [Decidable p] {a b : Except Error PatternText}
    (ha : p → Gives t kind a) (hb : ¬p → Gives t kind b) :
    Gives t kind (if p then a else b) := by
  split
  next h => exact ha h
  next h => exact hb h

theorem Gives.bind {α : Type} {m : Except Error α} {k : α → Except Error PatternText}
    (h : ∀ a, m = .ok a → Gives t kind (k a)) : Gives t kind (m >>= k) := by
  cases m with
  | error e => exact Gives.error e
  | ok a => exact h a rfl

/-- What is given from a later state is given from an earlier one. -/
theorem Gives.after {u : PatternText} (hf : u.flags = t.flags) (hc : u.inComment = t.inComment)
    (hq : t.level.GroupFree → u.level.GroupFree) {m : Except Error PatternText}
    (h : u.Gives kind m) : t.Gives kind m := by
  intro v hv
  obtain ⟨hf', hc', hm', hq'⟩ := h v hv
  exact ⟨hf'.trans hf, hc'.trans hc, hm', fun h => hq' (hq h)⟩

theorem Gives.foldlM {kind' : Mode → Bool} {m : Except Error PatternText} {text : List Char}
    (h : t.Gives kind' m) (hr : ∀ u, m = .ok u → u.flags = t.flags → u.inComment = t.inComment →
      kind' u.mode = true → u.Gives kind (text.foldlM step u)) :
    t.Gives kind (m >>= fun u => text.foldlM step u) :=
  Gives.bind fun u hu =>
    have ⟨hf, hc, hm, hq⟩ := h u hu
    Gives.after hf hc hq (hr u hu hf hc hm)

theorem gives_repeatLast (times : Times) (lazy : Bool) :
    Gives t Mode.isItem (t.repeatLast times lazy) := by
  unfold repeatLast
  cases hi : t.level.items with
  | nil => exact Gives.error _
  | cons i items =>
    refine Gives.ite (fun _ => Gives.ok rfl rfl rfl fun hq => ?_) fun _ => Gives.error _
    have hall := List.forall_mem_cons.1 (hi ▸ hq.1)
    exact ⟨List.forall_mem_cons.2 ⟨Expr.GroupFree.repeated hall.1 _ _, hall.2⟩, hq.2⟩

/-- Without verbose flags, no character is a blank. -/
theorem isBlank_eq_false (hv : t.flags.verbose = false) (c : Char) : t.isBlank c = false := by
  rw [isBlank, hv, Bool.false_and]

theorem Gives.behind {c : Char} {u : PatternText} (hf : u.flags = t.flags)
    (hc : u.inComment = t.inComment) (hm : u.mode.isOpen = true) (hne : c ≠ '\\')
    (hq : t.level.GroupFree → u.level.GroupFree) : Gives t (Mode.isBehind c) (.ok u) :=
  Gives.ok hf hc (by rw [Mode.isBehind, if_neg hne, hm]) hq

theorem push_groupFree {e : Expr} (he : e.GroupFree) {height : Nat} {repeatable : Bool}
    (hq : t.level.GroupFree) : (t.push ⟨e, height, repeatable⟩).level.GroupFree := hq.push he

theorem groupFree_of_dot {f : Flags} {e : Expr} (h : f.dot = .ok e) : e.GroupFree := by
  unfold Flags.dot at h
  split at h
  · simp at h
  · split at h
    · obtain rfl := Except.ok.inj h
      exact Expr.GroupFree.ofClass _ _
    · split at h
      all_goals
        obtain rfl := Except.ok.inj h
        exact Expr.GroupFree.ofClass _ _

theorem gives_stepItem (hv : t.flags.verbose = false) {c : Char} (h₁ : c ≠ '(') (h₂ : c ≠ ')') :
    Gives t (Mode.isBehind c) (t.stepItem c) := by
  simp only [stepItem, isBlank_eq_false hv, if_neg h₁, if_neg h₂, Bool.false_eq_true, if_false]
  by_cases hb : c = '\\'
  · subst hb
    exact Gives.ok rfl rfl rfl id
  · refine Gives.ite (fun _ => .behind rfl rfl rfl hb Level.GroupFree.nextBranch) fun _ =>
      Gives.ite (fun _ => .behind rfl rfl rfl hb id) fun _ =>
      Gives.ite (fun _ => .behind rfl rfl rfl hb id) fun _ =>
      Gives.ite (fun _ => .behind rfl rfl rfl hb id) fun _ =>
      Gives.ite (fun _ => .behind rfl rfl rfl hb id) fun _ =>
      Gives.ite (fun _ => .behind rfl rfl rfl hb id) fun _ =>
      Gives.ite (fun h => absurd h hb) fun _ =>
      Gives.ite (fun _ => Gives.bind fun e he => ?_) fun _ =>
      Gives.ite (fun _ => .behind rfl rfl rfl hb (push_groupFree (.look _))) fun _ =>
      Gives.ite (fun _ => .behind rfl rfl rfl hb (push_groupFree (.look _))) fun _ =>
      .behind rfl rfl rfl hb (push_groupFree (.ofClass _ _))
    exact .behind rfl rfl rfl hb (push_groupFree (groupFree_of_dot he))

theorem gives_stepRepetition (hv : t.flags.verbose = false) {c : Char} (h₁ : c ≠ '(')
    (h₂ : c ≠ ')') (times : Times) (spaced : Bool) :
    Gives t (Mode.isBehind c) (t.stepRepetition times spaced c) := by
  simp only [stepRepetition, isBlank_eq_false hv, Bool.and_false, Bool.false_eq_true, if_false]
  refine Gives.ite (fun hc u hu => ?_) fun _ => Gives.bind fun v hr => ?_
  · obtain ⟨hf, hc', hm, hq⟩ := gives_repeatLast times true u hu
    refine ⟨hf, hc', ?_, hq⟩
    rw [Mode.isBehind, if_neg (by rw [hc]; decide)]
    rw [Mode.eq_item hm]
    rfl
  · obtain ⟨hf, hc, -, hq⟩ := gives_repeatLast times false v hr
    exact Gives.after hf hc hq (gives_stepItem (by rw [hf, hv]) h₁ h₂)

theorem gives_stepEdge (hv : t.flags.verbose = false) {c : Char} (h₁ : c ≠ '(')
    (h₂ : c ≠ ')') : Gives t (Mode.isBehind c) (t.stepEdge c) := by
  unfold stepEdge
  refine Gives.ite (fun hc => ?_) fun _ => ?_
  · exact .behind rfl rfl rfl (by rw [hc]; decide) id
  · have hg : t.wordBoundary.Gives (Mode.isBehind c) (t.wordBoundary.stepItem c) :=
      gives_stepItem (t := t.wordBoundary) hv h₁ h₂
    exact Gives.after (t := t) (u := t.wordBoundary) rfl rfl (push_groupFree (.look _)) hg

theorem gives_stepEscape (hv : t.flags.verbose = false) (e : EscapeText) (c : Char) :
    Gives t Mode.isOpen (t.stepEscape e c) := by
  simp only [stepEscape, isBlank_eq_false hv, Bool.and_false, Bool.false_eq_true, if_false]
  refine Gives.bind fun s hs => ?_
  cases s with
  | more e' =>
    cases e' with
    | start => exact absurd hs (EscapeText.step_ne_start _ _ _)
    | numberStart | digits | number | property | propertyName => exact Gives.ok rfl rfl rfl id
  | literal d => exact Gives.ok rfl rfl rfl (push_groupFree (.ofClass _ _))
  | set s => exact Gives.ok rfl rfl rfl (push_groupFree (.ofClass _ _))
  | look l => exact Gives.ok rfl rfl rfl (push_groupFree (.look l))
  | wordBoundary => exact Gives.ok rfl rfl rfl id

theorem gives_stepCount (hv : t.flags.verbose = false) (v : CountText) (c : Char) :
    Gives t Mode.isOpen (t.stepCount v c) := by
  simp only [stepCount, isBlank_eq_false hv, Bool.false_eq_true, if_false]
  refine Gives.bind fun s _ => ?_
  cases s <;> exact Gives.ok rfl rfl rfl id

theorem gives_stepEdgeOpen (hv : t.flags.verbose = false) (c : Char) :
    Gives t Mode.isOpen (t.stepEdgeOpen c) := by
  simp only [stepEdgeOpen, isBlank_eq_false hv, Bool.false_eq_true, if_false]
  refine Gives.ite (fun _ => Gives.ok rfl rfl rfl id) fun _ => ?_
  have hg : t.wordBoundary.Gives Mode.isOpen (t.wordBoundary.stepCount .before c) :=
    gives_stepCount (t := t.wordBoundary) hv .before c
  exact Gives.after (t := t) (u := t.wordBoundary) rfl rfl (push_groupFree (.look _)) hg

theorem gives_stepEdgeName (hv : t.flags.verbose = false) (name : List Char) (c : Char) :
    Gives t Mode.isOpen (t.stepEdgeName name c) := by
  simp only [stepEdgeName, isBlank_eq_false hv, Bool.false_eq_true, if_false]
  refine Gives.ite (fun _ => Gives.ok rfl rfl rfl id) fun _ => Gives.ite (fun _ => ?_) fun _ =>
    Gives.error _
  cases edgeOfName? t.flags.unicode (String.ofList name.reverse) with
  | none => exact Gives.error _
  | some l => exact Gives.ok rfl rfl rfl (push_groupFree (.look l))

theorem gives_stepBrackets (hv : t.flags.verbose = false) (v : ClassText) (c : Char) :
    Gives t Mode.isOpen (t.stepBrackets v c) := by
  simp only [stepBrackets, isBlank_eq_false hv, Bool.and_false, Bool.false_eq_true, if_false]
  refine Gives.bind fun s _ => ?_
  cases s with
  | inl u => exact Gives.ok rfl rfl rfl id
  | inr d => exact Gives.ok rfl rfl rfl (push_groupFree (.ofClass _ _))

/-- In what absorbs parentheses, any character may end an escape. -/
theorem gives_step_of_absorbs (hv : t.flags.verbose = false) (hc : t.inComment = false)
    (hm : t.mode.absorbs = true) (c : Char) : Gives t Mode.isOpen (t.step c) := by
  simp only [step, hc, Bool.false_eq_true, if_false]
  cases hmode : t.mode with
  | escape e => exact gives_stepEscape hv e c
  | edgeOpen => exact gives_stepEdgeOpen hv c
  | edgeName name => exact gives_stepEdgeName hv name c
  | count v => exact gives_stepCount hv v c
  | brackets v => exact gives_stepBrackets hv v c
  | item | repetition | edge | groupOpen | groupMark | groupP | groupAngle | groupName
  | groupFlags => simp [hmode, Mode.absorbs] at hm

/-- Behind a backslash, a parenthesis is absorbed. -/
theorem gives_step_backslash (hv : t.flags.verbose = false) (hc : t.inComment = false)
    (hm : t.mode.isOpen = true) : Gives t Mode.absorbs (t.step '\\') := by
  simp only [step, hc, Bool.false_eq_true, if_false]
  cases hmode : t.mode with
  | item => exact gives_stepItem (c := '\\') hv (by decide) (by decide)
  | repetition times spaced =>
    exact gives_stepRepetition (c := '\\') hv (by decide) (by decide) times spaced
  | edge => exact gives_stepEdge (c := '\\') hv (by decide) (by decide)
  | escape e =>
    have he : e ≠ .start := by
      rintro rfl
      simp [hmode, Mode.isOpen] at hm
    simp only [stepEscape, isBlank_eq_false hv, Bool.and_false, Bool.false_eq_true, if_false]
    refine Gives.bind fun s hs => ?_
    obtain ⟨negated, name, rfl⟩ := EscapeText.step_backslash he hs
    exact Gives.ok rfl rfl rfl id
  | edgeOpen =>
    simp only [stepEdgeOpen, stepCount, wordBoundary, pushLook, push, isBlank, hv,
      CountText.step_backslash, Bool.false_and, Bool.false_eq_true, if_false]
    rw [if_neg (by decide)]
    exact Gives.error _
  | edgeName name =>
    simp only [stepEdgeName, isBlank_eq_false hv, Bool.false_eq_true, if_false]
    rw [if_neg (by decide), if_neg (by decide)]
    exact Gives.error _
  | count v =>
    simp only [stepCount, isBlank_eq_false hv, CountText.step_backslash, Bool.false_eq_true,
      if_false]
    exact Gives.error _
  | brackets v =>
    simp only [stepBrackets, isBlank_eq_false hv, Bool.and_false, Bool.false_eq_true, if_false]
    refine Gives.bind fun s hs => ?_
    cases s with
    | inl u => exact Gives.ok rfl rfl rfl id
    | inr d => exact absurd hs (ClassText.step_ne_inr (by decide) _ _)
  | groupOpen | groupMark | groupP | groupAngle | groupName | groupFlags =>
    simp [hmode, Mode.isOpen] at hm

/-- A character that is neither a backslash nor a parenthesis leaves the reading open. -/
theorem gives_step_char (hv : t.flags.verbose = false) (hc : t.inComment = false)
    (hm : t.mode.isOpen = true) {c : Char} (h₁ : c ≠ '\\') (h₂ : c ≠ '(') (h₃ : c ≠ ')') :
    Gives t Mode.isOpen (t.step c) := by
  have hkind : Mode.isBehind c = Mode.isOpen := by
    funext m
    rw [Mode.isBehind, if_neg h₁]
  cases hmode : t.mode with
  | item =>
    simp only [step, hc, hmode, Bool.false_eq_true, if_false]
    exact hkind ▸ gives_stepItem hv h₂ h₃
  | repetition times spaced =>
    simp only [step, hc, hmode, Bool.false_eq_true, if_false]
    exact hkind ▸ gives_stepRepetition hv h₂ h₃ times spaced
  | edge =>
    simp only [step, hc, hmode, Bool.false_eq_true, if_false]
    exact hkind ▸ gives_stepEdge hv h₂ h₃
  | escape | edgeOpen | edgeName | count | brackets =>
    exact gives_step_of_absorbs hv hc (by rw [hmode]; rfl) c
  | groupOpen | groupMark | groupP | groupAngle | groupName | groupFlags =>
    simp [hmode, Mode.isOpen] at hm

end

/-! ## Whole texts -/

/-- An enclosable text leaves the reading open. -/
theorem gives_foldlM {pattern : List Char} (h : Enclosable pattern) {t : PatternText}
    (hv : t.flags.verbose = false) (hc : t.inComment = false) (hm : t.mode.isOpen = true) :
    Gives t Mode.isOpen (pattern.foldlM step t) := by
  induction h generalizing t with
  | nil => exact Gives.ok rfl rfl hm id
  | char h₁ h₂ h₃ _ ih =>
    rw [List.foldlM_cons]
    exact (gives_step_char hv hc hm h₁ h₂ h₃).foldlM fun u _ hf hcu hmu =>
      ih (hf ▸ hv) (hcu ▸ hc) hmu
  | @escape c rest _ ih =>
    rw [List.foldlM_cons]
    refine (gives_step_backslash hv hc hm).foldlM fun u _ hf hcu hmu => ?_
    rw [List.foldlM_cons]
    exact (gives_step_of_absorbs (hf ▸ hv) (hcu ▸ hc) hmu c).foldlM fun v _ hf' hcv hmv =>
      ih (hf' ▸ hf ▸ hv) (hcv ▸ hcu ▸ hc) hmv

/-- An enclosable text is read alike in every frame. -/
theorem foldlM_inFrame {pattern : List Char} (h : Enclosable pattern) {t : PatternText}
    (hv : t.flags.verbose = false) (hc : t.inComment = false) (hm : t.mode.isOpen = true)
    (x : Frame) :
    pattern.foldlM step (t.inFrame x) = (pattern.foldlM step t).map (inFrame · x) := by
  induction h generalizing t with
  | nil => rfl
  | @char c rest h₁ h₂ h₃ _ ih =>
    have hg := gives_step_char hv hc hm h₁ h₂ h₃
    rw [List.foldlM_cons, List.foldlM_cons, step_inFrame x (.inl hm) (.inl ⟨h₂, h₃⟩)]
    cases hs : t.step c with
    | error e => rfl
    | ok u =>
      obtain ⟨hf, hcu, hmu, -⟩ := hg u hs
      exact ih (hf ▸ hv) (hcu ▸ hc) hmu
  | @escape c rest _ ih =>
    have hg := gives_step_backslash hv hc hm
    rw [List.foldlM_cons, List.foldlM_cons,
      step_inFrame x (.inl hm) (.inl ⟨by decide, by decide⟩)]
    cases hs : t.step '\\' with
    | error e => rfl
    | ok u =>
      obtain ⟨hf, hcu, hmu, -⟩ := hg u hs
      have hg' := gives_step_of_absorbs (hf ▸ hv) (hcu ▸ hc) hmu c
      simp only [Except.map, bind, Except.bind]
      rw [List.foldlM_cons, List.foldlM_cons, step_inFrame x (.inr hmu) (.inr hmu)]
      cases hs' : u.step c with
      | error e => rfl
      | ok w =>
        obtain ⟨hf', hcw, hmw, -⟩ := hg' w hs'
        exact ih (hf' ▸ hf ▸ hv) (hcw ▸ hcu ▸ hc) hmw

theorem frame_of_map_inFrame {u : PatternText} {x : Frame} {m : Except Error PatternText}
    (h : m = m.map (inFrame · x)) (hu : m = .ok u) : u.frame = x := by
  rw [hu] at h
  rw [Except.ok.inj h]
  rfl

theorem frame_of_foldlM {pattern : List Char} (h : Enclosable pattern) {t u : PatternText}
    (hv : t.flags.verbose = false) (hc : t.inComment = false) (hm : t.mode.isOpen = true)
    (hu : pattern.foldlM step t = .ok u) : u.frame = t.frame :=
  frame_of_map_inFrame (foldlM_inFrame h hv hc hm t.frame) hu

theorem frame_of_settle {t u : PatternText} (hu : t.settle = .ok u) : u.frame = t.frame :=
  frame_of_map_inFrame (settle_inFrame t t.frame) hu

/-- Reads on to the end of a text. -/
def readOn (t : PatternText) (text : List Char) : Except Error PatternText := do
  let t ← text.foldlM step t
  t.settle

/-- Reads a text by itself, as what a group may hold. -/
def readBody (f : Flags) (pattern : List Char) : Except Error Item := do
  let t ← (start f).readOn pattern
  return t.level.body

section

variable {t u : PatternText}

theorem stepItem_open (hv : t.flags.verbose = false) :
    t.stepItem '(' = .ok { t with mode := .groupOpen } := by
  rw [stepItem, isBlank_eq_false hv, if_neg Bool.false_ne_true, if_pos rfl]

theorem stepItem_close (hv : t.flags.verbose = false) : t.stepItem ')' = t.closeGroup := by
  rw [stepItem, isBlank_eq_false hv, if_neg Bool.false_ne_true, if_neg (by decide), if_pos rfl]

theorem step_close (hv : t.flags.verbose = false) (hc : t.inComment = false)
    (hm : t.mode.isOpen = true) (ha : t.mode.absorbs = false) :
    t.step ')' = (t.settle >>= closeGroup) := by
  simp only [step, hc, Bool.false_eq_true, if_false, settle]
  cases hmode : t.mode with
  | item => exact stepItem_close hv
  | repetition times spaced =>
    simp only [stepRepetition, isBlank_eq_false hv, Bool.and_false, Bool.false_eq_true, if_false]
    rw [if_neg (by decide)]
    cases hr : t.repeatLast times false with
    | error e => rfl
    | ok u => exact stepItem_close ((gives_repeatLast times false u hr).1 ▸ hv)
  | edge =>
    rw [stepEdge, if_neg (by decide)]
    exact stepItem_close (t := t.wordBoundary) hv
  | escape | edgeOpen | edgeName | count | brackets => simp [hmode, Mode.absorbs] at ha
  | groupOpen | groupMark | groupP | groupAngle | groupName | groupFlags =>
    simp [hmode, Mode.isOpen] at hm

theorem absorbs_of_settle (h : t.settle = .ok u) : t.mode.absorbs = false := by
  unfold settle at h
  cases hmode : t.mode <;> simp [hmode] at h <;> rfl

theorem gives_settle (t : PatternText) : t.Gives Mode.isItem t.settle := by
  unfold settle
  cases hmode : t.mode with
  | item => exact Gives.ok rfl rfl (by rw [hmode]; rfl) id
  | repetition times spaced => exact gives_repeatLast times false
  | edge => exact Gives.ok rfl rfl rfl (push_groupFree (.look _))
  | _ => exact Gives.error _

theorem readBody_eq_ok {f : Flags} {pattern : List Char} {b : Item} :
    readBody f pattern = .ok b ↔
      ∃ u w, pattern.foldlM step (start f) = .ok u ∧ u.settle = .ok w ∧ w.level.body = b := by
  rw [readBody, readOn, Except.bind_eq_ok_iff]
  constructor
  · rintro ⟨w, h, hb⟩
    obtain ⟨u, hu, hw⟩ := Except.bind_eq_ok_iff.1 h
    exact ⟨u, w, hu, hw, Except.ok.inj hb⟩
  · rintro ⟨u, w, hu, hw, rfl⟩
    exact ⟨w, Except.bind_eq_ok_iff.2 ⟨u, hu, hw⟩, rfl⟩

/-- A pattern that can be read by itself has no groups. -/
theorem groupFree_of_readBody {f : Flags} (hv : f.verbose = false) {pattern : List Char}
    (hp : Enclosable pattern) {b : Item} (hb : readBody f pattern = .ok b) :
    b.expr.GroupFree := by
  obtain ⟨u, w, hu, hw, rfl⟩ := readBody_eq_ok.1 hb
  have hq := (gives_foldlM hp (t := start f) hv rfl rfl u hu).2.2.2
  have hq' := (gives_settle u w hw).2.2.2
  exact (hq' (hq ⟨by simp [start], by simp [start]⟩)).body

end

end PatternText

end RouteTemplate.Regex
