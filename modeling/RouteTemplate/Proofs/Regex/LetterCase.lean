import RouteTemplate.Proofs.Regex.Reading

/-!
Reading does not depend on letter case. The shape of a reading is what is left of it if all classes
and expressions are made alike and case is not ignored. Each step of a reading gives the same shape
as from the shape itself, so `map_height_readBody` says that ignoring case changes neither whether a
pattern can be read nor how deep it is nested.
-/

namespace RouteTemplate.Regex

section

variable {α β γ δ : Type}

/-- Two readings go wrong alike or come to results that have something in common. -/
theorem map_bind_congr {p : γ → δ} {q : α → β} {m m' : Except Error γ}
    {k k' : γ → Except Error α} (hm : m.map p = m'.map p)
    (hk : ∀ c c', p c = p c' → (k c).map q = (k' c').map q) :
    (m >>= k).map q = (m' >>= k').map q := by
  cases m with
  | error e =>
    cases m' with
    | error e' => exact congrArg Except.error (Except.error.inj hm)
    | ok c' => simp [Except.map] at hm
  | ok c =>
    cases m' with
    | error e' => simp [Except.map] at hm
    | ok c' => exact hk c c' (Except.ok.inj hm)

theorem map_ite_congr {q : α → β} {p p' : Prop} [Decidable p] [Decidable p']
    {a b a' b' : Except Error α} (hp : p ↔ p') (ha : a.map q = a'.map q)
    (hb : b.map q = b'.map q) : (if p then a else b).map q = (if p' then a' else b').map q := by
  by_cases h : p
  · rw [if_pos h, if_pos (hp.1 h), ha]
  · rw [if_neg h, if_neg (mt hp.2 h), hb]

/-- What can be done alike to all things and their shapes, can be done to things of one shape. -/
theorem map_congr_of_shape {p : γ → γ} {q : α → β} {k : γ → Except Error α}
    (hk : ∀ c, (k (p c)).map q = (k c).map q) {c c' : γ} (h : p c = p c') :
    (k c).map q = (k c').map q := by
  rw [← hk c, h, hk]

end

namespace Flags

def shape (f : Flags) : Flags := { f with ignoreCase := false }

variable (f : Flags)

@[simp] theorem shape_unicode : f.shape.unicode = f.unicode := rfl

@[simp] theorem shape_verbose : f.shape.verbose = f.verbose := rfl

@[simp] theorem shape_shape : f.shape.shape = f.shape := rfl

theorem map_negate_shape (negated : Bool) (s s' : CharClass) :
    (f.shape.negate negated s).map (fun _ => ()) = (f.negate negated s').map fun _ => () := by
  unfold negate
  cases negated with
  | false => rfl
  | true =>
    rw [if_pos rfl, if_pos rfl]
    exact map_ite_congr Iff.rfl rfl rfl

theorem map_close_shape (negated : Bool) (s s' : CharClass) :
    (f.shape.close negated s).map (fun _ => ()) = (f.close negated s').map fun _ => () :=
  map_negate_shape f negated _ _

theorem map_dot_shape : f.shape.dot.map (fun _ => ()) = f.dot.map fun _ => () := by
  unfold dot
  exact map_ite_congr Iff.rfl rfl
    (map_ite_congr Iff.rfl rfl (map_ite_congr Iff.rfl rfl rfl))

theorem map_set?_shape (letter : Char) (value : Bool) :
    (f.shape.set? letter value).map shape = (f.set? letter value).map shape := by
  unfold set?
  split <;> rfl

end Flags

namespace EscapeStep

def shape : EscapeStep → EscapeStep
  | set _ => set .empty
  | s => s

theorem eq_or_of_shape {s s' : EscapeStep} (h : s.shape = s'.shape) :
    s = s' ∨ ∃ a b, s = set a ∧ s' = set b := by
  cases s with
  | set a =>
    cases s' with
    | set b => exact .inr ⟨a, b, rfl, rfl⟩
    | _ => simp [shape] at h
  | _ =>
    cases s' with
    | set b => simp [shape] at h
    | _ => exact .inl h

end EscapeStep

namespace EscapeText

variable (f : Flags)

theorem map_property?_shape (negated : Bool) (name : List Char) :
    (property? f.shape negated name).map EscapeStep.shape =
      (property? f negated name).map EscapeStep.shape := by
  unfold property?
  refine map_ite_congr Iff.rfl rfl (map_bind_congr (p := id) rfl ?_)
  rintro p _ rfl
  exact map_bind_congr (Flags.map_close_shape f _ _ _) fun _ _ _ => rfl

theorem map_stepStart_shape (c : Char) :
    (stepStart f.shape c).map EscapeStep.shape = (stepStart f c).map EscapeStep.shape := by
  unfold stepStart
  refine map_ite_congr Iff.rfl rfl (map_ite_congr Iff.rfl rfl ?_)
  cases controlLetter? c with
  | some d => rfl
  | none =>
    dsimp only
    split
    all_goals rfl

theorem map_step_shape (c : Char) (e : EscapeText) :
    (e.step f.shape c).map EscapeStep.shape = (e.step f c).map EscapeStep.shape := by
  cases e with
  | start => exact map_stepStart_shape f c
  | property negated =>
    exact map_ite_congr Iff.rfl rfl
      (map_ite_congr Iff.rfl rfl (map_property?_shape f negated [c]))
  | propertyName negated name =>
    exact map_ite_congr Iff.rfl (map_property?_shape f negated name.reverse) rfl
  | numberStart | digits | number => rfl

end EscapeText

/-! ## Classes -/

def DeepClass.shape (d : DeepClass) : DeepClass := ⟨.empty, d.height⟩

def ClassLevel.shape (l : ClassLevel) : ClassLevel :=
  { l with left := l.left.map fun p => (p.1, p.2.shape), members := .empty }

def Member.shape : Member → Member
  | .char c => .char c
  | .set _ => .set .empty

def ClassMode.shape : ClassMode → ClassMode
  | .member m => .member m.shape
  | .hyphen m spaced => .hyphen m.shape spaced
  | .remark m => .remark m.shape
  | .escape low e => .escape (low.map Member.shape) e
  | m => m

def ClassText.shape (t : ClassText) : ClassText :=
  { level := t.level.shape, outer := t.outer.map ClassLevel.shape, mode := t.mode.shape }

@[simp] theorem DeepClass.shape_shape (d : DeepClass) : d.shape.shape = d.shape := rfl

@[simp] theorem Member.shape_shape (m : Member) : m.shape.shape = m.shape := by cases m <;> rfl

namespace ClassLevel

variable (l : ClassLevel)

@[simp] theorem shape_shape : l.shape.shape = l.shape := by
  cases h : l.left <;> simp [shape, h]

theorem shape_add (s : CharClass) (height : Nat) : (l.add s height).shape =
    { l.shape with count := l.count + 1, height := max l.height height } := rfl

@[simp] theorem shape_count : l.shape.count = l.count := rfl

@[simp] theorem shape_height : l.shape.height = l.height := rfl

theorem combined_shape (f : Flags) :
    (l.shape.combined f.shape).shape = (l.combined f).shape := by
  cases h : l.left <;> simp [shape, combined, last, DeepClass.shape, h]

theorem shape_operate (f : Flags) (op : SetOp) :
    (l.shape.operate f.shape op).shape = (l.operate f op).shape := by
  exact congrArg (fun d => ({ negated := l.negated, text := l.text, left := some (op, d) } :
    ClassLevel)) (combined_shape l f)

end ClassLevel

@[simp] theorem ClassMode.shape_shape (m : ClassMode) : m.shape.shape = m.shape := by
  cases m with
  | escape low e => cases low <;> simp [shape]
  | _ => simp [shape]

namespace ClassText

@[simp] theorem shape_shape (t : ClassText) : t.shape.shape = t.shape := by
  simp [shape]

variable (f : Flags) (c : Char) (t : ClassText)

/-- The shape of a reading that goes on or is finished. -/
def resultShape : ClassText ⊕ DeepClass → ClassText ⊕ DeepClass :=
  Sum.map shape DeepClass.shape

theorem map_addMember_shape (m : Member) :
    (t.shape.addMember f.shape m.shape).map shape = (t.addMember f m).map shape := by
  cases m with
  | set s => simp [Member.shape, addMember, Except.map, shape, ClassLevel.shape_add]
  | char c =>
    refine map_bind_congr (p := fun _ => ()) ?_ fun s s' _ => ?_
    · unfold charClass
      exact map_ite_congr Iff.rfl rfl rfl
    · simp [pure, Except.pure, Except.map, shape, ClassLevel.shape_add]

theorem map_addRange_shape (m : Member) :
    (t.shape.addRange f.shape m.shape c).map shape = (t.addRange f m c).map shape := by
  cases m with
  | set s => rfl
  | char d =>
    refine map_ite_congr Iff.rfl rfl (map_ite_congr Iff.rfl rfl ?_)
    simp [Except.map, shape, ClassLevel.shape_add]

theorem map_close_shape :
    (t.shape.close f.shape).map resultShape = (t.close f).map resultShape := by
  have hshape := congrArg DeepClass.height (ClassLevel.combined_shape t.level f)
  have hwhole : (t.level.shape.combined f.shape).height = (t.level.combined f).height := hshape
  unfold close
  cases ho : t.outer with
  | nil =>
    simp only [shape, ho, List.map_nil]
    refine map_bind_congr (Flags.map_close_shape f _ _ _) fun _ _ _ => ?_
    simp [pure, Except.pure, Except.map, resultShape, DeepClass.shape, hwhole]
  | cons l outer =>
    simp only [shape, ho, List.map_cons]
    have hnamed : t.level.shape.named? = t.level.named? := rfl
    rw [hnamed]
    cases t.level.named? with
    | some p =>
      refine map_bind_congr (Flags.map_close_shape f _ _ _) fun _ _ _ => ?_
      simp [pure, Except.pure, Except.map, resultShape, shape, ClassLevel.shape_add]
    | none =>
      refine map_bind_congr (Flags.map_close_shape f _ _ _) fun _ _ _ => ?_
      simp [pure, Except.pure, Except.map, resultShape, shape, ClassLevel.shape_add, hwhole]

theorem map_stepBetween_shape :
    (t.shape.stepBetween f.shape c).map resultShape = (t.stepBetween f c).map resultShape := by
  refine map_ite_congr Iff.rfl ?_ (map_ite_congr Iff.rfl (map_close_shape f t)
    (map_ite_congr Iff.rfl ?_ (map_ite_congr Iff.rfl ?_ ?_)))
  all_goals simp [Except.map, resultShape, shape, ClassMode.shape, Member.shape]

theorem map_stepLeading_shape (hyphen : Bool) :
    (t.shape.stepLeading f.shape hyphen c).map resultShape =
      (t.stepLeading f hyphen c).map resultShape := by
  refine map_ite_congr Iff.rfl ?_ (map_ite_congr Iff.rfl ?_ (map_stepBetween_shape f c t))
  all_goals simp [Except.map, resultShape, shape, ClassMode.shape, ClassLevel.shape_add]

/-- From readings of one shape, what comes next has one shape. -/
theorem map_congr_shape {k : Flags → ClassText → Except Error (ClassText ⊕ DeepClass)}
    (hk : ∀ f t, (k f.shape t.shape).map resultShape = (k f t).map resultShape)
    {u u' : ClassText} (h : u.shape = u'.shape) :
    (k f.shape u).map resultShape = (k f u').map resultShape := by
  rw [← hk f u', ← h]
  exact (hk f.shape u).symm

theorem map_stepMember_shape (m : Member) :
    (t.shape.stepMember f.shape m.shape c).map resultShape =
      (t.stepMember f m c).map resultShape := by
  refine map_ite_congr Iff.rfl ?_ (map_bind_congr (map_addMember_shape f t m) fun u u' hu => ?_)
  · simp [Except.map, resultShape, shape, ClassMode.shape]
  · exact map_congr_shape (k := fun f t => stepBetween f c t) f
      (fun f t => map_stepBetween_shape f c t) hu

theorem map_addMember_congr (m : Member) {u u' : ClassText} (h : u.shape = u'.shape) :
    (u.addMember f.shape m.shape).map shape = (u'.addMember f m).map shape := by
  rw [← map_addMember_shape f u', ← h]
  have hu := map_addMember_shape f.shape u m.shape
  rw [Member.shape_shape] at hu
  exact hu.symm

theorem map_inl_shape {m m' : Except Error ClassText} (h : m.map shape = m'.map shape) :
    (Sum.inl <$> m : Except Error (ClassText ⊕ DeepClass)).map resultShape =
      (Sum.inl <$> m').map resultShape := by
  cases m <;> cases m' <;> simp_all [Except.map, Functor.map, resultShape]

theorem map_stepHyphen_shape (m : Member) (spaced : Bool) :
    (t.shape.stepHyphen f.shape m.shape spaced c).map resultShape =
      (t.stepHyphen f m spaced c).map resultShape := by
  refine map_ite_congr Iff.rfl ?_ (map_ite_congr Iff.rfl ?_ (map_ite_congr Iff.rfl ?_ ?_))
  · refine map_bind_congr (map_addMember_shape f t m) fun u u' hu => ?_
    refine map_bind_congr (map_addMember_congr f (.char '-') hu) fun v v' hv => ?_
    exact map_congr_shape f (fun f t => map_close_shape f t) hv
  · refine map_bind_congr (map_addMember_shape f t m) fun u u' hu => ?_
    have hlevel : u.level.shape = u'.level.shape := congrArg level hu
    have houter : u.outer.map ClassLevel.shape = u'.outer.map ClassLevel.shape :=
      congrArg outer hu
    cases spaced with
    | true =>
      simp [pure, Except.pure, Except.map, resultShape, shape, ClassMode.shape, hlevel, houter]
    | false =>
      have hop : (u.level.operate f.shape .diff).shape = (u'.level.operate f .diff).shape := by
        rw [← ClassLevel.shape_operate u'.level f, ← hlevel]
        exact (ClassLevel.shape_operate u.level f.shape .diff).symm
      simp [pure, Except.pure, Except.map, resultShape, shape, ClassMode.shape, houter, hop]
  · simp [Except.map, resultShape, shape, ClassMode.shape]
  · exact map_inl_shape (map_addRange_shape f c t m)

theorem map_stepEscape_shape (low : Option Member) (e : EscapeText) :
    (t.shape.stepEscape f.shape (low.map Member.shape) e c).map resultShape =
      (t.stepEscape f low e c).map resultShape := by
  refine map_bind_congr (EscapeText.map_step_shape f c e) fun s s' hs => ?_
  obtain rfl | ⟨a, b, rfl, rfl⟩ := EscapeStep.eq_or_of_shape hs
  · cases s with
    | literal d =>
      cases low with
      | none => simp [pure, Except.pure, Except.map, resultShape, shape, ClassMode.shape]
      | some m => exact map_inl_shape (map_addRange_shape f d t m)
    | set a =>
      cases low with
      | none => simp [pure, Except.pure, Except.map, resultShape, shape, ClassMode.shape]
      | some m => rfl
    | more e =>
      cases low <;> simp [pure, Except.pure, Except.map, resultShape, shape, ClassMode.shape]
    | look l => cases low <;> rfl
    | wordBoundary => cases low <;> rfl
  · cases low with
    | none =>
      simp [pure, Except.pure, Except.map, resultShape, shape, ClassMode.shape, Member.shape]
    | some m => rfl

theorem map_stepMode_shape :
    (t.shape.stepMode f.shape c).map resultShape = (t.stepMode f c).map resultShape := by
  unfold stepMode
  have hmode : t.shape.mode = t.mode.shape := rfl
  rw [hmode]
  cases hm : t.mode with
  | opening =>
    refine map_ite_congr Iff.rfl ?_ (map_stepLeading_shape f c t false)
    have hneg : ({ t.level.shape with negated := true } : ClassLevel).shape =
        ({ t.level with negated := true } : ClassLevel).shape := by
      cases h : t.level.left <;> simp [ClassLevel.shape, h]
    simp only [Except.map, resultShape, Sum.map_inl, Except.ok.injEq, Sum.inl.injEq]
    simpa [shape, ClassMode.shape] using hneg
  | leading hyphen => exact map_stepLeading_shape f c t hyphen
  | between => exact map_stepBetween_shape f c t
  | sign s =>
    refine map_ite_congr Iff.rfl ?_ (map_stepMember_shape f c t (.char s))
    have hop := ClassLevel.shape_operate t.level f (.ofSign s)
    simp [Except.map, resultShape, shape, ClassMode.shape, hop]
  | member m => exact map_stepMember_shape f c t m
  | hyphen m spaced => exact map_stepHyphen_shape f c t m spaced
  | remark m => exact map_stepHyphen_shape f c t m true
  | escape low e => exact map_stepEscape_shape f c t low e

theorem map_step_shape :
    (t.shape.step f.shape c).map resultShape = (t.step f c).map resultShape := by
  refine map_ite_congr Iff.rfl (map_bind_congr (map_stepMode_shape f c t) fun s s' hs => ?_)
    (map_stepMode_shape f c (t.note c))
  cases s with
  | inl u =>
    cases s' with
    | inl u' =>
      have hu : u.shape = u'.shape := Sum.inl.inj hs
      have hnote : (u.note c).shape = (u'.note c).shape := congrArg (note c) hu
      have houter : u.outer.length = u'.outer.length := by
        have ho := congrArg List.length (congrArg outer hu)
        simpa [shape] using ho
      have ht : t.shape.outer.length = t.outer.length := by simp [shape]
      simp only [pure, Except.pure, Except.map, resultShape, Sum.map_inl, ht, houter]
      split
      · rw [hnote]
      · rw [hu]
    | inr d => simp [resultShape] at hs
  | inr d =>
    cases s' with
    | inl u' => simp [resultShape] at hs
    | inr d' => exact congrArg Except.ok hs

theorem map_comment_shape :
    (t.shape.comment f.shape c).map shape = (t.comment f c).map shape := by
  unfold comment
  have hmode : t.shape.mode = t.mode.shape := rfl
  rw [hmode]
  cases t.mode with
  | remark m =>
    refine map_ite_congr Iff.rfl ?_ (map_ite_congr Iff.rfl ?_ ?_)
    · simp [Except.map]
    · refine map_bind_congr (map_addMember_shape f t m) fun u u' hu => ?_
      have hlevel : u.level.shape = u'.level.shape := congrArg level hu
      have houter : u.outer.map ClassLevel.shape = u'.outer.map ClassLevel.shape :=
        congrArg outer hu
      simp [pure, Except.pure, Except.map, shape, ClassMode.shape, hlevel, houter]
    · simp [Except.map, shape, ClassMode.shape]
  | _ => simp [Except.map, ClassMode.shape]

theorem skipsBlanks_shape : t.shape.skipsBlanks = t.skipsBlanks := by
  have hmode : t.shape.mode = t.mode.shape := rfl
  rw [skipsBlanks, skipsBlanks, hmode]
  cases t.mode <;> rfl

theorem shape_blank : (t.shape.blank c).shape = (t.blank c).shape := by
  have hmode : (t.shape.note c).mode = t.mode.shape := rfl
  have hmode' : (t.note c).mode = t.mode := rfl
  have hnote : (t.shape.note c).level.shape = (t.note c).level.shape := by
    cases h : t.level.left <;> simp [note, shape, ClassLevel.shape, h]
  have houter : (t.shape.note c).outer.map ClassLevel.shape =
      (t.note c).outer.map ClassLevel.shape := by
    simp [note, shape]
  unfold blank
  dsimp only
  rw [hmode, hmode']
  generalize t.shape.note c = u at *
  generalize t.note c = u' at *
  cases hm : t.mode with
  | hyphen m spaced =>
    by_cases hc : c = '#' <;> simp [shape, ClassMode.shape, hc, hnote, houter]
  | remark m => by_cases hc : c = '#' <;> simp [shape, ClassMode.shape, hc, hnote, houter]
  | escape low e => cases low <;> simp_all [shape, ClassMode.shape]
  | _ => simp_all [shape, ClassMode.shape]

end ClassText

/-! ## Patterns -/

def Item.shape (i : Item) : Item := { i with expr := .empty }

def Level.shape (l : Level) : Level :=
  { l with flags := l.flags.shape, branches := l.branches.map Item.shape,
           items := l.items.map Item.shape }

def FlagText.shape (t : FlagText) : FlagText := { t with flags := t.flags.shape }

def Mode.shape : Mode → Mode
  | .groupFlags t => .groupFlags t.shape
  | .brackets t => .brackets t.shape
  | m => m

def PatternText.shape (t : PatternText) : PatternText :=
  { t with level := t.level.shape, outer := t.outer.map Level.shape, flags := t.flags.shape,
           mode := t.mode.shape }

@[simp] theorem Item.shape_shape (i : Item) : i.shape.shape = i.shape := rfl

@[simp] theorem Level.shape_shape (l : Level) : l.shape.shape = l.shape := by
  simp [Level.shape, Function.comp_def]

@[simp] theorem FlagText.shape_shape (t : FlagText) : t.shape.shape = t.shape := rfl

@[simp] theorem Mode.shape_shape (m : Mode) : m.shape.shape = m.shape := by
  cases m <;> simp [shape]

namespace Level

variable (l : Level)

theorem shape_push {i i' : Item} (h : i.shape = i'.shape) :
    (l.shape.push i).shape = (l.push i').shape := by
  simp [shape, push, h, Function.comp_def]

theorem shape_branch : l.shape.branch.shape = l.branch.shape := by
  simp [shape, branch, Item.shape, Function.comp_def]

theorem shape_nextBranch : l.shape.nextBranch.shape = l.nextBranch.shape := by
  have hb := shape_branch l
  simp only [nextBranch, shape, List.map_cons, List.map_map, List.map_nil] at hb ⊢
  rw [hb]
  simp [Function.comp_def]

theorem shape_body : l.shape.body.shape = l.body.shape := by
  have hb := shape_branch l
  have hbs : l.shape.branches.map Item.shape = l.branches.map Item.shape := by
    simp [shape, Function.comp_def]
  have hall : (l.shape.branch :: l.shape.branches).reverse.map Item.shape =
      (l.branch :: l.branches).reverse.map Item.shape := by
    rw [List.map_reverse, List.map_reverse, List.map_cons, List.map_cons, hb, hbs]
  unfold body
  generalize (l.shape.branch :: l.shape.branches).reverse = a at hall
  generalize (l.branch :: l.branches).reverse = b at hall
  have hheights : a.map Item.height = b.map Item.height := by
    simpa [Function.comp_def, Item.shape] using congrArg (List.map Item.height) hall
  rcases a with _ | ⟨i, _ | ⟨j, a⟩⟩ <;> rcases b with _ | ⟨i', _ | ⟨j', b⟩⟩ <;> simp at hall
  · exact hb
  · exact hall
  · exact congrArg (fun hs => Item.mk .empty (hs.foldr max 0 + 1) true) hheights

theorem shape_close : l.shape.close.shape = l.close.shape := by
  have hs := congrArg Item.height (shape_body l)
  have hb : l.shape.body.height = l.body.height := hs
  show Item.mk .empty (l.shape.body.height + 1) true = Item.mk .empty (l.body.height + 1) true
  rw [hb]

end Level

namespace PatternText

variable (t : PatternText) (c : Char)

@[simp] theorem shape_shape : t.shape.shape = t.shape := by
  simp [shape]

@[simp] theorem isBlank_shape : t.shape.isBlank c = t.isBlank c := rfl

theorem outer_shape : t.shape.outer.map Level.shape = t.outer.map Level.shape := by
  simp [shape, Function.comp_def]

variable {t} in
theorem shape_congr {u : PatternText} (hl : t.level.shape = u.level.shape)
    (ho : t.outer.map Level.shape = u.outer.map Level.shape) (hf : t.flags.shape = u.flags.shape)
    (hg : t.groups = u.groups) (hn : t.names = u.names) (hm : t.mode.shape = u.mode.shape)
    (hc : t.inComment = u.inComment) : t.shape = u.shape := by
  rw [shape, shape, hl, ho, hf, hg, hn, hm, hc]

theorem shape_withMode {m m' : Mode} (h : m.shape = m'.shape) :
    ({ t.shape with mode := m } : PatternText).shape =
      ({ t with mode := m' } : PatternText).shape :=
  shape_congr t.level.shape_shape (outer_shape t) rfl rfl rfl h rfl

theorem shape_push {i i' : Item} (h : i.shape = i'.shape) :
    (t.shape.push i).shape = (t.push i').shape :=
  shape_congr (t.level.shape_push h) (outer_shape t) rfl rfl rfl rfl rfl

theorem map_withMode_shape {m m' : Mode} (h : m.shape = m'.shape) :
    (Except.ok { t.shape with mode := m } : Except Error PatternText).map shape =
      (Except.ok { t with mode := m' }).map shape :=
  congrArg Except.ok (shape_withMode t h)

theorem map_push_shape {i i' : Item} (h : i.shape = i'.shape) :
    (Except.ok (t.shape.push i) : Except Error PatternText).map shape =
      (Except.ok (t.push i')).map shape :=
  congrArg Except.ok (shape_push t h)

theorem map_repeatLast_shape (times : Times) (lazy : Bool) :
    (t.shape.repeatLast times lazy).map shape = (t.repeatLast times lazy).map shape := by
  have hi : t.shape.level.items = t.level.items.map Item.shape := rfl
  unfold repeatLast
  rw [hi]
  cases t.level.items with
  | nil => rfl
  | cons i items =>
    refine map_ite_congr Iff.rfl ?_ rfl
    simp [Except.map, shape, Level.shape, Item.shape, Mode.shape, Function.comp_def]

theorem map_closeGroup_shape : t.shape.closeGroup.map shape = t.closeGroup.map shape := by
  have ho : t.shape.outer = t.outer.map Level.shape := rfl
  unfold closeGroup
  rw [ho]
  cases t.outer with
  | nil => rfl
  | cons l outer =>
    refine congrArg Except.ok (shape_congr ?_ ?_ rfl rfl rfl rfl rfl)
    · exact l.shape_push (Level.shape_close t.level)
    · simp [Function.comp_def]

theorem map_stepItem_shape : (t.shape.stepItem c).map shape = (t.stepItem c).map shape := by
  refine map_ite_congr Iff.rfl ?_ (map_ite_congr Iff.rfl ?_ (map_ite_congr Iff.rfl
    (map_closeGroup_shape t) (map_ite_congr Iff.rfl ?_ (map_ite_congr Iff.rfl ?_
    (map_ite_congr Iff.rfl ?_ (map_ite_congr Iff.rfl ?_ (map_ite_congr Iff.rfl ?_
    (map_ite_congr Iff.rfl ?_ (map_ite_congr Iff.rfl ?_ (map_ite_congr Iff.rfl ?_
    (map_ite_congr Iff.rfl ?_ (map_ite_congr Iff.rfl ?_ ?_))))))))))))
  · exact congrArg Except.ok (shape_congr t.level.shape_shape (outer_shape t) rfl rfl rfl
      (Mode.shape_shape t.mode) rfl)
  · exact map_withMode_shape t rfl
  · exact congrArg Except.ok (shape_congr t.level.shape_nextBranch (outer_shape t) rfl rfl rfl
      rfl rfl)
  · exact map_withMode_shape t rfl
  · exact map_withMode_shape t rfl
  · exact map_withMode_shape t rfl
  · exact map_withMode_shape t rfl
  · exact map_withMode_shape t rfl
  · exact map_withMode_shape t rfl
  · refine map_bind_congr (Flags.map_dot_shape t.flags) fun e e' _ => ?_
    exact map_push_shape t rfl
  · exact map_push_shape t rfl
  · exact map_push_shape t rfl
  · exact map_push_shape t rfl

theorem map_stepItem_congr {u u' : PatternText} (h : u.shape = u'.shape) :
    (u.stepItem c).map shape = (u'.stepItem c).map shape :=
  map_congr_of_shape (k := fun t => t.stepItem c) (fun t => map_stepItem_shape t c) h

theorem shape_skip : (t.shape.skip c).shape = (t.skip c).shape :=
  shape_congr t.level.shape_shape (outer_shape t) rfl rfl rfl (Mode.shape_shape t.mode) rfl

theorem map_skip_shape :
    (Except.ok (t.shape.skip c) : Except Error PatternText).map shape =
      (Except.ok (t.skip c)).map shape :=
  congrArg Except.ok (shape_skip t c)

theorem map_stepRepetition_shape (times : Times) (spaced : Bool) :
    (t.shape.stepRepetition times spaced c).map shape =
      (t.stepRepetition times spaced c).map shape := by
  refine map_ite_congr Iff.rfl (map_repeatLast_shape t times true) (map_ite_congr Iff.rfl
    (map_skip_shape t c) ?_)
  refine map_bind_congr (map_repeatLast_shape t times false) fun u u' hu => ?_
  exact map_stepItem_congr c hu

theorem map_stepEscape_shape (e : EscapeText) :
    (t.shape.stepEscape e c).map shape = (t.stepEscape e c).map shape := by
  refine map_ite_congr Iff.rfl (map_skip_shape t c) ?_
  refine map_bind_congr (EscapeText.map_step_shape t.flags c e) fun s s' hs => ?_
  obtain rfl | ⟨a, b, rfl, rfl⟩ := EscapeStep.eq_or_of_shape hs
  · cases s with
    | more e => exact map_withMode_shape t rfl
    | wordBoundary => exact map_withMode_shape t rfl
    | literal | set | look => exact map_push_shape t rfl
  · exact map_push_shape t rfl

theorem map_stepCount_shape (u : CountText) :
    (t.shape.stepCount u c).map shape = (t.stepCount u c).map shape := by
  refine map_ite_congr Iff.rfl (map_skip_shape t c) ?_
  refine map_bind_congr (p := id) rfl ?_
  rintro s _ rfl
  cases s <;> exact map_withMode_shape t rfl

theorem shape_wordBoundary : t.shape.wordBoundary.shape = t.wordBoundary.shape := shape_push t rfl

theorem map_stepEdge_shape : (t.shape.stepEdge c).map shape = (t.stepEdge c).map shape :=
  map_ite_congr Iff.rfl (map_withMode_shape t rfl)
    (map_stepItem_congr c (shape_wordBoundary t))

theorem map_stepEdgeOpen_shape :
    (t.shape.stepEdgeOpen c).map shape = (t.stepEdgeOpen c).map shape :=
  map_ite_congr Iff.rfl (map_skip_shape t c)
    (map_ite_congr Iff.rfl (map_withMode_shape t rfl)
    (map_congr_of_shape (k := fun t => t.stepCount .before c)
      (fun t => map_stepCount_shape t c .before) (shape_wordBoundary t)))

theorem map_stepEdgeName_shape (name : List Char) :
    (t.shape.stepEdgeName name c).map shape = (t.stepEdgeName name c).map shape := by
  refine map_ite_congr Iff.rfl (map_skip_shape t c)
    (map_ite_congr Iff.rfl (map_withMode_shape t rfl)
    (map_ite_congr Iff.rfl ?_ rfl))
  have hu : t.shape.flags.unicode = t.flags.unicode := rfl
  rw [hu]
  cases edgeOfName? t.flags.unicode (String.ofList name.reverse) with
  | none => rfl
  | some l => exact map_push_shape t rfl

theorem shape_openCapture : t.shape.openCapture.shape = t.openCapture.shape := by
  refine shape_congr rfl ?_ rfl rfl rfl rfl rfl
  simp [openCapture, openGroup, shape, Function.comp_def]

theorem map_stepGroupOpen_shape :
    (t.shape.stepGroupOpen c).map shape = (t.stepGroupOpen c).map shape :=
  map_ite_congr Iff.rfl (map_skip_shape t c)
    (map_ite_congr Iff.rfl (map_withMode_shape t rfl)
    (map_stepItem_congr c (shape_openCapture t)))

theorem map_stepGroupFlags_shape (u : FlagText) :
    (t.shape.stepGroupFlags u.shape c).map shape = (t.stepGroupFlags u c).map shape := by
  have hfinish : u.shape.finish.map Flags.shape = u.finish.map Flags.shape :=
    map_ite_congr Iff.rfl rfl rfl
  refine map_ite_congr Iff.rfl ?_ (map_ite_congr Iff.rfl ?_ ?_)
  · refine map_bind_congr hfinish fun f f' hf => congrArg Except.ok ?_
    refine shape_congr rfl ?_ hf rfl rfl rfl rfl
    simp [openGroup, shape, Function.comp_def]
  · refine map_bind_congr hfinish fun f f' hf => congrArg Except.ok ?_
    exact shape_congr (t.level.shape_push rfl) (outer_shape t) hf rfl rfl rfl rfl
  · have hstep : (u.shape.step c).map FlagText.shape = (u.step c).map FlagText.shape := by
      refine map_ite_congr Iff.rfl (map_ite_congr Iff.rfl rfl rfl) ?_
      have hset : (u.shape.flags.set? c !u.shape.off).map Flags.shape =
          (u.flags.set? c !u.off).map Flags.shape := Flags.map_set?_shape u.flags c _
      cases h₁ : u.shape.flags.set? c !u.shape.off with
      | none =>
        cases h₂ : u.flags.set? c !u.off with
        | none => rfl
        | some f => simp [h₁, h₂] at hset
      | some f =>
        cases h₂ : u.flags.set? c !u.off with
        | none => simp [h₁, h₂] at hset
        | some f' =>
          rw [h₁, h₂] at hset
          refine map_ite_congr Iff.rfl rfl (congrArg Except.ok ?_)
          exact congrArg (fun f => FlagText.mk (c :: u.letters) u.off false f)
            (Option.some.inj hset)
    refine map_bind_congr hstep fun v v' hv => map_withMode_shape t ?_
    exact congrArg Mode.groupFlags hv

theorem map_stepGroupMark_shape :
    (t.shape.stepGroupMark c).map shape = (t.stepGroupMark c).map shape :=
  map_ite_congr Iff.rfl (map_withMode_shape t rfl)
    (map_ite_congr Iff.rfl (map_withMode_shape t rfl)
    (map_ite_congr Iff.rfl rfl (map_ite_congr Iff.rfl rfl
    (map_stepGroupFlags_shape t c (.begin t.flags)))))

theorem map_stepGroupName_shape (name : List Char) :
    (t.shape.stepGroupName name c).map shape = (t.stepGroupName name c).map shape := by
  refine map_ite_congr Iff.rfl (map_ite_congr Iff.rfl rfl (map_ite_congr Iff.rfl rfl ?_))
    (map_ite_congr Iff.rfl (map_withMode_shape t rfl) rfl)
  refine congrArg Except.ok (shape_congr rfl ?_ rfl rfl rfl rfl rfl)
  simp [openCapture, openGroup, shape, Function.comp_def]

theorem map_stepGroupAngle_shape :
    (t.shape.stepGroupAngle c).map shape = (t.stepGroupAngle c).map shape :=
  map_ite_congr Iff.rfl rfl (map_stepGroupName_shape t c [])

theorem map_stepBrackets_shape (u : ClassText) :
    (t.shape.stepBrackets u.shape c).map shape = (t.stepBrackets u c).map shape := by
  refine map_ite_congr ?_ ?_ (map_bind_congr (ClassText.map_step_shape t.flags c u) ?_)
  · rw [ClassText.skipsBlanks_shape, isBlank_shape]
  · refine congrArg Except.ok ?_
    exact shape_congr t.level.shape_shape (outer_shape t) rfl rfl rfl
      (congrArg Mode.brackets (ClassText.shape_blank c u)) rfl
  · intro s s' hs
    cases s with
    | inl v =>
      cases s' with
      | inl v' =>
        exact map_withMode_shape t (congrArg Mode.brackets (Sum.inl.inj hs))
      | inr d => simp [ClassText.resultShape] at hs
    | inr d =>
      cases s' with
      | inl v' => simp [ClassText.resultShape] at hs
      | inr d' =>
        have hd : d.shape = d'.shape := Sum.inr.inj hs
        have hh : d.height = d'.height := (DeepClass.mk.inj hd).2
        refine map_push_shape t ?_
        exact congrArg (fun n => Item.mk .empty n true) hh

theorem map_stepComment_shape :
    (t.shape.stepComment c).map shape = (t.stepComment c).map shape := by
  have hshape (m m' : Mode) (h : m.shape = m'.shape) :
      ({ t.shape with mode := m, inComment := c != '\n' } : PatternText).shape =
        ({ t with mode := m', inComment := c != '\n' } : PatternText).shape :=
    shape_congr t.level.shape_shape (outer_shape t) rfl rfl rfl h rfl
  have hmode : t.shape.mode = t.mode.shape := rfl
  unfold stepComment
  dsimp only
  rw [hmode]
  cases hm : t.mode with
  | brackets u =>
    refine map_bind_congr (ClassText.map_comment_shape t.flags c u) fun v v' hv => ?_
    exact congrArg Except.ok (hshape _ _ (congrArg Mode.brackets hv))
  | _ => exact congrArg Except.ok (hshape _ _ (Mode.shape_shape _))

/-- A step gives the same shape from a reading and from its shape. -/
theorem map_step_shape : (t.shape.step c).map shape = (t.step c).map shape := by
  have hmode : t.shape.mode = t.mode.shape := rfl
  refine map_ite_congr Iff.rfl (map_stepComment_shape t c) ?_
  rw [hmode]
  cases t.mode with
  | item => exact map_stepItem_shape t c
  | repetition times spaced => exact map_stepRepetition_shape t c times spaced
  | escape e => exact map_stepEscape_shape t c e
  | edge => exact map_stepEdge_shape t c
  | edgeOpen => exact map_stepEdgeOpen_shape t c
  | edgeName name => exact map_stepEdgeName_shape t c name
  | count u => exact map_stepCount_shape t c u
  | groupOpen => exact map_stepGroupOpen_shape t c
  | groupMark => exact map_stepGroupMark_shape t c
  | groupP => exact map_ite_congr Iff.rfl (map_withMode_shape t rfl) rfl
  | groupAngle => exact map_stepGroupAngle_shape t c
  | groupName name => exact map_stepGroupName_shape t c name
  | groupFlags u => exact map_stepGroupFlags_shape t c u
  | brackets u => exact map_stepBrackets_shape t c u

theorem map_settle_shape : t.shape.settle.map shape = t.settle.map shape := by
  have hmode : t.shape.mode = t.mode.shape := rfl
  unfold settle
  rw [hmode]
  cases hm : t.mode with
  | item => exact congrArg Except.ok (shape_shape t)
  | repetition times spaced => exact map_repeatLast_shape t times false
  | edge => exact congrArg Except.ok (shape_wordBoundary t)
  | _ => rfl

theorem map_foldlM_shape (text : List Char) :
    (text.foldlM step t.shape).map shape = (text.foldlM step t).map shape := by
  induction text generalizing t with
  | nil => exact congrArg Except.ok (shape_shape t)
  | cons c rest ih =>
    rw [List.foldlM_cons, List.foldlM_cons]
    refine map_bind_congr (map_step_shape t c) fun u u' hu => ?_
    exact map_congr_of_shape (k := fun t => rest.foldlM step t) ih hu

theorem map_readOn_shape (text : List Char) :
    (t.shape.readOn text).map shape = (t.readOn text).map shape := by
  refine map_bind_congr (map_foldlM_shape t text) fun u u' hu => ?_
  exact map_congr_of_shape map_settle_shape hu

theorem height_body_of_shape {u u' : PatternText} (h : u.shape = u'.shape) :
    u.level.body.height = u'.level.body.height := by
  have hl : u.level.shape = u'.level.shape := congrArg level h
  have hs : u.level.body.shape = u'.level.body.shape := by
    rw [← Level.shape_body, hl, Level.shape_body]
  exact (Item.mk.inj hs).2.1

/-- Ignoring case changes neither whether a pattern can be read nor how deep it is nested. -/
theorem map_height_readBody (f : Flags) (pattern : List Char) :
    (readBody f.shape pattern).map Item.height = (readBody f pattern).map Item.height := by
  refine map_bind_congr (map_readOn_shape (start f) pattern) fun u u' hu => ?_
  exact congrArg Except.ok (height_body_of_shape hu)

end PatternText

end RouteTemplate.Regex
