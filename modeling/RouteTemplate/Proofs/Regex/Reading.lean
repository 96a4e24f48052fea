import Mathlib.Data.List.Forall2
import RouteTemplate.Proofs.Regex.Enclosed
import RouteTemplate.Regex.Quote

/-!
What composed patterns are read as. `Reads` says which expressions a text adds to the group that it
stands in, whatever has been read before and whatever follows, as long as that is no question mark,
which would say more about the last item. There is one lemma for each way in which texts are put
together: one after the other, in parentheses, as optional or repeated items and as alternatives.
-/

namespace RouteTemplate.Regex

namespace PatternText

/-- Adds finished items to the current group, with a new number of groups. -/
def add (t : PatternText) (items : List Item) (groups : Nat) : PatternText :=
  { t with level := { t.level with items := items.reverse ++ t.level.items }, groups := groups }

section

variable {t : PatternText} {items more : List Item} {g g' : Nat}

@[simp] theorem add_mode : (t.add items g).mode = t.mode := rfl

@[simp] theorem add_flags : (t.add items g).flags = t.flags := rfl

@[simp] theorem add_inComment : (t.add items g).inComment = t.inComment := rfl

@[simp] theorem add_groups : (t.add items g).groups = g := rfl

theorem add_add : (t.add items g).add more g' = t.add (items ++ more) g' := by
  simp [add]

end

/-- Nothing is pending: the next character begins an item, under the given flags. -/
structure Ready (t : PatternText) (f : Flags) (g : Nat) : Prop where
  mode : t.mode = .item
  inComment : t.inComment = false
  flags : t.flags = f
  groups : t.groups = g

theorem Ready.add {t : PatternText} {f : Flags} {g : Nat} (h : t.Ready f g) (items : List Item)
    (g' : Nat) : (t.add items g').Ready f g' :=
  ⟨h.mode, h.inComment, h.flags, rfl⟩

theorem readOn_nil {t : PatternText} (h : t.mode = .item) : t.readOn [] = .ok t := by
  show t.settle = _
  rw [settle, h]

theorem readOn_cons (t : PatternText) (c : Char) (rest : List Char) :
    t.readOn (c :: rest) = (t.step c >>= fun u => u.readOn rest) := by
  rw [readOn, List.foldlM_cons]
  cases t.step c <;> rfl

theorem readOn_step {t u : PatternText} {c : Char} (h : t.step c = .ok u) (rest : List Char) :
    t.readOn (c :: rest) = u.readOn rest := by
  rw [readOn_cons, h]
  rfl

theorem Ready.step {t : PatternText} {f : Flags} {g : Nat} (h : t.Ready f g) (c : Char) :
    t.step c = t.stepItem c := by
  rw [PatternText.step, h.inComment, h.mode]
  rfl

/-- Before anything but a question mark, a repetition of the last item is complete. -/
theorem readOn_repetition {t u : PatternText} {f : Flags} {g : Nat} {times : Times}
    (h : t.Ready f g) (hu : t.repeatLast times false = .ok u) {rest : List Char}
    (hrest : rest.head? ≠ some '?') :
    ({ t with mode := .repetition times false } : PatternText).readOn rest = u.readOn rest := by
  have hrep : ({ t with mode := .repetition times false } : PatternText).settle = .ok u := hu
  obtain ⟨-, hc, hm, -⟩ := gives_repeatLast times false u hu
  have hmode : u.mode = .item := Mode.eq_item hm
  cases rest with
  | nil =>
    rw [readOn_nil hmode]
    exact hrep
  | cons c rest =>
    have hne : c ≠ '?' := fun he => hrest (by rw [he]; rfl)
    have hstep : u.step c = u.stepItem c := by
      rw [PatternText.step, hc, h.inComment, hmode]
      rfl
    have hpend : ({ t with mode := .repetition times false } : PatternText).step c =
        (({ t with mode := .repetition times false } : PatternText).settle >>=
          fun u => u.stepItem c) := by
      rw [PatternText.step, if_neg (by rw [h.inComment]; decide)]
      exact if_neg hne
    rw [readOn_cons, readOn_cons, hstep, hpend, hrep]
    rfl

end PatternText

open PatternText

/-- The text adds the items and counts groups on from `g` to `g'`. -/
def Reads (f : Flags) (text : List Char) (g g' : Nat) (items : List Item) : Prop :=
  ∀ (t : PatternText) (rest : List Char), t.Ready f g → rest.head? ≠ some '?' →
    t.readOn (text ++ rest) = (t.add items g').readOn rest

/-- The text is a single item, which a sign behind it may repeat. -/
def ReadsItem (f : Flags) (text : List Char) (g g' : Nat) (e : Expr) (height : Nat) : Prop :=
  ∀ (t : PatternText) (rest : List Char), t.Ready f g →
    t.readOn (text ++ rest) = (t.add [⟨e, height, true⟩] g').readOn rest

/-- Items in turn as one. -/
def sequence (items : List Item) : Item := (Level.mk none {} [] items.reverse).branch

@[simp] theorem expr_sequence (items : List Item) :
    (sequence items).expr = .seq (items.map Item.expr) := by
  simp [sequence, Level.branch]

/-- The text fills a group: up to a closing parenthesis it stands for the given body. -/
def Fills (f : Flags) (text : List Char) (g g' : Nat) (b : Item) : Prop :=
  ∃ branches items : List Item, (Level.mk none f branches items).body = b ∧
    ∀ (t : PatternText) (rest : List Char), t.Ready f g → t.level.branches = [] →
      t.level.items = [] → t.readOn (text ++ ')' :: rest) =
        ({ t with level := { t.level with branches := branches, items := items }
                  groups := g' } : PatternText).readOn (')' :: rest)

section

variable {f : Flags} {text text₁ text₂ : List Char} {g g₁ g₂ : Nat} {e : Expr} {height : Nat}
  {items items₁ items₂ : List Item}

theorem Reads.nil (f : Flags) (g : Nat) : Reads f [] g g [] := by
  intro t rest ht _
  obtain rfl := ht.groups
  rfl

theorem ReadsItem.reads (h : ReadsItem f text g g₁ e height) :
    Reads f text g g₁ [⟨e, height, true⟩] :=
  fun t rest ht _ => h t rest ht

theorem Reads.append (h₁ : Reads f text₁ g g₁ items₁) (h₂ : Reads f text₂ g₁ g₂ items₂)
    (hhead : text₂.head? ≠ some '?') : Reads f (text₁ ++ text₂) g g₂ (items₁ ++ items₂) := by
  intro t rest ht hrest
  have hhead' : (text₂ ++ rest).head? ≠ some '?' := by
    cases text₂ with
    | nil => exact hrest
    | cons c text₂ => exact hhead
  rw [List.append_assoc, h₁ t _ ht hhead', h₂ _ rest (ht.add items₁ g₁) hrest, add_add]

/-! ## Single items -/

theorem ReadsItem.of_step {c : Char}
    (h : ∀ t : PatternText, t.Ready f g → t.step c = .ok (t.add [⟨e, height, true⟩] g)) :
    ReadsItem f [c] g g e height :=
  fun t rest ht => readOn_step (h t ht) rest

theorem ReadsItem.lineStart (hv : f.verbose = false) (g : Nat) :
    ReadsItem f ['^'] g g (.look f.lineStart) 0 := by
  refine ReadsItem.of_step fun t ht => ?_
  rw [ht.step, ← ht.flags, ← ht.groups]
  have hb := isBlank_eq_false (t := t) (ht.flags ▸ hv) '^'
  simp [stepItem, hb, pushLook, push, add, Level.push, ht.mode]

theorem ReadsItem.lineEnd (hv : f.verbose = false) (g : Nat) :
    ReadsItem f ['$'] g g (.look f.lineEnd) 0 := by
  refine ReadsItem.of_step fun t ht => ?_
  rw [ht.step, ← ht.flags, ← ht.groups]
  have hb := isBlank_eq_false (t := t) (ht.flags ▸ hv) '$'
  simp [stepItem, hb, pushLook, push, add, Level.push, ht.mode]

theorem ReadsItem.plain (hv : f.verbose = false) {c : Char} (hc : isMeta c = false) (g : Nat) :
    ReadsItem f [c] g g (f.literal c) 0 := by
  refine ReadsItem.of_step fun t ht => ?_
  rw [ht.step, ← ht.flags, ← ht.groups]
  have hb := isBlank_eq_false (t := t) (ht.flags ▸ hv) c
  simp only [isMeta, List.mem_cons, List.not_mem_nil, or_false, decide_eq_false_iff_not,
    not_or] at hc
  simp [stepItem, hb, hc, push, add, Level.push, ht.mode]

theorem stepStart_of_isMeta {c : Char} (hc : isMeta c = true) (f : Flags) :
    EscapeText.stepStart f c = .ok (.literal c) := by
  have hall : (['\\', '.', '+', '*', '?', '(', ')', '|', '[', ']', '\x7b', '\x7d', '^', '$',
      '#', '&', '-', '~'].all fun d => !Unicode.isAsciiDigit d && escapable d) = true := by decide
  have hboth := List.all_eq_true.1 hall c (of_decide_eq_true hc)
  rw [Bool.and_eq_true, Bool.not_eq_true'] at hboth
  obtain ⟨hd, he⟩ := hboth
  unfold EscapeText.stepStart
  rw [hd, he]
  rfl

theorem ReadsItem.escaped {c : Char} (hv : f.verbose = false) (hc : isMeta c = true) (g : Nat) :
    ReadsItem f ['\\', c] g g (f.literal c) 0 := by
  intro t rest ht
  have h₁ : t.step '\\' = .ok { t with mode := .escape .start } := by
    rw [ht.step]
    have hb := isBlank_eq_false (t := t) (ht.flags ▸ hv) '\\'
    simp [stepItem, hb]
  have h₂ : ({ t with mode := .escape .start } : PatternText).step c =
      .ok (t.add [⟨f.literal c, 0, true⟩] g) := by
    simp only [PatternText.step, ht.inComment, Bool.false_eq_true, if_false, stepEscape,
      EscapeText.skipsBlanks, Bool.false_and, EscapeText.step, stepStart_of_isMeta hc]
    simp [bind, Except.bind, pure, Except.pure, push, add, Level.push, ← ht.flags, ← ht.groups,
      ht.mode, ht.inComment]
  rw [List.cons_append, List.cons_append, List.nil_append, readOn_step h₁, readOn_step h₂]

theorem ReadsItem.quoteChar (hv : f.verbose = false) (c : Char) (g : Nat) :
    ReadsItem f (Regex.quoteChar c) g g (f.literal c) 0 := by
  unfold Regex.quoteChar
  cases hc : isMeta c with
  | true => exact ReadsItem.escaped hv hc g
  | false => exact ReadsItem.plain hv hc g

theorem head?_flatMap_quoteChar (l : List Char) : (l.flatMap quoteChar).head? ≠ some '?' := by
  cases l with
  | nil => simp
  | cons c l =>
    rw [List.flatMap_cons]
    unfold quoteChar
    cases hc : isMeta c with
    | true => simp
    | false =>
      have hne : c ≠ '?' := by
        rintro rfl
        exact absurd hc (by decide)
      simpa using hne

theorem Reads.quote (hv : f.verbose = false) (l : List Char) (g : Nat) :
    Reads f (l.flatMap quoteChar) g g (l.map fun c => ⟨f.literal c, 0, true⟩) := by
  induction l with
  | nil => exact Reads.nil f g
  | cons c l ih =>
    rw [List.flatMap_cons, List.map_cons]
    exact (ReadsItem.quoteChar hv c g).reads.append ih (head?_flatMap_quoteChar l)

/-! ## Repetitions -/

theorem Reads.repeated (hv : f.verbose = false) (h : ReadsItem f text g g₁ e height) {c : Char}
    {times : Times}
    (hstep : ∀ t : PatternText, t.isBlank c = false →
      t.stepItem c = .ok { t with mode := .repetition times false }) :
    Reads f (text ++ [c]) g g₁ [⟨.repeated times (f.greedy false) e, height + 1, true⟩] := by
  intro t rest ht hrest
  have hr := ht.add [⟨e, height, true⟩] g₁
  have hb := isBlank_eq_false (t := t.add [⟨e, height, true⟩] g₁) (hr.flags ▸ hv) c
  have hs := (hr.step c).trans (hstep _ hb)
  have hu : (t.add [⟨e, height, true⟩] g₁).repeatLast times false =
      .ok (t.add [⟨.repeated times (f.greedy false) e, height + 1, true⟩] g₁) := by
    simp [repeatLast, PatternText.add, ht.flags, ht.mode]
  rw [List.append_assoc, h t _ ht, List.singleton_append, readOn_step hs,
    readOn_repetition hr hu hrest]

theorem Reads.optional (hv : f.verbose = false) (h : ReadsItem f text g g₁ e height) :
    Reads f (text ++ ['?']) g g₁
      [⟨.repeated ⟨0, some 1⟩ (f.greedy false) e, height + 1, true⟩] :=
  Reads.repeated hv h fun t hb => by simp [stepItem, hb]

theorem Reads.oneOrMore (hv : f.verbose = false) (h : ReadsItem f text g g₁ e height) :
    Reads f (text ++ ['+']) g g₁
      [⟨.repeated ⟨1, none⟩ (f.greedy false) e, height + 1, true⟩] :=
  Reads.repeated hv h fun t hb => by simp [stepItem, hb]

theorem Reads.star (hv : f.verbose = false) (h : ReadsItem f text g g₁ e height) :
    Reads f (text ++ ['*']) g g₁
      [⟨.repeated ⟨0, none⟩ (f.greedy false) e, height + 1, true⟩] :=
  Reads.repeated hv h fun t hb => by simp [stepItem, hb]

/-! ## Groups -/

theorem Fills.seq (h : Reads f text g g₁ items) :
    Fills f text g g₁ (sequence items) := by
  refine ⟨[], items.reverse, rfl, fun t rest ht hb hi => ?_⟩
  rw [h t _ ht (by simp)]
  simp only [add, hi, List.append_nil]
  rw [hb]

/-- Up to its end, an enclosable pattern is read in a group as it is by itself. -/
theorem Fills.pattern (hv : f.verbose = false) {pattern : List Char} (hp : Enclosable pattern)
    {b : Item} (hb : readBody f pattern = .ok b) (g : Nat) : Fills f pattern g g b := by
  obtain ⟨u, w, hu, hw, rfl⟩ := readBody_eq_ok.1 hb
  refine ⟨w.level.branches, w.level.items, rfl, fun t rest ht hbr hit => ?_⟩
  obtain ⟨hf, hc, hm, -⟩ := gives_foldlM hp (t := start f) hv rfl rfl u hu
  obtain ⟨hfw, hcw, hmw, -⟩ := gives_settle u w hw
  have hmw := Mode.eq_item hmw
  have hstart : t = (start f).inFrame t.frame := by
    obtain ⟨hm, hc, rfl, -⟩ := ht
    cases t with
    | mk level outer flags groups names mode inComment =>
      cases level
      simp_all [start, inFrame, frame]
  have hread : t.readOn (pattern ++ ')' :: rest) =
      (u.inFrame t.frame).readOn (')' :: rest) := by
    have hx := foldlM_inFrame hp (t := start f) hv rfl rfl t.frame
    rw [← hstart, hu] at hx
    rw [readOn, List.foldlM_append, hx]
    rfl
  have hend : ({ t with level := { t.level with branches := w.level.branches
                                                items := w.level.items }
                        groups := g } : PatternText) = w.inFrame t.frame := by
    obtain ⟨hmt, hct, hft, rfl⟩ := ht
    simp only [inFrame, frame, hmt, hct, hft, hmw, hcw, hc, hfw, hf]
    rfl
  have hclose (v : PatternText) (hvf : v.flags = f) (hvc : v.inComment = false)
      (hvm : v.mode.isOpen = true) (hva : v.mode.absorbs = false) (hvs : v.settle = .ok w) :
      (v.inFrame t.frame).readOn (')' :: rest) =
        ((w.inFrame t.frame).closeGroup >>= fun u => u.readOn rest) := by
    have hstep := step_close (t := v.inFrame t.frame) (by rw [inFrame_flags, hvf, hv]) hvc hvm hva
    rw [readOn_cons, hstep, settle_inFrame, hvs]
    rfl
  rw [hread, hend, hclose u hf hc hm (absorbs_of_settle hw) hw]
  refine (hclose w (hfw.trans hf) (hcw.trans hc) ?_ ?_ ?_).symm
  · rw [hmw]
    rfl
  · rw [hmw]
    rfl
  · rw [settle, hmw]

theorem readOn_open {t : PatternText} (hv : f.verbose = false) (ht : t.Ready f g)
    (rest : List Char) : t.readOn ('(' :: rest) =
      ({ t with mode := .groupOpen } : PatternText).readOn rest := by
  refine readOn_step ?_ rest
  rw [ht.step, stepItem_open (ht.flags ▸ hv)]

/-- A group that has been filled is an item of the group around it. -/
theorem readOn_closed {t u : PatternText} (hv : f.verbose = false) (ht : t.Ready f g)
    (hu : u.Ready f g₁) (hf : u.level.flags = f) (ho : u.outer = t.level :: t.outer)
    (hn : u.names = t.names) (rest : List Char) :
    u.readOn (')' :: rest) = (t.add [u.level.close] g₁).readOn rest := by
  refine readOn_step ?_ rest
  rw [hu.step, stepItem_close (hu.flags ▸ hv), closeGroup, ho]
  simp [PatternText.add, Level.push, ht.flags, ht.mode, ht.inComment, hu.inComment, hu.groups,
    hf, hn]

theorem readOn_openPlain {t : PatternText} (hv : f.verbose = false) (ht : t.Ready f g)
    (rest : List Char) : t.readOn ('(' :: '?' :: ':' :: rest) =
      ({ t with level := ⟨none, f, [], []⟩, outer := t.level :: t.outer } :
        PatternText).readOn rest := by
  have hc (m : Mode) : ¬({ t with mode := m } : PatternText).inComment = true := by
    show ¬t.inComment = true
    rw [ht.inComment]
    decide
  have hmark : ({ t with mode := .groupOpen } : PatternText).step '?' =
      .ok { t with mode := .groupMark } := by
    have hb : ({ t with mode := .groupOpen } : PatternText).isBlank '?' = false :=
      isBlank_eq_false (ht.flags ▸ hv) '?'
    rw [PatternText.step, if_neg (hc _)]
    show stepGroupOpen _ _ = _
    rw [stepGroupOpen, hb, if_neg Bool.false_ne_true, if_pos rfl]
  have hcolon : ({ t with mode := .groupMark } : PatternText).step ':' =
      .ok { t with level := ⟨none, f, [], []⟩, outer := t.level :: t.outer } := by
    rw [PatternText.step, if_neg (hc _)]
    simp [stepGroupMark, stepGroupFlags, FlagText.begin, FlagText.finish, bind, Except.bind, pure,
      Except.pure, openGroup, ht.flags, ht.mode]
  rw [readOn_open hv ht, readOn_step hmark, readOn_step hcolon]

/-- A text in parentheses that capture nothing. -/
def grouped (text : List Char) : List Char := '(' :: '?' :: ':' :: (text ++ [')'])

theorem head?_grouped_append (text rest : List Char) :
    (grouped text ++ rest).head? ≠ some '?' := by
  simp [grouped]

theorem head?_grouped (text : List Char) : (grouped text).head? ≠ some '?' := by
  simp [grouped]

theorem ReadsItem.group (hv : f.verbose = false) {b : Item} (h : Fills f text g g₁ b) :
    ReadsItem f (grouped text) g g₁ b.expr (b.height + 1) := by
  obtain ⟨branches, items, rfl, h⟩ := h
  intro t rest ht
  have hready : ({ t with level := ⟨none, f, [], []⟩
                          outer := t.level :: t.outer } : PatternText).Ready f g :=
    ⟨ht.mode, ht.inComment, ht.flags, ht.groups⟩
  simp only [grouped, List.cons_append, List.append_assoc, List.nil_append]
  rw [readOn_openPlain hv ht, h _ rest hready rfl rfl]
  refine readOn_closed hv ht ?_ ?_ ?_ ?_ rest
  · exact ⟨ht.mode, ht.inComment, ht.flags, rfl⟩
  all_goals rfl

theorem ReadsItem.capture (hv : f.verbose = false) {b : Item} (h : Fills f text (g + 1) g₁ b)
    (hhead : text.head? ≠ some '?') :
    ReadsItem f ('(' :: (text ++ [')'])) g g₁ (.group g b.expr) (b.height + 1) := by
  obtain ⟨branches, items, rfl, h⟩ := h
  intro t rest ht
  have hready : t.openCapture.Ready f (g + 1) :=
    ⟨rfl, ht.inComment, ht.flags, congrArg (· + 1) ht.groups⟩
  have hopen {rest : List Char} (hne : rest ≠ []) (hq : rest.head? ≠ some '?') :
      ({ t with mode := .groupOpen } : PatternText).readOn rest = t.openCapture.readOn rest := by
    cases rest with
    | nil => exact absurd rfl hne
    | cons c rest =>
      have hb : ({ t with mode := .groupOpen } : PatternText).isBlank c = false :=
        isBlank_eq_false (ht.flags ▸ hv) c
      rw [readOn_cons, readOn_cons, hready.step, PatternText.step,
        if_neg (by show ¬t.inComment = true; rw [ht.inComment]; decide)]
      show (stepGroupOpen _ _ >>= _) = _
      rw [stepGroupOpen, hb, if_neg Bool.false_ne_true, if_neg fun hc => hq (by rw [hc]; rfl)]
      rfl
  have hhead' : (text ++ ')' :: rest).head? ≠ some '?' := by
    cases text with
    | nil => simp
    | cons c text => exact hhead
  simp only [List.cons_append, List.append_assoc, List.nil_append]
  rw [readOn_open hv ht, hopen (by simp) hhead', h _ rest hready rfl rfl]
  obtain rfl := ht.groups
  refine readOn_closed hv ht ?_ ?_ ?_ ?_ rest
  · exact ⟨rfl, ht.inComment, ht.flags, rfl⟩
  · exact ht.flags
  all_goals rfl

/-! ## Alternatives -/

theorem stepItem_bar {t : PatternText} (hv : t.flags.verbose = false) :
    t.stepItem '|' = .ok { t with level := t.level.nextBranch, mode := .item } := by
  rw [stepItem, isBlank_eq_false hv, if_neg Bool.false_ne_true, if_neg (by decide),
    if_neg (by decide), if_pos rfl]

/-- A bar begins the next alternative. -/
theorem readOn_bar (hv : f.verbose = false) {t : PatternText} (ht : t.Ready f g)
    (rest : List Char) : t.readOn ('|' :: rest) =
      ({ t with level := t.level.nextBranch, mode := .item } : PatternText).readOn rest := by
  refine readOn_step ?_ rest
  rw [ht.step, stepItem_bar (ht.flags ▸ hv)]

theorem PatternText.Ready.nextBranch {t : PatternText} (ht : t.Ready f g) :
    ({ t with level := t.level.nextBranch, mode := .item } : PatternText).Ready f g :=
  ⟨rfl, ht.inComment, ht.flags, ht.groups⟩

/-- The body of a group with the given alternatives. -/
def bodyOf (alternatives : List (List Item)) : Item :=
  match alternatives.map sequence with
  | [] => sequence []
  | [i] => i
  | i :: rest =>
    { expr := .choice ((i :: rest).map Item.expr)
      height := ((i :: rest).map Item.height).foldr max 0 + 1 }

/-- Alternatives are added to those that the group has already; the last of them stays open. -/
theorem exists_branches (hv : f.verbose = false) {l : List Char} {ls : List (List Char)}
    {more : List (List Item)} (h : Reads f l g g items)
    (hs : List.Forall₂ (Reads f · g g) ls more) :
    ∃ branches last : List Item,
      ((Level.mk none f [] last).branch :: branches).reverse =
        (items :: more).map sequence ∧
      ∀ (t : PatternText) (rest : List Char), t.Ready f g → t.level.items = [] →
        rest.head? ≠ some '?' →
        t.readOn (['|'].intercalate (l :: ls) ++ rest) =
          ({ t with level := { t.level with branches := branches ++ t.level.branches
                                            items := last } } : PatternText).readOn rest := by
  induction hs generalizing l items with
  | nil =>
    refine ⟨[], items.reverse, by simp [sequence, Level.branch], fun t rest ht hi hrest => ?_⟩
    rw [List.intercalate_singleton, h t rest ht hrest]
    simp [add, hi, ht.groups]
  | @cons l' items' ls more h' hs ih =>
    obtain ⟨branches, last, hmap, hr⟩ := ih h'
    refine ⟨branches ++ [(Level.mk none f [] items.reverse).branch], last, ?_,
      fun t rest ht hi hrest => ?_⟩
    · rw [List.map_cons, ← hmap]
      simp [sequence, Level.branch]
    · have hready : (t.add items g).Ready f g := ht.add items g
      rw [List.intercalate_cons_cons, List.append_assoc, List.append_assoc, h t _ ht (by simp),
        List.singleton_append, readOn_bar hv hready, hr _ rest hready.nextBranch rfl hrest]
      simp [add, hi, ht.mode, ht.groups, Level.nextBranch, Level.branch]

theorem Fills.alternatives (hv : f.verbose = false) {ls : List (List Char)}
    {alternatives : List (List Item)} (hne : ls ≠ [])
    (h : List.Forall₂ (Reads f · g g) ls alternatives) :
    Fills f (['|'].intercalate ls) g g (bodyOf alternatives) := by
  cases h with
  | nil => exact absurd rfl hne
  | cons h hs =>
    obtain ⟨branches, last, hmap, hr⟩ := exists_branches hv h hs
    refine ⟨branches, last, ?_, fun t rest ht hb hi => ?_⟩
    · have hcons : ((Level.mk none f branches last).branch :: branches).reverse ≠ [] := by simp
      rw [Level.body, bodyOf, ← hmap]
      show _ = match ((Level.mk none f branches last).branch :: branches).reverse with
        | [] => _ | [i] => i | i :: rest => _
      generalize ((Level.mk none f branches last).branch :: branches).reverse = all at hcons
      cases all with
      | nil => exact absurd rfl hcons
      | cons i rest => cases rest <;> rfl
    · rw [hr t _ ht hi (by simp)]
      simp [hb, ht.groups]

/-- Two alternatives, the second of which stays open. -/
theorem readOn_either (hv : f.verbose = false) (h : Reads f text₁ g g₁ items₁)
    (h' : Reads f text₂ g₁ g₂ items₂) {t : PatternText} (ht : t.Ready f g) (hi : t.level.items = [])
    {rest : List Char} (hrest : rest.head? ≠ some '?') :
    t.readOn (text₁ ++ '|' :: (text₂ ++ rest)) =
      ({ t with
        level := { t.level with
          branches := (Level.mk none f [] items₁.reverse).branch :: t.level.branches
          items := items₂.reverse }
        groups := g₂ } : PatternText).readOn rest := by
  have hready : (t.add items₁ g₁).Ready f g₁ := ht.add items₁ g₁
  rw [h t _ ht (by simp), readOn_bar hv hready, h' _ _ hready.nextBranch hrest]
  simp [add, hi, ht.mode, Level.nextBranch, Level.branch]

theorem Fills.either (hv : f.verbose = false) (h : Reads f text₁ g g₁ items₁)
    (h' : Reads f text₂ g₁ g₂ items₂) :
    Fills f (text₁ ++ '|' :: text₂) g g₂ (bodyOf [items₁, items₂]) := by
  refine ⟨[(Level.mk none f [] items₁.reverse).branch], items₂.reverse, rfl,
    fun t rest ht hb hi => ?_⟩
  rw [List.append_assoc, List.cons_append, readOn_either hv h h' ht hi (by simp), hb]

/-- A group matches what one of its alternatives does. -/
theorem walk_bodyOf (alternatives : List (List Item)) (hne : alternatives ≠ [])
    (text : List Char) : (bodyOf alternatives).expr.walk text =
      Expr.choices text (alternatives.map fun items => .seq (items.map Item.expr)) := by
  have hmap : alternatives.map (fun items => Expr.seq (items.map Item.expr)) =
      (alternatives.map sequence).map Item.expr := by
    simp
  rw [hmap, bodyOf]
  split
  next h => exact absurd (List.map_eq_nil_iff.1 h) hne
  next i h => rw [h, List.map_singleton, Expr.choices_singleton]
  next i rest _ h => rw [h, Expr.walk_choice]

/-! ## Whole patterns -/

theorem ready_start (f : Flags) : (start f).Ready f 1 := ⟨rfl, rfl, rfl, rfl⟩

theorem Expr.read_eq_ok_iff {pattern : List Char} : Expr.read f pattern = .ok e ↔
    ∃ t, (start f).readOn pattern = .ok t ∧ t.outer = [] ∧ t.level.body.height ≤ maxHeight ∧
      t.level.body.expr = e := by
  rw [Expr.read, readOn]
  cases hu : pattern.foldlM PatternText.step (start f) with
  | error err => simp [bind, Except.bind]
  | ok u =>
    simp only [bind, Except.bind, finish]
    cases hw : u.settle with
    | error err => simp
    | ok w =>
      simp only [pure, Except.pure, throw, throwThe, MonadExceptOf.throw, Except.ok.injEq,
        exists_eq_left']
      cases ho : w.outer with
      | nil =>
        by_cases hh : w.level.body.height ≤ maxHeight
        · simp [hh]
        · simp [hh]
      | cons l outer => simp

/-- A composed pattern is read as the sequence of its items, unless it is nested too deep. -/
theorem Expr.read_reads_eq (h : Reads f text 1 g items) : Expr.read f text =
    if (sequence items).height ≤ maxHeight then .ok (.seq (items.map Item.expr))
    else .error .nestedTooDeep := by
  have hread := h (start f) [] (ready_start f) (by simp)
  rw [List.append_nil, readOn_nil rfl] at hread
  have hbody : ((start f).add items g).level.body = sequence items := by
    simp [add, start, Level.body, Level.branch, sequence]
  obtain ⟨u, hu, hw⟩ := Except.bind_eq_ok_iff.1 hread
  have hfinish : u.finish = if (sequence items).height ≤ maxHeight then .ok (sequence items).expr
      else .error .nestedTooDeep := by
    rw [← hbody, finish, hw]
    rfl
  rw [Expr.read, hu, ← expr_sequence]
  exact hfinish

theorem Expr.read_reads (h : Reads f text 1 g items) : Expr.read f text = .ok e ↔
    (sequence items).height ≤ maxHeight ∧ e = .seq (items.map Item.expr) := by
  rw [Expr.read_reads_eq h]
  split
  next hh => simp [hh, eq_comm]
  next hh => simp [hh]

/-- A pattern of two alternatives. -/
theorem Expr.read_either (hv : f.verbose = false) (h : Reads f text₁ 1 g₁ items₁)
    (h' : Reads f text₂ g₁ g₂ items₂) (hheight : (bodyOf [items₁, items₂]).height ≤ maxHeight) :
    Expr.read f (text₁ ++ '|' :: text₂) = .ok (bodyOf [items₁, items₂]).expr := by
  have hnil : ([] : List Char).head? ≠ some '?' := by simp
  have hread := readOn_either hv h h' (ready_start f) rfl hnil
  rw [List.append_nil, readOn_nil rfl] at hread
  exact Expr.read_eq_ok_iff.2 ⟨_, hread, rfl, hheight, rfl⟩

theorem Expr.read_of_readBody {pattern : List Char} {b : Item} (hv : f.verbose = false)
    (hp : Enclosable pattern) (hb : readBody f pattern = .ok b) (hh : b.height ≤ maxHeight) :
    Expr.read f pattern = .ok b.expr := by
  obtain ⟨u, w, hu, hw, rfl⟩ := readBody_eq_ok.1 hb
  have hframe := (frame_of_settle hw).trans (frame_of_foldlM hp (t := start f) hv rfl rfl hu)
  refine Expr.read_eq_ok_iff.2 ⟨w, ?_, congrArg Frame.outer hframe, hh, rfl⟩
  rw [readOn, hu]
  exact hw

/-- A pattern between anchors. -/
def anchored (pattern : List Char) : List Char := '^' :: (grouped pattern ++ ['$'])

theorem height_sequence_anchored (f : Flags) (b : Item) :
    (sequence [⟨.look f.lineStart, 0, true⟩, ⟨b.expr, b.height + 1, true⟩,
      ⟨.look f.lineEnd, 0, true⟩]).height = b.height + 2 := by
  show max 0 (max (b.height + 1) (max 0 0)) + 1 = b.height + 2
  omega

theorem reads_anchored (hv : f.verbose = false) {pattern : List Char} (hp : Enclosable pattern)
    {b : Item} (hb : readBody f pattern = .ok b) (g : Nat) :
    Reads f (anchored pattern) g g
      [⟨.look f.lineStart, 0, true⟩, ⟨b.expr, b.height + 1, true⟩, ⟨.look f.lineEnd, 0, true⟩] := by
  have hg := (ReadsItem.group hv (Fills.pattern hv hp hb g)).reads
  exact (ReadsItem.lineStart hv g).reads.append
    (hg.append (ReadsItem.lineEnd hv g).reads (by simp)) (head?_grouped_append _ _)

/-- A pattern does not begin with a question mark, since there is nothing to repeat. -/
theorem head?_of_readBody (hv : f.verbose = false) {pattern : List Char} {b : Item}
    (hb : readBody f pattern = .ok b) : pattern.head? ≠ some '?' := by
  intro hhead
  cases pattern with
  | nil => simp at hhead
  | cons c rest =>
    obtain rfl : c = '?' := by simpa using hhead
    have hs : (start f).step '?' =
        .ok { start f with mode := .repetition ⟨0, some 1⟩ false } := by
      rw [(ready_start f).step, stepItem, isBlank_eq_false (t := start f) hv]
      rfl
    rw [readBody, readOn_step hs] at hb
    cases rest with
    | nil => simp [readOn, settle, repeatLast, start, bind, Except.bind, pure, Except.pure] at hb
    | cons d rest =>
      have herr : ({ start f with mode := .repetition ⟨0, some 1⟩ false } : PatternText).step d =
          .error .nothingToRepeat := by
        show stepRepetition _ _ _ d = _
        unfold stepRepetition
        split
        · rfl
        · rfl
      rw [readOn_cons, herr] at hb
      simp [bind, Except.bind] at hb

/-- A group is closed by the parenthesis behind it, and not by a later one, only if what stands in
it can be read by itself. -/
theorem exists_readBody_of_closed (hv : f.verbose = false) {pattern : List Char}
    (hp : Enclosable pattern) {x : Frame} (hx : x.outer ≠ []) {t : PatternText}
    (h : ((start f).inFrame x).readOn (pattern ++ [')', '$']) = .ok t) (ho : t.outer = []) :
    ∃ b, readBody f pattern = .ok b := by
  rw [readOn, List.foldlM_append, foldlM_inFrame hp (t := start f) hv rfl rfl x] at h
  cases hu : pattern.foldlM PatternText.step (start f) with
  | error e => simp [hu, Except.map, bind, Except.bind] at h
  | ok u =>
    obtain ⟨hf, hc, hm, -⟩ := gives_foldlM hp (t := start f) hv rfl rfl u hu
    simp only [hu, Except.map, bind, Except.bind, List.foldlM_cons, List.foldlM_nil] at h
    cases ha : u.mode.absorbs with
    | false =>
      have hstep := step_close (t := u.inFrame x) (by rw [inFrame_flags, hf]; exact hv) hc hm ha
      rw [hstep, settle_inFrame] at h
      cases hw : u.settle with
      | error e => simp [hw, Except.map, bind, Except.bind] at h
      | ok w => exact ⟨_, readBody_eq_ok.2 ⟨u, w, hu, hw, rfl⟩⟩
    | true =>
      -- the parenthesis is part of an escape or of a class, so the group is still open at the end
      have hg := gives_step_of_absorbs (hf ▸ hv) hc ha ')'
      rw [step_inFrame x (.inr ha) (.inr ha)] at h
      cases hs : u.step ')' with
      | error e => simp [hs, Except.map] at h
      | ok v =>
        obtain ⟨-, -, hmv, -⟩ := hg v hs
        simp only [hs, Except.map] at h
        rw [step_inFrame x (.inl hmv) (.inl ⟨by decide, by decide⟩)] at h
        cases hs' : v.step '$' with
        | error e => simp [hs', Except.map] at h
        | ok w =>
          simp only [hs', Except.map, pure, Except.pure] at h
          have hframe := frame_of_settle h
          exact absurd ((congrArg Frame.outer hframe).symm.trans ho) hx

/-- What can be read between anchors can be read by itself. -/
theorem exists_readBody (hv : f.verbose = false) {pattern : List Char} (hp : Enclosable pattern)
    (h : Expr.read f (anchored pattern) = .ok e) : ∃ b, readBody f pattern = .ok b := by
  obtain ⟨t, ht, ho, -⟩ := Expr.read_eq_ok_iff.1 h
  have hs := ReadsItem.lineStart hv 1 (start f) (grouped pattern ++ ['$']) (ready_start f)
  rw [List.singleton_append] at hs
  rw [anchored, hs, grouped, List.cons_append, List.cons_append, List.cons_append,
    List.append_assoc, readOn_openPlain hv ((ready_start f).add _ 1)] at ht
  let x : Frame := ⟨none, f, [((start f).add [⟨.look f.lineStart, 0, true⟩] 1).level], 1, []⟩
  exact exists_readBody_of_closed hv hp (x := x) (List.cons_ne_nil _ _) ht ho

theorem Expr.read_anchored_iff (hv : f.verbose = false) {pattern : List Char}
    (hp : Enclosable pattern) : Expr.read f (anchored pattern) = .ok e ↔
      ∃ b, readBody f pattern = .ok b ∧ b.height + 2 ≤ maxHeight ∧
        e = .seq [.look f.lineStart, b.expr, .look f.lineEnd] := by
  constructor
  · intro h
    obtain ⟨b, hb⟩ := exists_readBody hv hp h
    obtain ⟨hh, he⟩ := (Expr.read_reads (reads_anchored hv hp hb 1)).1 h
    rw [height_sequence_anchored] at hh
    exact ⟨b, hb, hh, he⟩
  · rintro ⟨b, hb, hh, rfl⟩
    refine (Expr.read_reads (reads_anchored hv hp hb 1)).2 ⟨?_, rfl⟩
    rwa [height_sequence_anchored]

end

end RouteTemplate.Regex
