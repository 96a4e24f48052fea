import Mathlib.Data.List.Induction
import RouteTemplate.Proofs.Template.Scanning
import RouteTemplate.Proofs.Template.Values

/-!
The pattern of a parameter without one of its own. Whatever the delimiter is, its quoted characters
are read as the members of one negated class, so the pattern accepts the texts that are not empty
and hold no character of the delimiter: `accepts_defaultPattern_iff`. Only where the delimiter has
both characters beside the surrogates, these two are accepted although they are its own:
`Step.exists_validator_defaultPattern`. That there is a validator assumes that the delimiter is not
so long that the class reaches the engine's bound on the size of a program (see `Regex.compile`).
-/

namespace RouteTemplate

open Regex
open Regex.PatternText

/-- The characters of a text as a class, joined one after the other. -/
def CharClass.gathered (l : List Char) : CharClass :=
  l.foldl (fun s c => s.union (.single c)) .empty

theorem CharClass.gathered_append (l : List Char) (c : Char) :
    gathered (l ++ [c]) = (gathered l).union (.single c) := by
  rw [gathered, List.foldl_append]
  rfl

theorem CharClass.contains_gathered (l : List Char) (c : Char) :
    (gathered l).contains c = true ↔ c ∈ l := by
  induction l using List.reverseRecOn with
  | nil => simp [gathered]
  | append_singleton l d ih => simp [gathered_append, ih]

/-- Gathered characters leave the surrogates out, so their class parts there if it holds the
characters on both sides. -/
theorem CharClass.partsAtSurrogates_gathered_iff (l : List Char) :
    (gathered l).partsAtSurrogates = true ↔ '\ud7ff' ∈ l ∧ '\ue000' ∈ l := by
  have hgap : inside (gathered l).points 0xD800 = false := by
    induction l using List.reverseRecOn with
    | nil => rfl
    | append_singleton l c ih =>
      have hc := toNat_lt_or_lt c
      rw [gathered_append, inside_union, ih, Bool.false_or, Bool.eq_false_iff, ne_eq, single, range,
        inside_between_iff]
      omega
  show (((gathered l).contains '\ud7ff' && (gathered l).contains '\ue000') &&
    !inside (gathered l).points 0xD800) = true ↔ _
  rw [hgap, Bool.not_false, Bool.and_true, Bool.and_eq_true, contains_gathered, contains_gathered]

namespace Regex

namespace ClassText

/-- A negated class, read up to the characters `l`, of which the last one is pending. -/
structure Holds (t : ClassText) (l : List Char) : Prop where
  outer : t.outer = []
  negated : t.level.negated = true
  left : t.level.left = none
  height : t.level.height = 0
  read : (l = [] ∧ t.mode = .leading false ∧ t.level.members = .empty) ∨
    ∃ init c, l = init ++ [c] ∧ t.mode = .member (.char c) ∧ t.level.members = .gathered init

variable {f : Flags} {t : ClassText} {l : List Char}

theorem Holds.note (h : t.Holds l) (c : Char) : (t.note c).Holds l :=
  ⟨h.outer, h.negated, h.left, h.height, h.read⟩

/-- The pending character becomes a member before the next one is looked at. -/
theorem Holds.stepMode (hu : f.unicode = true) (h : t.Holds l) {c : Char} (hc : c ≠ '-')
    (hl : c = ']' → l ≠ []) :
    ∃ v : ClassText, v.outer = [] ∧ v.level.negated = true ∧ v.level.left = none ∧
      v.level.height = 0 ∧ v.level.members = .gathered l ∧ t.stepMode f c = v.stepBetween f c := by
  rcases h.read with ⟨rfl, hm, hs⟩ | ⟨init, d, rfl, hm, hs⟩
  · refine ⟨t, h.outer, h.negated, h.left, h.height, hs, ?_⟩
    have hne : c ≠ ']' := fun he => hl he rfl
    rw [ClassText.stepMode, hm]
    simp [stepLeading, hc, hne]
  · refine ⟨{ t with level := t.level.add (.single d) 0, mode := .between }, h.outer, h.negated,
      h.left, ?_, ?_, ?_⟩
    · simp [ClassLevel.add, h.height]
    · rw [CharClass.gathered_append, ← hs]
      rfl
    · rw [ClassText.stepMode, hm]
      simp [stepMember, hc, addMember, charClass, hu, bind, Except.bind, pure, Except.pure]

theorem not_isMeta_iff {c : Char} : isMeta c = false ↔
    c ≠ '\\' ∧ c ≠ '.' ∧ c ≠ '+' ∧ c ≠ '*' ∧ c ≠ '?' ∧ c ≠ '(' ∧ c ≠ ')' ∧ c ≠ '|' ∧ c ≠ '[' ∧
      c ≠ ']' ∧ c ≠ '\x7b' ∧ c ≠ '\x7d' ∧ c ≠ '^' ∧ c ≠ '$' ∧ c ≠ '#' ∧ c ≠ '&' ∧ c ≠ '-' ∧
      c ≠ '~' := by
  simp [isMeta]

theorem Holds.step_plain (hu : f.unicode = true) (h : t.Holds l) {c : Char}
    (hc : isMeta c = false) : ∃ v : ClassText, v.Holds (l ++ [c]) ∧ t.step f c = .ok (.inl v) := by
  obtain ⟨h₁, -, -, -, -, -, -, -, h₂, h₃, -, -, -, -, -, h₄, h₅, h₆⟩ := not_isMeta_iff.1 hc
  obtain ⟨v, ho, hn, hl, hh, hs, hstep⟩ := (h.note c).stepMode hu h₅ fun he => absurd he h₃
  refine ⟨{ v with mode := .member (.char c) }, ⟨ho, hn, hl, hh, .inr ⟨l, c, rfl, rfl, hs⟩⟩, ?_⟩
  rw [ClassText.step, if_neg h₃, hstep]
  simp [stepBetween, h₁, h₂, h₃, h₄, h₅, h₆]

theorem Holds.step_escaped (hu : f.unicode = true) (h : t.Holds l) {c : Char}
    (hc : isMeta c = true) :
    ∃ u v : ClassText, v.Holds (l ++ [c]) ∧ t.step f '\\' = .ok (.inl u) ∧
      u.step f c = .ok (.inl v) := by
  obtain ⟨u, ho, hn, hl, hh, hs, hstep⟩ := (h.note '\\').stepMode hu (c := '\\') (by decide)
    fun he => absurd he (by decide)
  have hfirst : t.step f '\\' = .ok (.inl { u with mode := .escape none .start }) := by
    rw [ClassText.step, if_neg (by decide), hstep]
    simp [stepBetween]
  have hsecond (w : ClassText) (hm : w.mode = .escape none .start) :
      w.stepMode f c = .ok (.inl { w with mode := .member (.char c) }) := by
    rw [ClassText.stepMode, hm]
    simp [stepEscape, EscapeText.step, stepStart_of_isMeta hc, bind, Except.bind, pure,
      Except.pure]
  have hread : ∀ w : ClassText, w.outer = [] → w.level.negated = true → w.level.left = none →
      w.level.height = 0 → w.level.members = .gathered l →
      ({ w with mode := .member (.char c) } : ClassText).Holds (l ++ [c]) :=
    fun w ho hn hl hh hs => ⟨ho, hn, hl, hh, .inr ⟨l, c, rfl, rfl, hs⟩⟩
  by_cases he : c = ']'
  · refine ⟨_, _, (hread u ho hn hl hh hs).note c, hfirst, ?_⟩
    rw [ClassText.step, if_pos he, hsecond _ rfl]
    simp [bind, Except.bind, pure, Except.pure]
  · refine ⟨_, _, hread (u.note c) ho hn hl hh hs, hfirst, ?_⟩
    rw [ClassText.step, if_neg he, hsecond _ rfl]
    rfl

theorem Holds.step_close (hu : f.unicode = true) (h : t.Holds l) (hl : l ≠ []) :
    ∃ height ≤ 2, t.step f ']' = .ok (.inr ⟨(f.fold (.gathered l)).outside, height⟩) := by
  obtain ⟨v, ho, hn, hleft, hh, hs, hstep⟩ := h.stepMode hu (c := ']') (by decide) fun _ => hl
  refine ⟨v.level.last.height + 1, ?_, ?_⟩
  · simp only [ClassLevel.last, hh]
    split <;> omega
  · rw [ClassText.step, if_pos rfl, hstep]
    simp [stepBetween, close, ho, hn, hleft, hs, ClassLevel.combined, ClassLevel.last, Flags.close,
      Flags.negate, hu, bind, Except.bind, pure, Except.pure]

end ClassText

open ClassText

section

variable {f : Flags} {t : PatternText} {u v : ClassText}

theorem step_brackets (hv : t.flags.verbose = false) (hc : t.inComment = false) (c : Char) :
    ({ t with mode := .brackets u } : PatternText).step c =
      (u.step t.flags c).map fun
        | .inl v => { t with mode := .brackets v }
        | .inr d => { t with mode := .brackets u }.push
            { expr := t.flags.ofClass d.set, height := d.height } := by
  have hb : ({ t with mode := .brackets u } : PatternText).isBlank c = false :=
    isBlank_eq_false (t := { t with mode := .brackets u }) hv c
  rw [PatternText.step, if_neg (by rw [hc]; decide)]
  show stepBrackets _ u c = _
  rw [stepBrackets, hb, Bool.and_false, if_neg Bool.false_ne_true]
  cases u.step t.flags c with
  | error e => rfl
  | ok r => cases r <;> rfl

theorem readOn_brackets (hv : t.flags.verbose = false) (hc : t.inComment = false) {c : Char}
    (h : u.step t.flags c = .ok (.inl v)) (rest : List Char) :
    ({ t with mode := .brackets u } : PatternText).readOn (c :: rest) =
      ({ t with mode := .brackets v } : PatternText).readOn rest :=
  readOn_step (by rw [step_brackets hv hc, h]; rfl) rest

/-- Quoted characters are members of the class that they stand in. Whatever a reading is asked for,
it is the same behind them. -/
theorem exists_holds_quote {α : Type} {g : PatternText → List Char → α}
    (hg : ∀ (u v : ClassText) (c : Char) (rest : List Char), u.step t.flags c = .ok (.inl v) →
      g { t with mode := .brackets u } (c :: rest) = g { t with mode := .brackets v } rest)
    (hu : t.flags.unicode = true) {init : List Char} (h : u.Holds init) (l rest : List Char) :
    ∃ v : ClassText, v.Holds (init ++ l) ∧
      g { t with mode := .brackets u } (l.flatMap quoteChar ++ rest) =
        g { t with mode := .brackets v } rest := by
  induction l generalizing u init with
  | nil => exact ⟨u, by rwa [List.append_nil], rfl⟩
  | cons c l ih =>
    rw [List.flatMap_cons, List.append_assoc]
    unfold quoteChar
    cases hm : isMeta c with
    | false =>
      obtain ⟨w, hw, hs⟩ := h.step_plain hu hm
      obtain ⟨v, hv', hr⟩ := ih hw
      refine ⟨v, by simpa using hv', ?_⟩
      exact (hg _ _ _ _ hs).trans hr
    | true =>
      obtain ⟨w, x, hx, hs, hs'⟩ := h.step_escaped hu hm
      obtain ⟨v, hv', hr⟩ := ih hx
      refine ⟨v, by simpa using hv', ?_⟩
      exact (hg _ _ _ _ hs).trans ((hg _ _ _ _ hs').trans hr)

/-- The default pattern up to the bracket that closes its class. -/
theorem exists_holds_default {α : Type} {g : PatternText → List Char → α}
    (hg : ∀ (u v : ClassText) (c : Char) (rest : List Char), u.step t.flags c = .ok (.inl v) →
      g { t with mode := .brackets u } (c :: rest) = g { t with mode := .brackets v } rest)
    (hu : t.flags.unicode = true) (l rest : List Char) :
    ∃ v : ClassText, v.Holds l ∧
      g { t with mode := .brackets {} } ('^' :: (l.flatMap quoteChar ++ rest)) =
        g { t with mode := .brackets v } rest := by
  have hcaret : ({} : ClassText).step t.flags '^' =
      .ok (.inl { level := { negated := true, text := ['^'] }, mode := .leading false }) := rfl
  have hbegin : ({ level := { negated := true, text := ['^'] }, mode := .leading false } :
      ClassText).Holds [] := ⟨rfl, rfl, rfl, rfl, .inl ⟨rfl, rfl, rfl⟩⟩
  obtain ⟨v, hv, hquote⟩ := exists_holds_quote hg hu hbegin l rest
  exact ⟨v, hv, (hg _ _ _ _ hcaret).trans hquote⟩

theorem step_openBrackets (hv : f.verbose = false) :
    (start f).step '[' = .ok { start f with mode := .brackets {} } := by
  rw [(ready_start f).step, stepItem, isBlank_eq_false (t := start f) hv]
  rfl

theorem step_plus (hv : f.verbose = false) (i : Item) : ((start f).push i).step '+' =
    .ok { (start f).push i with mode := .repetition ⟨1, none⟩ false } := by
  have hb := isBlank_eq_false (t := (start f).push i) hv '+'
  show stepItem _ _ = _
  rw [stepItem, hb]
  rfl

/-- A class that is repeated as seldom as possible, but once at least. -/
theorem readOn_lazyPlus (hv : f.verbose = false) (s : CharClass) (height : Nat) :
    ((start f).push { expr := f.ofClass s, height := height }).readOn ['+', '?'] =
      .ok ((start f).push
        { expr := .rep ⟨1, none⟩ (f.greedy true) (f.ofClass s), height := height + 1 }) := by
  have hlazy : ({ (start f).push { expr := f.ofClass s, height := height } with
      mode := .repetition ⟨1, none⟩ false } : PatternText).step '?' =
        .ok ((start f).push
          { expr := .rep ⟨1, none⟩ (f.greedy true) (f.ofClass s), height := height + 1 }) := rfl
  rw [readOn_step (step_plus hv _), readOn_step hlazy, readOn_nil rfl]

theorem toList_defaultPattern (d : String) : (defaultPattern d).toList =
    '[' :: '^' :: (d.toList.flatMap quoteChar ++ [']', '+', '?']) := by
  simp [defaultPattern]

theorem readBody_defaultPattern (hv : f.verbose = false) (hu : f.unicode = true) {d : String}
    (hd : d ≠ "") :
    ∃ height ≤ 3, readBody f (defaultPattern d).toList = .ok ⟨.rep ⟨1, none⟩ (f.greedy true)
      (f.ofClass (f.fold (.gathered d.toList)).outside), height, true⟩ := by
  obtain ⟨v, hv', hquote⟩ := exists_holds_default (t := start f)
    (fun _ _ _ rest h => readOn_brackets hv rfl h rest) hu d.toList [']', '+', '?']
  have hne : d.toList ≠ [] := fun h => hd (String.toList_inj.1 h)
  obtain ⟨height, hh, hclose⟩ := hv'.step_close hu hne
  refine ⟨height + 1, by omega, ?_⟩
  rw [toList_defaultPattern, readBody, readOn_step (step_openBrackets hv), hquote]
  have hend : ({ start f with mode := .brackets v } : PatternText).step ']' =
      .ok ((start f).push
        { expr := f.ofClass (f.fold (.gathered d.toList)).outside, height := height }) := by
    rw [step_brackets (t := start f) hv rfl, show (start f).flags = f from rfl, hclose]
    rfl
  rw [readOn_step hend, readOn_lazyPlus hv]
  rfl

end

theorem Expr.times_walk_set_iff {text : List Char} {unicode : Bool} {s : CharClass}
    {n i j : Nat} {ms : List (Nat × Nat)} :
    ((Expr.set unicode s).walk text).times n i j ms ↔
      ms = [] ∧ j = i + n ∧ ∀ k < n, ∃ c, text[i + k]? = some c ∧ s.contains c = true := by
  induction n generalizing i ms with
  | zero =>
    constructor
    · rintro ⟨rfl, rfl⟩
      exact ⟨rfl, rfl, fun k hk => absurd hk (Nat.not_lt_zero k)⟩
    · rintro ⟨rfl, rfl, -⟩
      exact ⟨rfl, rfl⟩
  | succ n ih =>
    constructor
    · rintro ⟨k, ns, os, ⟨hc, rfl, rfl⟩, hw, rfl⟩
      obtain ⟨rfl, rfl, hall⟩ := ih.1 hw
      refine ⟨rfl, by omega, fun m hm => ?_⟩
      cases m with
      | zero => exact hc
      | succ m =>
        rw [Nat.add_comm m 1, ← Nat.add_assoc]
        exact hall m (by omega)
    · rintro ⟨rfl, rfl, hall⟩
      refine ⟨i + 1, [], [], ⟨hall 0 (by omega), rfl, rfl⟩, ih.2 ⟨rfl, by omega, ?_⟩, rfl⟩
      intro m hm
      rw [Nat.add_assoc, Nat.add_comm 1 m]
      exact hall (m + 1) (by omega)

theorem Expr.matches_lazyPlus_iff {unicode greedy : Bool} {s : CharClass} {w : List Char} :
    (Expr.rep ⟨1, none⟩ greedy (.set unicode s)).Matches w ↔
      w ≠ [] ∧ ∀ c ∈ w, s.contains c = true := by
  constructor
  · rintro ⟨ms, n, ⟨hn, -⟩, hw⟩
    obtain ⟨-, hlen, hall⟩ := times_walk_set_iff.1 hw
    rw [Nat.zero_add] at hlen
    subst hlen
    refine ⟨List.ne_nil_of_length_pos hn, fun c hc => ?_⟩
    obtain ⟨k, hk, rfl⟩ := List.mem_iff_getElem.1 hc
    obtain ⟨d, hd, hs⟩ := hall k hk
    rw [Nat.zero_add, List.getElem?_eq_getElem hk] at hd
    obtain rfl := Option.some.inj hd
    exact hs
  · rintro ⟨hne, hall⟩
    refine ⟨[], w.length, ⟨List.length_pos_of_ne_nil hne, by simp⟩,
      times_walk_set_iff.2 ⟨rfl, (Nat.zero_add _).symm, fun k hk => ?_⟩⟩
    rw [Nat.zero_add, List.getElem?_eq_getElem hk]
    exact ⟨w[k], rfl, hall _ (List.getElem_mem hk)⟩

end Regex

/-- Letter case makes no difference to characters without other case forms. -/
theorem contains_fold_gathered_iff {caseSensitive : Bool} {l : List Char}
    (hl : caseSensitive = true ∨ ∀ c ∈ l, Unicode.otherCases c = []) (c : Char) :
    ((caseFlags caseSensitive).fold (.gathered l)).contains c = true ↔ c ∈ l := by
  cases caseSensitive with
  | true => exact CharClass.contains_gathered l c
  | false =>
    have hcase := hl.resolve_left Bool.false_ne_true
    show (CharClass.gathered l).folded.contains c = true ↔ _
    rw [CharClass.contains_folded_iff, CharClass.contains_gathered]
    constructor
    · rintro (h | ⟨d, hd, hc⟩)
      · exact h
      · rw [hcase d ((CharClass.contains_gathered l d).1 hd)] at hc
        exact absurd hc List.not_mem_nil
    · exact .inl

/-- The characters that are left when some are cut out. -/
theorem contains_outside_fold_gathered_iff {caseSensitive : Bool} {l : List Char}
    (hl : caseSensitive = true ∨ ∀ c ∈ l, Unicode.otherCases c = [])
    (hparts : '\ud7ff' ∉ l ∨ '\ue000' ∉ l) (c : Char) :
    ((caseFlags caseSensitive).fold (.gathered l)).outside.contains c = true ↔ c ∉ l := by
  have hfold := contains_fold_gathered_iff hl
  have hwhole : ((caseFlags caseSensitive).fold (.gathered l)).partsAtSurrogates = false := by
    refine CharClass.partsAtSurrogates_eq_false ?_
    rwa [Bool.eq_false_iff, Bool.eq_false_iff, ne_eq, ne_eq, hfold, hfold]
  simp only [CharClass.contains_outside_iff, hwhole, Bool.eq_false_iff, ne_eq, hfold,
    Bool.false_eq_true, false_and, or_false]

/-- A default pattern has a validator, whatever the characters of the delimiter are and as long as
it does not reach the bound on sizes. -/
theorem exists_compile_defaultPattern {d : String} (hd : d ≠ "") :
    ∃ r, Regex.compile true ("^(?:" ++ defaultPattern d ++ ")$") = .ok r := by
  obtain ⟨height, hheight, hbody⟩ := readBody_defaultPattern (f := caseFlags true) rfl rfl hd
  have hread := (Expr.read_anchored_iff rfl (enclosable_defaultPattern d)).2
    ⟨_, hbody, by show height + 2 ≤ 250; omega, rfl⟩
  rw [← toList_validator] at hread
  exact ⟨_, Regex.compile_eq_ok_iff.2 ⟨_, hread, rfl⟩⟩

/-- The default pattern accepts the characters outside of a class that the delimiter makes up. -/
theorem Parameter.accepts_defaultPattern_iff_outside {p : Parameter} {d : String} {r : Regex}
    (hp : p.pattern = defaultPattern d) (hd : d ≠ "")
    (hr : Regex.compile true ("^(?:" ++ p.pattern ++ ")$") = .ok r) (caseSensitive : Bool)
    (w : String) :
    p.Accepts caseSensitive w ↔ w ≠ "" ∧ ∀ c ∈ w.toList,
      ((caseFlags caseSensitive).fold (.gathered d.toList)).outside.contains c = true := by
  have henc : Enclosable p.pattern.toList := hp ▸ enclosable_defaultPattern d
  obtain ⟨b, hb, -, ha⟩ := exists_body henc hr caseSensitive
  obtain ⟨height, -, hread⟩ := readBody_defaultPattern (f := caseFlags caseSensitive) rfl rfl hd
  rw [hp, hread] at hb
  obtain rfl := Except.ok.inj hb
  rw [ha, show (⟨_, _, _⟩ : Item).expr = _ from rfl, Flags.ofClass, Expr.ofClass,
    Expr.matches_lazyPlus_iff, ne_eq, ne_eq, ← String.toList_inj, String.toList_empty]

/-- The default pattern accepts what is not empty and holds no character of the delimiter. The class
is cut out between the characters of the delimiter, so it takes in the two characters beside the
surrogates if both of them are meant to be left out. -/
theorem Parameter.accepts_defaultPattern_iff {p : Parameter} {d : String} {r : Regex}
    {caseSensitive : Bool} (hp : p.pattern = defaultPattern d) (hd : d ≠ "")
    (hr : Regex.compile true ("^(?:" ++ p.pattern ++ ")$") = .ok r)
    (hcase : caseSensitive = true ∨ ∀ c ∈ d.toList, Unicode.otherCases c = [])
    (hparts : '\ud7ff' ∉ d.toList ∨ '\ue000' ∉ d.toList) (w : String) :
    p.Accepts caseSensitive w ↔ w ≠ "" ∧ ∀ c ∈ w.toList, c ∉ d.toList := by
  rw [accepts_defaultPattern_iff_outside hp hd hr]
  simp only [contains_outside_fold_gathered_iff hcase hparts]

theorem Parameter.lookFree_defaultPattern {p : Parameter} {d : String}
    (hp : p.pattern = defaultPattern d) (hd : d ≠ "") (caseSensitive : Bool) :
    p.LookFree caseSensitive := by
  intro e he
  obtain ⟨height, hh, hread⟩ := readBody_defaultPattern (f := caseFlags caseSensitive) rfl rfl hd
  have hheight : height ≤ maxHeight := Nat.le_trans hh (by decide)
  rw [hp, Expr.read_of_readBody rfl (enclosable_defaultPattern d) hread hheight] at he
  obtain rfl := Except.ok.inj he
  rfl

/-- One character is not both of those beside the surrogates. -/
theorem ne_or_ne_beside_surrogates (d : Char) : '\ud7ff' ≠ d ∨ '\ue000' ≠ d := by
  by_cases h : '\ud7ff' = d
  · exact .inr fun h' => absurd (h.trans h'.symm) (by decide)
  · exact .inl h

theorem Parameter.accepts_defaultPattern_singleton_iff {p : Parameter} {d : Char} {r : Regex}
    {caseSensitive : Bool} (hp : p.pattern = defaultPattern (String.singleton d))
    (hr : Regex.compile true ("^(?:" ++ p.pattern ++ ")$") = .ok r)
    (hcase : caseSensitive = true ∨ Unicode.otherCases d = []) (w : String) :
    p.Accepts caseSensitive w ↔ w ≠ "" ∧ d ∉ w.toList := by
  have hmem (c : Char) : c ∈ (String.singleton d).toList ↔ c = d := by
    rw [String.toList_singleton, List.mem_singleton]
  have hparts : '\ud7ff' ∉ (String.singleton d).toList ∨
      '\ue000' ∉ (String.singleton d).toList := by
    rw [hmem, hmem]
    exact ne_or_ne_beside_surrogates d
  rw [accepts_defaultPattern_iff hp (Scanner.singleton_ne_empty d) hr ?_ hparts]
  · simp only [hmem]
    constructor
    · rintro ⟨hne, hw⟩
      exact ⟨hne, fun hd => hw d hd rfl⟩
    · rintro ⟨hne, hd⟩
      refine ⟨hne, ?_⟩
      rintro c hc rfl
      exact hd hc
  · refine hcase.imp_right fun h c hc => ?_
    rw [(hmem c).1 hc, h]

/-- The validator of a default pattern accepts the texts that are not empty and have no character in
common with the delimiter. Only where the delimiter has both characters beside the surrogates, it
accepts these two as well. (That it exists assumes the bound on sizes not to be reached.) -/
theorem Step.exists_validator_defaultPattern (p : Parameter) {d : String} (hd : d ≠ "") :
    ∃ r, Step.validator { p with pattern := defaultPattern d } = .ok r ∧
      ∀ v, r.isMatch v = true ↔ v ≠ "" ∧ ∀ c ∈ v.toList, c ∈ d.toList →
        '\ud7ff' ∈ d.toList ∧ '\ue000' ∈ d.toList ∧ (c = '\ud7ff' ∨ c = '\ue000') := by
  obtain ⟨r, hr⟩ := exists_compile_defaultPattern hd
  refine ⟨r, Except.mapError_eq_ok_iff.2 hr, fun v => ?_⟩
  set q : Parameter := { p with pattern := defaultPattern d }
  have hfold : (caseFlags true).fold (.gathered d.toList) = .gathered d.toList := rfl
  rw [← q.accepts_iff hr, q.accepts_defaultPattern_iff_outside rfl hd hr, hfold]
  simp only [CharClass.contains_outside_iff, CharClass.partsAtSurrogates_gathered_iff,
    Bool.eq_false_iff, ne_eq, CharClass.contains_gathered, and_assoc, imp_iff_not_or]

/-- The operators of classes are no operators in a delimiter. -/
theorem Step.exists_validator_defaultPattern_of_operators :
    ∃ r, Step.validator ⟨"id", "", "]^a-f&&~~[:digit:]\\\n", .one, false,
        defaultPattern "]^a-f&&~~[:digit:]\\\n"⟩ = .ok r ∧
      r.isMatch "be7" = true ∧ r.isMatch "b-e" = false ∧ r.isMatch "" = false := by
  obtain ⟨r, hr, hm⟩ := exists_validator_defaultPattern
    ⟨"id", "", "]^a-f&&~~[:digit:]\\\n", .one, false, ""⟩ (d := "]^a-f&&~~[:digit:]\\\n")
    (by decide)
  refine ⟨r, hr, (hm _).2 (by simp), ?_, ?_⟩
  · rw [Bool.eq_false_iff, ne_eq, hm]
    simp
  · rw [Bool.eq_false_iff, ne_eq, hm]
    simp

/-- Here a value may consist of the delimiter's first character. -/
theorem Step.validator_accepts_delimiter :
    ∃ r, Step.validator ⟨"id", "", "\ud7ff\ue000", .one, false,
        defaultPattern "\ud7ff\ue000"⟩ = .ok r ∧ r.isMatch "\ud7ff" = true := by
  obtain ⟨r, hr, hm⟩ : (⟨"id", "", "\ud7ff\ue000", .one, false,
      defaultPattern "\ud7ff\ue000"⟩ : Parameter).Accepts true "\ud7ff" := by decide +kernel
  exact ⟨r, Except.mapError_eq_ok_iff.2 hr, hm⟩

end RouteTemplate
