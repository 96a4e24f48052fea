import Mathlib.Data.List.MinMax
import Mathlib.Order.Nat
import RouteTemplate.Proofs.Template.Compiled
import RouteTemplate.Proofs.Template.DefaultPattern
import RouteTemplate.Proofs.Template.Items
import RouteTemplate.Proofs.Template.Tokens

/-!
Which templates can be built. `Blames` says what a template that cannot be built is blamed for: the
first bad option, or else the first parameter whose pattern cannot be read between anchors, or else
nothing but the depth of the whole pattern. `compile_eq_error_iff` says that it is the error of
construction, so whatever is wrong with the whole pattern is wrong with the pattern of a parameter.
The whole nests a fixed number of levels deeper than these do (`height_source_le`).

Depth is the only limit that is modelled. Wherever a template is said to be built, its patterns are
assumed not to reach the engine's bound on the size of a program (see `Regex.compile`).
-/

namespace RouteTemplate

open Regex
open Regex.PatternText (readBody maxHeight)

/-! ## Depth -/

namespace Regex

variable {n : Nat}

theorem height_sequence_le {items : List Item} (h : ∀ i ∈ items, i.height ≤ n) :
    (sequence items).height ≤ n + 1 := by
  have hdepth : (items.reverse.map Item.height).foldr max 0 ≤ n := by
    refine List.max_le_of_forall_le _ n fun k hk => ?_
    obtain ⟨i, hi, rfl⟩ := List.mem_map.1 hk
    exact h i (List.mem_reverse.1 hi)
  show (if 2 ≤ items.reverse.length then _ + 1 else _) ≤ n + 1
  split
  · exact Nat.succ_le_succ hdepth
  · exact Nat.le_succ_of_le hdepth

theorem height_bodyOf_le {alternatives : List (List Item)}
    (h : ∀ items ∈ alternatives, ∀ i ∈ items, i.height ≤ n) :
    (bodyOf alternatives).height ≤ n + 2 := by
  have hall : ∀ i ∈ alternatives.map sequence, i.height ≤ n + 1 := by
    intro i hi
    obtain ⟨items, hitems, rfl⟩ := List.mem_map.1 hi
    exact height_sequence_le (h items hitems)
  unfold bodyOf
  split
  · exact Nat.zero_le _
  next i heq => exact Nat.le_succ_of_le (hall i (by rw [heq]; exact List.mem_cons_self ..))
  next i rest _ heq =>
    rw [heq] at hall
    refine Nat.succ_le_succ (List.max_le_of_forall_le _ (n + 1) fun k hk => ?_)
    obtain ⟨j, hj, rfl⟩ := List.mem_map.1 hk
    exact hall j hj

end Regex

section

variable {f : Flags} {p : Parameter} {n : Nat}

theorem height_literals {s : String} {i : Item} (hi : i ∈ literals f s) : i.height = 0 := by
  obtain ⟨c, -, rfl⟩ := List.mem_map.1 hi
  rfl

theorem height_lead_append_le {s : String} {i : Item} (hi : i.height ≤ n) :
    ∀ j ∈ literals f s ++ [i], j.height ≤ n := by
  intro j hj
  rcases List.mem_append.1 hj with hj | hj
  · rw [height_literals hj]
    exact Nat.zero_le n
  · obtain rfl := List.mem_singleton.1 hj
    exact hi

theorem height_captured_le_add (h : (p.value f).height ≤ n) : (p.captured f).height ≤ n + 5 := by
  have hone : (p.value f).enclosed.height ≤ n + 1 := Nat.succ_le_succ h
  have hmore := height_sequence_le (height_lead_append_le (f := f) (s := p.lead) hone)
  unfold Parameter.captured
  split
  · refine height_sequence_le (n := n + 4) fun i hi => ?_
    simp only [List.mem_cons, List.not_mem_nil, or_false] at hi
    rcases hi with rfl | rfl
    · exact Nat.le_trans hone (by omega)
    · exact Nat.succ_le_succ (Nat.succ_le_succ hmore)
  · exact Nat.le_trans h (by omega)

theorem height_items_le (h : (p.value f).height ≤ n) (g : Nat) :
    ∀ i ∈ p.items f g, i.height ≤ n + 9 := by
  have hgroup : ((p.captured f).captured g).height ≤ n + 6 :=
    Nat.succ_le_succ (height_captured_le_add h)
  have hwhole := height_sequence_le (height_lead_append_le (f := f) (s := p.lead) hgroup)
  unfold Parameter.items
  split
  · split
    · exact height_lead_append_le (Nat.le_trans (Nat.succ_le_succ hgroup) (by omega))
    · intro i hi
      obtain rfl := List.mem_singleton.1 hi
      exact Nat.succ_le_succ (Nat.succ_le_succ hwhole)
  · exact height_lead_append_le (Nat.le_trans hgroup (by omega))

theorem height_itemsFrom_le {ts : List Token}
    (h : ∀ p, .parameter p ∈ ts → (p.value f).height ≤ n) (g : Nat) :
    ∀ i ∈ Token.itemsFrom f g ts, i.height ≤ n + 9 := by
  induction ts generalizing g with
  | nil => exact fun i hi => absurd hi List.not_mem_nil
  | cons t ts ih =>
    intro i hi
    rcases List.mem_append.1 hi with hi | hi
    · cases t with
      | literal s =>
        rw [height_literals hi]
        exact Nat.zero_le _
      | parameter p => exact height_items_le (h p (List.mem_cons_self ..)) g i hi
    · exact ih (fun p hp => h p (List.mem_cons_of_mem _ hp)) _ i hi

theorem height_endChoice_le (texts : List String) : (endChoice f texts).height ≤ 3 := by
  refine Nat.succ_le_succ (height_bodyOf_le (n := 0) fun items hitems i hi => ?_)
  rcases List.mem_append.1 hitems with hitems | hitems
  · obtain ⟨s, -, rfl⟩ := List.mem_map.1 hitems
    exact Nat.le_of_eq (height_literals hi)
  · obtain rfl := List.mem_singleton.1 hitems
    obtain rfl := List.mem_singleton.1 hi
    exact Nat.le_refl 0

theorem height_terminatorItems_le (o : Options) (delimited : Bool) :
    ∀ i ∈ o.terminatorItems f delimited, i.height ≤ 3 := by
  have hdelimiter : (Regex.sequence (literals f o.delimiter)).height ≤ 1 :=
    height_sequence_le fun i hi => Nat.le_of_eq (height_literals hi)
  have hend : ∀ i ∈ o.endItems f, i.height ≤ 3 := by
    unfold Options.endItems
    split
    all_goals
      intro i hi
      obtain rfl := List.mem_singleton.1 hi
    · exact Nat.zero_le 3
    · exact height_endChoice_le o.markers
  intro i hi
  unfold Options.terminatorItems at hi
  split at hi
  · rcases List.mem_append.1 hi with hi | hi
    · split at hi
      · exact absurd hi List.not_mem_nil
      · obtain rfl := List.mem_singleton.1 hi
        exact Nat.succ_le_succ (Nat.succ_le_succ hdelimiter)
    · exact hend i hi
  · split at hi
    · exact absurd hi List.not_mem_nil
    · obtain rfl := List.mem_singleton.1 hi
      exact height_endChoice_le _

/-- The pattern of a template nests at most ten levels deeper than the patterns in it. -/
theorem height_source_le {o : Options} {ts : List Token}
    (h : ∀ p, .parameter p ∈ ts → (p.value f).height ≤ n) :
    (Regex.sequence (sourceItems f o ts)).height ≤ n + 10 := by
  refine height_sequence_le fun i hi => ?_
  rcases List.mem_cons.1 hi with rfl | hi
  · exact Nat.zero_le _
  · rcases List.mem_append.1 hi with hi | hi
    · exact height_itemsFrom_le h 1 i hi
    · exact Nat.le_trans (height_terminatorItems_le o _ i hi) (by omega)

end

/-! ## Blame -/

/-- The pattern of a parameter can be read between anchors. -/
def Parameter.Validated (p : Parameter) : Prop :=
  ∃ r, Regex.compile true ("^(?:" ++ p.pattern ++ ")$") = .ok r

instance (p : Parameter) : Decidable p.Validated :=
  decidable_of_iff ((Regex.compile true ("^(?:" ++ p.pattern ++ ")$")).toOption.isSome = true) (by
    unfold Parameter.Validated
    cases Regex.compile true ("^(?:" ++ p.pattern ++ ")$") <;> simp [Except.toOption])

/-- What a template is blamed for if it cannot be built. Options come first, then the parameters in
order; what can go wrong with the whole pattern after that is its depth. -/
inductive Blames (o : Options) (ts : List Token) : TemplateError → Prop
  | emptyDelimiter : o.delimiter = "" → Blames o ts (.options .emptyDelimiter)
  | emptyMarker {i : Nat} : o.delimiter ≠ "" → o.markers[i]? = some "" →
      (∀ j < i, o.markers[j]? ≠ some "") → Blames o ts (.options (.emptyMarker i))
  | parameter {before after : List Token} {p : Parameter} {cause : Regex.Error} :
      o.delimiter ≠ "" → (∀ m ∈ o.markers, m ≠ "") → ts = before ++ .parameter p :: after →
      (∀ q, .parameter q ∈ before → q.Validated) →
      Regex.compile true ("^(?:" ++ p.pattern ++ ")$") = .error cause →
      Blames o ts (.pattern ⟨some p.name, p.pattern, cause⟩)
  | tooDeep : o.delimiter ≠ "" → (∀ m ∈ o.markers, m ≠ "") →
      (∀ q, .parameter q ∈ ts → q.Validated) →
      Regex.compile o.caseSensitive (Source.ofTokens o ts).text = .error .nestedTooDeep →
      Blames o ts (.pattern ⟨none, (Source.ofTokens o ts).text, .nestedTooDeep⟩)

theorem Options.validate_eq_error_iff (o : Options) {e : OptionsError} :
    o.validate = .error e ↔ o.delimiter = "" ∧ e = .emptyDelimiter ∨
      o.delimiter ≠ "" ∧ ∃ i, o.markers[i]? = some "" ∧ (∀ j < i, o.markers[j]? ≠ some "") ∧
        e = .emptyMarker i := by
  unfold validate
  split
  next hd => simp [hd, eq_comm]
  next hd =>
    cases hi : o.markers.findIdx? (· = "") with
    | none =>
      have hall := List.findIdx?_eq_none_iff.1 hi
      constructor
      · intro h
        cases h
      · rintro (⟨h, -⟩ | ⟨-, i, h, -⟩)
        · exact absurd h hd
        · exact absurd (hall _ (List.mem_of_getElem? h)) (by simp)
    | some i =>
      obtain ⟨hlt, hempty, hfirst⟩ := List.findIdx?_eq_some_iff_getElem.1 hi
      have hat : o.markers[i]? = some "" := by
        rw [List.getElem?_eq_getElem hlt, Option.some.injEq]
        exact of_decide_eq_true hempty
      have hbefore : ∀ j < i, o.markers[j]? ≠ some "" := by
        intro j hj h
        rw [List.getElem?_eq_getElem (Nat.lt_trans hj hlt), Option.some.injEq] at h
        exact hfirst j hj (decide_eq_true h)
      constructor
      · intro h
        exact .inr ⟨hd, i, hat, hbefore, (Except.error.inj h).symm⟩
      · rintro (⟨h, -⟩ | ⟨-, k, hk, hkbefore, rfl⟩)
        · exact absurd h hd
        · rcases Nat.lt_trichotomy k i with hlt | rfl | hlt
          · exact absurd hk (hbefore k hlt)
          · rfl
          · exact absurd hat (hkbefore i hlt)

namespace Step

theorem exists_ofToken_iff {a : Token} :
    (∃ s, ofToken a = .ok s) ↔ ∀ p, a = .parameter p → p.Validated := by
  cases a with
  | literal text => exact iff_of_true ⟨_, rfl⟩ fun p h => by cases h
  | parameter p =>
    simp only [ofToken_parameter_eq_ok_iff, Token.parameter.injEq, forall_eq', Parameter.Validated]
    constructor
    · rintro ⟨s, r, hr, -⟩
      exact ⟨r, hr⟩
    · rintro ⟨r, hr⟩
      exact ⟨_, r, hr, rfl⟩

theorem ofToken_eq_error_iff {a : Token} {e : PatternError} :
    ofToken a = .error e ↔ ∃ p cause, a = .parameter p ∧
      Regex.compile true ("^(?:" ++ p.pattern ++ ")$") = .error cause ∧
      e = ⟨some p.name, p.pattern, cause⟩ := by
  cases a with
  | literal text => simp [ofToken]
  | parameter p =>
    rw [ofToken, validator, Except.map_eq_error_iff, Except.mapError_eq_error_iff]
    constructor
    · rintro ⟨cause, h, rfl⟩
      exact ⟨p, cause, rfl, h, rfl⟩
    · rintro ⟨q, cause, hq, h, rfl⟩
      obtain rfl := Token.parameter.inj hq
      exact ⟨cause, h, rfl⟩

end Step

theorem Regex.compile_eq_error_iff {caseSensitive : Bool} {pattern : String} {e : Regex.Error} :
    Regex.compile caseSensitive pattern = .error e ↔
      Expr.read (caseFlags caseSensitive) pattern.toList = .error e := by
  unfold Regex.compile
  rw [Except.bind_eq_error_iff]
  constructor
  · rintro (h | ⟨_, -, h⟩)
    · exact h
    · cases h
  · exact .inl

theorem Parameter.Validated.readable {p : Parameter} (hp : p.Validated)
    (henclosable : Enclosable p.pattern.toList) (caseSensitive : Bool) :
    p.Readable (caseFlags caseSensitive) := by
  obtain ⟨r, hr⟩ := hp
  obtain ⟨b, hb, -⟩ := exists_body henclosable hr caseSensitive
  exact ⟨henclosable, b, hb⟩

section

variable {o : Options} {ts : List Token}

/-- If its parameters have patterns that can be read, the whole can be read unless it nests too
deep. -/
theorem deep_of_compile_eq_error (hts : ∀ p, .parameter p ∈ ts → p.Readable o.flags)
    {cause : Regex.Error}
    (h : Regex.compile o.caseSensitive (Source.ofTokens o ts).text = .error cause) :
    cause = .nestedTooDeep ∧ maxHeight < (Regex.sequence (sourceItems o.flags o ts)).height := by
  obtain ⟨g, hreads⟩ := exists_reads_source rfl rfl o hts
  have herror : Expr.read o.flags (Source.ofTokens o ts).text.toList = .error cause :=
    Regex.compile_eq_error_iff.1 h
  have hread := Expr.read_reads_eq hreads
  rw [herror] at hread
  split at hread
  · cases hread
  next hdeep => exact ⟨Except.error.inj hread, Nat.lt_of_not_le hdeep⟩

/-- If the whole nests too deep, the pattern of some parameter is deep by itself. -/
theorem exists_deep_of_compile_eq_error (hts : ∀ p, .parameter p ∈ ts → p.Readable o.flags)
    {cause : Regex.Error}
    (h : Regex.compile o.caseSensitive (Source.ofTokens o ts).text = .error cause) :
    ∃ p, .parameter p ∈ ts ∧ 240 < (p.value o.flags).height := by
  by_contra hnone
  obtain ⟨-, hdeep⟩ := deep_of_compile_eq_error hts h
  have hshallow : ∀ p, .parameter p ∈ ts → (p.value o.flags).height ≤ 240 :=
    fun p hp => Nat.le_of_not_lt fun hlt => hnone ⟨p, hp, hlt⟩
  exact absurd hdeep (Nat.not_lt.2 (height_source_le hshallow))

/-- Each token has become a step exactly if the pattern of each parameter can be read. -/
theorem mapM_ofToken_eq_ok_iff :
    (∃ steps, ts.mapM Step.ofToken = .ok steps) ↔ ∀ p, .parameter p ∈ ts → p.Validated := by
  constructor
  · rintro ⟨steps, h⟩ p hp
    exact exists_validator (Except.mapM_eq_ok_iff.1 h) hp
  · intro h
    cases hm : ts.mapM Step.ofToken with
    | ok steps => exact ⟨steps, rfl⟩
    | error e =>
      obtain ⟨before, a, after, rfl, -, ha⟩ := Except.mapM_eq_error_iff.1 hm
      obtain ⟨p, cause, rfl, hp, -⟩ := Step.ofToken_eq_error_iff.1 ha
      obtain ⟨r, hr⟩ := h p (List.mem_append_right _ (List.mem_cons_self ..))
      rw [hr] at hp
      cases hp

namespace Template

variable {text : String} {e : TemplateError}

theorem blames_of_compile (h : Template.compile o text = .error e) :
    Blames o (Token.ofTemplate o text) e := by
  unfold Template.compile at h
  rcases Except.bind_eq_error_iff.1 h with h | ⟨u, hv, h⟩
  · obtain ⟨cause, ho, rfl⟩ := Except.mapError_eq_error_iff.1 h
    rcases o.validate_eq_error_iff.1 ho with ⟨hd, rfl⟩ | ⟨hd, i, hat, hbefore, rfl⟩
    · exact .emptyDelimiter hd
    · exact .emptyMarker hd hat hbefore
  obtain ⟨hd, hm⟩ := o.validate_ok_iff.1 (Except.mapError_eq_ok_iff.1 hv)
  rcases Except.bind_eq_error_iff.1 h with h | ⟨renderer, hr, h⟩
  · obtain ⟨cause, hrenderer, rfl⟩ := Except.mapError_eq_error_iff.1 h
    obtain ⟨before, a, after, hts, hbefore, ha⟩ :=
      Except.mapM_eq_error_iff.1 (Except.map_eq_error_iff.1 hrenderer)
    obtain ⟨p, cause, rfl, hp, rfl⟩ := Step.ofToken_eq_error_iff.1 ha
    exact .parameter hd hm hts
      (fun q hq => Step.exists_ofToken_iff.1 (hbefore _ hq) q rfl) hp
  obtain ⟨steps, hsteps, -⟩ := Except.map_eq_ok_iff.1 (Except.mapError_eq_ok_iff.1 hr)
  have hvalid := mapM_ofToken_eq_ok_iff.1 ⟨steps, hsteps⟩
  rcases Except.bind_eq_error_iff.1 h with h | ⟨extractor, -, h⟩
  · obtain ⟨cause, hextractor, rfl⟩ := Except.mapError_eq_error_iff.1 h
    rcases Except.bind_eq_error_iff.1 hextractor with h | ⟨r, -, h⟩
    · obtain ⟨cause, hregex, rfl⟩ := Except.mapError_eq_error_iff.1 h
      obtain ⟨rfl, -⟩ := deep_of_compile_eq_error (fun p hp =>
        (hvalid p hp).readable (scanned_of_mem_ofTemplate hp).enclosable o.caseSensitive) hregex
      exact .tooDeep hd hm hvalid hregex
    · cases h
  · cases h

theorem compile_of_valid (hd : o.delimiter ≠ "") (hm : ∀ m ∈ o.markers, m ≠ "") (text : String) :
    Template.compile o text = do
      let renderer ← (Renderer.ofTokens (Token.ofTemplate o text)).mapError .pattern
      let extractor ← (Extractor.ofTokens o (Token.ofTemplate o text)).mapError .pattern
      return ⟨text, o, Token.ofTemplate o text, extractor, renderer⟩ := by
  rw [Template.compile, o.validate_ok_iff.2 ⟨hd, hm⟩]
  rfl

theorem compile_of_blames (h : Blames o (Token.ofTemplate o text) e) :
    Template.compile o text = .error e := by
  have hoptions {cause : OptionsError} (ho : o.validate = .error cause) :
      Template.compile o text = .error (.options cause) :=
    Except.bind_eq_error_iff.2 (.inl (Except.mapError_eq_error_iff.2 ⟨cause, ho, rfl⟩))
  cases h with
  | emptyDelimiter hd => exact hoptions (o.validate_eq_error_iff.2 (.inl ⟨hd, rfl⟩))
  | emptyMarker hd hat hbefore =>
    exact hoptions (o.validate_eq_error_iff.2 (.inr ⟨hd, _, hat, hbefore, rfl⟩))
  | parameter hd hm hts hbefore hp =>
    have hsteps := Except.mapM_eq_error_iff.2 ⟨_, _, _, hts,
      fun a ha => Step.exists_ofToken_iff.2 fun q hq => hbefore q (hq ▸ ha),
      Step.ofToken_eq_error_iff.2 ⟨_, _, rfl, hp, rfl⟩⟩
    rw [compile_of_valid hd hm]
    exact Except.bind_eq_error_iff.2
      (.inl (Except.mapError_eq_error_iff.2 ⟨_, Except.map_eq_error_iff.2 hsteps, rfl⟩))
  | tooDeep hd hm hvalid hregex =>
    obtain ⟨steps, hsteps⟩ := mapM_ofToken_eq_ok_iff.2 hvalid
    have hrenderer : Renderer.ofTokens (Token.ofTemplate o text) = .ok ⟨steps⟩ :=
      Except.map_eq_ok_iff.2 ⟨steps, hsteps, rfl⟩
    have hextractor : Extractor.ofTokens o (Token.ofTemplate o text) =
        .error ⟨none, (Source.ofTokens o (Token.ofTemplate o text)).text, .nestedTooDeep⟩ :=
      Except.bind_eq_error_iff.2 (.inl (Except.mapError_eq_error_iff.2 ⟨_, hregex, rfl⟩))
    rw [compile_of_valid hd hm, hrenderer, hextractor]
    rfl

theorem compile_eq_error_iff :
    Template.compile o text = .error e ↔ Blames o (Token.ofTemplate o text) e :=
  ⟨blames_of_compile, compile_of_blames⟩

/-- Where the options are valid and each pattern can be read, only depth stands in the way, sizes
apart. -/
theorem exists_compile (hd : o.delimiter ≠ "") (hm : ∀ m ∈ o.markers, m ≠ "")
    (hvalid : ∀ p, .parameter p ∈ Token.ofTemplate o text → p.Validated)
    (hdeep : Regex.compile o.caseSensitive (Source.ofTokens o (Token.ofTemplate o text)).text ≠
      .error .nestedTooDeep) :
    ∃ t, Template.compile o text = .ok t := by
  cases h : Template.compile o text with
  | ok t => exact ⟨t, rfl⟩
  | error e =>
    cases blames_of_compile h with
    | emptyDelimiter hd' => exact absurd hd' hd
    | emptyMarker _ hat _ => exact absurd rfl (hm "" (List.mem_of_getElem? hat))
    | parameter _ _ hts _ hp =>
      obtain ⟨r, hr⟩ := hvalid _ (hts ▸ List.mem_append_right _ (List.mem_cons_self ..))
      rw [hr] at hp
      cases hp
    | tooDeep _ _ _ hregex => exact absurd hregex hdeep

end Template

/-! ## Templates without custom patterns -/

/-- The span has no parentheses that hold a pattern. -/
def Span.Bare : Span → Prop
  | .plain _ => True
  | .escaped _ => True
  | .named _ body _ => body = none
  | .unnamed _ _ => False

instance (x : Span) : Decidable x.Bare := by
  cases x <;> unfold Span.Bare <;> infer_instance

theorem Scanner.pattern_accept {x : Span} (hx : x.Bare) {s : Scanner} {after : Option Char}
    (hs : ∀ p, .parameter p ∈ s.tokens → p.pattern = defaultPattern p.joiner) :
    ∀ p, .parameter p ∈ (s.accept o after x).tokens → p.pattern = defaultPattern p.joiner := by
  intro p hp
  cases x with
  | plain c => exact hs p hp
  | escaped c => exact hs p hp
  | named name body modifier =>
    obtain rfl : body = none := hx
    rcases mem_addParameter.1 hp with hp | rfl
    · exact hs p hp
    · rfl
  | unnamed body modifier => exact absurd hx id

theorem pattern_of_bare {text : String} (hbare : ∀ x ∈ Span.cut text.toList, x.Bare)
    {p : Parameter} (hp : .parameter p ∈ Token.ofTemplate o text) :
    p.pattern = defaultPattern p.joiner :=
  Scanner.forall_scan (s := {}) (fun _ h => absurd h List.not_mem_nil)
    (fun x hx _ _ hs => Scanner.pattern_accept (hbare x hx) hs) (Scanner.mem_flush.1 hp)

theorem Parameter.Scanned.joiner_ne {p : Parameter} (hp : p.Scanned o) (hd : o.delimiter ≠ "") :
    p.joiner ≠ "" := by
  rw [hp.joiner_eq]
  split
  · exact hd
  next hlead => exact hlead

theorem validated_of_defaultPattern {p : Parameter} (hp : p.pattern = defaultPattern p.joiner)
    (hne : p.joiner ≠ "") : p.Validated := by
  rw [Parameter.Validated, hp]
  exact exists_compile_defaultPattern hne

/-- Default patterns nest so little that a template of no other patterns can be built, sizes
apart. -/
theorem Template.exists_compile_of_bare {text : String} (hd : o.delimiter ≠ "")
    (hm : ∀ m ∈ o.markers, m ≠ "") (hbare : ∀ x ∈ Span.cut text.toList, x.Bare) :
    ∃ t, Template.compile o text = .ok t := by
  have hdefault {p : Parameter} (hp : .parameter p ∈ Token.ofTemplate o text) :
      p.pattern = defaultPattern p.joiner ∧ p.joiner ≠ "" :=
    ⟨pattern_of_bare hbare hp, (scanned_of_mem_ofTemplate hp).joiner_ne hd⟩
  have hvalid : ∀ p, .parameter p ∈ Token.ofTemplate o text → p.Validated :=
    fun p hp => validated_of_defaultPattern (hdefault hp).1 (hdefault hp).2
  refine exists_compile hd hm hvalid fun hregex => ?_
  obtain ⟨p, hp, hdeep⟩ := exists_deep_of_compile_eq_error (fun p hp =>
    (hvalid p hp).readable (scanned_of_mem_ofTemplate hp).enclosable o.caseSensitive) hregex
  obtain ⟨height, hheight, hbody⟩ :=
    readBody_defaultPattern (f := o.flags) rfl rfl (hdefault hp).2
  rw [← (hdefault hp).1] at hbody
  rw [value_eq hbody] at hdeep
  exact absurd (Nat.lt_of_lt_of_le hdeep hheight) (by decide)

end

namespace Template

/-- Construction fails exactly for the first thing that a template can be blamed for, as long as no
pattern reaches the bound on sizes. -/
theorem compile_outcome (o : Options) (text : String) :
    (∀ e, Template.compile o text = .error e ↔ Blames o (Token.ofTemplate o text) e) ∧
    (o.delimiter ≠ "" → (∀ m ∈ o.markers, m ≠ "") →
      ((∀ p, .parameter p ∈ Token.ofTemplate o text → p.Validated) →
        Regex.compile o.caseSensitive (Source.ofTokens o (Token.ofTemplate o text)).text ≠
          .error .nestedTooDeep → ∃ t, Template.compile o text = .ok t) ∧
      ((∀ x ∈ Span.cut text.toList, x.Bare) → ∃ t, Template.compile o text = .ok t)) ∧
    ∀ pattern cause, Template.compile o text = .error (.pattern ⟨none, pattern, cause⟩) →
      cause = .nestedTooDeep ∧
        ∃ p, .parameter p ∈ Token.ofTemplate o text ∧ 240 < (p.value o.flags).height := by
  refine ⟨fun e => compile_eq_error_iff, fun hd hm => ?_, fun pattern cause h => ?_⟩
  · exact ⟨exists_compile hd hm, exists_compile_of_bare hd hm⟩
  · cases blames_of_compile h with
    | tooDeep _ _ hvalid hregex =>
      refine ⟨rfl, exists_deep_of_compile_eq_error (fun p hp => ?_) hregex⟩
      exact (hvalid p hp).readable (scanned_of_mem_ofTemplate hp).enclosable o.caseSensitive

theorem compile_outcome_of_brackets :
    Template.compile {} "/:a(x)/:b([)/:c(*)" =
      .error (.pattern ⟨some "b", "[", .classUnclosed⟩) ∧
    Template.compile { endsWith := some ["#", "", ""] } "/:b([)" =
      .error (.options (.emptyMarker 1)) ∧
    ∃ t, Template.compile {} "/:user/\\(:id*" = .ok t := by
  refine ⟨((compile_outcome _ _).1 _).2 ?_, ((compile_outcome _ _).1 _).2 ?_,
    ((compile_outcome _ _).2.1 (by decide) (by decide)).2 (by decide +kernel)⟩
  · have hts : Token.ofTemplate {} "/:a(x)/:b([)/:c(*)" =
        [.parameter ⟨"a", "/", "/", .one, false, "x"⟩] ++
          .parameter ⟨"b", "/", "/", .one, false, "["⟩ ::
            [.parameter ⟨"c", "/", "/", .one, false, "*"⟩] := by
      decide +kernel
    refine .parameter (by decide) (by decide) hts (fun q hq => ?_)
      (Regex.compile_eq_error_iff.2 (by decide +kernel))
    obtain rfl := Token.parameter.inj (List.mem_singleton.1 hq)
    decide +kernel
  · exact .emptyMarker (by decide) rfl (by decide)

end Template

end RouteTemplate
