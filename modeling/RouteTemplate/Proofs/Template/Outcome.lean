import RouteTemplate.Proofs.Template.Construction
import RouteTemplate.Proofs.Template.Rendering

/-!
How a rendering ends. Under given values every token gives one outcome, a piece of the path or an
error; `Token.Gives` says which, apart from the renderer. If all tokens give pieces, the path is
made of them in order, and otherwise the rendering fails as the first token that gives an error
does: `Renderer.outcome_of_validated`.
-/

namespace RouteTemplate

/-- Why a parameter cannot be rendered if it is bound to a value, or to none. A list fails as the
first of its items that does. -/
inductive Parameter.Refuses (encode : String → String) (p : Parameter) :
    Option Value → RenderError → Prop
  | missing : p.isOptional = false → Refuses encode p none (.missingRequired p.name)
  | mismatch {v : String} : ¬ p.Accepts true (encode v) →
      Refuses encode p (some (.single v)) (.patternMismatch p.name p.pattern (encode v))
  | notRepeating {items : List String} : p.isRepeating = false →
      Refuses encode p (some (.list items)) (.repeatMismatch p.name)
  | emptied : p.isRepeating = true → p.isOptional = false →
      Refuses encode p (some (.list [])) (.emptyRequired p.name)
  | mismatchIn {before after : List String} {v : String} : p.isRepeating = true →
      (∀ w ∈ before, p.Accepts true (encode w)) → ¬ p.Accepts true (encode v) →
      Refuses encode p (some (.list (before ++ v :: after)))
        (.patternMismatch p.name p.pattern (encode v))

/-- What a token gives under some values: a piece of the path, or an error. -/
inductive Token.Gives (encode : String → String) (values : Values) :
    Token → Except RenderError String → Prop
  | literal {text : String} : Gives encode values (.literal text) (.ok text)
  | piece {p : Parameter} {s : String} : p.Renders encode (values.lookup p.name) s →
      Gives encode values (.parameter p) (.ok s)
  | error {p : Parameter} {e : RenderError} : p.Refuses encode (values.lookup p.name) e →
      Gives encode values (.parameter p) (.error e)

variable {encode : String → String} {values : Values} {e : RenderError} {p : Parameter}

/-! ## One token -/

theorem Parameter.refuses_list_iff {items : List String} :
    p.Refuses encode (some (.list items)) e ↔
      p.isRepeating = false ∧ e = .repeatMismatch p.name ∨
      p.isRepeating = true ∧ (items = [] ∧ p.isOptional = false ∧ e = .emptyRequired p.name ∨
        ∃ before v after, items = before ++ v :: after ∧
          (∀ w ∈ before, p.Accepts true (encode w)) ∧ ¬ p.Accepts true (encode v) ∧
          e = .patternMismatch p.name p.pattern (encode v)) := by
  constructor
  · intro h
    cases h with
    | notRepeating hrep => exact .inl ⟨hrep, rfl⟩
    | emptied hrep ho => exact .inr ⟨hrep, .inl ⟨rfl, ho, rfl⟩⟩
    | mismatchIn hrep hbefore hv => exact .inr ⟨hrep, .inr ⟨_, _, _, rfl, hbefore, hv, rfl⟩⟩
  · rintro (⟨hrep, rfl⟩ | ⟨hrep, ⟨rfl, ho, rfl⟩ | ⟨before, v, after, rfl, hbefore, hv, rfl⟩⟩)
    · exact .notRepeating hrep
    · exact .emptied hrep ho
    · exact .mismatchIn hrep hbefore hv

namespace Step

variable {r : Regex}

theorem segment_eq_error_iff {v : String} :
    segment p r encode v = .error e ↔
      ¬ r.isMatch (encode v) = true ∧ e = .patternMismatch p.name p.pattern (encode v) := by
  unfold segment
  split
  next h => simp [h]
  next h => simp [h, eq_comm]

/-- A list of items fails as the first that does not match. -/
theorem mapM_segment_eq_error_iff {items : List String} :
    items.mapM (segment p r encode) = .error e ↔
      ∃ before v after, items = before ++ v :: after ∧
        (∀ w ∈ before, r.isMatch (encode w) = true) ∧ ¬ r.isMatch (encode v) = true ∧
        e = .patternMismatch p.name p.pattern (encode v) := by
  rw [Except.mapM_eq_error_iff]
  simp only [segment_eq_ok_iff, segment_eq_error_iff, exists_and_left, exists_eq', and_true]

theorem piece_error_of_none (hn : values.lookup p.name = none) :
    (parameter p r).piece encode values = .error e ↔ p.Refuses encode none e := by
  simp only [piece, hn]
  cases ho : p.isOptional with
  | true =>
    rw [if_pos rfl]
    constructor
    · intro h
      cases h
    · rintro ⟨h⟩
      exact absurd (h.symm.trans ho) Bool.false_ne_true
  | false =>
    rw [if_neg Bool.false_ne_true, Except.error.injEq]
    constructor
    · rintro rfl
      exact .missing ho
    · rintro ⟨-⟩
      rfl

theorem piece_error_of_single (hr : Regex.compile true ("^(?:" ++ p.pattern ++ ")$") = .ok r)
    {v : String} (hv : values.lookup p.name = some (.single v)) :
    (parameter p r).piece encode values = .error e ↔
      p.Refuses encode (some (.single v)) e := by
  simp only [piece, hv]
  rw [Except.bind_eq_error_iff, segment_eq_error_iff, ← Parameter.accepts_iff hr]
  constructor
  · rintro (⟨hrefused, rfl⟩ | ⟨s, -, h⟩)
    · exact .mismatch hrefused
    · cases h
  · rintro ⟨⟩
    next hrefused => exact .inl ⟨hrefused, rfl⟩

theorem piece_error_of_list (hr : Regex.compile true ("^(?:" ++ p.pattern ++ ")$") = .ok r)
    {items : List String} (hv : values.lookup p.name = some (.list items)) :
    (parameter p r).piece encode values = .error e ↔
      p.Refuses encode (some (.list items)) e := by
  rw [Parameter.refuses_list_iff]
  simp only [piece, hv]
  cases hrep : p.isRepeating with
  | false => simp [@eq_comm _ e]
  | true =>
    rw [Bool.not_true, if_neg Bool.false_ne_true]
    cases items with
    | nil => cases ho : p.isOptional <;> simp [@eq_comm _ e]
    | cons v items =>
      rw [List.isEmpty_cons, if_neg Bool.false_ne_true, Except.bind_eq_error_iff,
        mapM_segment_eq_error_iff]
      simp [← Parameter.accepts_iff hr, pure, Except.pure]

theorem piece_parameter_eq_error_iff
    (hr : Regex.compile true ("^(?:" ++ p.pattern ++ ")$") = .ok r) :
    (parameter p r).piece encode values = .error e ↔
      p.Refuses encode (values.lookup p.name) e := by
  cases hv : values.lookup p.name with
  | none => exact piece_error_of_none hv
  | some value =>
    cases value with
    | single v => exact piece_error_of_single hr hv
    | list items => exact piece_error_of_list hr hv

/-- A step has the outcome that its token gives. -/
theorem piece_eq_iff_gives {a : Token} {s : Step} (h : ofToken a = .ok s)
    {x : Except RenderError String} : s.piece encode values = x ↔ a.Gives encode values x := by
  cases a with
  | literal text =>
    obtain rfl := Except.ok.inj h
    constructor
    · rintro rfl
      exact .literal
    · rintro ⟨⟩
      rfl
  | parameter p =>
    obtain ⟨r, hr, rfl⟩ := ofToken_parameter_eq_ok_iff.1 h
    cases x with
    | ok b =>
      rw [piece_parameter_eq_ok_iff hr]
      constructor
      · exact .piece
      · intro h
        cases h with
        | piece hb => exact hb
    | error e =>
      rw [piece_parameter_eq_error_iff hr]
      constructor
      · exact .error
      · intro h
        cases h with
        | error he => exact he

end Step

theorem Token.existsUnique_gives {a : Token} (h : ∀ p, a = .parameter p → p.Validated) :
    ∃! x, a.Gives encode values x := by
  obtain ⟨s, hs⟩ := Step.exists_ofToken_iff.2 h
  exact ⟨s.piece encode values, (Step.piece_eq_iff_gives hs).1 rfl,
    fun x hx => ((Step.piece_eq_iff_gives hs).2 hx).symm⟩

/-! ## All tokens -/

theorem renders_iff_gives {ts : List Token} {b : String} :
    Renders encode values ts b ↔ ∃ pieces,
      List.Forall₂ (fun a s => a.Gives encode values (.ok s)) ts pieces ∧
        b = String.join pieces := by
  constructor
  · intro h
    induction h with
    | nil => exact ⟨[], .nil, rfl⟩
    | @literal text r ts _ ih =>
      obtain ⟨pieces, hpieces, rfl⟩ := ih
      exact ⟨text :: pieces, .cons .literal hpieces, String.join_cons.symm⟩
    | @parameter p s r ts hs _ ih =>
      obtain ⟨pieces, hpieces, rfl⟩ := ih
      exact ⟨s :: pieces, .cons (.piece hs) hpieces, String.join_cons.symm⟩
  · rintro ⟨pieces, hpieces, rfl⟩
    induction hpieces with
    | nil => exact .nil
    | cons ha _ ih =>
      rw [String.join_cons]
      cases ha with
      | literal => exact .literal ih
      | piece hs => exact .parameter hs ih

/-- A rendering fails as the first token that gives an error. -/
theorem renderSteps_eq_error_iff {ts : List Token} {steps : List Step}
    (h : List.Forall₂ (fun a s => Step.ofToken a = .ok s) ts steps) :
    Renderer.renderSteps encode values steps = .error e ↔
      ∃ before a after, ts = before ++ a :: after ∧
        (∀ x ∈ before, ∃ s, x.Gives encode values (.ok s)) ∧ a.Gives encode values (.error e) := by
  induction h with
  | nil =>
    rw [Renderer.renderSteps]
    constructor
    · intro h
      cases h
    · rintro ⟨before, a, after, h, -⟩
      exact absurd h (by simp)
  | @cons a s ts steps hs _ ih =>
    simp only [Renderer.renderSteps, Except.bind_eq_error_iff, ih, Step.piece_eq_iff_gives hs]
    constructor
    · rintro (ha | ⟨b, hb, ⟨before, x, after, rfl, hbefore, hx⟩ | ⟨_, -, h⟩⟩)
      · exact ⟨[], a, ts, rfl, fun x hx => absurd hx List.not_mem_nil, ha⟩
      · exact ⟨a :: before, x, after, rfl, List.forall_mem_cons.2 ⟨⟨b, hb⟩, hbefore⟩, hx⟩
      · cases h
    · rintro ⟨_ | ⟨y, before⟩, x, after, h, hbefore, hx⟩
      · obtain ⟨rfl, rfl⟩ := List.cons.inj h
        exact .inl hx
      · obtain ⟨rfl, rfl⟩ := List.cons.inj h
        obtain ⟨⟨b, hb⟩, hbefore⟩ := List.forall_mem_cons.1 hbefore
        exact .inr ⟨b, hb, .inl ⟨before, x, after, rfl, hbefore, hx⟩⟩

namespace Renderer

theorem ofTokens_eq_ok_iff {ts : List Token} {r : Renderer} :
    ofTokens ts = .ok r ↔ List.Forall₂ (fun a s => Step.ofToken a = .ok s) ts r.steps := by
  rw [ofTokens, Except.map_eq_ok_iff]
  simp only [Except.mapM_eq_ok_iff]
  constructor
  · rintro ⟨steps, hsteps, rfl⟩
    exact hsteps
  · intro h
    exact ⟨r.steps, h, rfl⟩

theorem exists_ofTokens {ts : List Token} (h : ∀ p, .parameter p ∈ ts → p.Validated) :
    ∃ r, ofTokens ts = .ok r := by
  obtain ⟨steps, hsteps⟩ := mapM_ofToken_eq_ok_iff.2 h
  exact ⟨⟨steps⟩, Except.map_eq_ok_iff.2 ⟨steps, hsteps, rfl⟩⟩

theorem ofTokens_append {xs ys : List Token} {rx ry : Renderer} (hx : ofTokens xs = .ok rx)
    (hy : ofTokens ys = .ok ry) : ofTokens (xs ++ ys) = .ok ⟨rx.steps ++ ry.steps⟩ :=
  ofTokens_eq_ok_iff.2
    (List.rel_append (ofTokens_eq_ok_iff.1 hx) (ofTokens_eq_ok_iff.1 hy))

/-- The outcome of a rendering, token by token: each gives one outcome, the path is made of their
pieces, the first error is the one that is told, and a part rendered by itself ends as it does in
the whole. -/
theorem outcome_of_validated {ts : List Token} (h : ∀ p, .parameter p ∈ ts → p.Validated)
    (encode : String → String) (values : Values) :
    ∃ r, ofTokens ts = .ok r ∧ (∀ a ∈ ts, ∃! x, a.Gives encode values x) ∧
      (∀ path, r.renderWith encode values = .ok path ↔ ∃ pieces,
        List.Forall₂ (fun a s => a.Gives encode values (.ok s)) ts pieces ∧
          path = String.join pieces) ∧
      (∀ e, r.renderWith encode values = .error e ↔ ∃ before a after,
        ts = before ++ a :: after ∧ (∀ x ∈ before, ∃ s, x.Gives encode values (.ok s)) ∧
          a.Gives encode values (.error e)) ∧
      ∀ xs ys, ts = xs ++ ys → ∃ rx ry, ofTokens xs = .ok rx ∧ ofTokens ys = .ok ry ∧
        r.renderWith encode values = do
          let a ← rx.renderWith encode values
          let b ← ry.renderWith encode values
          return a ++ b := by
  obtain ⟨r, hr⟩ := exists_ofTokens h
  have hsteps := ofTokens_eq_ok_iff.1 hr
  refine ⟨r, hr, fun a ha => ?_, fun path => ?_, fun e => renderSteps_eq_error_iff hsteps, ?_⟩
  · exact Token.existsUnique_gives fun p hp => h p (hp ▸ ha)
  · rw [← renders_iff_gives]
    exact renderSteps_eq_ok_iff hsteps
  · rintro xs ys rfl
    obtain ⟨rx, hx⟩ := exists_ofTokens fun p hp => h p (List.mem_append_left ys hp)
    obtain ⟨ry, hy⟩ := exists_ofTokens fun p hp => h p (List.mem_append_right xs hp)
    obtain rfl := Except.ok.inj (hr.symm.trans (ofTokens_append hx hy))
    exact ⟨rx, ry, hx, hy, renderSteps_append encode values rx.steps ry.steps⟩

/-- The second item is told, although the parameter behind the list has no value at all. -/
theorem outcome_of_validated_of_digits : ∃ r,
    ofTokens [.literal "/v", .parameter ⟨"ids", "/", "/", .oneOrMore, false, "[0-9]+"⟩,
      .parameter ⟨"name", "/", "/", .one, false, "[^/]+?"⟩] = .ok r ∧
    r.renderWith Percent.encode [("ids", .list ["1", "b c", "d"])] =
      .error (.patternMismatch "ids" "[0-9]+" "b%20c") := by
  have hvalidated : ∀ p, .parameter p ∈ ([.literal "/v",
      .parameter ⟨"ids", "/", "/", .oneOrMore, false, "[0-9]+"⟩,
      .parameter ⟨"name", "/", "/", .one, false, "[^/]+?"⟩] : List Token) → p.Validated := by
    intro p hp
    simp only [List.mem_cons, reduceCtorEq, Token.parameter.injEq, List.not_mem_nil, or_false,
      false_or] at hp
    rcases hp with rfl | rfl <;> decide +kernel
  obtain ⟨r, hr, -, -, herror, -⟩ := outcome_of_validated hvalidated Percent.encode
    [("ids", .list ["1", "b c", "d"])]
  refine ⟨r, hr, (herror _).2 ⟨[.literal "/v"], _, _, rfl, ?_, .error ?_⟩⟩
  · exact List.forall_mem_singleton.2 ⟨_, .literal⟩
  · have hrefuses : (⟨"ids", "/", "/", .oneOrMore, false, "[0-9]+"⟩ : Parameter).Refuses
        Percent.encode (some (.list (["1"] ++ "b c" :: ["d"])))
        (.patternMismatch "ids" "[0-9]+" (Percent.encode "b c")) :=
      .mismatchIn rfl (by decide +kernel) (by decide +kernel)
    rwa [show Percent.encode "b c" = "b%20c" by decide +kernel] at hrefuses

end Renderer

end RouteTemplate
