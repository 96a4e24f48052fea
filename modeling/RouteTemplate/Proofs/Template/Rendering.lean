import RouteTemplate.Proofs.Template.Matching

/-!
What templates render. `Renders` says which paths the tokens become under given values, apart from
the validators that the renderer was compiled with: `expandWith_eq_ok_iff`. Every such path is
spelled by the tokens, so the template matches what it renders: `isMatch_of_expandWith`.
-/

namespace RouteTemplate

open Regex

namespace Parameter

/-- What a parameter becomes if it is bound to a value, or to none. -/
inductive Renders (encode : String → String) (p : Parameter) : Option Value → String → Prop
  | leftOut : p.isOptional = true → Renders encode p none (if p.leadStays then p.lead else "")
  | single {v : String} : p.Accepts true (encode v) →
      Renders encode p (some (.single v)) (p.lead ++ encode v)
  | emptied : p.isRepeating = true → p.isOptional = true → Renders encode p (some (.list [])) ""
  | list {items : List String} : p.isRepeating = true → items ≠ [] →
      (∀ v ∈ items, p.Accepts true (encode v)) →
      Renders encode p (some (.list items)) (p.lead ++ p.joiner.intercalate (items.map encode))

end Parameter

/-- What tokens become under some values. -/
inductive Renders (encode : String → String) (values : Values) : List Token → String → Prop
  | nil : Renders encode values [] ""
  | literal {text r : String} {ts : List Token} :
      Renders encode values ts r → Renders encode values (.literal text :: ts) (text ++ r)
  | parameter {p : Parameter} {s r : String} {ts : List Token} :
      p.Renders encode (values.lookup p.name) s → Renders encode values ts r →
      Renders encode values (.parameter p :: ts) (s ++ r)

namespace Step

variable {encode : String → String} {p : Parameter} {r : Regex}

theorem segment_eq_ok_iff {v s : String} :
    segment p r encode v = .ok s ↔ r.isMatch (encode v) = true ∧ encode v = s := by
  unfold segment
  split
  next h => simp [h]
  next h => simp [h]

theorem mapM_segment_eq_ok_iff {items segments : List String} :
    items.mapM (segment p r encode) = .ok segments ↔
      (∀ v ∈ items, r.isMatch (encode v) = true) ∧ items.map encode = segments := by
  rw [Except.mapM_eq_ok_iff]
  simp only [segment_eq_ok_iff]
  rw [List.forall₂_and_left, ← List.forall₂_map_left_iff (R := Eq), List.forall₂_eq_eq_eq]

variable {values : Values} {b : String}

theorem piece_of_none (hn : values.lookup p.name = none) :
    (parameter p r).piece encode values = .ok b ↔ p.Renders encode none b := by
  simp only [piece, hn]
  cases ho : p.isOptional with
  | false =>
    rw [if_neg Bool.false_ne_true]
    constructor
    · intro h
      exact absurd h (by simp)
    · rintro ⟨h⟩
      exact absurd (ho ▸ h) Bool.false_ne_true
  | true =>
    rw [if_pos rfl, Except.ok.injEq]
    constructor
    · rintro rfl
      exact .leftOut ho
    · rintro ⟨-⟩
      rfl

theorem piece_of_single (hr : Regex.compile true ("^(?:" ++ p.pattern ++ ")$") = .ok r)
    {v : String} (hv : values.lookup p.name = some (.single v)) :
    (parameter p r).piece encode values = .ok b ↔ p.Renders encode (some (.single v)) b := by
  simp only [piece, hv]
  rw [Except.bind_eq_ok_iff]
  simp only [segment_eq_ok_iff, ← Parameter.accepts_iff hr]
  constructor
  · rintro ⟨s, ⟨haccepts, rfl⟩, hb⟩
    obtain rfl := Except.ok.inj hb
    exact .single haccepts
  · rintro ⟨⟩
    next haccepts => exact ⟨_, ⟨haccepts, rfl⟩, rfl⟩

theorem piece_of_emptied (hrep : p.isRepeating = true)
    (hv : values.lookup p.name = some (.list [])) :
    (parameter p r).piece encode values = .ok b ↔ p.Renders encode (some (.list [])) b := by
  simp only [piece, hv, hrep, Bool.not_true, Bool.false_eq_true, if_false, List.isEmpty_nil,
    if_true]
  cases ho : p.isOptional with
  | false =>
    rw [if_neg Bool.false_ne_true]
    constructor
    · intro h
      exact absurd h (by simp)
    · intro h
      cases h with
      | emptied _ h => exact absurd (ho ▸ h) Bool.false_ne_true
      | list _ hne => exact absurd rfl hne
  | true =>
    rw [if_pos rfl, Except.ok.injEq]
    constructor
    · rintro rfl
      exact .emptied hrep ho
    · intro h
      cases h with
      | emptied => rfl
      | list _ hne => exact absurd rfl hne

theorem piece_of_list (hr : Regex.compile true ("^(?:" ++ p.pattern ++ ")$") = .ok r)
    {items : List String} (hv : values.lookup p.name = some (.list items)) :
    (parameter p r).piece encode values = .ok b ↔ p.Renders encode (some (.list items)) b := by
  cases hrep : p.isRepeating with
  | false =>
    have herr : (parameter p r).piece encode values = .error (.repeatMismatch p.name) := by
      simp [piece, hv, hrep]
    rw [herr]
    constructor
    · intro h
      cases h
    · intro h
      cases h with
      | emptied h _ => exact absurd (hrep ▸ h) Bool.false_ne_true
      | list h _ _ => exact absurd (hrep ▸ h) Bool.false_ne_true
  | true =>
    cases items with
    | nil => exact piece_of_emptied hrep hv
    | cons v items =>
      simp only [piece, hv, hrep, Bool.not_true, Bool.false_eq_true, if_false,
        List.isEmpty_cons]
      rw [Except.bind_eq_ok_iff]
      simp only [mapM_segment_eq_ok_iff, ← Parameter.accepts_iff hr]
      constructor
      · rintro ⟨segments, ⟨hitems, rfl⟩, hb⟩
        obtain rfl := Except.ok.inj hb
        exact .list hrep (List.cons_ne_nil v items) hitems
      · rintro ⟨⟩
        next _ _ hitems => exact ⟨_, ⟨hitems, rfl⟩, rfl⟩

theorem piece_parameter_eq_ok_iff
    (hr : Regex.compile true ("^(?:" ++ p.pattern ++ ")$") = .ok r) :
    (parameter p r).piece encode values = .ok b ↔
      p.Renders encode (values.lookup p.name) b := by
  cases hv : values.lookup p.name with
  | none => exact piece_of_none hv
  | some value =>
    cases value with
    | single v => exact piece_of_single hr hv
    | list items => exact piece_of_list hr hv

end Step

theorem renderSteps_eq_ok_iff {encode : String → String} {values : Values} {ts : List Token}
    {steps : List Step} (h : List.Forall₂ (fun a s => Step.ofToken a = .ok s) ts steps)
    {b : String} :
    Renderer.renderSteps encode values steps = .ok b ↔ Renders encode values ts b := by
  induction h generalizing b with
  | nil =>
    rw [Renderer.renderSteps, Except.ok.injEq]
    constructor
    · rintro rfl
      exact .nil
    · rintro ⟨⟩
      rfl
  | @cons a s ts steps hs _ ih =>
    simp only [Renderer.renderSteps, Except.bind_eq_ok_iff, ih]
    cases a with
    | literal text =>
      obtain rfl := Except.ok.inj hs
      constructor
      · rintro ⟨s, hs, c, hc, hb⟩
        obtain rfl := Except.ok.inj hs
        obtain rfl := Except.ok.inj hb
        exact .literal hc
      · rintro ⟨⟩
        next r hr => exact ⟨text, rfl, r, hr, rfl⟩
    | parameter p =>
      obtain ⟨r, hr, rfl⟩ := Step.ofToken_parameter_eq_ok_iff.1 hs
      simp only [Step.piece_parameter_eq_ok_iff hr]
      constructor
      · rintro ⟨s, hs, c, hc, hb⟩
        obtain rfl := Except.ok.inj hb
        exact .parameter hs hc
      · rintro ⟨⟩
        next s c hs hc => exact ⟨s, hs, c, hc, rfl⟩

theorem Template.Compiled.expandWith_eq_ok_iff {t : Template} (h : t.Compiled)
    {encode : String → String} {values : Values} {b : String} :
    t.expandWith encode values = .ok b ↔ Renders encode values t.tokens b :=
  renderSteps_eq_ok_iff h.steps

section

variable {o : Options} {encode : String → String} {values : Values} {p : Parameter}

theorem Parameter.run_intercalate {ws : List String} (hne : ws ≠ [])
    (hws : ∀ w ∈ ws, p.Accepts o.caseSensitive w) (hjoin : 2 ≤ ws.length → p.joiner = p.lead) :
    p.Run o (p.joiner.intercalate ws) := by
  induction ws with
  | nil => exact absurd rfl hne
  | cons w ws ih =>
    have hw := hws w (List.mem_cons_self ..)
    cases ws with
    | nil =>
      rw [String.intercalate_singleton]
      exact .one hw
    | cons x ws =>
      have hlead : o.SameText p.lead p.joiner := by
        rw [hjoin (by simp)]
        exact Options.SameText.refl o p.lead
      rw [String.intercalate_cons_cons]
      exact .more hw hlead (ih (List.cons_ne_nil x ws)
        (fun y hy => hws y (List.mem_cons_of_mem w hy)) fun _ => hjoin (by simp))

/-- What a parameter becomes is something that it stands for. -/
theorem Parameter.Renders.exists_spells {bound : Option Value} {s : String} (hp : p.Scanned o)
    (hcase : ∀ w, p.Accepts true w → p.Accepts o.caseSensitive w)
    (hlist : ∀ items, bound = some (.list items) →
      items ≠ [] ∧ (2 ≤ items.length → p.lead ≠ ""))
    (h : p.Renders encode bound s) : ∃ v, p.Spells o v s := by
  have hlead : o.SameText p.lead p.lead := Options.SameText.refl o p.lead
  cases h with
  | leftOut ho =>
    refine ⟨none, .absent ho ?_⟩
    cases p.leadStays with
    | false => rfl
    | true => exact hlead
  | single hv =>
    refine ⟨_, .present hlead ?_⟩
    unfold Parameter.Takes
    split
    · exact .one (hcase _ hv)
    · exact hcase _ hv
  | emptied => exact absurd rfl (hlist [] rfl).1
  | list hrep hne hitems =>
    obtain ⟨-, hlong⟩ := hlist _ rfl
    have hmapped : ∀ w ∈ List.map encode _, p.Accepts o.caseSensitive w := fun w hw => by
      obtain ⟨v, hv, rfl⟩ := List.mem_map.1 hw
      exact hcase _ (hitems v hv)
    have hrun := Parameter.run_intercalate (fun h => hne (List.map_eq_nil_iff.1 h)) hmapped
      fun hlen => by
        rw [List.length_map] at hlen
        rw [hp.joiner_eq, if_neg (hlong hlen)]
    refine ⟨_, .present hlead ?_⟩
    rwa [Parameter.Takes, if_pos hrep]

theorem Renders.exists_spells {ts : List Token} {b : String}
    (hts : ∀ p, .parameter p ∈ ts → ∀ s, p.Renders encode (values.lookup p.name) s →
      ∃ v, p.Spells o v s)
    (h : Renders encode values ts b) : ∃ vs, Spells o ts vs b := by
  induction h with
  | nil => exact ⟨[], .nil⟩
  | @literal text r ts _ ih =>
    obtain ⟨vs, hvs⟩ := ih fun p hp => hts p (List.mem_cons_of_mem _ hp)
    exact ⟨vs, .literal (Options.SameText.refl o text) hvs⟩
  | @parameter p s r ts hs _ ih =>
    obtain ⟨v, hv⟩ := hts p (List.mem_cons_self ..) s hs
    obtain ⟨vs, hvs⟩ := ih fun p hp => hts p (List.mem_cons_of_mem _ hp)
    exact ⟨v :: vs, .parameter hv hvs⟩

theorem Options.ends_empty (o : Options) (delimited : Bool) : o.Ends delimited "" := by
  unfold Ends
  split
  · exact .inl (.inl rfl)
  · exact .inr (.inl (.inl rfl))

end

namespace Template

theorem Compiled.isMatch_of_spells {t : Template} (h : t.Compiled)
    (hlook : ∀ p ∈ t.keys, p.LookFree t.options.caseSensitive) {vs : List (Option String)}
    {b : String} (hb : Spells t.options t.tokens vs b) : t.isMatch b = true := by
  rw [isMatch, Extractor.isMatch,
    isMatch_iff_of_tokens (fun p hp => h.plain hlook hp) h.regex]
  exact ⟨vs, b, "", String.append_empty.symm, hb, Options.ends_empty _ _⟩

/-- A template matches what it renders, whatever the encoder does. -/
theorem isMatch_of_expandWith {o : Options} {text : String} {t : Template}
    {encode : String → String} {values : Values} {path : String}
    (h : Template.compile o text = .ok t) (hlook : ∀ p ∈ t.keys, p.LookFree o.caseSensitive)
    (hcase : o.caseSensitive = true ∨
      ∀ p ∈ t.keys, ∀ w, p.Accepts true w → p.Accepts false w)
    (hlist : ∀ name items, values.lookup name = some (.list items) →
      items ≠ [] ∧ (2 ≤ items.length → ∀ p ∈ t.keys, p.name = name → p.lead ≠ ""))
    (he : t.expandWith encode values = .ok path) : t.isMatch path = true := by
  obtain ⟨hc, rfl, -⟩ := compiled_of_compile h
  have hcases : ∀ p ∈ t.keys, ∀ w, p.Accepts true w → p.Accepts t.options.caseSensitive w := by
    intro p hp w hw
    cases hs : t.options.caseSensitive with
    | true => exact hw
    | false =>
      rw [hs] at hcase
      exact (hcase.resolve_left Bool.false_ne_true) p hp w hw
  have hparameter : ∀ p, .parameter p ∈ t.tokens → ∀ s,
      p.Renders encode (values.lookup p.name) s → ∃ v, p.Spells t.options v s := by
    intro p hp s hs
    have hkey : p ∈ t.keys := hc.mem_keys_iff.2 hp
    refine hs.exists_spells (hc.scanned hp) (hcases p hkey) fun items hl => ?_
    obtain ⟨hne, hlong⟩ := hlist _ _ hl
    exact ⟨hne, fun hlen => hlong hlen p hkey rfl⟩
  obtain ⟨vs, hvs⟩ := (hc.expandWith_eq_ok_iff.1 he).exists_spells hparameter
  exact hc.isMatch_of_spells hlook hvs

theorem isMatch_of_expandWith_list :
    ∃ t, Template.compile { caseSensitive := true } "/files/:path+" = .ok t ∧
      t.expandWith Percent.encode [("path", .list ["a b", "c"])] = .ok "/files/a%20b/c" ∧
      t.isMatch "/files/a%20b/c" = true := by
  obtain ⟨t, ht, hlook, hlead, he⟩ := exists_of_compile
    { caseSensitive := true } "/files/:path+"
    (p := fun t => (∀ p ∈ t.keys, p.LookFree true) ∧ (∀ p ∈ t.keys, p.lead ≠ "") ∧
      t.expandWith Percent.encode [("path", .list ["a b", "c"])] = .ok "/files/a%20b/c")
    (by decide +kernel)
  refine ⟨t, ht, he, isMatch_of_expandWith ht hlook (.inl rfl) ?_ he⟩
  intro name items hl
  refine ⟨?_, fun _ p hp _ => hlead p hp⟩
  rintro rfl
  cases hn : name == "path" with
  | false => simp [List.lookup_cons, hn] at hl
  | true => simp [List.lookup_cons, hn] at hl

end Template

end RouteTemplate
