import RouteTemplate.Proofs.Except
import RouteTemplate.Proofs.Template.Scanning
import RouteTemplate.Proofs.Template.Values

/-!
What a compiled template consists of. Its tokens are those of its text; each of them has become a
step of the renderer, so the pattern of each parameter has a validator; and its keys are the
parameters in order, behind the pattern that was made of the tokens.
-/

namespace RouteTemplate

namespace Template

structure Compiled (t : Template) : Prop where
  valid : t.options.validate = .ok ()
  tokens_eq : t.tokens = Token.ofTemplate t.options t.text
  steps : List.Forall₂ (fun a s => Step.ofToken a = .ok s) t.tokens t.renderer.steps
  keys_eq : t.keys = t.tokens.filterMap Token.parameter?
  regex : Regex.compile t.options.caseSensitive (Source.ofTokens t.options t.tokens).text =
    .ok t.extractor.regex

end Template

theorem Step.ofToken_parameter_eq_ok_iff {p : Parameter} {s : Step} :
    Step.ofToken (.parameter p) = .ok s ↔
      ∃ r, Regex.compile true ("^(?:" ++ p.pattern ++ ")$") = .ok r ∧ .parameter p r = s := by
  rw [ofToken, validator, Except.map_eq_ok_iff]
  simp only [Except.mapError_eq_ok_iff]

theorem exists_mem_steps_iff {ts : List Token} {steps : List Step}
    (h : List.Forall₂ (fun a s => Step.ofToken a = .ok s) ts steps) {p : Parameter} :
    (∃ r, .parameter p r ∈ steps) ↔ .parameter p ∈ ts := by
  induction h with
  | nil => simp
  | @cons a s ts steps hs _ ih =>
    simp only [List.mem_cons, exists_or, ih]
    cases a with
    | literal text =>
      obtain rfl := Except.ok.inj hs
      simp
    | parameter q =>
      obtain ⟨r, -, rfl⟩ := Step.ofToken_parameter_eq_ok_iff.1 hs
      simp

/-- The pattern of each parameter has a validator. -/
theorem exists_validator {ts : List Token} {steps : List Step}
    (h : List.Forall₂ (fun a s => Step.ofToken a = .ok s) ts steps) {p : Parameter}
    (hp : .parameter p ∈ ts) :
    ∃ r, Regex.compile true ("^(?:" ++ p.pattern ++ ")$") = .ok r := by
  induction h with
  | nil => exact absurd hp List.not_mem_nil
  | @cons a s ts steps hs _ ih =>
    rcases List.mem_cons.1 hp with rfl | hp
    · obtain ⟨r, hr, -⟩ := Step.ofToken_parameter_eq_ok_iff.1 hs
      exact ⟨r, hr⟩
    · exact ih hp

namespace Template

theorem compiled_of_compile {o : Options} {text : String} {t : Template}
    (h : Template.compile o text = .ok t) : t.Compiled ∧ t.options = o ∧ t.text = text := by
  unfold Template.compile at h
  obtain ⟨u, hv, h⟩ := Except.bind_eq_ok_iff.1 h
  obtain ⟨renderer, hr, h⟩ := Except.bind_eq_ok_iff.1 h
  obtain ⟨extractor, hx, h⟩ := Except.bind_eq_ok_iff.1 h
  obtain rfl := Except.ok.inj h
  rw [Except.mapError_eq_ok_iff] at hv hr hx
  obtain ⟨steps, hsteps, rfl⟩ := Except.map_eq_ok_iff.1 hr
  obtain ⟨r, hread, hkeys⟩ := Except.bind_eq_ok_iff.1 hx
  obtain rfl := Except.ok.inj hkeys
  rw [Extractor.compile, Except.mapError_eq_ok_iff] at hread
  exact ⟨⟨hv, rfl, Except.mapM_eq_ok_iff.1 hsteps, rfl, hread⟩, rfl, rfl⟩

theorem exists_of_compile (o : Options) (text : String) {p : Template → Prop} [DecidablePred p]
    (h : (Template.compile o text).toOption.any (fun t => p t) = true) :
    ∃ t, Template.compile o text = .ok t ∧ p t := by
  cases ht : Template.compile o text with
  | error e => simp [ht, Except.toOption] at h
  | ok t => exact ⟨t, rfl, by simpa [ht, Except.toOption] using h⟩

variable {t : Template}

theorem Compiled.mem_keys_iff (h : t.Compiled) {p : Parameter} :
    p ∈ t.keys ↔ .parameter p ∈ t.tokens := by
  rw [h.keys_eq, List.mem_filterMap]
  constructor
  · rintro ⟨a, ha, hp⟩
    cases a with
    | literal s => simp [Token.parameter?] at hp
    | parameter q =>
      obtain rfl := Option.some.inj hp
      exact ha
  · intro hp
    exact ⟨_, hp, rfl⟩

theorem Compiled.scanned (h : t.Compiled) {p : Parameter} (hp : .parameter p ∈ t.tokens) :
    p.Scanned t.options :=
  scanned_of_mem_ofTemplate (h.tokens_eq ▸ hp)

end Template

end RouteTemplate
