import Mathlib.Order.Basic
import RouteTemplate.Proofs.Template.Groups

/-!
Options that let more follow a match. The end of the pattern has four shapes, and what one of them
accepts behind the tokens another one accepts if the options were relaxed (`RelaxedTo.ends`). So a
match is kept as long as the tokens lead wherever they led (`Compiled.isMatch_mono`), and they do if
letter case counts as before, assertions included: `isMatch_of_relaxed`.
-/

namespace RouteTemplate

/-- The second options come from the first ones by ignoring case, by leaving out strictness, by
leaving out that a match goes to the end, and by more markers. Strictness counts only if a match
goes to the end. -/
structure Options.RelaxedTo (o o' : Options) : Prop where
  caseSensitive : o'.caseSensitive = true → o.caseSensitive = true
  delimiter : o'.delimiter = o.delimiter
  delimiters : o'.delimiters = o.delimiters
  matchEnd : o'.matchEnd = true → o.matchEnd = true
  strict : o'.matchEnd = true → o'.strict = true → o.strict = true
  markers : ∀ m ∈ o.markers, m ∈ o'.markers

namespace Options

variable {o o' : Options}

theorem RelaxedTo.sameText (h : o.RelaxedTo o') {s t : String} (hs : o.SameText s t) :
    o'.SameText s t := by
  cases hc : o.caseSensitive with
  | true =>
    rw [(sameText_iff hc s t).1 hs]
    exact SameText.refl o' s
  | false =>
    have hc' : o'.caseSensitive = false := by
      rw [← Bool.not_eq_true]
      intro hc'
      exact absurd (h.caseSensitive hc') (by rw [hc]; decide)
    rwa [sameText_congr (hc'.trans hc.symm)]

theorem RelaxedTo.atEnd (h : o.RelaxedTo o') {t : String} (ht : o.AtEnd t) : o'.AtEnd t := by
  rcases ht with rfl | ⟨m, hm, s, r, hs, rfl⟩
  · exact .inl rfl
  · exact .inr ⟨m, h.markers m hm, s, r, h.sameText hs, rfl⟩

theorem RelaxedTo.sameText_delimiter (h : o.RelaxedTo o') {s : String}
    (hs : o.SameText o.delimiter s) : o'.SameText o'.delimiter s := by
  rw [h.delimiter]
  exact h.sameText hs

theorem RelaxedTo.ends (h : o.RelaxedTo o') {delimited : Bool} {t : String}
    (ht : o.Ends delimited t) : o'.Ends delimited t := by
  unfold Ends at ht ⊢
  cases hm' : o'.matchEnd with
  | true =>
    rw [if_pos (h.matchEnd hm')] at ht
    rw [if_pos rfl]
    refine ht.imp h.atEnd fun ⟨hstrict, s, r, hs, hsr, hr⟩ =>
      ⟨?_, s, r, h.sameText_delimiter hs, hsr, h.atEnd hr⟩
    by_contra hstrict'
    have hs := h.strict hm' (Bool.eq_true_of_not_eq_false hstrict')
    rw [hstrict] at hs
    exact absurd hs Bool.false_ne_true
  | false =>
    rw [if_neg Bool.false_ne_true]
    split at ht
    · -- a delimiter is enough now, and what follows it does not matter
      exact .inr (ht.imp h.atEnd fun ⟨_, s, r, hs, hsr, _⟩ => ⟨s, r, h.sameText_delimiter hs, hsr⟩)
    · exact ht.imp id (Or.imp h.atEnd fun ⟨s, r, hs, hsr⟩ => ⟨s, r, h.sameText_delimiter hs, hsr⟩)

end Options

namespace Template

variable {o o' : Options} {text : String} {t t' : Template}

/-- Under relaxed options, a match is kept if the tokens lead wherever they led. -/
theorem Compiled.isMatch_mono (hc : t.Compiled) (hc' : t'.Compiled) (htext : t'.text = t.text)
    (hr : t.options.RelaxedTo t'.options) {path : String}
    (hwalks : Token.walks t.options.flags path.toList 1 t.tokens ≤
      Token.walks t'.options.flags path.toList 1 t.tokens)
    (hm : t.isMatch path = true) : t'.isMatch path = true := by
  have htokens : t'.tokens = t.tokens := by
    rw [hc'.tokens_eq, hc.tokens_eq, htext, Token.ofTemplate_congr hr.delimiter hr.delimiters]
  obtain ⟨k, ms, hk, hw, he⟩ := (hc.isMatch_iff_walks path).1 hm
  refine (hc'.isMatch_iff_walks path).2 ⟨k, ms, hk, ?_, ?_⟩
  · rw [htokens]
    exact hwalks _ _ _ hw
  · rw [htokens, Source.endsDelimited_congr hr.delimiters]
    exact hr.ends he

/-- If what may follow a match is relaxed, no match is lost, whatever the patterns of the parameters
look at. -/
theorem isMatch_of_relaxed (h : Template.compile o text = .ok t)
    (h' : Template.compile o' text = .ok t') (hcase : o'.caseSensitive = o.caseSensitive)
    (hr : o.RelaxedTo o') (path : String) (hm : t.isMatch path = true) :
    t'.isMatch path = true := by
  obtain ⟨hc, rfl, rfl⟩ := compiled_of_compile h
  obtain ⟨hc', rfl, htext⟩ := compiled_of_compile h'
  have hflags : t'.options.flags = t.options.flags := by rw [Options.flags, Options.flags, hcase]
  exact hc.isMatch_mono hc' htext hr (by rw [hflags]) hm

theorem isMatch_of_relaxed_of_boundary :
    ∃ t t', Template.compile { strict := true } "/:name([a-z]+\\b)" = .ok t ∧
      Template.compile { matchEnd := false, strict := true, endsWith := some ["?"] }
        "/:name([a-z]+\\b)" = .ok t' ∧
      Options.RelaxedTo { strict := true }
        { matchEnd := false, strict := true, endsWith := some ["?"] } ∧
      t.isMatch "/tag" = true ∧ t'.isMatch "/tag" = true := by
  obtain ⟨t, ht, hm⟩ := exists_of_compile { strict := true } "/:name([a-z]+\\b)"
    (p := fun t => t.isMatch "/tag" = true) (by decide +kernel)
  obtain ⟨t', ht', -⟩ :=
    exists_of_compile { matchEnd := false, strict := true, endsWith := some ["?"] }
      "/:name([a-z]+\\b)" (p := fun _ => True) (by decide +kernel)
  have hr : Options.RelaxedTo { strict := true }
      { matchEnd := false, strict := true, endsWith := some ["?"] } :=
    ⟨id, rfl, rfl, by decide, by decide, by decide⟩
  exact ⟨t, t', ht, ht', hr, hm, isMatch_of_relaxed ht ht' rfl hr "/tag" hm⟩

end Template

end RouteTemplate
