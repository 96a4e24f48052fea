import RouteTemplate.Proofs.Template.Compiled
import RouteTemplate.Proofs.Template.Spelling

/-!
What templates match. A compiled template matches a path if and only if the path begins with a text
that the tokens spell, and goes on as the options allow: `isMatch_iff_spells`. What the template
extracts is what the parameters take in one such spelling: `spells_of_find?`.
-/

namespace RouteTemplate

open Regex

section

variable {o : Options} {ts : List Token} {r : Regex}

theorem walk_of_compile (hts : ∀ p, .parameter p ∈ ts → p.Plain o)
    (hr : Regex.compile o.caseSensitive (Source.ofTokens o ts).text = .ok r) (text : List Char) :
    r.expr.walk text = ((Expr.look .textStart).walk text).andThen
      ((Token.walks o.flags text 1 ts).andThen
        (o.terminatorWalk o.flags text (Source.endsDelimited o ts.getLast?))) := by
  obtain ⟨e, he, rfl⟩ := Regex.compile_eq_ok_iff.1 hr
  exact walk_source (f := o.flags) text rfl rfl (fun p hp => (hts p hp).readable) he

/-- A match walks over a text that the tokens spell, and what is left of the path may follow. -/
theorem spells_of_walk_regex (hts : ∀ p, .parameter p ∈ ts → p.Plain o)
    (hr : Regex.compile o.caseSensitive (Source.ofTokens o ts).text = .ok r) {path : String}
    {i j : Nat} {ms : List (Nat × Nat)} (hi : i ≤ path.toList.length)
    (hw : r.expr.walk path.toList i j ms) :
    ∃ vs b rest, path = b ++ rest ∧ Spells o ts vs b ∧
      o.Ends (Source.endsDelimited o ts.getLast?) rest ∧ SavedIn ms 1 (1 + vs.length) ∧
      ∀ k, (⟨path.toList, ms⟩ : Captures).group? (1 + k) = (vs[k]?).join := by
  rw [walk_of_compile hts hr] at hw
  obtain ⟨k, ns, os, hstart, ⟨l, ms₁, ms₂, hb, he, rfl⟩, rfl⟩ := hw
  obtain ⟨rfl, rfl, rfl⟩ := (Expr.walk_textStart_iff hi).1 hstart
  obtain ⟨h0l, hl, vs, hvs, hsave, hgroup⟩ := spells_of_walks hts hi hb
  obtain rfl := quiet_terminatorWalk o _ _ _ _ _ he
  refine ⟨vs, _, _, ?_, hvs, (terminatorWalk_iff o _ hl).1 ⟨j, he⟩, ?_, ?_⟩
  · rw [← slice_length, ofList_slice_append h0l hl, slice_zero_length, String.ofList_toList]
  · rwa [List.nil_append, List.append_nil]
  · rwa [List.nil_append, List.append_nil]

theorem isMatch_iff_of_tokens (hts : ∀ p, .parameter p ∈ ts → p.Plain o)
    (hr : Regex.compile o.caseSensitive (Source.ofTokens o ts).text = .ok r) (path : String) :
    r.isMatch path = true ↔ ∃ vs b rest, path = b ++ rest ∧ Spells o ts vs b ∧
      o.Ends (Source.endsDelimited o ts.getLast?) rest := by
  rw [Regex.isMatch_iff]
  constructor
  · rintro ⟨i, j, ms, hi, hw⟩
    obtain ⟨vs, b, rest, hp, hb, he, -⟩ := spells_of_walk_regex hts hr hi hw
    exact ⟨vs, b, rest, hp, hb, he⟩
  · rintro ⟨vs, b, rest, rfl, hb, he⟩
    have hk := length_toList_append_le b rest
    have hs : slice (b ++ rest).toList 0 b.toList.length = b.toList := by
      simp [slice]
    have hd : (b ++ rest).toList.drop b.toList.length = rest.toList := by
      simp
    obtain ⟨ms, hw⟩ := exists_walks_of_spells hts hb 1 (Nat.zero_le _) hk hs
    have hends := terminatorWalk_iff o (Source.endsDelimited o ts.getLast?) hk
    rw [hd, String.ofList_toList] at hends
    obtain ⟨j, hj⟩ := hends.2 he
    refine ⟨0, j, ms, Nat.zero_le _, ?_⟩
    rw [walk_of_compile hts hr]
    refine ⟨0, [], ms, (Expr.walk_textStart_iff (Nat.zero_le _)).2 ⟨rfl, rfl, rfl⟩,
      ⟨_, ms, [], hw, hj, rfl⟩, by simp⟩

/-- What is found in a path is a spelling of the tokens, with what the parameters take in it. -/
theorem spells_of_find? (hts : ∀ p, .parameter p ∈ ts → p.Plain o)
    (hr : Regex.compile o.caseSensitive (Source.ofTokens o ts).text = .ok r) {path : String}
    {m : Captures} (hm : r.find? path = some m) :
    ∃ vs b rest, path = b ++ rest ∧ Spells o ts vs b ∧
      o.Ends (Source.endsDelimited o ts.getLast?) rest ∧
      ∀ k, m.group? (k + 1) = (vs[k]?).join := by
  obtain ⟨htext, i, j, ns, hi, hw, hmarks⟩ := Regex.exists_walk_of_find? hm
  obtain ⟨vs, b, rest, hp, hb, he, hsave, hgroup⟩ := spells_of_walk_regex hts hr hi hw
  refine ⟨vs, b, rest, hp, hb, he, fun k => ?_⟩
  have hm : m = ⟨path.toList, (1, j) :: (ns ++ [(0, i)])⟩ := by
    cases m
    simp_all
  rw [hm, group?_whole, Nat.add_comm k 1, hgroup]

end

namespace Template

variable {o : Options} {text : String} {t : Template}

theorem Compiled.plain (h : t.Compiled)
    (hlook : ∀ p ∈ t.keys, p.LookFree t.options.caseSensitive) {p : Parameter}
    (hp : .parameter p ∈ t.tokens) : p.Plain t.options :=
  ⟨(h.scanned hp).enclosable, exists_validator h.steps hp, hlook p (h.mem_keys_iff.2 hp)⟩

/-- A template without assertions matches what its tokens spell and what may follow that, and
nothing else. -/
theorem isMatch_iff_spells (h : Template.compile o text = .ok t)
    (hlook : ∀ p ∈ t.keys, p.LookFree o.caseSensitive) (path : String) :
    t.isMatch path = true ↔ ∃ vs b rest, path = b ++ rest ∧ Spells o t.tokens vs b ∧
      o.Ends (Source.endsDelimited o t.tokens.getLast?) rest := by
  obtain ⟨hc, rfl, -⟩ := compiled_of_compile h
  exact isMatch_iff_of_tokens (fun p hp => hc.plain hlook hp) hc.regex path

theorem isMatch_iff_spells_of_numbers :
    ∃ t, Template.compile {} "/artist/:id([0-9]+)?" = .ok t ∧
      (∀ p ∈ t.keys, p.LookFree false) ∧ t.isMatch "/Artist/12/" = true ∧
      ∃ vs b rest, "/Artist/12/" = b ++ rest ∧ Spells {} t.tokens vs b ∧
        Options.Ends {} (Source.endsDelimited {} t.tokens.getLast?) rest := by
  obtain ⟨t, ht, hlook, hm⟩ := exists_of_compile {} "/artist/:id([0-9]+)?"
    (p := fun t => (∀ p ∈ t.keys, p.LookFree false) ∧ t.isMatch "/Artist/12/" = true)
    (by decide +kernel)
  exact ⟨t, ht, hlook, hm, (isMatch_iff_spells ht hlook "/Artist/12/").1 hm⟩

/-- Without regard to letter case, a template matches more than the texts of its tokens themselves.
-/
theorem isMatch_other_case :
    ∃ t, Template.compile {} "/abc" = .ok t ∧ t.tokens = [.literal "/abc"] ∧ t.keys = [] ∧
      t.isMatch "/ABC" = true ∧
      ¬ ∃ vs b rest, "/ABC" = b ++ rest ∧ Spells { caseSensitive := true } t.tokens vs b ∧
        Options.Ends { caseSensitive := true }
          (Source.endsDelimited { caseSensitive := true } t.tokens.getLast?) rest := by
  obtain ⟨t, ht, htokens, hkeys, hm⟩ := exists_of_compile {} "/abc"
    (p := fun t => t.tokens = [.literal "/abc"] ∧ t.keys = [] ∧ t.isMatch "/ABC" = true)
    (by decide +kernel)
  refine ⟨t, ht, htokens, hkeys, hm, ?_⟩
  rintro ⟨vs, b, rest, hp, hb, -⟩
  rw [htokens] at hb
  cases hb with
  | literal hs hr =>
    cases hr with
    | nil =>
      rw [Options.sameText_iff rfl] at hs
      subst hs
      have hl := congrArg (fun x => x.toList.take 2) hp
      simp at hl

end Template

end RouteTemplate
