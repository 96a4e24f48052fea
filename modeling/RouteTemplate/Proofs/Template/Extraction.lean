import RouteTemplate.Proofs.Template.Matching

/-!
What templates extract. A path that matches begins with a text that the tokens spell, and each name
is bound to what its parameter takes there: `Template.Compiled.exists_extracted`.
-/

namespace RouteTemplate

open Regex

/-- What a parameter is bound to that has taken a text, or none. -/
def Parameter.bound? (decode : String → String) (p : Parameter) : Option String → Option String
  | some v => some (decode v)
  | none => if p.isOptional then some "" else none

namespace Extractor

variable {decode : String → String} {m : Captures}

theorem lookup_bind (ps : Params) (key : Parameter × Nat) (name : String) :
    (bind decode m ps key).lookup name =
      if name = key.1.name then
        (key.1.bound? decode (m.group? (key.2 + 1))).or (ps.lookup name)
      else ps.lookup name := by
  unfold bind Parameter.bound?
  cases m.group? (key.2 + 1) with
  | some v =>
    rw [Params.lookup_insert]
    rfl
  | none =>
    cases key.1.isOptional with
    | true =>
      simp only [if_true]
      rw [Params.lookup_insert]
      rfl
    | false => simp

theorem lookup_foldl_bind_of_not_mem {keys : List (Parameter × Nat)} {name : String}
    (h : name ∉ keys.map fun key => key.1.name) (ps : Params) :
    (keys.foldl (bind decode m) ps).lookup name = ps.lookup name := by
  induction keys generalizing ps with
  | nil => rfl
  | cons key keys ih =>
    rw [List.map_cons, List.mem_cons, not_or] at h
    rw [List.foldl_cons, ih h.2, lookup_bind, if_neg h.1]

/-- Of several keys with one name, the last one counts. -/
theorem lookup_foldl_bind_of_last {before after : List (Parameter × Nat)} (key : Parameter × Nat)
    (h : key.1.name ∉ after.map fun key => key.1.name) (ps : Params) :
    ((before ++ key :: after).foldl (bind decode m) ps).lookup key.1.name =
      (key.1.bound? decode (m.group? (key.2 + 1))).or
        ((before.foldl (bind decode m) ps).lookup key.1.name) := by
  rw [List.foldl_append, List.foldl_cons, lookup_foldl_bind_of_not_mem h, lookup_bind, if_pos rfl]

theorem lookup_foldl_bind_of_mem {keys : List (Parameter × Nat)}
    (h : (keys.map fun key => key.1.name).Nodup) {key : Parameter × Nat} (hk : key ∈ keys)
    {ps : Params} (hps : ps.lookup key.1.name = none) :
    (keys.foldl (bind decode m) ps).lookup key.1.name =
      key.1.bound? decode (m.group? (key.2 + 1)) := by
  obtain ⟨before, after, rfl⟩ := List.append_of_mem hk
  rw [List.map_append, List.nodup_append, List.map_cons, List.nodup_cons] at h
  obtain ⟨-, ⟨hafter, -⟩, hdisjoint⟩ := h
  have hbefore : key.1.name ∉ before.map fun key => key.1.name := fun hb =>
    hdisjoint _ hb _ (List.mem_cons_self ..) rfl
  rw [lookup_foldl_bind_of_last _ hafter, lookup_foldl_bind_of_not_mem hbefore, hps,
    Option.or_none]

theorem isSome_lookup_foldl_bind {keys : List (Parameter × Nat)}
    (h : ∀ key ∈ keys, (key.1.bound? decode (m.group? (key.2 + 1))).isSome = true) (ps : Params)
    (name : String) :
    ((keys.foldl (bind decode m) ps).lookup name).isSome = true ↔
      name ∈ (keys.map fun key => key.1.name) ∨ (ps.lookup name).isSome = true := by
  induction keys generalizing ps with
  | nil => simp
  | cons key keys ih =>
    obtain ⟨hkey, hkeys⟩ := List.forall_mem_cons.1 h
    rw [List.foldl_cons, ih hkeys, lookup_bind, List.map_cons, List.mem_cons]
    by_cases hn : name = key.1.name
    · simp [hn, Option.isSome_or, hkey]
    · simp [hn]

end Extractor

namespace Template

variable {t : Template}

theorem map_name_zipIdx :
    (t.extractor.keys.zipIdx.map fun key => key.1.name) = t.parameterNames := by
  have hfst := congrArg (List.map Parameter.name) (List.zipIdx_map_fst 0 t.extractor.keys)
  rwa [List.map_map] at hfst

/-- If no two keys have one name, each name is bound to what the group of its key holds. -/
theorem lookup_extractWith_of_groups {path : String} {m : Captures}
    (hfind : t.extractor.regex.find? path = some m) {vs : List (Option String)}
    (hgroup : ∀ k, m.group? (k + 1) = (vs[k]?).join) (hn : t.parameterNames.Nodup) {p : Parameter}
    {v : Option String} (hv : (p, v) ∈ t.keys.zip vs) (decode : String → String) :
    (t.extractor.extractWith decode path).lookup p.name = p.bound? decode v := by
  obtain ⟨i, hi⟩ := List.mem_iff_getElem?.1 hv
  obtain ⟨hkey, hvalue⟩ := List.getElem?_zip_eq_some.1 hi
  have hmem : (p, i) ∈ t.extractor.keys.zipIdx := by
    rw [List.mem_zipIdx_iff_getElem?]
    exact hkey
  rw [Extractor.extractWith, hfind]
  refine (Extractor.lookup_foldl_bind_of_mem (map_name_zipIdx ▸ hn) hmem rfl).trans ?_
  rw [hgroup, hvalue]
  rfl

theorem Compiled.exists_extracted (h : t.Compiled)
    (hlook : ∀ p ∈ t.keys, p.LookFree t.options.caseSensitive) {path : String}
    (hm : t.isMatch path = true) :
    ∃ vs b rest, path = b ++ rest ∧ Spells t.options t.tokens vs b ∧
      t.options.Ends (Source.endsDelimited t.options t.tokens.getLast?) rest ∧
      ∀ decode,
        (t.parameterNames.Nodup → ∀ p v, (p, v) ∈ t.keys.zip vs →
          (t.extractor.extractWith decode path).lookup p.name = p.bound? decode v) ∧
        ∀ name, name ∉ t.parameterNames →
          (t.extractor.extractWith decode path).lookup name = none := by
  obtain ⟨m, hfind⟩ := Option.isSome_iff_exists.1 hm
  obtain ⟨vs, b, rest, hp, hb, he, hgroup⟩ :=
    spells_of_find? (fun p hp => h.plain hlook hp) h.regex hfind
  refine ⟨vs, b, rest, hp, hb, he, fun decode => ⟨fun hn p v hv => ?_, fun name hname => ?_⟩⟩
  · exact lookup_extractWith_of_groups hfind hgroup hn hv decode
  · rw [Extractor.extractWith, hfind]
    exact (Extractor.lookup_foldl_bind_of_not_mem (map_name_zipIdx ▸ hname) []).trans rfl

end Template

end RouteTemplate
