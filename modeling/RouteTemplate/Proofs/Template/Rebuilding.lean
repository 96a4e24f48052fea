import RouteTemplate.Proofs.Template.DefaultPattern
import RouteTemplate.Proofs.Template.Extraction
import RouteTemplate.Proofs.Template.Rendering

/-!
Rendering what has been extracted. A repeated value is cut at the leads in it again, and an optional
parameter that took nothing is left out; then the template renders the part of the path that its
tokens have matched: `expandWith_valuesOf_extract`.
-/

namespace RouteTemplate

namespace Parameter

/-- Cuts a text at each lead in it. A lead is one character or none. -/
def cut (p : Parameter) (text : String) : List String :=
  match p.lead.toList with
  | [c] => (text.toList.splitOn c).map String.ofList
  | _ => [text]

/-- The value that an extracted text stands for. -/
def valueOf? (p : Parameter) (text : String) : Option Value :=
  if p.isOptional = true ∧ text = "" then none
  else if p.isRepeating then some (.list (p.cut text))
  else some (.single text)

end Parameter

/-- The values that extracted texts stand for. -/
def Template.valuesOf (t : Template) (ps : Params) : Values :=
  t.keys.filterMap fun p => ((ps.lookup p.name).bind p.valueOf?).map fun v => (p.name, v)

section

variable {keys : List Parameter} {f : Parameter → Option Value}

theorem lookup_filterMap_of_not_mem {name : String} (h : name ∉ keys.map Parameter.name) :
    (keys.filterMap fun p => (f p).map fun v => (p.name, v)).lookup name = none := by
  rw [List.lookup_eq_none_iff]
  rintro ⟨n, v⟩ hv
  obtain ⟨p, hp, hpv⟩ := List.mem_filterMap.1 hv
  obtain ⟨w, -, heq⟩ := Option.map_eq_some_iff.1 hpv
  obtain ⟨rfl, rfl⟩ := Prod.mk.inj heq
  have hne : name ≠ p.name := fun he => h (he ▸ List.mem_map_of_mem hp)
  simpa using hne

theorem lookup_filterMap_of_mem (h : (keys.map Parameter.name).Nodup) {p : Parameter}
    (hp : p ∈ keys) :
    (keys.filterMap fun p => (f p).map fun v => (p.name, v)).lookup p.name = f p := by
  induction keys with
  | nil => exact absurd hp List.not_mem_nil
  | cons q keys ih =>
    rw [List.map_cons, List.nodup_cons] at h
    rcases List.mem_cons.1 hp with rfl | hp
    · cases hf : f p with
      | none =>
        rw [List.filterMap_cons_none (by rw [hf]; rfl)]
        exact lookup_filterMap_of_not_mem h.1
      | some v =>
        rw [List.filterMap_cons_some (by rw [hf]; rfl)]
        exact List.lookup_cons_self
    · have hne : (p.name == q.name) = false := by
        have hmem : p.name ∈ keys.map Parameter.name := List.mem_map_of_mem hp
        rw [beq_eq_false_iff_ne]
        exact fun he => h.1 (he ▸ hmem)
      cases hf : f q with
      | none =>
        rw [List.filterMap_cons_none (by rw [hf]; rfl)]
        exact ih h.2 hp
      | some v =>
        rw [List.filterMap_cons_some (by rw [hf]; rfl), List.lookup_cons, hne]
        exact ih h.2 hp

end

section

variable {o : Options} {p : Parameter}

theorem Parameter.cut_of_lead {c : Char} (hc : p.lead = String.singleton c) (text : String) :
    p.cut text = (text.toList.splitOn c).map String.ofList := by
  rw [cut, hc, String.toList_singleton]

theorem Parameter.intercalate_cut {c : Char} (hc : p.lead = String.singleton c) (text : String) :
    p.lead.intercalate (p.cut text) = text := by
  rw [← String.toList_inj, String.toList_intercalate, cut_of_lead hc, hc, String.toList_singleton,
    List.map_map]
  have hid : String.toList ∘ String.ofList = id := funext fun l => String.toList_ofList
  rw [hid, List.map_id, List.intercalate_splitOn]

/-- Values without leads in them are what a run of them is cut into. -/
theorem Parameter.Run.accepts_of_mem_cut {c : Char} (hcase : o.caseSensitive = true)
    (hc : p.lead = String.singleton c) (hfree : ∀ w, p.Accepts true w → c ∉ w.toList) {v : String}
    (h : p.Run o v) : ∀ w ∈ p.cut v, p.Accepts true w := by
  rw [cut_of_lead hc]
  induction h with
  | @one v hv =>
    rw [hcase] at hv
    rw [List.splitOn_eq_singleton (hfree v hv), List.map_singleton, String.ofList_toList]
    intro w hw
    obtain rfl := List.mem_singleton.1 hw
    exact hv
  | @more v s r hv hs _ ih =>
    rw [hcase] at hv
    rw [Options.sameText_iff hcase] at hs
    subst hs
    rw [String.toList_append, String.toList_append, hc, String.toList_singleton,
      List.append_assoc, List.singleton_append,
      List.splitOn_append_cons_self_of_not_mem (hfree v hv), List.map_cons,
      String.ofList_toList]
    intro w hw
    rcases List.mem_cons.1 hw with rfl | hw
    · exact hv
    · exact ih w hw

theorem Parameter.Run.ne_empty (hne : ¬ p.Accepts o.caseSensitive "") {v : String}
    (h : p.Run o v) : v ≠ "" := by
  cases h with
  | one hv =>
    rintro rfl
    exact hne hv
  | more hv hs hr =>
    intro he
    have hv' := (String.append_eq_empty_iff.1 (String.append_eq_empty_iff.1 he).1).1
    exact hne (hv' ▸ hv)

/-- A run is rendered again from what it is cut into. -/
theorem Parameter.Run.renders_cut {c : Char} (hcase : o.caseSensitive = true)
    (hrep : p.isRepeating = true) (hc : p.lead = String.singleton c) (hjoiner : p.joiner = p.lead)
    (hfree : ∀ w, p.Accepts true w → c ∉ w.toList) {v : String} (h : p.Run o v) :
    p.Renders id (some (.list (p.cut v))) (p.lead ++ v) := by
  have hcut : p.cut v ≠ [] := by
    rw [cut_of_lead hc, ne_eq, List.map_eq_nil_iff]
    exact List.splitOn_ne_nil _ _
  have hlist : p.Renders id (some (.list (p.cut v)))
      (p.lead ++ p.joiner.intercalate ((p.cut v).map id)) :=
    .list hrep hcut (h.accepts_of_mem_cut hcase hc hfree)
  rwa [List.map_id, hjoiner, intercalate_cut hc] at hlist

theorem Parameter.bound_absent (ho : p.isOptional = true) :
    (p.bound? id none).bind p.valueOf? = none := by
  simp [bound?, ho, valueOf?]

theorem Parameter.bound_single (hrep : p.isRepeating = false) {v : String}
    (hv : ¬(p.isOptional = true ∧ v = "")) :
    (p.bound? id (some v)).bind p.valueOf? = some (.single v) := by
  simp [bound?, valueOf?, hrep, hv]

theorem Parameter.bound_list (hrep : p.isRepeating = true) {v : String} (hv : v ≠ "") :
    (p.bound? id (some v)).bind p.valueOf? = some (.list (p.cut v)) := by
  simp [bound?, valueOf?, hrep, hv]

/-- What a parameter takes is the value that it is bound to once this is extracted. -/
theorem Parameter.Spells.renders (hp : p.Scanned o) (hcase : o.caseSensitive = true)
    {r : Regex} (hr : Regex.compile true ("^(?:" ++ p.pattern ++ ")$") = .ok r)
    (hempty : p.isOptional = true → ¬ p.Accepts true "")
    (hrepeat : p.isRepeating = true → p.pattern = defaultPattern p.joiner ∧ p.lead ≠ "")
    {v : Option String} {s : String} (h : p.Spells o v s) :
    p.Renders id ((p.bound? id v).bind p.valueOf?) s := by
  cases h with
  | absent ho hs =>
    have hlead : s = if p.leadStays then p.lead else "" := by
      cases hl : p.leadStays with
      | true =>
        rw [hl, if_pos rfl] at hs
        exact (Options.sameText_iff hcase _ _).1 hs
      | false =>
        rw [hl, if_neg Bool.false_ne_true] at hs
        exact hs
    rw [bound_absent ho, hlead]
    exact .leftOut ho
  | @present s v hs hv =>
    obtain rfl := (Options.sameText_iff hcase _ _).1 hs
    unfold Takes at hv
    cases hrep : p.isRepeating with
    | false =>
      rw [hrep, if_neg Bool.false_ne_true, hcase] at hv
      have hne : ¬(p.isOptional = true ∧ v = "") := by
        rintro ⟨ho, rfl⟩
        exact hempty ho hv
      rw [bound_single hrep hne]
      exact .single hv
    | true =>
      rw [hrep, if_pos rfl] at hv
      obtain ⟨hpattern, hlead⟩ := hrepeat hrep
      obtain ⟨c, -, hc⟩ := hp.lead_eq.resolve_left hlead
      have hjoiner : p.joiner = p.lead := by rw [hp.joiner_eq, if_neg hlead]
      rw [hjoiner, hc] at hpattern
      have haccepts (w : String) : p.Accepts true w ↔ w ≠ "" ∧ c ∉ w.toList :=
        accepts_defaultPattern_singleton_iff hpattern hr (.inl rfl) w
      have hnot : ¬ p.Accepts o.caseSensitive "" := by
        rw [hcase]
        exact fun hw => ((haccepts "").1 hw).1 rfl
      rw [bound_list hrep (hv.ne_empty hnot)]
      exact hv.renders_cut hcase hrep hc hjoiner fun w hw => ((haccepts w).1 hw).2

theorem Renders.of_spells {encode : String → String} {values : Values}
    (hcase : o.caseSensitive = true) {ts : List Token} {vs : List (Option String)} {b : String}
    (hts : ∀ p v, (p, v) ∈ (ts.filterMap Token.parameter?).zip vs → .parameter p ∈ ts →
      ∀ s, p.Spells o v s → p.Renders encode (values.lookup p.name) s)
    (h : Spells o ts vs b) : Renders encode values ts b := by
  induction h with
  | nil => exact .nil
  | @literal text s r ts vs hs _ ih =>
    obtain rfl := (Options.sameText_iff hcase _ _).1 hs
    exact .literal (ih fun p v hv hp => hts p v hv (List.mem_cons_of_mem _ hp))
  | @parameter p s r v ts vs hv _ ih =>
    refine .parameter (hts p v (List.mem_cons_self ..) (List.mem_cons_self ..) s hv) ?_
    exact ih fun q w hw hq => hts q w (List.mem_cons_of_mem _ hw) (List.mem_cons_of_mem _ hq)

end

namespace Template

/-- What is extracted from a path renders the part of the path that the tokens have matched. -/
theorem expandWith_valuesOf_extract {o : Options} {text : String} {t : Template} {path : String}
    (h : Template.compile o text = .ok t) (hcase : o.caseSensitive = true)
    (hnames : t.parameterNames.Nodup) (hlook : ∀ p ∈ t.keys, p.LookFree o.caseSensitive)
    (hempty : ∀ p ∈ t.keys, p.isOptional = true → ¬ p.Accepts true "")
    (hrepeat : ∀ p ∈ t.keys, p.isRepeating = true →
      p.pattern = defaultPattern p.joiner ∧ p.lead ≠ "")
    (hm : t.isMatch path = true) :
    ∃ b rest, path = b ++ rest ∧
      o.Ends (Source.endsDelimited o t.tokens.getLast?) rest ∧
      t.expandWith id (t.valuesOf (t.extract path)) = .ok b := by
  obtain ⟨hc, rfl, -⟩ := compiled_of_compile h
  obtain ⟨vs, b, rest, hp, hb, he, hbound⟩ := hc.exists_extracted hlook hm
  refine ⟨b, rest, hp, he, hc.expandWith_eq_ok_iff.2 (Renders.of_spells hcase ?_ hb)⟩
  intro p v hv hp s hs
  have hkey : p ∈ t.keys := hc.mem_keys_iff.2 hp
  rw [← hc.keys_eq] at hv
  have hlookup : (t.valuesOf (t.extract path)).lookup p.name =
      (p.bound? id v).bind p.valueOf? := by
    rw [valuesOf, lookup_filterMap_of_mem hnames hkey]
    exact congrArg (fun x => x.bind p.valueOf?) ((hbound id).1 hnames p v hv)
  obtain ⟨r, hr⟩ := exists_validator hc.steps hp
  rw [hlookup]
  exact hs.renders (hc.scanned hp) hcase hr (hempty p hkey) (hrepeat p hkey)

theorem expandWith_valuesOf_extract_list :
    ∃ t, Template.compile { caseSensitive := true } "/:user/:path*" = .ok t ∧
      t.isMatch "/7/a/b/" = true ∧
      ∃ b rest, "/7/a/b/" = b ++ rest ∧
        Options.Ends { caseSensitive := true }
          (Source.endsDelimited { caseSensitive := true } t.tokens.getLast?) rest ∧
        t.expandWith id (t.valuesOf (t.extract "/7/a/b/")) = .ok b := by
  obtain ⟨t, ht, hnames, hlook, hempty, hrepeat, hm⟩ := exists_of_compile
    { caseSensitive := true } "/:user/:path*"
    (p := fun t => t.parameterNames.Nodup ∧ (∀ p ∈ t.keys, p.LookFree true) ∧
      (∀ p ∈ t.keys, p.isOptional = true → ¬ p.Accepts true "") ∧
      (∀ p ∈ t.keys, p.isRepeating = true → p.pattern = defaultPattern p.joiner ∧ p.lead ≠ "") ∧
      t.isMatch "/7/a/b/" = true)
    (by decide +kernel)
  exact ⟨t, ht, hm, expandWith_valuesOf_extract ht rfl hnames hlook hempty hrepeat hm⟩

end Template

end RouteTemplate
