import RouteTemplate.Proofs.Template.Rendering

/-!
Empty lists for parameters that may be left out. An empty list drops the lead of such a parameter
even where the lead would stay without any value, so a template renders under it what it would
render without a value if the parameter kept no lead: `renderSteps_emptied`. Hence the two ways to
leave a parameter out agree if and only if the rendering fails in any case or no lead stays:
`expandWith_emptied_iff`.
-/

namespace RouteTemplate

variable {encode : String → String} {values : Values} {name : String}

namespace Step

/-- The step with no lead that stays, if it is of a parameter of the given name. -/
def dropLead (name : String) : Step → Step
  | literal text => literal text
  | parameter p r => parameter (if p.name = name then { p with leadStays := false } else p) r

/-- If the step is of a parameter of the given name, this takes an empty list. -/
def MayEmpty (name : String) : Step → Prop
  | literal _ => True
  | parameter p _ => p.name = name →
    p.isOptional = true ∧ p.isRepeating = true ∧ (p.leadStays = true → p.lead ≠ "")

/-- The step is of a parameter of the given name and keeps its lead if this is left out. -/
def KeepsLead (name : String) : Step → Prop
  | literal _ => False
  | parameter p _ => p.name = name ∧ p.leadStays = true

theorem dropLead_of_ne {p : Parameter} {r : Regex} (h : p.name ≠ name) :
    (parameter p r).dropLead name = parameter p r := by
  rw [dropLead, if_neg h]

theorem dropLead_of_not_keepsLead {s : Step} (h : ¬ s.KeepsLead name) : s.dropLead name = s := by
  cases s with
  | literal text => rfl
  | parameter p r =>
    by_cases hp : p.name = name
    · have hstays : p.leadStays = false := Bool.eq_false_iff.2 fun hl => h ⟨hp, hl⟩
      rw [dropLead, if_pos hp, ← hstays]
    · exact dropLead_of_ne hp

theorem piece_dropLead {p : Parameter} {r : Regex} (hp : p.name = name)
    (ho : p.isOptional = true) (hnone : values.lookup name = none) :
    ((parameter p r).dropLead name).piece encode values = .ok "" := by
  rw [dropLead, if_pos hp]
  rw [← hp] at hnone
  exact (piece_of_none (p := { p with leadStays := false }) hnone).2 (.leftOut ho)

theorem piece_emptied {s : Step} (hs : s.MayEmpty name) (hnone : values.lookup name = none) :
    s.piece encode ((name, .list []) :: values) = (s.dropLead name).piece encode values := by
  cases s with
  | literal text => rfl
  | parameter p r =>
    by_cases hp : p.name = name
    · obtain ⟨ho, hrep, -⟩ := hs hp
      have hlist : List.lookup p.name ((name, .list []) :: values) = some (.list []) := by
        rw [hp, List.lookup_cons_self]
      rw [piece_dropLead hp ho hnone]
      exact (piece_of_emptied hrep hlist).2 (.emptied hrep ho)
    · rw [dropLead_of_ne hp]
      simp only [piece, List.lookup_cons, beq_eq_false_iff_ne.2 hp]

theorem piece_of_keepsLead (encode : String → String) {s : Step} (hs : s.MayEmpty name)
    (hnone : values.lookup name = none) (h : s.KeepsLead name) :
    (s.dropLead name).piece encode values = .ok "" ∧
      ∃ lead, s.piece encode values = .ok lead ∧ lead ≠ "" := by
  cases s with
  | literal text => exact absurd h id
  | parameter p r =>
    obtain ⟨hp, hstays⟩ := h
    obtain ⟨ho, -, hlead⟩ := hs hp
    refine ⟨piece_dropLead hp ho hnone, p.lead, ?_, hlead hstays⟩
    have hleft : p.Renders encode none p.lead := by
      have h : p.Renders encode none (if p.leadStays then p.lead else "") := .leftOut ho
      rwa [if_pos hstays] at h
    rw [← hp] at hnone
    exact (piece_of_none hnone).2 hleft

theorem piece_dropLead_of_error {s : Step} (hs : s.MayEmpty name)
    (hnone : values.lookup name = none) {e : RenderError}
    (he : s.piece encode values = .error e) :
    (s.dropLead name).piece encode values = .error e := by
  by_cases hk : s.KeepsLead name
  · obtain ⟨-, lead, hlead, -⟩ := piece_of_keepsLead encode hs hnone hk
    rw [hlead] at he
    cases he
  · rwa [dropLead_of_not_keepsLead hk]

theorem exists_piece_dropLead {s : Step} (hs : s.MayEmpty name)
    (hnone : values.lookup name = none) {a : String} (ha : s.piece encode values = .ok a) :
    ∃ b, (s.dropLead name).piece encode values = .ok b ∧
      b.length ≤ a.length ∧ (s.KeepsLead name → b.length < a.length) := by
  by_cases hk : s.KeepsLead name
  · obtain ⟨hdropped, lead, hlead, hne⟩ := piece_of_keepsLead encode hs hnone hk
    rw [hlead] at ha
    obtain rfl := Except.ok.inj ha
    have hpos : "".length < lead.length := by
      rw [String.length_empty, Nat.pos_iff_ne_zero]
      exact fun h => hne (String.length_eq_zero_iff.1 h)
    exact ⟨"", hdropped, Nat.le_of_lt hpos, fun _ => hpos⟩
  · rw [dropLead_of_not_keepsLead hk]
    exact ⟨a, ha, Nat.le_refl _, fun h => absurd h hk⟩

end Step

theorem renderSteps_emptied {steps : List Step} (hs : ∀ s ∈ steps, s.MayEmpty name)
    (hnone : values.lookup name = none) :
    Renderer.renderSteps encode ((name, .list []) :: values) steps =
      Renderer.renderSteps encode values (steps.map (Step.dropLead name)) := by
  induction steps with
  | nil => rfl
  | cons s rest ih =>
    rw [List.map_cons, Renderer.renderSteps, Renderer.renderSteps,
      Step.piece_emptied (hs s (List.mem_cons_self ..)) hnone,
      ih fun x hx => hs x (List.mem_cons_of_mem _ hx)]

theorem renderSteps_dropLead_of_error {steps : List Step} (hs : ∀ s ∈ steps, s.MayEmpty name)
    (hnone : values.lookup name = none) {e : RenderError}
    (he : Renderer.renderSteps encode values steps = .error e) :
    Renderer.renderSteps encode values (steps.map (Step.dropLead name)) = .error e := by
  induction steps with
  | nil => exact he
  | cons s rest ih =>
    have hfirst := hs s (List.mem_cons_self ..)
    rw [List.map_cons, Renderer.renderSteps, Except.bind_eq_error_iff]
    rcases Except.bind_eq_error_iff.1 he with he | ⟨a, ha, he⟩
    · exact .inl (Step.piece_dropLead_of_error hfirst hnone he)
    · obtain ⟨b, hb, -⟩ := Step.exists_piece_dropLead hfirst hnone ha
      refine .inr ⟨b, hb, ?_⟩
      rcases Except.bind_eq_error_iff.1 he with he | ⟨r, -, he⟩
      · exact Except.bind_eq_error_iff.2
          (.inl (ih (fun x hx => hs x (List.mem_cons_of_mem _ hx)) he))
      · cases he

/-- A lead that stays makes what is rendered longer. -/
theorem exists_renderSteps_dropLead {steps : List Step} (hs : ∀ s ∈ steps, s.MayEmpty name)
    (hnone : values.lookup name = none) {a : String}
    (ha : Renderer.renderSteps encode values steps = .ok a) :
    ∃ b, Renderer.renderSteps encode values (steps.map (Step.dropLead name)) = .ok b ∧
      b.length ≤ a.length ∧ ((∃ s ∈ steps, s.KeepsLead name) → b.length < a.length) := by
  induction steps generalizing a with
  | nil => exact ⟨a, ha, Nat.le_refl _, fun ⟨_, hs, _⟩ => absurd hs List.not_mem_nil⟩
  | cons s rest ih =>
    obtain ⟨x, hx, ha⟩ := Except.bind_eq_ok_iff.1 ha
    obtain ⟨y, hy, ha⟩ := Except.bind_eq_ok_iff.1 ha
    obtain rfl := Except.ok.inj ha
    obtain ⟨x', hx', hxle, hxlt⟩ :=
      Step.exists_piece_dropLead (hs s (List.mem_cons_self ..)) hnone hx
    obtain ⟨y', hy', hyle, hylt⟩ := ih (fun u hu => hs u (List.mem_cons_of_mem _ hu)) hy
    refine ⟨x' ++ y', ?_, ?_, ?_⟩
    · rw [List.map_cons, Renderer.renderSteps, hx', hy']
      rfl
    · rw [String.length_append, String.length_append]
      omega
    · rintro ⟨u, hu, hk⟩
      rw [String.length_append, String.length_append]
      rcases List.mem_cons.1 hu with rfl | hu
      · have := hxlt hk
        omega
      · have := hylt ⟨u, hu, hk⟩
        omega

namespace Template

/-- An empty list for a parameter that may be left out is an error exactly if no value is, and
gives the same path exactly if no lead stays. -/
theorem expandWith_emptied_iff {o : Options} {text : String} {t : Template}
    (h : Template.compile o text = .ok t)
    (hname : ∀ p ∈ t.keys, p.name = name → p.isOptional = true ∧ p.isRepeating = true)
    (hnone : values.lookup name = none) :
    (∀ e, t.expandWith encode ((name, .list []) :: values) = .error e ↔
      t.expandWith encode values = .error e) ∧
    (t.expandWith encode ((name, .list []) :: values) = t.expandWith encode values ↔
      (∃ e, t.expandWith encode values = .error e) ∨
        ∀ p ∈ t.keys, p.name = name → p.leadStays = false) := by
  obtain ⟨hc, rfl, -⟩ := compiled_of_compile h
  have hmay : ∀ s ∈ t.renderer.steps, s.MayEmpty name := by
    intro s hs
    cases s with
    | literal text => exact trivial
    | parameter p r =>
      intro hp
      have hmem := (exists_mem_steps_iff hc.steps).1 ⟨r, hs⟩
      obtain ⟨ho, hrep⟩ := hname p (hc.mem_keys_iff.2 hmem) hp
      exact ⟨ho, hrep, (hc.scanned hmem).lead_ne⟩
  have hemptied : t.expandWith encode ((name, .list []) :: values) =
      Renderer.renderSteps encode values (t.renderer.steps.map (Step.dropLead name)) :=
    renderSteps_emptied hmay hnone
  rw [hemptied]
  cases he : t.expandWith encode values with
  | error e =>
    rw [renderSteps_dropLead_of_error hmay hnone he]
    exact ⟨fun _ => Iff.rfl, fun _ => .inl ⟨e, rfl⟩, fun _ => rfl⟩
  | ok a =>
    obtain ⟨b, hb, -, hshorter⟩ := exists_renderSteps_dropLead hmay hnone he
    refine ⟨fun e => by rw [hb]; simp, ?_, ?_⟩
    · intro hsame
      rw [hb] at hsame
      obtain rfl := Except.ok.inj hsame
      refine .inr fun p hp hpname => Bool.eq_false_iff.2 fun hstays => ?_
      obtain ⟨r, hr⟩ := (exists_mem_steps_iff hc.steps).2 (hc.mem_keys_iff.1 hp)
      exact Nat.lt_irrefl _ (hshorter ⟨_, hr, hpname, hstays⟩)
    · rintro (⟨e, h⟩ | hkeys)
      · cases h
      · have hnot : ∀ s ∈ t.renderer.steps, ¬ s.KeepsLead name := by
          rintro (_ | ⟨p, r⟩) hs hk
          · exact hk
          · have hmem := hc.mem_keys_iff.2 ((exists_mem_steps_iff hc.steps).1 ⟨r, hs⟩)
            exact Bool.false_ne_true ((hkeys p hmem hk.1).symm.trans hk.2)
        rw [List.map_congr_left fun s hs => Step.dropLead_of_not_keepsLead (hnot s hs),
          List.map_id']
        exact he

/-- Behind `/` and before `-` the lead has to stay, but an empty list drops it. -/
theorem expandWith_emptied_ne :
    ∃ t, Template.compile {} "/:ids*-end" = .ok t ∧
      (∀ p ∈ t.keys, p.name = "ids" → p.isOptional = true ∧ p.isRepeating = true) ∧
      t.expandWith Percent.encode [] = .ok "/-end" ∧
      t.expandWith Percent.encode [("ids", .list [])] = .ok "-end" ∧
      t.isMatch "/-end" = true ∧ t.isMatch "-end" = false :=
  exists_of_compile {} "/:ids*-end" (by decide +kernel)

/-- Before another `/` no lead stays, and there the empty list is as good as no value. -/
theorem expandWith_emptied_iff_of_slash :
    ∃ t, Template.compile {} "/:ids*/end" = .ok t ∧
      t.expandWith Percent.encode [("ids", .list [])] = t.expandWith Percent.encode [] := by
  obtain ⟨t, ht, hname, hlead⟩ := exists_of_compile {} "/:ids*/end"
    (p := fun t => (∀ p ∈ t.keys, p.name = "ids" → p.isOptional = true ∧ p.isRepeating = true) ∧
      ∀ p ∈ t.keys, p.name = "ids" → p.leadStays = false)
    (by decide +kernel)
  exact ⟨t, ht, (expandWith_emptied_iff ht hname rfl).2.2 (.inr hlead)⟩

end Template

end RouteTemplate
