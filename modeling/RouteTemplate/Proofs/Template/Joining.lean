import RouteTemplate.Proofs.Template.DefaultPattern
import RouteTemplate.Proofs.Template.Rendering

/-!
What joins the values of a parameter without a lead. The renderer puts the delimiter between them,
but the pattern repeats them with nothing between, so two or more values are rendered into a path
that the template does not match: `isMatch_iff_of_expandWith_list`.
-/

namespace RouteTemplate

section

variable {o : Options} {encode : String → String} {values : Values} {ts : List Token}
  {p : Parameter} {c : Char}

theorem Options.Ends.eq_empty_or_delimiter {delimited : Bool} {rest : String}
    (h : o.Ends delimited rest) (hcase : o.caseSensitive = true) (hend : o.matchEnd = true)
    (hmarkers : o.markers = []) : rest = "" ∨ rest = o.delimiter := by
  rw [Ends, if_pos hend] at h
  rcases h with h | ⟨-, s, r, hs, rfl, hr⟩
  · exact .inl (h.eq_empty hmarkers)
  · rw [hr.eq_empty hmarkers, String.append_empty]
    exact .inr ((sameText_iff hcase _ _).1 hs)

theorem Options.SameText.eq_empty {s : String} (h : o.SameText "" s) : s = "" := by
  have hnil : s.toList = [] := List.forall₂_nil_left_iff.1 h
  exact String.toList_inj.1 hnil

/-- Without a lead, a run of values is made of the characters of the values alone. -/
theorem Parameter.Run.not_mem (hlead : p.lead = "")
    (hfree : ∀ w, p.Accepts o.caseSensitive w → c ∉ w.toList) {v : String} (h : p.Run o v) :
    c ∉ v.toList := by
  induction h with
  | one hv => exact hfree _ hv
  | @more v s r hv hs _ ih =>
    rw [hlead] at hs
    rw [hs.eq_empty, String.append_empty, String.toList_append, List.mem_append, not_or]
    exact ⟨hfree v hv, ih⟩

theorem Parameter.Spells.not_mem (hp : p.Scanned o) (hlead : p.lead = "")
    (hfree : ∀ w, p.Accepts o.caseSensitive w → c ∉ w.toList) {v : Option String} {s : String}
    (h : p.Spells o v s) : c ∉ s.toList := by
  cases h with
  | @present s v hs hv =>
    rw [hlead] at hs
    rw [hs.eq_empty, String.empty_append]
    unfold Takes at hv
    split at hv
    · exact hv.not_mem hlead hfree
    · exact hfree v hv
  | absent _ hs =>
    rw [if_neg fun h => hp.lead_ne h hlead] at hs
    subst hs
    exact List.not_mem_nil

/-- Two values or more are rendered with the joiner behind the first one, and something behind that.
-/
theorem Parameter.Renders.exists_joined (hne : ∀ w, p.Accepts true w → w ≠ "") {x y s : String}
    {items : List String} (h : p.Renders encode (some (.list (x :: y :: items))) s) :
    ∃ r, s = p.lead ++ (encode x ++ p.joiner ++ r) ∧ r ≠ "" := by
  cases h with
  | list hrep _ hitems =>
    refine ⟨p.joiner.intercalate ((y :: items).map encode), ?_, ?_⟩
    · simp only [List.map_cons, String.intercalate_cons_cons]
    · have hy := hne _ (hitems y (by simp))
      cases items with
      | nil => rwa [List.map_cons, List.map_nil, String.intercalate_singleton]
      | cons z items =>
        rw [List.map_cons, List.map_cons, String.intercalate_cons_cons]
        simp [hy]

theorem Renders.eq_of_spells (hcase : o.caseSensitive = true) {path b : String}
    {vs : List (Option String)} (hpath : Renders encode values ts path) (hb : Spells o ts vs b)
    (hnone : ts.filterMap Token.parameter? = []) : b = path := by
  induction hpath generalizing vs b with
  | nil =>
    cases hb
    rfl
  | literal _ ih =>
    cases hb with
    | literal hs hr =>
      rw [(Options.sameText_iff hcase _ _).1 hs, ih hr hnone]
  | parameter => simp [Token.parameter?] at hnone

/-- Around the only parameter, what is rendered and what is spelled are the same. -/
theorem Renders.exists_around (hcase : o.caseSensitive = true) {path b : String}
    {vs : List (Option String)} (hpath : Renders encode values ts path) (hb : Spells o ts vs b)
    (honly : ts.filterMap Token.parameter? = [p]) :
    ∃ before after s v s', path = before ++ s ++ after ∧ b = before ++ s' ++ after ∧
      p.Renders encode (values.lookup p.name) s ∧ p.Spells o v s' := by
  induction hpath generalizing vs b with
  | nil => simp at honly
  | @literal text r ts _ ih =>
    cases hb with
    | literal hs hr =>
      obtain ⟨before, after, s, v, s', rfl, rfl, hv, hv'⟩ := ih hr honly
      rw [(Options.sameText_iff hcase _ _).1 hs]
      exact ⟨text ++ before, after, s, v, s', by simp only [String.append_assoc],
        by simp only [String.append_assoc], hv, hv'⟩
  | @parameter q s r ts hq hts ih =>
    obtain ⟨rfl, hnone⟩ := List.cons_eq_cons.1 honly
    cases hb with
    | @parameter _ s' r' v ts vs hq' hr =>
      refine ⟨"", r, s, v, s', by rw [String.empty_append], ?_, hq, hq'⟩
      rw [hts.eq_of_spells hcase hr hnone, String.empty_append]

/-- What is too short to be all of a joined text, by no more than the joiner, holds the beginning of
the joiner. -/
theorem mem_of_append_eq {x d r s after rest : List Char} (hd : d.head? = some c) (hr : r ≠ [])
    (hrest : rest = [] ∨ rest = d) (heq : x ++ d ++ r ++ after = s ++ after ++ rest) : c ∈ s := by
  have hlen := congrArg List.length heq
  have hpos := List.length_pos_of_ne_nil hr
  simp only [List.length_append] at hlen
  have hlt : x.length < s.length := by
    rcases hrest with rfl | rfl
    · rw [List.length_nil] at hlen
      omega
    · omega
  have hget := congrArg (·[x.length]?) heq
  obtain ⟨t, rfl⟩ : ∃ t, d = c :: t := by
    cases d with
    | nil => simp at hd
    | cons a t => exact ⟨t, by rw [Option.some.inj hd]⟩
  simp only [List.append_assoc, List.cons_append, List.getElem?_append_right (Nat.le_refl _),
    Nat.sub_self, List.getElem?_cons_zero, List.getElem?_append_left hlt] at hget
  exact List.mem_of_getElem? hget.symm

/-- A default pattern accepts neither the empty text nor the first character of the joiner. -/
theorem Parameter.exists_free (hd : p.joiner ≠ "") (hpattern : p.pattern = defaultPattern p.joiner)
    {r : Regex} (hr : Regex.compile true ("^(?:" ++ p.pattern ++ ")$") = .ok r)
    (hparts : '\ud7ff' ∉ p.joiner.toList ∨ '\ue000' ∉ p.joiner.toList) :
    ∃ c, p.joiner.toList.head? = some c ∧ ∀ w, p.Accepts true w → w ≠ "" ∧ c ∉ w.toList := by
  have haccepts := accepts_defaultPattern_iff hpattern hd hr (.inl rfl) hparts
  cases hj : p.joiner.toList with
  | nil => exact absurd (String.toList_inj.1 hj) hd
  | cons c l =>
    refine ⟨c, rfl, fun w hw => ?_⟩
    obtain ⟨hne, hfree⟩ := (haccepts w).1 hw
    exact ⟨hne, fun hc => hfree c hc (hj ▸ List.mem_cons_self ..)⟩

/-- At most one value has no joiner behind it, and what it is rendered into is spelled. -/
theorem Parameter.Renders.exists_spells_of_length (hp : p.Scanned o) (hlead : p.lead = "")
    (hcase : o.caseSensitive = true) {items : List String} (hlen : items.length < 2) {s : String}
    (h : p.Renders encode (some (.list items)) s) : ∃ v, p.Spells o v s := by
  cases items with
  | nil =>
    cases h with
    | emptied _ ho => exact ⟨none, .absent ho (by rw [if_neg fun h => hp.lead_ne h hlead])⟩
    | list _ hne _ => exact absurd rfl hne
  | cons x items =>
    refine h.exists_spells hp (fun w hw => hcase ▸ hw) fun items' hitems' => ?_
    obtain rfl := Value.list.inj (Option.some.inj hitems')
    exact ⟨List.cons_ne_nil x items, fun hlong => absurd hlen (Nat.not_lt.2 hlong)⟩

/-- Two values or more have a joiner between them, so what they are rendered into is not spelled,
not even with a delimiter left over behind the template. -/
theorem Parameter.Renders.length_lt (hp : p.Scanned o) (hlead : p.lead = "") {c : Char}
    (hc : p.joiner.toList.head? = some c)
    (hfree : ∀ w, p.Accepts true w → w ≠ "" ∧ c ∉ w.toList) (hcase : o.caseSensitive = true)
    {items : List String} {s s' after rest : String} {v : Option String}
    (h : p.Renders encode (some (.list items)) s) (hs : p.Spells o v s')
    (hrest : rest = "" ∨ rest = p.joiner) (heq : s ++ after = s' ++ after ++ rest) :
    items.length < 2 := by
  match items with
  | [] => exact Nat.zero_lt_two
  | [x] => exact Nat.one_lt_two
  | x :: y :: items =>
    obtain ⟨r, rfl, hr⟩ := h.exists_joined fun w hw => (hfree w hw).1
    have hmem := hs.not_mem hp hlead fun w hw => (hfree w (hcase ▸ hw)).2
    rw [hlead, String.empty_append] at heq
    have hlist := congrArg String.toList heq
    simp only [String.toList_append] at hlist
    refine absurd (mem_of_append_eq hc ?_ ?_ hlist) hmem
    · exact fun he => hr (String.toList_inj.1 he)
    · exact hrest.imp (congrArg String.toList) (congrArg String.toList)

end

namespace Template

variable {o : Options} {text : String} {t : Template} {encode : String → String}
  {values : Values}

/-- A template whose only parameter has no lead and no pattern of its own matches what it renders if
there is no joiner in it. -/
theorem isMatch_iff_of_expandWith_list (h : Template.compile o text = .ok t)
    (hcase : o.caseSensitive = true) (hend : o.matchEnd = true) (hmarkers : o.markers = [])
    (hparts : '\ud7ff' ∉ o.delimiter.toList ∨ '\ue000' ∉ o.delimiter.toList)
    {p : Parameter} (hkeys : t.keys = [p]) (hlead : p.lead = "")
    (hpattern : p.pattern = defaultPattern p.joiner) {items : List String}
    (hitems : values.lookup p.name = some (.list items)) {path : String}
    (he : t.expandWith encode values = .ok path) :
    t.isMatch path = true ↔ items.length < 2 := by
  obtain ⟨hc, rfl, -⟩ := compiled_of_compile h
  have hp : .parameter p ∈ t.tokens := hc.mem_keys_iff.1 (hkeys ▸ List.mem_singleton_self p)
  have hscan := hc.scanned hp
  have hjoiner : p.joiner = t.options.delimiter := by rw [hscan.joiner_eq, if_pos hlead]
  have hd : p.joiner ≠ "" := hjoiner ▸ ((Options.validate_ok_iff _).1 hc.valid).1
  have hlook : ∀ q ∈ t.keys, q.LookFree t.options.caseSensitive := by
    intro q hq
    obtain rfl := List.mem_singleton.1 (hkeys ▸ hq)
    exact q.lookFree_defaultPattern hpattern hd _
  have hpath := hc.expandWith_eq_ok_iff.1 he
  constructor
  · intro hm
    obtain ⟨r, hr⟩ := exists_validator hc.steps hp
    obtain ⟨c, hhead, hfree⟩ := p.exists_free hd hpattern hr (hjoiner ▸ hparts)
    obtain ⟨vs, b, rest, heq, hb, hends⟩ :=
      (isMatch_iff_of_tokens (fun q hq => hc.plain hlook hq) hc.regex path).1 hm
    have honly : t.tokens.filterMap Token.parameter? = [p] := hc.keys_eq ▸ hkeys
    obtain ⟨before, after, s, v, s', rfl, rfl, hs, hs'⟩ := hpath.exists_around hcase hb honly
    rw [hitems] at hs
    have hrest : rest = "" ∨ rest = p.joiner := by
      rw [hjoiner]
      exact hends.eq_empty_or_delimiter hcase hend hmarkers
    have hpiece : s ++ after = s' ++ after ++ rest := by
      simpa only [String.append_assoc, String.append_right_inj] using heq
    exact hs.length_lt hscan hlead hhead hfree hcase hs' hrest hpiece
  · intro hlen
    obtain ⟨vs, hvs⟩ := hpath.exists_spells (o := t.options) fun q hq s hs => by
      obtain rfl := List.mem_singleton.1 (hkeys ▸ hc.mem_keys_iff.2 hq)
      rw [hitems] at hs
      exact hs.exists_spells_of_length hscan hlead hcase hlen
    exact hc.isMatch_of_spells hlook hvs

theorem isMatch_iff_of_expandWith_list_of_two :
    ∃ t, Template.compile { caseSensitive := true } "/files:path*" = .ok t ∧
      t.expandWith id [("path", .list ["a", "b"])] = .ok "/filesa/b" ∧
      (t.isMatch "/filesa/b" = true ↔ ["a", "b"].length < 2) := by
  obtain ⟨t, ht, hkeys, he⟩ := exists_of_compile { caseSensitive := true } "/files:path*"
    (p := fun t => t.keys = [⟨"path", "", "/", .zeroOrMore, false, "[^/]+?"⟩] ∧
      t.expandWith id [("path", .list ["a", "b"])] = .ok "/filesa/b")
    (by decide +kernel)
  have hpattern : "[^/]+?" = defaultPattern "/" := by decide +kernel
  exact ⟨t, ht, he,
    isMatch_iff_of_expandWith_list ht rfl rfl rfl (by decide) hkeys rfl hpattern rfl he⟩

/-- The joiner that a parameter without a lead is rendered with is not one that its pattern accepts:
of `x:ids+`, the values `a` and `b` give a path that the template does not match. -/
theorem isMatch_joined_eq_false :
    ∃ t, Template.compile { caseSensitive := true } "x:ids+" = .ok t ∧
      (∀ p ∈ t.keys, p.pattern = defaultPattern p.joiner ∧ p.isRepeating = true ∧ p.lead = "") ∧
      t.expand [("ids", .list ["a", "b"])] = .ok "xa/b" ∧ t.isMatch "xa/b" = false := by
  exact exists_of_compile { caseSensitive := true } "x:ids+" (by decide +kernel)

end Template

end RouteTemplate
