import RouteTemplate.Proofs.Regex.Enclosed
import RouteTemplate.Template

/-!
What the scanner makes of a template. The body of a parameter ends with the first parenthesis that
is not escaped, so every pattern is enclosable, custom or not; and the lead of a parameter is at
most one character, which is also what joins its values. Of the options, the scanner asks for the
delimiter and the delimiters only.
-/

namespace RouteTemplate

open Regex

namespace Span

theorem enclosable_of_inside? {cs body : List Char} (h : inside? cs = some body) :
    Enclosable body := by
  fun_induction inside? cs generalizing body with
  | case1 => simp at h
  | case2 => simp at h
  | case3 c rest hc ih =>
    obtain ⟨b, hb, rfl⟩ := Option.map_eq_some_iff.1 h
    exact .escape (ih hb)
  | case4 =>
    obtain rfl := Option.some.inj h
    exact .nil
  | case5 => simp at h
  | case6 c rest _ h₁ h₂ ih =>
    obtain ⟨b, hb, rfl⟩ := Option.map_eq_some_iff.1 h
    rw [not_or] at h₂
    exact .char h₂.2 h₂.1 h₁ (ih hb)

theorem enclosable_of_body? {cs body : List Char} (h : body? cs = some body) :
    Enclosable body := by
  unfold body? at h
  split at h
  · split at h
    next hb =>
      obtain rfl := Option.some.inj h
      exact enclosable_of_inside? hb
    next => simp at h
  · simp at h

/-- The body of a span, if it has one, is enclosable. -/
def Enclosed : Span → Prop
  | plain _ => True
  | escaped _ => True
  | named _ body _ => ∀ b, body = some b → Enclosable b
  | unnamed body _ => Enclosable body

theorem enclosed_first (c : Char) (rest : List Char) : (first c rest).Enclosed := by
  unfold first
  split
  · split
    · split <;> exact trivial
    · exact trivial
  · split
    · split
      · exact fun b hb => enclosable_of_body? hb
      · exact trivial
    · split
      next hb => exact enclosable_of_body? hb
      next => exact trivial

theorem enclosed_of_mem_cutFrom {skip : Nat} {cs : List Char} {s : Span}
    (h : s ∈ cutFrom skip cs) : s.Enclosed := by
  induction cs generalizing skip with
  | nil => simp [cutFrom] at h
  | cons c rest ih =>
    cases skip with
    | succ skip => exact ih h
    | zero =>
      rcases List.mem_cons.1 h with rfl | h
      · exact enclosed_first c rest
      · exact ih h

end Span

theorem enclosable_quoteChar (c : Char) : Enclosable (quoteChar c) := by
  unfold quoteChar
  cases hc : isMeta c with
  | true => exact .escape .nil
  | false =>
    refine .char ?_ ?_ ?_ .nil
    all_goals
      rintro rfl
      exact absurd hc (by decide)

theorem enclosable_quote (s : String) : Enclosable (quote s).toList := by
  rw [toList_quote]
  induction s.toList with
  | nil => exact .nil
  | cons c l ih => exact (enclosable_quoteChar c).append ih

theorem enclosable_defaultPattern (delimiter : String) :
    Enclosable (defaultPattern delimiter).toList := by
  have hopen : Enclosable ['[', '^'] :=
    .char (by decide) (by decide) (by decide) (.char (by decide) (by decide) (by decide) .nil)
  have hclose : Enclosable [']', '+', '?'] :=
    .char (by decide) (by decide) (by decide) (.char (by decide) (by decide) (by decide)
      (.char (by decide) (by decide) (by decide) .nil))
  have h := (hopen.append (enclosable_quote delimiter)).append hclose
  have htext : (defaultPattern delimiter).toList =
      ['[', '^'] ++ (quote delimiter).toList ++ [']', '+', '?'] := by
    simp [defaultPattern]
  rwa [htext]

/-- What holds of every parameter of a scanned template. -/
structure Parameter.Scanned (o : Options) (p : Parameter) : Prop where
  enclosable : Enclosable p.pattern.toList
  lead_eq : p.lead = "" ∨ ∃ c, o.isDelimiter c = true ∧ p.lead = String.singleton c
  joiner_eq : p.joiner = if p.lead = "" then o.delimiter else p.lead
  lead_ne : p.leadStays = true → p.lead ≠ ""

namespace Scanner

variable {o : Options}

theorem ofList_toList_some (c : Char) :
    String.ofList (some c).toList = String.singleton c := by
  rw [← String.toList_inj, String.toList_ofList, String.toList_singleton]
  rfl

theorem singleton_ne_empty (c : Char) : String.singleton c ≠ "" := by
  rw [ne_eq, ← String.toList_inj, String.toList_singleton, String.toList_empty]
  exact List.cons_ne_nil c []

theorem scanned_parameterOf {name : String} {lead : Option Char} {body : Option (List Char)}
    {modifier after : Option Char} (hlead : ∀ c, lead = some c → o.isDelimiter c = true)
    (hbody : ∀ b, body = some b → Enclosable b) :
    (parameterOf o name lead body modifier after).Scanned o := by
  refine ⟨?_, ?_, ?_, ?_⟩
  · cases body with
    | none => exact enclosable_defaultPattern _
    | some b =>
      have h := hbody b rfl
      rwa [← String.toList_ofList (l := b)] at h
  · cases lead with
    | none => exact .inl rfl
    | some c => exact .inr ⟨c, hlead c rfl, ofList_toList_some c⟩
  · cases lead with
    | none => rfl
    | some c =>
      show String.singleton c = if String.ofList (some c).toList = "" then _ else _
      rw [ofList_toList_some, if_neg (singleton_ne_empty c)]
      exact (ofList_toList_some c).symm
  · cases lead with
    | none => simp [parameterOf]
    | some c =>
      intro _
      show String.ofList (some c).toList ≠ ""
      rw [ofList_toList_some]
      exact singleton_ne_empty c

theorem isDelimiter_of_lead? {s : Scanner} {c : Char} (h : s.lead? o = some c) :
    o.isDelimiter c = true := by
  unfold lead? at h
  split at h
  · simp at h
  · exact (Option.filter_eq_some_iff.1 h).2

theorem mem_flush {tokens : List Token} {pending : List Char} {p : Parameter} :
    .parameter p ∈ flush tokens pending ↔ .parameter p ∈ tokens := by
  unfold flush
  split <;> simp

theorem mem_addParameter {s : Scanner} {name : String} {body : Option (List Char)}
    {modifier after : Option Char} {p : Parameter} :
    .parameter p ∈ (s.addParameter o name body modifier after).tokens ↔
      .parameter p ∈ s.tokens ∨ p = parameterOf o name (s.lead? o) body modifier after := by
  simp only [addParameter, List.mem_append, mem_flush, List.mem_singleton, Token.parameter.injEq]

theorem scanned_accept {s : Scanner} (hs : ∀ p, .parameter p ∈ s.tokens → p.Scanned o)
    {span : Span} (hspan : span.Enclosed) (after : Option Char) {p : Parameter}
    (hp : .parameter p ∈ (s.accept o after span).tokens) : p.Scanned o := by
  cases span with
  | plain c => exact hs p hp
  | escaped c => exact hs p hp
  | named name body modifier =>
    rcases mem_addParameter.1 hp with hp | rfl
    · exact hs p hp
    · exact scanned_parameterOf (fun c hc => isDelimiter_of_lead? hc) hspan
  | unnamed body modifier =>
    rcases mem_addParameter.1 hp with hp | rfl
    · exact hs p hp
    · refine scanned_parameterOf (fun c hc => isDelimiter_of_lead? hc) fun b hb => ?_
      obtain rfl := Option.some.inj hb
      exact hspan

/-- What no span takes from the parameters holds of all parameters that a scan ends with. -/
theorem forall_scan {P : Parameter → Prop} {after : Option Char} {spans : List Span} {s : Scanner}
    (hs : ∀ p, .parameter p ∈ s.tokens → P p)
    (hstep : ∀ x ∈ spans, ∀ (s : Scanner) (next : Option Char),
      (∀ p, .parameter p ∈ s.tokens → P p) →
      ∀ p, .parameter p ∈ (s.accept o next x).tokens → P p) {p : Parameter}
    (hp : .parameter p ∈ (scan o after s spans).tokens) : P p := by
  induction spans generalizing s with
  | nil => exact hs p hp
  | cons x rest ih =>
    exact ih (hstep x (List.mem_cons_self ..) s _ hs)
      (fun y hy => hstep y (List.mem_cons_of_mem _ hy)) hp

theorem scanned_scan {after : Option Char} {spans : List Span} {s : Scanner}
    (hs : ∀ p, .parameter p ∈ s.tokens → p.Scanned o) (hspans : ∀ x ∈ spans, x.Enclosed)
    {p : Parameter} (hp : .parameter p ∈ (scan o after s spans).tokens) : p.Scanned o :=
  forall_scan hs (fun x hx _ _ hs _ hp => scanned_accept hs (hspans x hx) _ hp) hp

end Scanner

theorem Options.isDelimiter_congr {o o' : Options} (h : o'.delimiters = o.delimiters) :
    o'.isDelimiter = o.isDelimiter := by
  funext c
  rw [isDelimiter, isDelimiter, h]

theorem Source.endsDelimited_congr {o o' : Options} (h : o'.delimiters = o.delimiters) :
    endsDelimited o' = endsDelimited o := by
  unfold endsDelimited
  rw [Options.isDelimiter_congr h]

theorem Token.ofTemplate_congr {o o' : Options} (hdelimiter : o'.delimiter = o.delimiter)
    (hdelimiters : o'.delimiters = o.delimiters) (template : String) :
    ofTemplate o' template = ofTemplate o template := by
  have hlead : Scanner.lead? o' = Scanner.lead? o := by
    unfold Scanner.lead?
    rw [Options.isDelimiter_congr hdelimiters]
  have hparameter : Scanner.parameterOf o' = Scanner.parameterOf o := by
    unfold Scanner.parameterOf
    rw [hdelimiter]
  have haccept : Scanner.accept o' = Scanner.accept o := by
    unfold Scanner.accept Scanner.addParameter
    rw [hlead, hparameter]
  have hscan (after : Option Char) (s : Scanner) (spans : List Span) :
      Scanner.scan o' after s spans = Scanner.scan o after s spans := by
    induction spans generalizing s with
    | nil => rfl
    | cons x spans ih => rw [Scanner.scan, Scanner.scan, haccept, ih]
  rw [ofTemplate, ofTemplate, hscan]

theorem scanned_of_mem_ofTemplate {o : Options} {template : String} {p : Parameter}
    (hp : .parameter p ∈ Token.ofTemplate o template) : p.Scanned o := by
  refine Scanner.scanned_scan (fun q hq => ?_) (fun x hx => ?_) (Scanner.mem_flush.1 hp)
  · exact absurd hq List.not_mem_nil
  · exact Span.enclosed_of_mem_cutFrom hx

end RouteTemplate
