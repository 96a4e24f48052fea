import RouteTemplate.Proofs.Template.Scanning
import RouteTemplate.Proofs.Template.Tokens

/-!
Where the text of a template goes. The spans between two parameters are text: the first of the two
leaves it alone, and the second takes its last character as its lead, if that one is plain and a
delimiter. `Attributed` says so of a list of spans and a list of tokens, and
`Token.ofTemplate_attributed` says it of every template.
-/

namespace RouteTemplate

namespace Span

def IsParameter : Span → Prop
  | plain _ => False
  | escaped _ => False
  | named _ _ _ => True
  | unnamed _ _ => True

/-- The text that a span stands for. An escape is without its backslash. -/
def content : Span → List Char
  | plain c => [c]
  | escaped c => [c]
  | named _ _ _ => []
  | unnamed _ _ => []

end Span

/-- A literal, unless there is no text. -/
def Token.ofText (text : List Char) : List Token :=
  if text = [] then [] else [.literal (.ofList text)]

/-- What a parameter has from its place, the spans of `gap` standing between the parameter before
and this one, and the text `behind` after it. -/
structure Parameter.Placed (o : Options) (gap : List Span) (behind : List Char)
    (p : Parameter) : Prop where
  lead_ne_iff : p.lead ≠ "" ↔ ∃ c, gap.getLast? = some (.plain c) ∧ o.isDelimiter c = true
  lead_eq : ∀ c, gap.getLast? = some (.plain c) → o.isDelimiter c = true →
    p.lead = String.singleton c
  joiner_eq : p.joiner = if p.lead = "" then o.delimiter else p.lead
  leadStays_iff : p.leadStays = true ↔
    p.lead ≠ "" ∧ ∃ c, behind.head? = some c ∧ p.lead ≠ String.singleton c

/-- All text of the spans is in the tokens, in order, and none of it twice: `text` is what a
parameter leaves of the text before it. -/
inductive Attributed (o : Options) : List Span → List Token → Prop
  | last {gap : List Span} : (∀ x ∈ gap, ¬ x.IsParameter) →
      Attributed o gap (Token.ofText (gap.flatMap Span.content))
  | parameter {gap spans : List Span} {x : Span} {p : Parameter} {text : List Char}
      {ts : List Token} : (∀ x ∈ gap, ¬ x.IsParameter) → x.IsParameter →
      p.Placed o gap (spans.flatMap Span.text) →
      text ++ p.lead.toList = gap.flatMap Span.content → Attributed o spans ts →
      Attributed o (gap ++ x :: spans) (Token.ofText text ++ .parameter p :: ts)

namespace Scanner

variable {o : Options} {s : Scanner} {gap : List Span} {c : Char}

theorem flush_eq (tokens : List Token) (pending : List Char) :
    flush tokens pending = tokens ++ Token.ofText pending.reverse := by
  cases pending with
  | nil => exact (List.append_nil _).symm
  | cons c pending => simp [flush, Token.ofText]

theorem nextChar_head? (spans : List Span) (rest : List Char) :
    nextChar spans rest.head? = (spans.flatMap Span.text ++ rest).head? := by
  cases spans with
  | nil => rfl
  | cons x spans =>
    rw [List.flatMap_cons, List.append_assoc, List.head?_append_of_ne_nil]
    · rfl
    · exact List.ne_nil_of_length_pos (Span.length_text_pos x)

theorem nextChar_eq_head? (spans : List Span) :
    nextChar spans none = (spans.flatMap Span.text).head? := by
  have h := nextChar_head? spans []
  rwa [List.append_nil] at h

/-- The scanner holds the text since the parameter before, the spans of `gap`. -/
structure Collects (s : Scanner) (gap : List Span) : Prop where
  isText : ∀ x ∈ gap, ¬ x.IsParameter
  pending_eq : s.pending = (gap.flatMap Span.content).reverse
  escapedLast_iff : s.escapedLast = true ↔ ∃ c, gap.getLast? = some (.escaped c)

theorem collects_nil (hp : s.pending = []) (he : s.escapedLast = false) : s.Collects [] :=
  ⟨by simp, hp, by simp [he]⟩

theorem Collects.isText_concat (h : s.Collects gap) {x : Span} (hx : ¬ x.IsParameter) :
    ∀ y ∈ gap ++ [x], ¬ y.IsParameter :=
  List.forall_mem_append.2 ⟨h.isText, List.forall_mem_singleton.2 hx⟩

theorem Collects.plain (h : s.Collects gap) (c : Char) (after : Option Char) :
    (s.accept o after (.plain c)).Collects (gap ++ [.plain c]) where
  isText := h.isText_concat id
  pending_eq := by simp [accept, h.pending_eq, Span.content]
  escapedLast_iff := by simp [accept]

theorem Collects.escaped (h : s.Collects gap) (c : Char) (after : Option Char) :
    (s.accept o after (.escaped c)).Collects (gap ++ [.escaped c]) where
  isText := h.isText_concat id
  pending_eq := by simp [accept, h.pending_eq, Span.content]
  escapedLast_iff := by simp [accept]

/-- The lead is the last character of the text, not escaped and a delimiter. -/
theorem Collects.lead?_iff (h : s.Collects gap) :
    s.lead? o = some c ↔ gap.getLast? = some (.plain c) ∧ o.isDelimiter c = true := by
  rcases gap.eq_nil_or_concat with rfl | ⟨gap, x, rfl⟩
  · simp [lead?, h.pending_eq]
  · cases x with
    | plain d =>
      have he : s.escapedLast = false := by simpa using h.escapedLast_iff
      simp only [lead?, he, h.pending_eq]
      simp [Span.content, Option.filter_eq_some_iff]
    | escaped d =>
      have he : s.escapedLast = true := by simpa using h.escapedLast_iff
      simp [lead?, he]
    | named name body modifier =>
      exact (h.isText (.named name body modifier) (by simp) trivial).elim
    | unnamed body modifier => exact (h.isText (.unnamed body modifier) (by simp) trivial).elim

/-- The lead and what is left of the text are the text. -/
theorem reverse_append_lead? (s : Scanner) :
    (if (s.lead? o).isSome then s.pending.tail else s.pending).reverse ++ (s.lead? o).toList =
      s.pending.reverse := by
  cases hl : s.lead? o with
  | none => simp
  | some c =>
    rw [lead?] at hl
    split at hl
    · cases hl
    · obtain ⟨pending, hp⟩ := List.head?_eq_some_iff.1 (Option.filter_eq_some_iff.1 hl).1
      simp [hp]

theorem lead_eq_empty_iff {name : String} {lead : Option Char} {body : Option (List Char)}
    {modifier after : Option Char} :
    (parameterOf o name lead body modifier after).lead = "" ↔ lead = none := by
  cases lead with
  | none => exact iff_of_true rfl rfl
  | some c =>
    refine iff_of_false (fun h => ?_) (Option.some_ne_none c)
    exact singleton_ne_empty c ((ofList_toList_some c).symm.trans h)

theorem Collects.placed (h : s.Collects gap) (name : String) (body : Option (List Char))
    (modifier : Option Char) (behind : List Char) :
    (parameterOf o name (s.lead? o) body modifier behind.head?).Placed o gap behind where
  lead_ne_iff := by
    rw [ne_eq, lead_eq_empty_iff, ← ne_eq, Option.ne_none_iff_exists']
    exact exists_congr fun c => h.lead?_iff
  lead_eq c hc hd := by
    show String.ofList (s.lead? o).toList = _
    rw [h.lead?_iff.2 ⟨hc, hd⟩, ofList_toList_some]
  joiner_eq := by
    cases hl : s.lead? o with
    | none => rfl
    | some c =>
      rw [if_neg (lead_eq_empty_iff.not.2 (Option.some_ne_none c))]
      exact (ofList_toList_some c).symm
  leadStays_iff := by
    rw [ne_eq, lead_eq_empty_iff]
    cases hl : s.lead? o with
    | none => simp [parameterOf]
    | some c =>
      have hlead : (parameterOf o name (some c) body modifier behind.head?).lead =
          String.singleton c := ofList_toList_some c
      rw [hlead]
      cases behind with
      | nil => simp [parameterOf]
      | cons d behind => simp [parameterOf]

theorem tokens_addParameter (s : Scanner) (name : String) (body : Option (List Char))
    (modifier after : Option Char) : (s.addParameter o name body modifier after).tokens =
      s.tokens ++ (Token.ofText
          (if (s.lead? o).isSome then s.pending.tail else s.pending).reverse ++
        [.parameter (parameterOf o name (s.lead? o) body modifier after)]) := by
  rw [addParameter, flush_eq, List.append_assoc]

/-- What a parameter makes of the text before it. -/
theorem Collects.addParameter (h : s.Collects gap) (name : String) (body : Option (List Char))
    (modifier : Option Char) (behind : List Char) : ∃ text p,
      (s.addParameter o name body modifier behind.head?).tokens =
        s.tokens ++ (Token.ofText text ++ [.parameter p]) ∧
      text ++ p.lead.toList = gap.flatMap Span.content ∧ p.Placed o gap behind := by
  refine ⟨_, _, s.tokens_addParameter name body modifier behind.head?, ?_,
    h.placed name body modifier behind⟩
  · have htext := s.reverse_append_lead? (o := o)
    rw [h.pending_eq, List.reverse_reverse] at htext
    rw [← htext]
    simp [parameterOf, h.pending_eq]

/-- The spans to come are attributed together with the text that the scanner holds. -/
theorem Collects.exists_attributed_scan (h : s.Collects gap) (spans : List Span) : ∃ ts,
    (scan o none s spans).finish = s.tokens ++ ts ∧ Attributed o (gap ++ spans) ts := by
  induction spans generalizing s gap with
  | nil =>
    refine ⟨_, flush_eq s.tokens s.pending, ?_⟩
    rw [List.append_nil, h.pending_eq, List.reverse_reverse]
    exact .last h.isText
  | cons x spans ih =>
    rw [scan, nextChar_eq_head?]
    cases x with
    | plain c =>
      obtain ⟨ts, hts, hall⟩ := ih (h.plain c (spans.flatMap Span.text).head?)
      exact ⟨ts, hts, by rwa [List.append_assoc] at hall⟩
    | escaped c =>
      obtain ⟨ts, hts, hall⟩ := ih (h.escaped c (spans.flatMap Span.text).head?)
      exact ⟨ts, hts, by rwa [List.append_assoc] at hall⟩
    | named name body modifier =>
      obtain ⟨text, p, htokens, htext, hp⟩ :=
        h.addParameter (.ofList name) body modifier (spans.flatMap Span.text)
      obtain ⟨ts, hts, hall⟩ := ih (collects_nil (s := s.accept o _ (.named name body modifier))
        rfl rfl)
      refine ⟨_, ?_, .parameter h.isText trivial hp htext hall⟩
      rw [hts, accept, htokens]
      simp
    | unnamed body modifier =>
      obtain ⟨text, p, htokens, htext, hp⟩ :=
        h.addParameter (toString s.nextIndex) (some body) modifier (spans.flatMap Span.text)
      obtain ⟨ts, hts, hall⟩ := ih (collects_nil (s := s.accept o _ (.unnamed body modifier))
        rfl rfl)
      refine ⟨_, ?_, .parameter h.isText trivial hp htext hall⟩
      rw [hts, accept, htokens]
      simp

end Scanner

/-- Of the one way to cut a template, all text is attributed to literals and leads. -/
theorem Token.ofTemplate_attributed (o : Options) (template : String) :
    ∃ spans, Span.Cuts template.toList spans ∧
      (∀ other, Span.Cuts template.toList other → other = spans) ∧
      Attributed o spans (Token.ofTemplate o template) := by
  have hstart : Scanner.Collects {} [] := Scanner.collects_nil rfl rfl
  obtain ⟨ts, hts, h⟩ := hstart.exists_attributed_scan (o := o) (Span.cut template.toList)
  refine ⟨Span.cut template.toList, Span.cuts_iff.2 rfl, fun other h => Span.cuts_iff.1 h, ?_⟩
  rw [ofTemplate, hts]
  exact h

end RouteTemplate
