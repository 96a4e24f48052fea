import RouteTemplate.Proofs.Template.Scanning
import RouteTemplate.Proofs.Template.Tokens

/-!
Templates written from tokens. `Token.printAll` escapes the characters of literals and gives every
parameter its pattern in parentheses. `Printable` says when nothing that stands side by side in the
text runs together; then the tokens come back: `Token.ofTemplate_printAll`.
-/

namespace RouteTemplate

namespace Token

/-- A character of a literal, escaped. A line feed cannot be, and means itself. -/
def escape (c : Char) : List Char := if c = '\n' then [c] else ['\\', c]

def print : Token → List Char
  | literal text => text.toList.flatMap escape
  | parameter p => p.lead.toList ++ ':' :: (p.name.toList ++
      '(' :: (p.pattern.toList ++ ')' :: p.quantifier.modifier))

/-- The tokens as a template. -/
def printAll (ts : List Token) : List Char := ts.flatMap print

/-- The first token may stand right before the second one. -/
def MayPrecede (o : Options) : Token → Token → Prop
  | literal _, literal _ => False
  | literal text, parameter q =>
    o.isDelimiter '\n' = true → q.lead = "" → text.toList.getLast? ≠ some '\n'
  | parameter p, parameter q =>
    p.quantifier = .one → ∀ c ∈ ['+', '*', '?'], q.lead ≠ String.singleton c
  | parameter _, literal _ => True

end Token

/-- A parameter that can be written before the character `after`. -/
structure Parameter.Printable (o : Options) (p : Parameter) (after : Option Char) : Prop where
  name_ne : p.name ≠ ""
  name_word : ∀ c ∈ p.name.toList, Unicode.isWord c = true
  lead_eq : p.lead = "" ∨ ∃ c, o.isDelimiter c = true ∧ c ≠ '\\' ∧ p.lead = String.singleton c
  joiner_eq : p.joiner = if p.lead = "" then o.delimiter else p.lead
  leadStays_iff : p.leadStays = true ↔
    p.lead ≠ "" ∧ ∃ c, after = some c ∧ p.lead ≠ String.singleton c
  body : Span.Body p.pattern.toList

/-- Tokens that a template can be written from. -/
inductive Printable (o : Options) : List Token → Prop
  | nil : Printable o []
  | literal {text : String} {ts : List Token} : text ≠ "" →
      (∀ t ∈ ts.head?, (Token.literal text).MayPrecede o t) → Printable o ts →
      Printable o (.literal text :: ts)
  | parameter {p : Parameter} {ts : List Token} : p.Printable o (Token.printAll ts).head? →
      (∀ t ∈ ts.head?, (Token.parameter p).MayPrecede o t) → Printable o ts →
      Printable o (.parameter p :: ts)

/-! ## Plain characters -/

namespace Span

variable {c : Char} {cs rest name : List Char} {s : Span}

theorem not_starts_of_ne (h₁ : c ≠ '\\') (h₂ : c ≠ ':') (h₃ : c ≠ '(') :
    ¬ Starts (c :: cs) s rest := by
  intro h
  cases h with
  | escaped => exact h₁ rfl
  | named => exact h₂ rfl
  | unnamed => exact h₃ rfl

theorem not_starts_colon (hc : Unicode.isWord c = false) : ¬ Starts (':' :: c :: cs) s rest := by
  intro h
  generalize hl : ':' :: c :: cs = l at h
  cases h with
  | escaped => simp at hl
  | unnamed => simp at hl
  | @named name after behind rest body modifier hne hname _ _ _ =>
    obtain ⟨d, name, rfl⟩ := List.exists_cons_of_ne_nil hne
    obtain rfl : c = d := by simpa using (List.cons.inj (List.cons.inj hl).2).1
    rw [hname c (List.mem_cons_self ..)] at hc
    exact absurd hc (by decide)

/-- A body ends before the next parenthesis that opens. -/
theorem inside?_eq_none (h : ∀ c ∈ cs, c ≠ '\\' ∧ c ≠ '(' ∧ c ≠ ')') :
    inside? (cs ++ '(' :: rest) = none := by
  induction cs with
  | nil => simp [inside?]
  | cons c cs ih =>
    obtain ⟨⟨h₁, h₂, h₃⟩, hcs⟩ := List.forall_mem_cons.1 h
    rw [List.cons_append, inside?, if_neg h₃, if_neg (by simp [h₁, h₂]), ih hcs]
    · rfl
    · rintro d l rfl _
      exact h₁ rfl

theorem not_starts_open (h : ∀ c ∈ cs, c ≠ '\\' ∧ c ≠ '(' ∧ c ≠ ')') {behind : List Char} :
    ¬ Starts ('(' :: (cs ++ '(' :: behind)) s rest := by
  intro hs
  generalize hl : '(' :: (cs ++ '(' :: behind) = l at hs
  cases hs with
  | escaped => simp at hl
  | named => simp at hl
  | @unnamed body behind' rest modifier hbody _ =>
    obtain ⟨units, -, hunits, rfl⟩ := hbody
    have hinside := inside?_flatten hunits behind'
    rw [← (List.cons.inj hl).2, inside?_eq_none h] at hinside
    exact absurd hinside (by simp)

end Span

/-! ## The spans of a written template -/

namespace Token

/-- The spans that a token is written as. -/
def spans : Token → List Span
  | literal text => text.toList.map fun c => if c = '\n' then .plain c else .escaped c
  | parameter p => p.lead.toList.map .plain ++
      [.named p.name.toList (some p.pattern.toList) p.quantifier.modifier.head?]

variable {o : Options} {ts : List Token} {rest : List Char} {spans : List Span}

theorem cuts_escape (h : Span.Cuts rest spans) (cs : List Char) :
    Span.Cuts (cs.flatMap escape ++ rest)
      (cs.map (fun c => if c = '\n' then .plain c else .escaped c) ++ spans) := by
  induction cs with
  | nil => exact h
  | cons c cs ih =>
    rw [List.flatMap_cons, List.append_assoc, List.map_cons, List.cons_append, escape]
    split
    next hc =>
      subst hc
      refine .plain (fun s rest => ?_) ih
      exact Span.not_starts_of_ne (by decide) (by decide) (by decide)
    next hc => exact .span (.escaped hc) ih

/-- No modifier begins what is written, unless it is the lead of the first parameter. -/
theorem not_modifier_of_head? (h : Printable o ts) {c : Char} (hc : c ∈ ['+', '*', '?'])
    (hlead : ∀ q, ts.head? = some (.parameter q) → q.lead ≠ String.singleton c) :
    (printAll ts).head? ≠ some c := by
  have hcolon : c ≠ ':' := by
    rintro rfl
    exact absurd hc (by decide)
  cases h with
  | nil => simp [printAll]
  | @literal text ts hne _ _ =>
    obtain ⟨d, l, hd⟩ := List.exists_cons_of_ne_nil fun h => hne (String.toList_inj.1 h)
    rw [printAll, List.flatMap_cons, print, hd, List.flatMap_cons, escape]
    split
    next hd =>
      rintro ⟨⟩
      subst hd
      exact absurd hc (by decide)
    next =>
      rintro ⟨⟩
      exact absurd hc (by decide)
  | @parameter p ts hp _ _ =>
    rw [printAll, List.flatMap_cons, print]
    rcases hp.lead_eq with hl | ⟨d, -, -, hl⟩
    · simpa [hl] using hcolon.symm
    · have hne : d ≠ c := by
        rintro rfl
        exact hlead p rfl hl
      simpa [hl] using hne

theorem optionalModifier_of_quantifier (q : Quantifier)
    (h : q = .one → ∀ c ∈ ['+', '*', '?'], rest.head? ≠ some c) :
    Span.OptionalModifier (q.modifier ++ rest) q.modifier.head? rest := by
  cases q with
  | one => exact .none (h rfl)
  | zeroOrOne => exact .some (by decide)
  | zeroOrMore => exact .some (by decide)
  | oneOrMore => exact .some (by decide)

/-- Nothing but the parameter itself starts a written parameter. -/
theorem not_starts_lead {p : Parameter} {after : Option Char} (hp : p.Printable o after) {c : Char}
    (hc : c ≠ '\\') {s : Span} {left : List Char} :
    ¬ Span.Starts (c :: ':' :: (p.name.toList ++ '(' :: rest)) s left := by
  by_cases hcolon : c = ':'
  · subst hcolon
    exact Span.not_starts_colon (by decide)
  by_cases hopen : c = '('
  · subst hopen
    have hspecial : ∀ d ∈ ':' :: p.name.toList, d ≠ '\\' ∧ d ≠ '(' ∧ d ≠ ')' := by
      refine List.forall_mem_cons.2 ⟨by decide, fun d hd => ?_⟩
      have hword := hp.name_word d hd
      refine ⟨?_, ?_, ?_⟩
      all_goals
        rintro rfl
        exact absurd hword (by decide)
    exact Span.not_starts_open hspecial
  exact Span.not_starts_of_ne hc hcolon hopen

/-- A written template is cut into the spans of its tokens. -/
theorem cuts_printAll (h : Printable o ts) : Span.Cuts (printAll ts) (ts.flatMap Token.spans) := by
  induction h with
  | nil => exact .nil
  | @literal text ts _ _ _ ih => exact cuts_escape ih text.toList
  | @parameter p ts hp hnext hts ih =>
    have hname : p.name.toList ≠ [] := fun h => hp.name_ne (String.toList_inj.1 h)
    have hmodifier : Span.OptionalModifier (p.quantifier.modifier ++ printAll ts)
        p.quantifier.modifier.head? (printAll ts) :=
      optionalModifier_of_quantifier p.quantifier fun hone c hc =>
        not_modifier_of_head? hts hc fun q hq => hnext _ hq hone c hc
    have hstop : ∀ c, ('(' :: (p.pattern.toList ++ ')' :: (p.quantifier.modifier ++
        printAll ts))).head? = some c → Unicode.isWord c = false := by
      rintro c ⟨⟩
      decide
    have hcuts : Span.Cuts (':' :: (p.name.toList ++ '(' :: (p.pattern.toList ++
        ')' :: (p.quantifier.modifier ++ printAll ts)))) _ :=
      .span (.named hname hp.name_word hstop (.some hp.body) hmodifier) ih
    rw [printAll, List.flatMap_cons, List.flatMap_cons, print, Token.spans]
    simp only [List.append_assoc, List.cons_append, List.nil_append]
    rcases hp.lead_eq with hl | ⟨c, -, hc, hl⟩
    · rw [hl]
      exact hcuts
    · rw [hl, String.toList_singleton]
      exact .plain (fun s left => not_starts_lead hp hc) hcuts

end Token

/-! ## The tokens of the spans -/

theorem Quantifier.ofModifier_head? (q : Quantifier) : .ofModifier q.modifier.head? = q := by
  cases q <;> rfl

namespace Scanner

variable {o : Options} {s : Scanner} {after : Option Char} {ts : List Token}

theorem scan_literal (o : Options) (after : Option Char) (s : Scanner) {cs : List Char}
    (hne : cs ≠ []) :
    scan o after s (cs.map fun c => if c = '\n' then .plain c else .escaped c) =
      { s with pending := cs.reverse ++ s.pending, escapedLast := cs.getLast? != some '\n' } := by
  induction cs generalizing s with
  | nil => exact absurd rfl hne
  | cons c cs ih =>
    rw [List.map_cons, scan]
    cases cs with
    | nil => by_cases hc : c = '\n' <;> simp [scan, accept, hc]
    | cons d cs =>
      rw [ih _ (List.cons_ne_nil d cs)]
      by_cases hc : c = '\n' <;> simp [accept, hc]

/-- A written parameter is read with all that it holds. -/
theorem parameterOf_eq {p : Parameter} (hp : p.Printable o after) (lead : Option Char)
    (hlead : p.lead = .ofList lead.toList) :
    parameterOf o p.name lead (some p.pattern.toList) p.quantifier.modifier.head? after = p := by
  have hempty : p.lead = "" ↔ lead = none := by
    cases lead with
    | none => simp [hlead]
    | some c => simp [hlead]
  have hjoiner := hp.joiner_eq
  have hstays : (lead.isSome && after.any fun c => lead != some c) = p.leadStays := by
    rw [Bool.eq_iff_iff, hp.leadStays_iff]
    cases lead with
    | none => simp [hempty]
    | some c => cases after <;> simp [hlead]
  simp only [parameterOf, hstays, Quantifier.ofModifier_head?, String.ofList_toList, ← hlead]
  cases p with
  | mk name _ joiner quantifier leadStays pattern =>
    simp only [Parameter.mk.injEq, true_and, and_true]
    cases lead with
    | none => exact (hjoiner.trans (if_pos (hempty.2 rfl))).symm
    | some c =>
      rw [if_neg fun h => absurd (hempty.1 h) (by simp)] at hjoiner
      exact (ofList_toList_some c).symm.trans (hlead.symm.trans hjoiner.symm)

/-- A written parameter takes its lead from what is pending, and the rest of that becomes a literal.
-/
theorem scan_parameter {p : Parameter} (hp : p.Printable o after)
    (hlead : p.lead = "" → s.lead? o = none) :
    scan o after s (Token.parameter p).spans =
      { s with tokens := flush s.tokens s.pending ++ [.parameter p]
               pending := []
               escapedLast := false } := by
  rw [Token.spans]
  rcases hp.lead_eq with hl | ⟨c, hc, -, hl⟩
  · have hnone := hlead hl
    have hparameter := parameterOf_eq hp none hl
    simp [hl, scan, accept, addParameter, nextChar, hnone, hparameter]
  · have hparameter := parameterOf_eq hp (some c) (hl.trans (ofList_toList_some c).symm)
    have hsome : lead? o { s with pending := c :: s.pending, escapedLast := false } = some c := by
      simp [lead?, hc]
    simp [hl, scan, accept, addParameter, nextChar, hsome, hparameter]

/-- The tokens that a template was written from are scanned again. -/
theorem finish_scan_spans (h : Printable o ts)
    (hpending : ∀ text, ts.head? = some (.literal text) → s.pending = [])
    (hlead : ∀ p, ts.head? = some (.parameter p) → p.lead = "" → s.lead? o = none) :
    (scan o none s (ts.flatMap Token.spans)).finish = flush s.tokens s.pending ++ ts := by
  induction h generalizing s with
  | nil => simp [scan, finish]
  | @literal text ts hne hnext hts ih =>
    have hchars : text.toList ≠ [] := fun h => hne (String.toList_inj.1 h)
    have hempty : s.pending = [] := hpending text rfl
    rw [List.flatMap_cons, scan_append, Token.spans, scan_literal _ _ _ hchars, ih]
    · simp [hempty, flush, hne]
    · intro other hother
      exact absurd (hnext _ hother) id
    · intro p hp hl
      rw [lead?, hempty]
      cases hlast : text.toList.getLast? != some '\n' with
      | true => rfl
      | false =>
        have hlast : text.toList.getLast? = some '\n' := by simpa using hlast
        have hfeed : o.isDelimiter '\n' = false :=
          Bool.eq_false_iff.2 fun h => hnext _ hp h hl hlast
        simp [hlast, hfeed]
  | @parameter p ts hp hnext hts ih =>
    have hafter : nextChar (ts.flatMap Token.spans) none = (Token.printAll ts).head? := by
      rw [Span.cuts_iff.1 (Token.cuts_printAll hts), nextChar_cut]
    rw [List.flatMap_cons, scan_append, hafter, scan_parameter hp (hlead p rfl), ih]
    · simp [flush]
    · exact fun _ _ => rfl
    · exact fun _ _ _ => rfl

end Scanner

/-- The tokens of a template that was written from tokens are these tokens. -/
theorem Token.ofTemplate_printAll {o : Options} {ts : List Token} (h : Printable o ts) :
    Token.ofTemplate o (.ofList (Token.printAll ts)) = ts := by
  rw [ofTemplate, String.toList_ofList, ← Span.cuts_iff.1 (cuts_printAll h),
    Scanner.finish_scan_spans h (fun _ _ => rfl) fun _ _ _ => rfl]
  rfl

/-- Leads may be characters that the grammar has a meaning for. -/
theorem Token.ofTemplate_printAll_of_leads :
    Token.ofTemplate { delimiters := "(:" } "\\a(:id([0-9]+)*::x(\\)|b)" =
      [.literal "a", .parameter ⟨"id", "(", "(", .zeroOrMore, true, "[0-9]+"⟩,
        .parameter ⟨"x", ":", ":", .one, false, "\\)|b"⟩] := by
  have hid : Span.Body "[0-9]+".toList :=
    (Span.body?_iff.1 (by decide : Span.body? "([0-9]+)".toList = _)).1
  have hx : Span.Body "\\)|b".toList :=
    (Span.body?_iff.1 (by decide : Span.body? "(\\)|b)".toList = _)).1
  have hlast : Printable { delimiters := "(:" }
      [.parameter ⟨"x", ":", ":", .one, false, "\\)|b"⟩] :=
    .parameter ⟨by decide, List.all_eq_true.1 (by decide),
      .inr ⟨':', by decide, by decide, by decide⟩, by decide, by simp [Token.printAll], hx⟩
      (by simp) .nil
  have hafter : (Token.printAll [.parameter ⟨"x", ":", ":", .one, false, "\\)|b"⟩]).head? =
      some ':' := by decide
  have hparameters : Printable { delimiters := "(:" }
      [.parameter ⟨"id", "(", "(", .zeroOrMore, true, "[0-9]+"⟩,
        .parameter ⟨"x", ":", ":", .one, false, "\\)|b"⟩] := by
    refine .parameter ⟨by decide, List.all_eq_true.1 (by decide),
      .inr ⟨'(', by decide, by decide, by decide⟩, by decide, ?_, hid⟩ ?_ hlast
    · rw [hafter]
      exact ⟨fun _ => ⟨by decide, ':', rfl, by decide⟩, fun _ => rfl⟩
    · rintro t ⟨⟩ hone
      exact absurd hone (by decide)
  have htext : String.ofList (Token.printAll [.literal "a",
      .parameter ⟨"id", "(", "(", .zeroOrMore, true, "[0-9]+"⟩,
      .parameter ⟨"x", ":", ":", .one, false, "\\)|b"⟩]) = "\\a(:id([0-9]+)*::x(\\)|b)" := by decide
  rw [← htext]
  refine Token.ofTemplate_printAll (.literal (by decide) ?_ hparameters)
  rintro t ⟨⟩ hfeed
  exact absurd hfeed (by decide)

end RouteTemplate
