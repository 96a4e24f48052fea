import Mathlib.Data.List.Chain
import Mathlib.Data.String.Basic
import RouteTemplate.Proofs.Template.Attribution

/-!
The lexer between two matches. The matches of the pattern of the grammar are handed to it one after
the other, and a cursor in bytes says how far it has come. `Lexer.Invariant` is what holds of it
then: what the scanner keeps with every span (`Scanner.Sound.accept`), and that the text before the
cursor is cut into these spans by itself as it is in the whole template (`Span.Cuts.of_append`).
`Lexer.invariant_of_matches` says that it holds after any number of matches.
-/

namespace RouteTemplate

open Regex

/-! ## The spans of a beginning of a text -/

namespace Span

variable {c : Char} {b cs rest more : List Char} {x : Span} {xs ys : List Span}
  {body : Option (List Char)} {modifier : Option Char}

theorem optionalBody_some_iff :
    OptionalBody cs (some b) rest ↔ Body b ∧ cs = '(' :: (b ++ ')' :: rest) := by
  constructor
  · rintro ⟨hb⟩
    exact ⟨hb, rfl⟩
  · rintro ⟨hb, rfl⟩
    exact .some hb

theorem optionalBody_none_iff : OptionalBody cs none rest ↔
    (∀ b behind, Body b → cs ≠ '(' :: (b ++ ')' :: behind)) ∧ rest = cs := by
  constructor
  · rintro ⟨⟩
    next h => exact ⟨h, rfl⟩
  · rintro ⟨h, rfl⟩
    exact .none h

theorem optionalModifier_some_iff :
    OptionalModifier cs (some c) rest ↔ c ∈ ['+', '*', '?'] ∧ cs = c :: rest := by
  constructor
  · rintro ⟨hc⟩
    exact ⟨hc, rfl⟩
  · rintro ⟨hc, rfl⟩
    exact .some hc

theorem optionalModifier_none_iff : OptionalModifier cs none rest ↔
    (∀ c ∈ ['+', '*', '?'], cs.head? ≠ some c) ∧ rest = cs := by
  constructor
  · rintro ⟨⟩
    next h => exact ⟨h, rfl⟩
  · rintro ⟨h, rfl⟩
    exact .none h

theorem OptionalBody.eq_append (h : OptionalBody cs body rest) : cs = bodyText body ++ rest := by
  cases h with
  | some hb => simp [bodyText]
  | none => rfl

theorem OptionalModifier.eq_append (h : OptionalModifier cs modifier rest) :
    cs = modifier.toList ++ rest := by
  cases h <;> rfl

theorem Starts.eq_append (h : Starts cs x rest) : cs = x.text ++ rest := by
  cases h with
  | escaped => rfl
  | named _ _ _ hbody hmodifier =>
    rw [hbody.eq_append, hmodifier.eq_append]
    simp [text]
  | unnamed _ hmodifier =>
    rw [hmodifier.eq_append]
    simp [text, bodyText]

/-- A body does not come about by taking away text behind it. -/
theorem OptionalBody.of_append (h : OptionalBody (cs ++ more) body (rest ++ more)) :
    OptionalBody cs body rest := by
  cases body with
  | some b =>
    obtain ⟨hb, heq⟩ := optionalBody_some_iff.1 h
    have hcs : cs ++ more = '(' :: (b ++ ')' :: rest) ++ more := by
      rw [heq]
      simp
    exact optionalBody_some_iff.2 ⟨hb, List.append_cancel_right hcs⟩
  | none =>
    obtain ⟨hnone, heq⟩ := optionalBody_none_iff.1 h
    refine optionalBody_none_iff.2 ⟨fun b behind hb hcs => ?_, List.append_cancel_right heq⟩
    exact hnone b (behind ++ more) hb (by simp [hcs])

theorem OptionalModifier.of_append (h : OptionalModifier (cs ++ more) modifier (rest ++ more)) :
    OptionalModifier cs modifier rest := by
  cases modifier with
  | some c =>
    obtain ⟨hc, heq⟩ := optionalModifier_some_iff.1 h
    have hcs : cs ++ more = c :: rest ++ more := heq
    exact optionalModifier_some_iff.2 ⟨hc, List.append_cancel_right hcs⟩
  | none =>
    obtain ⟨hnone, heq⟩ := optionalModifier_none_iff.1 h
    refine optionalModifier_none_iff.2 ⟨fun c hc hhead => ?_, List.append_cancel_right heq⟩
    exact hnone c hc (by rw [List.head?_append, hhead, Option.some_or])

/-- What starts a text starts any beginning of it that it fits into. -/
theorem Starts.of_append (h : Starts (cs ++ more) x (rest ++ more)) : Starts cs x rest := by
  have hcs : cs = x.text ++ rest := by
    have heq := h.eq_append
    rw [← List.append_assoc] at heq
    exact List.append_cancel_right heq
  generalize cs ++ more = l at h
  generalize hr : rest ++ more = r at h
  cases h with
  | escaped hc =>
    rw [hcs]
    exact .escaped hc
  | @named name after behind _ body modifier hne hname hafter hbody hmodifier =>
    subst hr
    have hbehind := hmodifier.eq_append
    rw [← List.append_assoc] at hbehind
    subst hbehind
    have hafter' := hbody.eq_append
    rw [← List.append_assoc] at hafter'
    subst hafter'
    have hcs' : cs = ':' :: (name ++ (bodyText body ++ (modifier.toList ++ rest))) := by
      rw [hcs]
      simp [text]
    rw [hcs']
    refine .named hne hname (fun c hc => hafter c ?_) hbody.of_append hmodifier.of_append
    rw [List.head?_append, hc, Option.some_or]
  | @unnamed body behind _ modifier hbody hmodifier =>
    subst hr
    have hbehind := hmodifier.eq_append
    rw [← List.append_assoc] at hbehind
    subst hbehind
    have hcs' : cs = '(' :: (body ++ ')' :: (modifier.toList ++ rest)) := by
      rw [hcs]
      simp [text, bodyText]
    rw [hcs']
    exact .unnamed hbody hmodifier.of_append

/-- Where something starts, something starts with more text behind it too. -/
theorem exists_starts_append (h : Starts (c :: cs) x rest) (more : List Char) :
    ∃ y behind, Starts (c :: (cs ++ more)) y behind := by
  obtain ⟨hfirst, hplain, -⟩ := h.first_eq
  subst hfirst
  refine ⟨_, _, starts_first fun d => ?_⟩
  rcases Grammar.first_cases hplain with ⟨e, tail, rfl, rfl, he⟩ | ⟨rfl, hname⟩ | ⟨b, rfl, hb⟩
  · rw [List.cons_append, Grammar.first_escape _ he]
    simp
  · rw [Grammar.first_named]
    · simp [namedOf]
    · cases cs with
      | nil => simp at hname
      | cons e cs =>
        rw [List.takeWhile_cons] at hname
        rw [List.cons_append, List.takeWhile_cons]
        split at hname
        next he => simp [he]
        next => simp at hname
  · obtain ⟨hbody, behind, heq⟩ := body?_iff.1 hb
    rw [Grammar.first_unnamed (body?_iff.2 ⟨hbody, behind ++ more, by
      rw [← List.cons_append, heq]
      simp⟩)]
    simp

/-- A beginning of a text that ends with a span is cut as it is in the whole text. -/
theorem Cuts.of_append (h : Cuts (xs.flatMap text ++ more) (xs ++ ys)) :
    Cuts (xs.flatMap text) xs := by
  induction xs with
  | nil => exact .nil
  | cons x xs ih =>
    rw [List.flatMap_cons] at h ⊢
    generalize hl : x.text ++ xs.flatMap text ++ more = l at h
    rw [List.cons_append] at h
    cases h with
    | @span _ rest _ _ hs hrest =>
      obtain rfl : xs.flatMap text ++ more = rest := by
        have heq := hs.eq_append
        rw [← hl, List.append_assoc] at heq
        exact List.append_cancel_left heq
      rw [← hl] at hs
      exact .span hs.of_append (ih hrest)
    | @plain c cs _ hnone hrest =>
      obtain rfl : xs.flatMap text ++ more = cs := (List.cons.inj hl).2
      refine .plain (fun y behind hy => ?_) (ih hrest)
      obtain ⟨z, behind', hz⟩ := exists_starts_append hy more
      exact hnone z behind' hz

end Span

/-! ## All matches in a template -/

namespace Captures

/-- The match in a longer text that begins with `front`. -/
def behind (front : List Char) (m : Captures) : Captures :=
  ⟨front ++ m.text, m.marks.map fun mark => (mark.1, front.length + mark.2)⟩

end Captures

namespace Grammar

/-- All matches of the pattern of the grammar in a text that stands behind `front`, each of them
looked for behind the one before. No match is empty, so there is less text after each. -/
def findAllFrom (front text : List Char) : List Captures :=
  match regex.find? (.ofList text) with
  | none => []
  | some m =>
    let rest := text.drop m.last
    m.behind front ::
      if _ : rest.length < text.length then findAllFrom (front ++ text.take m.last) rest else []
termination_by text.length
decreasing_by assumption

def findAll (template : String) : List Captures := findAllFrom [] template.toList

/-- The match of a span between two texts. -/
def found (front : List Char) (x : Span) (rest : List Char) : Captures :=
  ⟨front ++ (x.text ++ rest),
    (1, front.length + x.text.length) :: (marks front.length x ++ [(0, front.length)])⟩

variable {front gap text rest : List Char} {x : Span}

theorem map_marks (n i : Nat) (x : Span) :
    (marks i x).map (fun mark => (mark.1, n + mark.2)) = marks (n + i) x := by
  rcases x with c | c | ⟨name, body, modifier⟩ | ⟨body, modifier⟩
  · rfl
  · rfl
  · cases body <;> cases modifier <;> simp [marks, Nat.add_assoc]
  · cases modifier <;> simp [marks, Nat.add_assoc]

theorem behind_found (front gap : List Char) (x : Span) (rest : List Char) :
    (found gap x rest).behind front = found (front ++ gap) x rest := by
  simp [found, Captures.behind, map_marks, Nat.add_assoc]

/-- Only plain characters are left, or the next match is of the first span that is none. -/
theorem findAllFrom_cases (front text : List Char) :
    (Span.cut text = text.map .plain ∧ findAllFrom front text = []) ∨
      ∃ gap x rest, text = gap ++ (x.text ++ rest) ∧ Span.Starts (x.text ++ rest) x rest ∧
        Span.cut text = gap.map .plain ++ x :: Span.cut rest ∧
        findAllFrom front text =
          found (front ++ gap) x rest :: findAllFrom (front ++ gap ++ x.text) rest := by
  rcases Scanner.plain_or_exists_first text with hplain | ⟨i, c, tail, hbefore, hdrop, hs⟩
  · refine .inl ⟨Scanner.cut_of_plain hplain, ?_⟩
    rw [findAllFrom, Scanner.find?_eq_none hplain]
  · have hfind := Scanner.find?_eq_some hbefore hdrop hs
    have hshort := Scanner.length_drop_lt hdrop
    have hcut := Scanner.cut_of_first hbefore hdrop
    have hstarts := Span.starts_first hs
    have hi : (text.take i).length = i :=
      List.length_take_of_le (Nat.le_of_lt (Scanner.lt_length_of_drop hdrop))
    rw [← hdrop, List.drop_drop] at hstarts
    generalize Span.first c tail = x at hfind hshort hcut hstarts
    have htext : text.take i ++ (x.text ++ text.drop (i + x.text.length)) = text := by
      rw [← hstarts.eq_append, List.take_append_drop]
    have hm : (⟨text, (1, i + x.text.length) :: (marks i x ++ [(0, i)])⟩ : Captures) =
        found (text.take i) x (text.drop (i + x.text.length)) := by
      rw [found, htext, hi]
    have htake : text.take (i + x.text.length) = text.take i ++ x.text := by
      rw [List.take_add, hstarts.eq_append, List.take_left]
    refine .inr ⟨text.take i, x, _, htext.symm, ?_, hcut, ?_⟩
    · rw [← hstarts.eq_append]
      exact hstarts
    · rw [findAllFrom, hfind, hm]
      dsimp only
      rw [behind_found, ← hm, Scanner.last_marks, dif_pos hshort, htake, List.append_assoc]

end Grammar

/-! ## What holds of a scanner -/

/-- The text of a token. What a parameter stands for behind its lead is left open. -/
def Token.outline : Token → List (Option Char)
  | literal text => text.toList.map some
  | parameter p => p.lead.toList.map some ++ [none]

def Token.IsLiteral : Token → Prop
  | literal _ => True
  | parameter _ => False

namespace Span

/-- The character of a span that is text, without its backslash if it is escaped. -/
def symbol : Span → Option Char
  | plain c => some c
  | escaped c => some c
  | named _ _ _ => none
  | unnamed _ _ => none

def isUnnamed : Span → Bool
  | unnamed _ _ => true
  | _ => false

end Span

namespace Scanner

/-- What holds of a scanner that has taken some spans. -/
structure Sound (s : Scanner) (spans : List Span) : Prop where
  literal_ne : .literal "" ∉ s.tokens
  apart : s.tokens.IsChain fun a b => ¬ (a.IsLiteral ∧ b.IsLiteral)
  last_not_literal : ∀ a, s.tokens.getLast? = some a → ¬ a.IsLiteral
  escapedLast_iff : s.escapedLast = true ↔
    ∃ c, s.pending.head? = some c ∧ spans.getLast? = some (.escaped c)
  nextIndex_eq : s.nextIndex = spans.countP Span.isUnnamed
  /-- No text is lost, and none is there twice. -/
  outline_eq : s.tokens.flatMap Token.outline ++ s.pending.reverse.map some =
    spans.map Span.symbol

variable {o : Options} {s : Scanner} {spans : List Span}

theorem Sound.start : Sound {} [] where
  literal_ne := List.not_mem_nil
  apart := .nil
  last_not_literal := by simp
  escapedLast_iff := by simp
  nextIndex_eq := rfl
  outline_eq := rfl

/-- A character keeps what holds, whether it is escaped or not. -/
theorem Sound.text (h : s.Sound spans) {c : Char} {escaped : Bool} {x : Span}
    (hx : x.symbol = some c) (hnamed : x.isUnnamed = false)
    (hescaped : escaped = true ↔ x = .escaped c) :
    Sound { s with pending := c :: s.pending, escapedLast := escaped } (spans ++ [x]) where
  literal_ne := h.literal_ne
  apart := h.apart
  last_not_literal := h.last_not_literal
  escapedLast_iff := by simpa using hescaped
  nextIndex_eq := by simpa [hnamed] using h.nextIndex_eq
  outline_eq := by
    rw [List.map_append, ← h.outline_eq]
    simp [hx]

theorem literal_not_mem_ofText (text : List Char) : .literal "" ∉ Token.ofText text := by
  unfold Token.ofText
  split
  · exact List.not_mem_nil
  next h =>
    rw [List.mem_singleton, Token.literal.injEq, ← String.toList_inj,
      String.toList_ofList (l := text)]
    exact Ne.symm h

theorem isChain_ofText (R : Token → Token → Prop) (text : List Char) :
    (Token.ofText text).IsChain R := by
  unfold Token.ofText
  split
  · exact .nil
  · exact .singleton _

theorem outline_ofText (text : List Char) :
    (Token.ofText text).flatMap Token.outline = text.map some := by
  unfold Token.ofText
  split
  next h => simp [h]
  next => simp [Token.outline]

/-- A parameter keeps what holds. The text that it leaves alone becomes a literal. -/
theorem Sound.parameter (h : s.Sound spans) {t : Scanner} {text : List Char} {p : Parameter}
    {x : Span} (htokens : t.tokens = s.tokens ++ (Token.ofText text ++ [.parameter p]))
    (htext : text ++ p.lead.toList = s.pending.reverse) (hpending : t.pending = [])
    (hescaped : t.escapedLast = false) (hx : x.symbol = none)
    (hn : t.nextIndex = s.nextIndex + [x].countP Span.isUnnamed) : t.Sound (spans ++ [x]) where
  literal_ne := by
    rw [htokens, List.mem_append, List.mem_append, not_or, not_or]
    exact ⟨h.literal_ne, literal_not_mem_ofText text, by simp⟩
  apart := by
    rw [htokens, List.isChain_append, List.isChain_append]
    refine ⟨h.apart, ⟨isChain_ofText _ text, .singleton _, fun a _ b hb hab => ?_⟩,
      fun a ha b _ hab => h.last_not_literal a ha hab.1⟩
    obtain rfl : .parameter p = b := by simpa using hb
    exact hab.2
  last_not_literal := by
    intro a ha
    rw [htokens, ← List.append_assoc, List.getLast?_concat] at ha
    obtain rfl := Option.some.inj ha
    exact id
  escapedLast_iff := by simp [hescaped, hpending]
  nextIndex_eq := by rw [hn, List.countP_append, h.nextIndex_eq]
  outline_eq := by
    rw [htokens, List.map_append, ← h.outline_eq, ← htext]
    simp [hpending, Token.outline, outline_ofText, hx]

theorem Sound.accept (h : s.Sound spans) (after : Option Char) (x : Span) :
    (s.accept o after x).Sound (spans ++ [x]) := by
  have htext := s.reverse_append_lead? (o := o)
  cases x with
  | plain c => exact h.text rfl rfl (by simp)
  | escaped c => exact h.text rfl rfl (by simp)
  | named name body modifier =>
    exact h.parameter (s.tokens_addParameter _ body modifier after)
      (by simpa [parameterOf] using htext) rfl rfl rfl rfl
  | unnamed body modifier =>
    exact h.parameter (s.tokens_addParameter _ (some body) modifier after)
      (by simpa [parameterOf] using htext) rfl rfl rfl rfl

theorem Sound.scan (h : s.Sound spans) (after : Option Char) (xs : List Span) :
    (scan o after s xs).Sound (spans ++ xs) := by
  induction xs generalizing s spans with
  | nil => rwa [List.append_nil]
  | cons x xs ih =>
    have hxs := ih (h.accept (o := o) (nextChar xs after) x)
    rwa [List.append_assoc] at hxs

end Scanner

/-! ## What holds of the lexer -/

/-- The scanner between two matches. The cursor, in bytes, is where the text begins that it has not
taken yet. -/
structure Lexer extends Scanner where
  cursor : String.Pos.Raw := 0

namespace Lexer

/-- Where a character of a template begins, in bytes. -/
def offset (template : String) (i : Nat) : String.Pos.Raw :=
  (String.ofList (template.toList.take i)).rawEndPos

/-- Takes a match, and the plain text between the cursor and it. -/
def accept (o : Options) (template : String) (l : Lexer) (m : Captures) : Lexer :=
  let plain := l.cursor.extract template (offset template m.first)
  let cursor := offset template m.last
  { (l.pushText plain.toList).acceptMatch o (cursor.get? template) m with cursor := cursor }

/-- Takes matches in turn. -/
def acceptAll (o : Options) (template : String) (ms : List Captures) : Lexer :=
  ms.foldl (accept o template) {}

/-- Takes the text behind the last match. -/
def finish (template : String) (l : Lexer) : List Token :=
  (l.pushText (l.cursor.extract template template.rawEndPos).toList).finish

/-- What holds of a lexer that has taken the matches `ms` of a template, where `spans` are the spans
of the text before the cursor. -/
structure Invariant (l : Lexer) (template : String) (ms : List Captures)
    (spans : List Span) : Prop extends Scanner.Sound l.toScanner spans where
  isValid : l.cursor.IsValid template
  cursor_eq : l.cursor = (ms.getLast?.map fun m => offset template m.last).getD 0
  cuts : Span.Cuts (String.Pos.Raw.extract template 0 l.cursor).toList spans
  exists_cuts : ∃ more, Span.Cuts template.toList (spans ++ more)
  parameters : List.Forall₂ (fun p x => p.WrittenAs x.1 x.2)
    (l.tokens.filterMap Token.parameter?) (Span.numbered 0 spans)

variable {o : Options} {template : String} {l : Lexer} {spans : List Span} {x : Span}
  {front gap rest : List Char}

theorem extract_between (front gap rest : List Char) :
    (String.ofList front).rawEndPos.extract (.ofList (front ++ gap ++ rest))
      (String.ofList (front ++ gap)).rawEndPos = .ofList gap := by
  rw [String.rawEndPos_ofList, String.rawEndPos_ofList, String.utf8Len_append]
  exact String.extract_of_valid front gap rest

theorem get?_behind (front rest : List Char) :
    (String.ofList front).rawEndPos.get? (.ofList (front ++ rest)) = rest.head? := by
  rw [String.rawEndPos_ofList]
  exact String.get?_of_valid front rest

theorem offset_length (h : template.toList = front ++ rest) :
    offset template front.length = (String.ofList front).rawEndPos := by
  rw [offset, h, List.take_left]

theorem acceptMatch_found {s : Scanner} {after : Option Char}
    (hx : Span.Starts (x.text ++ rest) x rest) :
    s.acceptMatch o after (Grammar.found front x rest) = s.accept o after x := by
  obtain ⟨c, tail, heq⟩ := List.exists_cons_of_ne_nil (Span.starts_ne_nil hx)
  rw [heq] at hx
  obtain ⟨rfl, hplain, -⟩ := hx.first_eq
  have hdrop : (front ++ ((Span.first c tail).text ++ rest)).drop front.length = c :: tail := by
    rw [List.drop_left, heq]
  exact Scanner.acceptMatch_marks hdrop hplain

/-- The lexer takes the spans up to the end of the match. -/
theorem accept_found (htemplate : template.toList = front ++ (gap ++ (x.text ++ rest)))
    (hcursor : l.cursor = (String.ofList front).rawEndPos)
    (hx : Span.Starts (x.text ++ rest) x rest) :
    l.accept o template (Grammar.found (front ++ gap) x rest) =
      { Scanner.scan o rest.head? l.toScanner (gap.map .plain ++ [x]) with
        cursor := (String.ofList (front ++ gap ++ x.text)).rawEndPos } := by
  have hplain : l.cursor.extract template (String.ofList (front ++ gap)).rawEndPos =
      .ofList gap := by
    have h := extract_between front gap (x.text ++ rest)
    rwa [List.append_assoc, ← htemplate, String.ofList_toList, ← hcursor] at h
  have hafter : (String.ofList (front ++ gap ++ x.text)).rawEndPos.get? template =
      rest.head? := by
    have h := get?_behind (front ++ gap ++ x.text) rest
    rwa [List.append_assoc, List.append_assoc, ← htemplate, String.ofList_toList] at h
  have hfirst : offset template (Grammar.found (front ++ gap) x rest).first =
      (String.ofList (front ++ gap)).rawEndPos := by
    rw [Grammar.found, Scanner.first_marks]
    exact offset_length (by rw [htemplate, List.append_assoc])
  have hlast : offset template (Grammar.found (front ++ gap) x rest).last =
      (String.ofList (front ++ gap ++ x.text)).rawEndPos := by
    rw [Grammar.found, Scanner.last_marks, ← List.length_append]
    exact offset_length (by rw [htemplate, List.append_assoc, List.append_assoc])
  rw [accept]
  dsimp only
  rw [hfirst, hlast, hplain, hafter, acceptMatch_found hx, String.toList_ofList,
    Scanner.scan_append, Scanner.scan_plain]
  rfl

/-- The lexer has taken the spans `spans` of a template, and `rest` is the text behind them. -/
structure Reached (o : Options) (template : String) (spans : List Span) (rest : List Char)
    (l : Lexer) : Prop where
  text_eq : template.toList = spans.flatMap Span.text ++ rest
  cut_eq : Span.cut template.toList = spans ++ Span.cut rest
  cursor_eq : l.cursor = (String.ofList (spans.flatMap Span.text)).rawEndPos
  scan_eq : l.toScanner = Scanner.scan o rest.head? {} spans

theorem reached_start (o : Options) (template : String) :
    Reached o template [] template.toList {} :=
  ⟨rfl, rfl, rfl, rfl⟩

theorem flatMap_text_plain (gap : List Char) : (gap.map Span.plain).flatMap Span.text = gap := by
  rw [List.flatMap_map]
  exact List.flatMap_singleton' gap

theorem flatMap_text_taken (spans : List Span) (gap : List Char) (x : Span) :
    (spans ++ (gap.map Span.plain ++ [x])).flatMap Span.text =
      spans.flatMap Span.text ++ gap ++ x.text := by
  rw [List.flatMap_append, List.flatMap_append, flatMap_text_plain, List.flatMap_singleton,
    List.append_assoc]

theorem Reached.accept (h : Reached o template spans (gap ++ (x.text ++ rest)) l)
    (hx : Span.Starts (x.text ++ rest) x rest)
    (hcut : Span.cut (gap ++ (x.text ++ rest)) = gap.map .plain ++ x :: Span.cut rest) :
    Reached o template (spans ++ (gap.map .plain ++ [x])) rest
      (l.accept o template (Grammar.found (spans.flatMap Span.text ++ gap) x rest)) := by
  have htexts := flatMap_text_taken spans gap x
  rw [accept_found h.text_eq h.cursor_eq hx]
  refine ⟨?_, ?_, ?_, ?_⟩
  · rw [htexts, h.text_eq, List.append_assoc, List.append_assoc]
  · rw [h.cut_eq, hcut]
    simp
  · rw [htexts]
  · show Scanner.scan o rest.head? l.toScanner _ = _
    rw [h.scan_eq, Scanner.scan_append o rest.head? {} spans, Scanner.nextChar_head?,
      List.flatMap_append, flatMap_text_plain, List.flatMap_singleton, List.append_assoc]

/-- How far some of the matches to come take the lexer, and that the others are still to come. -/
theorem Reached.exists_reached (h : Reached o template spans rest l) (n : Nat) : ∃ spans' rest',
    Reached o template spans' rest'
      (((Grammar.findAllFrom (spans.flatMap Span.text) rest).take n).foldl
        (Lexer.accept o template) l) ∧
    Grammar.findAllFrom (spans'.flatMap Span.text) rest' =
      (Grammar.findAllFrom (spans.flatMap Span.text) rest).drop n := by
  induction n generalizing l spans rest with
  | zero => exact ⟨spans, rest, h, rfl⟩
  | succ n ih =>
    rcases Grammar.findAllFrom_cases (spans.flatMap Span.text) rest with
      ⟨-, hnone⟩ | ⟨gap, x, behind, rfl, hx, hcut, hfind⟩
    · rw [hnone]
      exact ⟨spans, rest, h, hnone⟩
    · have hnext := ih (h.accept hx hcut)
      rw [flatMap_text_taken] at hnext
      rw [hfind, List.take_succ_cons, List.foldl_cons, List.drop_succ_cons]
      exact hnext

/-- The cursor is where the last match ends. -/
theorem cursor_foldl (ms : List Captures) :
    (ms.foldl (Lexer.accept o template) l).cursor =
      (ms.getLast?.map fun m => offset template m.last).getD l.cursor := by
  rcases ms.eq_nil_or_concat with rfl | ⟨ms, m, rfl⟩
  · rfl
  · rw [List.concat_eq_append, List.foldl_concat, List.getLast?_concat]
    rfl

theorem Reached.invariant (h : Reached o template spans rest l) {ms : List Captures}
    (hcursor : l.cursor = (ms.getLast?.map fun m => offset template m.last).getD 0) :
    l.Invariant template ms spans := by
  have hsound : l.toScanner.Sound ([] ++ spans) := h.scan_eq ▸ Scanner.Sound.start.scan _ spans
  have hbefore : String.Pos.Raw.extract template 0 l.cursor =
      .ofList (spans.flatMap Span.text) := by
    have hextract := extract_between [] (spans.flatMap Span.text) rest
    rwa [List.nil_append, ← h.text_eq, String.ofList_toList, ← h.cursor_eq] at hextract
  have hcuts : Span.Cuts template.toList (spans ++ Span.cut rest) :=
    Span.cuts_iff.2 h.cut_eq.symm
  refine { hsound with
    isValid := ?_, cursor_eq := hcursor, cuts := ?_, exists_cuts := ⟨_, hcuts⟩, parameters := ?_ }
  · refine String.Pos.Raw.isValid_iff_exists_append.2
      ⟨.ofList (spans.flatMap Span.text), .ofList rest, ?_, h.cursor_eq⟩
    rw [← String.ofList_append, ← h.text_eq, String.ofList_toList]
  · rw [hbefore, String.toList_ofList]
    rw [h.text_eq] at hcuts
    exact hcuts.of_append
  · obtain ⟨ps, hps, hall⟩ := Scanner.exists_parameters_scan o rest.head? {} spans
    rw [h.scan_eq, hps]
    exact hall

/-- Where no match is left, the lexer ends with the tokens of the template. -/
theorem Reached.finish (h : Reached o template spans rest l)
    (hnone : Grammar.findAllFrom (spans.flatMap Span.text) rest = []) :
    l.finish template = Token.ofTemplate o template := by
  have hplain : Span.cut rest = rest.map .plain := by
    rcases Grammar.findAllFrom_cases (spans.flatMap Span.text) rest with
      ⟨hcut, -⟩ | ⟨_, _, _, -, -, -, hfind⟩
    · exact hcut
    · rw [hnone] at hfind
      cases hfind
  have hrest : l.cursor.extract template template.rawEndPos = .ofList rest := by
    have hextract := extract_between (spans.flatMap Span.text) rest []
    rwa [List.append_nil, ← h.text_eq, String.ofList_toList, ← h.cursor_eq] at hextract
  rw [Lexer.finish, hrest, String.toList_ofList, Token.ofTemplate, h.cut_eq, hplain,
    Scanner.scan_append, Scanner.scan_plain, Scanner.nextChar_eq_head?, flatMap_text_plain,
    h.scan_eq]

/-- However many matches the lexer has taken, the invariant holds; and with the text behind the last
one it has made the tokens of the template. -/
theorem invariant_of_matches (o : Options) (template : String) :
    Regex.compile true Grammar.pattern = .ok Grammar.regex ∧
      (acceptAll o template (Grammar.findAll template)).finish template =
        Token.ofTemplate o template ∧
      ∀ n, ∃ spans, (acceptAll o template ((Grammar.findAll template).take n)).Invariant template
        ((Grammar.findAll template).take n) spans := by
  have hstart := reached_start o template
  refine ⟨Grammar.compile_pattern, ?_, fun n => ?_⟩
  · obtain ⟨spans, rest, h, hnone⟩ := hstart.exists_reached (Grammar.findAll template).length
    rw [← List.take_length (l := Grammar.findAll template)]
    exact h.finish (hnone.trans List.drop_length)
  · obtain ⟨spans, rest, h, -⟩ := hstart.exists_reached n
    exact ⟨spans, h.invariant (cursor_foldl _)⟩

end Lexer

end RouteTemplate
