import Mathlib.Data.Nat.Find
import RouteTemplate.Proofs.Template.Grammar

/-!
Tokens by search. The pattern of the grammar is looked for again and again; what stands before a
match is plain text, and the groups of the match say what it is. This comes to the same as cutting
the template into spans (`lex_eq`): the first match is the first span that is not a plain character.
-/

namespace RouteTemplate

open Regex

namespace Captures

def first (m : Captures) : Nat := (m.marks.lookup 0).getD 0

def last (m : Captures) : Nat := (m.marks.lookup 1).getD 0

end Captures

namespace Scanner

/-- Takes plain text. -/
def pushText (s : Scanner) (text : List Char) : Scanner :=
  if text.isEmpty then s
  else { s with pending := text.reverse ++ s.pending, escapedLast := false }

/-- Takes a match of the pattern of the grammar, before the character `after`. -/
def acceptMatch (o : Options) (s : Scanner) (after : Option Char) (m : Captures) : Scanner :=
  match m.group? 1 with
  | some escaped =>
    { s with pending := (escaped.toList.drop 1).reverse ++ s.pending, escapedLast := true }
  | none =>
    let body := ((m.group? 3).or (m.group? 4)).map String.toList
    let modifier := (m.group? 5).bind fun sign => sign.toList.head?
    match m.group? 2 with
    | some name => s.addParameter o name body modifier after
    | none =>
      { s.addParameter o (toString s.nextIndex) body modifier after with
        nextIndex := s.nextIndex + 1 }

/-- Takes all matches in a text, and the text around them. A match is not empty; and the pattern
does not look behind, so the search goes on in what is left of the text. -/
def lex (o : Options) (s : Scanner) (text : List Char) : Scanner :=
  match Grammar.regex.find? (.ofList text) with
  | none => s.pushText text
  | some m =>
    let rest := text.drop m.last
    let s := (s.pushText (text.take m.first)).acceptMatch o rest.head? m
    if _ : rest.length < text.length then lex o s rest else s
termination_by text.length
decreasing_by assumption

/-! ## One match -/

variable {o : Options} {s : Scanner} {text : List Char} {i j : Nat} {after : Option Char}

theorem take_drop_of_prefix {p l : List Char} (h : text.drop i = l) (hp : p <+: l) :
    (text.drop i).take p.length = p := by
  rw [h, ← List.prefix_iff_eq_take.1 hp]

/-- The text of a body behind its parenthesis. -/
theorem take_drop_of_body? {b : List Char} (h : Span.body? (text.drop i) = some b) :
    (text.drop (i + 1)).take b.length = b := by
  obtain ⟨rest, hrest, hb, -⟩ := Grammar.body?_eq_some_iff.1 h
  exact take_drop_of_prefix (Expr.drop_eq_cons_iff.1 hrest).2
    ((List.prefix_append b [')']).trans (Span.isPrefix_of_inside? hb))

theorem head?_of_modifier? {c : Char} (h : Span.modifier? (text.drop i) = some c) :
    ((text.drop i).take 1).head? = some c := by
  rw [List.head?_take, if_neg (by decide)]
  exact (Grammar.modifier?_eq_some_iff.1 h).1

theorem acceptMatch_marks {c : Char} {rest : List Char} (h : text.drop i = c :: rest)
    (hs : ∀ d, Span.first c rest ≠ .plain d) :
    s.acceptMatch o after ⟨text, (1, j) :: (Grammar.marks i (Span.first c rest) ++ [(0, i)])⟩ =
      s.accept o after (Span.first c rest) := by
  obtain ⟨hi, hrest⟩ := Expr.drop_eq_cons_iff.1 h
  rcases Grammar.first_cases hs with ⟨d, tail, rfl, rfl, hd⟩ | ⟨rfl, hw⟩ | ⟨b, rfl, hb⟩
  · rw [Grammar.first_escape tail hd]
    simp [acceptMatch, Captures.group?, Grammar.marks, List.lookup_cons, h, accept]
  · rw [Grammar.first_named hw, Span.namedOf]
    have hname := take_drop_of_prefix hrest (List.takeWhile_prefix Unicode.isWord)
    have hafter := Grammar.drop_takeWhile h
    rw [← hafter]
    generalize hb : Span.body? _ = body
    rw [List.drop_drop]
    generalize hm : Span.modifier? _ = modifier
    rcases body with _ | b <;> rcases modifier with _ | c
    · simp [acceptMatch, Captures.group?, Grammar.marks, List.lookup_cons, accept, hname]
    · simp [acceptMatch, Captures.group?, Grammar.marks, List.lookup_cons, accept, hname,
        head?_of_modifier? hm]
    · simp [acceptMatch, Captures.group?, Grammar.marks, List.lookup_cons, accept, hname,
        take_drop_of_body? hb]
    · simp [acceptMatch, Captures.group?, Grammar.marks, List.lookup_cons, accept, hname,
        take_drop_of_body? hb, head?_of_modifier? hm]
  · rw [Grammar.first_unnamed hb]
    rw [← h] at hb ⊢
    rw [List.drop_drop]
    generalize hm : Span.modifier? _ = modifier
    rcases modifier with _ | c
    · simp [acceptMatch, Captures.group?, Grammar.marks, List.lookup_cons, accept,
        take_drop_of_body? hb]
    · simp [acceptMatch, Captures.group?, Grammar.marks, List.lookup_cons, accept,
        take_drop_of_body? hb, head?_of_modifier? hm]

/-! ## All matches -/

/-- No span but a plain character begins here. -/
def PlainAt (text : List Char) (i : Nat) : Prop :=
  ∀ c rest, text.drop i = c :: rest → ∃ d, Span.first c rest = .plain d

theorem first_of_plain {c d : Char} {rest : List Char} (h : Span.first c rest = .plain d) :
    Span.first c rest = .plain c := by
  have hp := Span.isPrefix_text_first c rest
  rw [h] at hp ⊢
  rw [(List.cons_prefix_cons.1 hp).1]

/-- Where there are plain characters only, each of them is a span. -/
theorem cut_append {front back : List Char}
    (h : ∀ i < front.length, PlainAt (front ++ back) i) :
    Span.cut (front ++ back) = front.map .plain ++ Span.cut back := by
  induction front with
  | nil => rfl
  | cons c front ih =>
    obtain ⟨d, hd⟩ := h 0 (Nat.succ_pos _) c (front ++ back) rfl
    have hrest := ih fun i hi => h (i + 1) (Nat.succ_lt_succ hi)
    rw [Span.cut] at hrest ⊢
    rw [List.cons_append, Span.cutFrom, first_of_plain hd, List.map_cons, List.cons_append]
    exact congrArg _ hrest

theorem scan_plain (text : List Char) (s : Scanner) (after : Option Char) :
    scan o after s (text.map .plain) = s.pushText text := by
  induction text generalizing s with
  | nil => rfl
  | cons c text ih =>
    rw [List.map_cons, scan, ih]
    cases text <;> simp [accept, pushText]

theorem nextChar_cut (text : List Char) : nextChar (Span.cut text) none = text.head? := by
  cases text with
  | nil => rfl
  | cons c rest =>
    rw [Span.cut, Span.cutFrom, nextChar]
    obtain ⟨r, hr⟩ := Span.isPrefix_text_first c rest
    cases ht : (Span.first c rest).text with
    | nil => simpa [ht] using Span.length_text_pos (Span.first c rest)
    | cons d t =>
      rw [ht, List.cons_append, List.cons.injEq] at hr
      simp [hr.1]

theorem cutFrom_eq (skip : Nat) (text : List Char) :
    Span.cutFrom skip text = Span.cut (text.drop skip) := by
  induction text generalizing skip with
  | nil => cases skip <;> rfl
  | cons c rest ih =>
    cases skip with
    | zero => rfl
    | succ skip => exact ih skip

/-- The first span of a text, and then the spans of the rest of it. -/
theorem cut_cons (c : Char) (rest : List Char) : Span.cut (c :: rest) =
    Span.first c rest :: Span.cut ((c :: rest).drop (Span.first c rest).text.length) := by
  rw [Span.cut, Span.cutFrom, cutFrom_eq]
  have hpos := Span.length_text_pos (Span.first c rest)
  obtain ⟨n, hn⟩ := Nat.exists_eq_succ_of_ne_zero (Nat.ne_of_gt hpos)
  rw [hn, List.drop_succ_cons, Nat.succ_sub_one]

theorem lt_length_of_drop {c : Char} {rest : List Char} (h : text.drop i = c :: rest) :
    i < text.length :=
  (List.getElem?_eq_some_iff.1 (Expr.drop_eq_cons_iff.1 h).1).1

theorem find?_eq_none (h : ∀ i, PlainAt text i) : Grammar.regex.find? (.ofList text) = none := by
  cases hm : Grammar.regex.find? (.ofList text) with
  | none => rfl
  | some m =>
    obtain ⟨-, i, j, ns, -, hw, -⟩ := Regex.exists_walk_of_find? hm
    rw [String.toList_ofList] at hw
    obtain ⟨c, rest, hrest, hs⟩ := Grammar.exists_first_of_walk hw
    obtain ⟨d, hd⟩ := h i c rest hrest
    exact absurd hd (hs d)

theorem find?_eq_some {c : Char} {rest : List Char} (hbefore : ∀ k < i, PlainAt text k)
    (h : text.drop i = c :: rest) (hs : ∀ d, Span.first c rest ≠ .plain d) :
    Grammar.regex.find? (.ofList text) = some ⟨text, (1, i + (Span.first c rest).text.length) ::
      (Grammar.marks i (Span.first c rest) ++ [(0, i)])⟩ := by
  have hi := lt_length_of_drop h
  have hnone (k : Nat) (hk : k < i) : ¬ ∃ j ms, Grammar.expr.walk text k j ms := by
    rintro ⟨j, ms, hw⟩
    obtain ⟨d, tail, hd, hs'⟩ := Grammar.exists_first_of_walk hw
    obtain ⟨e, he⟩ := hbefore k hk d tail hd
    exact hs' e he
  have hpick : Grammar.expr.pick text (fun _ => True) i _ _ := Grammar.pick_expr h hs
  have htext : text = (String.ofList text).toList := String.toList_ofList.symm
  rw [htext] at hnone hpick hi
  have hfind := Regex.find?_eq_some_of_pick (r := Grammar.regex) (Nat.le_of_lt hi) hnone hpick
  rwa [← htext] at hfind

theorem lookup_zero_marks (i : Nat) (span : Span) : (Grammar.marks i span).lookup 0 = none := by
  rcases span with c | c | ⟨name, body, m⟩ | ⟨body, m⟩
  · rfl
  · rfl
  · cases body <;> cases m <;> rfl
  · cases m <;> rfl

/-- The plain characters up to the first other span, and then this span. -/
theorem cut_of_first {c : Char} {rest : List Char} (hbefore : ∀ k < i, PlainAt text k)
    (h : text.drop i = c :: rest) :
    Span.cut text = (text.take i).map .plain ++ Span.first c rest ::
      Span.cut (text.drop (i + (Span.first c rest).text.length)) := by
  have hfront : ∀ k < (text.take i).length, PlainAt (text.take i ++ text.drop i) k := by
    rw [List.take_append_drop]
    exact fun k hk => hbefore k (Nat.lt_of_lt_of_le hk (List.length_take_le i text))
  have hcut := cut_append hfront
  rw [List.take_append_drop] at hcut
  rw [hcut, ← List.drop_drop, h, cut_cons]

/-- Of the places where other spans than plain characters begin there is a first one, or there is
none at all. -/
theorem plain_or_exists_first (text : List Char) : (∀ i, PlainAt text i) ∨
    ∃ i c rest, (∀ k < i, PlainAt text k) ∧ text.drop i = c :: rest ∧
      ∀ d, Span.first c rest ≠ .plain d := by
  classical
  by_cases hex : ∃ i, ¬ PlainAt text i
  · obtain ⟨c, rest, hrest, hs⟩ : ∃ c rest, text.drop (Nat.find hex) = c :: rest ∧
        ∀ d, Span.first c rest ≠ .plain d := by
      simpa [PlainAt] using Nat.find_spec hex
    exact .inr ⟨Nat.find hex, c, rest, fun k hk => not_not.1 (Nat.find_min hex hk), hrest, hs⟩
  · exact .inl (by simpa using hex)

theorem cut_of_plain (h : ∀ i, PlainAt text i) : Span.cut text = text.map .plain := by
  have hfront : ∀ i < text.length, PlainAt (text ++ []) i := by
    rw [List.append_nil]
    exact fun i _ => h i
  have hcut := cut_append hfront
  have hnil : Span.cut [] = [] := rfl
  rwa [hnil, List.append_nil, List.append_nil] at hcut

theorem length_drop_lt {c : Char} {rest : List Char} (h : text.drop i = c :: rest) :
    (text.drop (i + (Span.first c rest).text.length)).length < text.length := by
  have hlt := lt_length_of_drop h
  have hpos := Span.length_text_pos (Span.first c rest)
  rw [List.length_drop]
  omega

theorem first_marks (i j : Nat) (span : Span) :
    (⟨text, (1, j) :: (Grammar.marks i span ++ [(0, i)])⟩ : Captures).first = i := by
  rw [Captures.first, List.lookup_cons]
  simp [List.lookup_append, lookup_zero_marks]

theorem last_marks (i j : Nat) (span : Span) :
    (⟨text, (1, j) :: (Grammar.marks i span ++ [(0, i)])⟩ : Captures).last = j := by
  rw [Captures.last, List.lookup_cons_self, Option.getD_some]

theorem lex_eq (o : Options) (s : Scanner) (text : List Char) :
    lex o s text = scan o none s (Span.cut text) := by
  induction hn : text.length using Nat.strongRecOn generalizing s text with
  | _ n ih =>
    rcases plain_or_exists_first text with hplain | ⟨i, c, rest, hbefore, hrest, hs⟩
    · rw [lex, find?_eq_none hplain, cut_of_plain hplain, scan_plain]
    · have hshort := length_drop_lt hrest
      rw [lex, find?_eq_some hbefore hrest hs]
      simp only [first_marks, last_marks, acceptMatch_marks hrest hs, dif_pos hshort]
      rw [ih _ (hn ▸ hshort) _ _ rfl, cut_of_first hbefore hrest, scan_append, scan_plain, scan,
        nextChar_cut]

end Scanner

/-- The tokens of a template are what the search finds in it. -/
theorem Token.ofTemplate_eq_lex (o : Options) (template : String) :
    Token.ofTemplate o template = (Scanner.lex o {} template.toList).finish := by
  rw [Scanner.lex_eq, ofTemplate]

end RouteTemplate
