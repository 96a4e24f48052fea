import Mathlib.Data.List.TakeWhile
import RouteTemplate.Proofs.Template.Lexing

/-!
The grammar of templates, apart from any procedure. `Span.Starts` says which span starts a text, and
`Span.Cuts` which spans a text is cut into: one that starts it, if there is any, or else its first
character. There is just one way to cut a text (`Span.cuts_iff`), and the parameters of a template
are its parameter spans in order (`Token.ofTemplate_parameters`).
-/

namespace RouteTemplate

namespace Span

/-- What bodies are made of. -/
inductive BodyUnit : List Char → Prop
  | char {c : Char} : c ≠ '\\' → c ≠ '(' → c ≠ ')' → BodyUnit [c]
  | escape {c : Char} : c ≠ '\n' → BodyUnit ['\\', c]

/-- The inside of a body: one or more units. -/
def Body (b : List Char) : Prop :=
  ∃ units : List (List Char), units ≠ [] ∧ (∀ u ∈ units, BodyUnit u) ∧ b = units.flatten

/-- The body that starts a text, if one does, and the text behind it. -/
inductive OptionalBody : List Char → Option (List Char) → List Char → Prop
  | some {b rest : List Char} : Body b → OptionalBody ('(' :: (b ++ ')' :: rest)) (some b) rest
  | none {cs : List Char} : (∀ b rest, Body b → cs ≠ '(' :: (b ++ ')' :: rest)) →
      OptionalBody cs none cs

/-- The modifier that starts a text, if one does, and the text behind it. -/
inductive OptionalModifier : List Char → Option Char → List Char → Prop
  | some {c : Char} {rest : List Char} : c ∈ ['+', '*', '?'] →
      OptionalModifier (c :: rest) (some c) rest
  | none {cs : List Char} : (∀ c ∈ ['+', '*', '?'], cs.head? ≠ some c) →
      OptionalModifier cs none cs

/-- An escape or a parameter starts a text and leaves a rest of it. The name of a parameter is the
longest run of word characters. -/
inductive Starts : List Char → Span → List Char → Prop
  | escaped {c : Char} {rest : List Char} : c ≠ '\n' → Starts ('\\' :: c :: rest) (.escaped c) rest
  | named {name after behind rest : List Char} {body : Option (List Char)}
      {modifier : Option Char} : name ≠ [] → (∀ c ∈ name, Unicode.isWord c = true) →
      (∀ c, after.head? = some c → Unicode.isWord c = false) → OptionalBody after body behind →
      OptionalModifier behind modifier rest →
      Starts (':' :: (name ++ after)) (.named name body modifier) rest
  | unnamed {body behind rest : List Char} {modifier : Option Char} : Body body →
      OptionalModifier behind modifier rest →
      Starts ('(' :: (body ++ ')' :: behind)) (.unnamed body modifier) rest

/-- A text as spans in turn. -/
inductive Cuts : List Char → List Span → Prop
  | nil : Cuts [] []
  | span {cs rest : List Char} {s : Span} {spans : List Span} : Starts cs s rest →
      Cuts rest spans → Cuts cs (s :: spans)
  | plain {c : Char} {cs : List Char} {spans : List Span} :
      (∀ s rest, ¬ Starts (c :: cs) s rest) → Cuts cs spans → Cuts (c :: cs) (.plain c :: spans)

/-- The parameter spans, each with the number of unnamed parameters before it. -/
def numbered : Nat → List Span → List (Nat × Span)
  | _, [] => []
  | n, .plain _ :: spans => numbered n spans
  | n, .escaped _ :: spans => numbered n spans
  | n, .named name body modifier :: spans => (n, .named name body modifier) :: numbered n spans
  | n, .unnamed body modifier :: spans => (n, .unnamed body modifier) :: numbered (n + 1) spans

/-! ## There is one way to cut a text -/

variable {c : Char} {cs rest b name after : List Char}

theorem exists_units_of_inside? (h : inside? cs = some b) :
    ∃ units : List (List Char), (∀ u ∈ units, BodyUnit u) ∧ b = units.flatten := by
  fun_induction inside? cs generalizing b with
  | case1 => simp at h
  | case2 => simp at h
  | case3 c rest hc ih =>
    obtain ⟨b, hb, rfl⟩ := Option.map_eq_some_iff.1 h
    obtain ⟨units, hunits, rfl⟩ := ih hb
    have hall := List.forall_mem_cons.2 ⟨BodyUnit.escape hc, hunits⟩
    exact ⟨_, hall, rfl⟩
  | case4 => exact ⟨[], by simp, (Option.some.inj h).symm⟩
  | case5 => simp at h
  | case6 c rest _ h₁ h₂ ih =>
    obtain ⟨b, hb, rfl⟩ := Option.map_eq_some_iff.1 h
    obtain ⟨units, hunits, rfl⟩ := ih hb
    rw [not_or] at h₂
    have hall := List.forall_mem_cons.2 ⟨BodyUnit.char h₂.2 h₂.1 h₁, hunits⟩
    exact ⟨_, hall, rfl⟩

theorem inside?_flatten {units : List (List Char)} (h : ∀ u ∈ units, BodyUnit u)
    (rest : List Char) : inside? (units.flatten ++ ')' :: rest) = some units.flatten := by
  induction units with
  | nil => simp [inside?]
  | cons u units ih =>
    obtain ⟨hu, htail⟩ := List.forall_mem_cons.1 h
    rw [List.flatten_cons, List.append_assoc]
    cases hu with
    | escape hc =>
      rw [List.cons_append, List.cons_append, List.nil_append, inside?, if_neg hc, ih htail]
      rfl
    | @char c h₁ h₂ h₃ =>
      rw [List.cons_append, List.nil_append, inside?, if_neg h₃, if_neg (by simp [h₁, h₂]),
        ih htail]
      · rfl
      · rintro d l rfl _
        exact h₁ rfl

theorem inside?_eq_some_iff : inside? cs = some b ↔
    (∃ units : List (List Char), (∀ u ∈ units, BodyUnit u) ∧ b = units.flatten) ∧
      ∃ rest, cs = b ++ ')' :: rest := by
  constructor
  · intro h
    obtain ⟨rest, hrest⟩ := isPrefix_of_inside? h
    exact ⟨exists_units_of_inside? h, rest, by rw [← hrest]; simp⟩
  · rintro ⟨⟨units, hunits, rfl⟩, rest, rfl⟩
    exact inside?_flatten hunits rest

theorem body?_iff : body? cs = some b ↔ Body b ∧ ∃ rest, cs = '(' :: (b ++ ')' :: rest) := by
  rw [Grammar.body?_eq_some_iff]
  simp only [inside?_eq_some_iff]
  constructor
  · rintro ⟨_, rfl, ⟨⟨units, hunits, rfl⟩, rest, rfl⟩, hne⟩
    exact ⟨⟨units, fun hnil => hne (by simp [hnil]), hunits, rfl⟩, rest, rfl⟩
  · rintro ⟨⟨units, hne, hunits, rfl⟩, rest, rfl⟩
    refine ⟨_, rfl, ⟨⟨units, hunits, rfl⟩, rest, rfl⟩, ?_⟩
    obtain ⟨u, units, rfl⟩ := List.exists_cons_of_ne_nil hne
    cases (List.forall_mem_cons.1 hunits).1 <;> simp

theorem optionalBody_iff {body : Option (List Char)} : OptionalBody cs body rest ↔
    body = body? cs ∧ rest = cs.drop (bodyText body).length := by
  constructor
  · rintro (hb | hnone)
    · rw [body?_iff.2 ⟨hb, rest, rfl⟩]
      simp [bodyText]
    · refine ⟨?_, rfl⟩
      rw [eq_comm, Option.eq_none_iff_forall_ne_some]
      intro b hb
      obtain ⟨hb, r, hr⟩ := body?_iff.1 hb
      exact hnone b r hb hr
  · rintro ⟨rfl, rfl⟩
    cases hb : body? cs with
    | none =>
      refine .none fun b r hbody hr => ?_
      rw [body?_iff.2 ⟨hbody, r, hr⟩] at hb
      simp at hb
    | some b =>
      obtain ⟨hbody, r, rfl⟩ := body?_iff.1 hb
      have hdrop : ('(' :: (b ++ ')' :: r)).drop (bodyText (some b)).length = r := by
        simp [bodyText]
      rw [hdrop]
      exact .some hbody

theorem optionalModifier_iff {modifier : Option Char} : OptionalModifier cs modifier rest ↔
    modifier = modifier? cs ∧ rest = cs.drop modifier.toList.length := by
  constructor
  · rintro (hc | hnone)
    · rw [Grammar.modifier?_eq_some_iff.2 ⟨rfl, by simpa using hc⟩]
      simp
    · refine ⟨?_, rfl⟩
      rw [eq_comm, Option.eq_none_iff_forall_ne_some]
      intro c hc
      obtain ⟨hhead, hc⟩ := Grammar.modifier?_eq_some_iff.1 hc
      exact hnone c (by simpa using hc) hhead
  · rintro ⟨rfl, rfl⟩
    cases hm : modifier? cs with
    | none =>
      refine .none fun c hc hhead => ?_
      rw [Grammar.modifier?_eq_some_iff.2 ⟨hhead, by simpa using hc⟩] at hm
      simp at hm
    | some c =>
      obtain ⟨hhead, hc⟩ := Grammar.modifier?_eq_some_iff.1 hm
      obtain ⟨r, rfl⟩ := List.head?_eq_some_iff.1 hhead
      exact .some (by simpa using hc)

theorem takeWhile_append_of_stop {p : Char → Bool} (hname : ∀ c ∈ name, p c = true)
    (hafter : ∀ c, after.head? = some c → p c = false) :
    (name ++ after).takeWhile p = name := by
  rw [List.takeWhile_append_of_pos hname]
  cases after with
  | nil => exact List.append_nil name
  | cons c after => simp [hafter c rfl]

theorem dropWhile_append_of_stop {p : Char → Bool} (hname : ∀ c ∈ name, p c = true)
    (hafter : ∀ c, after.head? = some c → p c = false) :
    (name ++ after).dropWhile p = after := by
  rw [List.dropWhile_append_of_pos hname]
  cases after with
  | nil => rfl
  | cons c after => simp [hafter c rfl]

theorem drop_text_named {body : Option (List Char)} {modifier : Option Char} :
    (':' :: (name ++ after)).drop (named name body modifier).text.length =
      (after.drop (bodyText body).length).drop modifier.toList.length := by
  rw [List.drop_drop]
  simp only [text, List.length_cons, List.length_append, List.drop_succ_cons]
  rw [Nat.add_assoc, List.drop_length_add_append]

theorem drop_text_unnamed {body : List Char} {modifier : Option Char} :
    cs.drop (unnamed body modifier).text.length =
      (cs.drop (bodyText (some body)).length).drop modifier.toList.length := by
  rw [text, List.length_append, List.drop_drop]

/-- What starts a text is found as its first span. -/
theorem Starts.first_eq {s : Span} (h : Starts (c :: cs) s rest) :
    first c cs = s ∧ (∀ d, s ≠ .plain d) ∧ rest = (c :: cs).drop s.text.length := by
  generalize hl : c :: cs = l at h
  cases h with
  | escaped hc =>
    obtain ⟨rfl, rfl⟩ := List.cons.inj hl
    refine ⟨Grammar.first_escape _ hc, ?_, rfl⟩
    rintro d ⟨⟩
  | @named name after behind rest body modifier hne hname hafter hbody hmodifier =>
    obtain ⟨rfl, rfl⟩ := List.cons.inj hl
    obtain ⟨rfl, rfl⟩ := optionalBody_iff.1 hbody
    obtain ⟨rfl, rfl⟩ := optionalModifier_iff.1 hmodifier
    have htake := takeWhile_append_of_stop hname hafter
    have hdrop := dropWhile_append_of_stop hname hafter
    refine ⟨?_, by rintro d ⟨⟩, ?_⟩
    · rw [Grammar.first_named (by rwa [htake]), namedOf, htake, hdrop]
    · rw [drop_text_named]
  | @unnamed body behind rest modifier hbody hmodifier =>
    obtain ⟨rfl, rfl⟩ := List.cons.inj hl
    obtain ⟨rfl, rfl⟩ := optionalModifier_iff.1 hmodifier
    have hdrop :
        ('(' :: (body ++ ')' :: behind)).drop (bodyText (some body)).length = behind := by
      simp [bodyText]
    refine ⟨?_, by rintro d ⟨⟩, ?_⟩
    · rw [Grammar.first_unnamed (body?_iff.2 ⟨hbody, behind, rfl⟩), hdrop]
    · rw [drop_text_unnamed, hdrop]

/-- The first span of a text starts it, unless it is a plain character. -/
theorem starts_first (hplain : ∀ d, first c cs ≠ .plain d) :
    Starts (c :: cs) (first c cs) ((c :: cs).drop (first c cs).text.length) := by
  rcases Grammar.first_cases hplain with ⟨d, tail, rfl, rfl, hd⟩ | ⟨rfl, hname⟩ | ⟨b, rfl, hb⟩
  · rw [Grammar.first_escape tail hd]
    exact .escaped hd
  · rw [Grammar.first_named hname, namedOf]
    have hall : ∀ c ∈ cs.takeWhile Unicode.isWord, Unicode.isWord c = true :=
      fun c hc => List.mem_takeWhile_imp hc
    have hstop : ∀ c, (cs.dropWhile Unicode.isWord).head? = some c → Unicode.isWord c = false :=
      fun c hc => by simpa [hc] using List.head?_dropWhile_not Unicode.isWord cs
    have hstarts := Starts.named hname hall hstop (optionalBody_iff.2 ⟨rfl, rfl⟩)
      (optionalModifier_iff.2 ⟨rfl, rfl⟩)
    rwa [← drop_text_named, List.takeWhile_append_dropWhile] at hstarts
  · rw [Grammar.first_unnamed hb]
    obtain ⟨hbody, behind, heq⟩ := body?_iff.1 hb
    have hdrop : ('(' :: cs).drop (bodyText (some b)).length = behind := by
      rw [heq]
      simp [bodyText]
    rw [drop_text_unnamed, hdrop, heq]
    exact .unnamed hbody (optionalModifier_iff.2 ⟨rfl, rfl⟩)

theorem starts_ne_nil {s : Span} (h : Starts cs s rest) : cs ≠ [] := by
  cases h <;> exact List.cons_ne_nil _ _

/-- There is just one way to cut a text. -/
theorem cuts_iff {spans : List Span} : Cuts cs spans ↔ spans = cut cs := by
  constructor
  · intro h
    induction h with
    | nil => rfl
    | @span cs rest s spans hs _ ih =>
      obtain ⟨c, cs, rfl⟩ := List.exists_cons_of_ne_nil (starts_ne_nil hs)
      obtain ⟨rfl, -, rfl⟩ := hs.first_eq
      rw [Scanner.cut_cons, ih]
    | @plain c cs spans hnone _ ih =>
      obtain ⟨d, hd⟩ : ∃ d, first c cs = .plain d := by
        by_contra hplain
        exact hnone _ _ (starts_first (not_exists.1 hplain))
      rw [Scanner.cut_cons, Scanner.first_of_plain hd, ih]
      rfl
  · rintro rfl
    induction hn : cs.length using Nat.strongRecOn generalizing cs with
    | _ n ih =>
      cases cs with
      | nil => exact .nil
      | cons c cs =>
        have hpos := length_text_pos (first c cs)
        have hshort : ((c :: cs).drop (first c cs).text.length).length < n := by
          rw [List.length_drop, hn]
          simp only [List.length_cons] at hn
          omega
        have hrest := ih _ hshort rfl
        rw [Scanner.cut_cons]
        by_cases hplain : ∃ d, first c cs = .plain d
        · obtain ⟨d, hd⟩ := hplain
          rw [Scanner.first_of_plain hd] at hrest ⊢
          refine .plain (fun s rest hs => ?_) hrest
          obtain ⟨rfl, hne, -⟩ := hs.first_eq
          exact hne d hd
        · exact .span (starts_first (not_exists.1 hplain)) hrest

/-- A body that is not closed is none, and one may begin inside of it. -/
example : cut [':', 'i', 'd', '(', 'a', '(', 'b', ')'] =
    [.named ['i', 'd'] none none, .plain '(', .plain 'a', .unnamed ['b'] none] := by
  decide +kernel

end Span

/-! ## Parameters -/

/-- A parameter is what its span says, `n` unnamed parameters standing before it. -/
def Parameter.WrittenAs (p : Parameter) (n : Nat) : Span → Prop
  | .plain _ => False
  | .escaped _ => False
  | .named name body modifier =>
    p.name = .ofList name ∧ p.pattern = (body.map String.ofList).getD (defaultPattern p.joiner) ∧
      p.quantifier = .ofModifier modifier
  | .unnamed body modifier =>
    p.name = toString n ∧ p.pattern = .ofList body ∧ p.quantifier = .ofModifier modifier

namespace Scanner

variable {o : Options} {s : Scanner} {after : Option Char}

@[simp] theorem parameters_flush (tokens : List Token) (pending : List Char) :
    (flush tokens pending).filterMap Token.parameter? = tokens.filterMap Token.parameter? := by
  unfold flush
  split
  · rfl
  · simp [Token.parameter?]

@[simp] theorem parameters_addParameter (name : String) (body : Option (List Char))
    (modifier : Option Char) :
    (s.addParameter o name body modifier after).tokens.filterMap Token.parameter? =
      s.tokens.filterMap Token.parameter? ++
        [parameterOf o name (s.lead? o) body modifier after] := by
  simp [addParameter, Token.parameter?]

/-- A scan adds one parameter for each parameter span. -/
theorem exists_parameters_scan (o : Options) (after : Option Char) (s : Scanner)
    (spans : List Span) : ∃ ps,
      (scan o after s spans).tokens.filterMap Token.parameter? =
        s.tokens.filterMap Token.parameter? ++ ps ∧
      List.Forall₂ (fun p x => p.WrittenAs x.1 x.2) ps (Span.numbered s.nextIndex spans) := by
  induction spans generalizing s with
  | nil => exact ⟨[], (List.append_nil _).symm, .nil⟩
  | cons span spans ih =>
    obtain ⟨ps, hps, hall⟩ := ih (s.accept o (nextChar spans after) span)
    rw [scan, hps]
    cases span with
    | plain c => exact ⟨ps, rfl, hall⟩
    | escaped c => exact ⟨ps, rfl, hall⟩
    | named name body modifier =>
      refine ⟨_ :: ps, by rw [accept, parameters_addParameter, List.append_assoc]; rfl, ?_⟩
      refine .cons ⟨rfl, ?_, rfl⟩ hall
      cases body <;> rfl
    | unnamed body modifier =>
      refine ⟨_ :: ps, by rw [accept, parameters_addParameter, List.append_assoc]; rfl, ?_⟩
      exact .cons ⟨rfl, rfl, rfl⟩ hall

end Scanner

/-- Of the one way to cut a template, the parameter spans are its parameters in order. The tokens
are those of a search with the pattern of the grammar. -/
theorem Token.ofTemplate_parameters (o : Options) (template : String) :
    Regex.compile true Grammar.pattern = .ok Grammar.regex ∧
      Token.ofTemplate o template = (Scanner.lex o {} template.toList).finish ∧
      ∃ spans, Span.Cuts template.toList spans ∧
        (∀ other, Span.Cuts template.toList other → other = spans) ∧
        List.Forall₂ (fun p x => p.WrittenAs x.1 x.2)
          ((Token.ofTemplate o template).filterMap Token.parameter?)
          (Span.numbered 0 spans) := by
  refine ⟨Grammar.compile_pattern, ofTemplate_eq_lex o template, Span.cut template.toList,
    Span.cuts_iff.2 rfl, fun other h => Span.cuts_iff.1 h, ?_⟩
  obtain ⟨ps, hps, hall⟩ :=
    Scanner.exists_parameters_scan o none {} (Span.cut template.toList)
  rw [ofTemplate, Scanner.finish, Scanner.parameters_flush, hps]
  exact hall

end RouteTemplate
