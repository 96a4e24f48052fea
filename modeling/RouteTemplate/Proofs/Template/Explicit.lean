import RouteTemplate.Proofs.Template.Attribution
import RouteTemplate.Proofs.Template.Compiled

/-!
Templates whose parameters all have a pattern of their own and take one value. The delimiters among
the options say which characters become leads, but such a parameter treats its lead as a literal
treats its text. So two scans under different delimiters stay in step (`Scanner.InStep`): their
tokens are the same ones when literals and leads are split into characters, and splitting changes
neither the pattern of the tokens nor what they render. Hence the delimiters do not change what such
a template means: `Template.compile_of_explicit`.
-/

namespace RouteTemplate

/-- A span that is no parameter, or one of a parameter with a pattern and without a modifier. -/
def Span.Explicit : Span → Prop
  | .plain _ => True
  | .escaped _ => True
  | .named _ body modifier => body.isSome = true ∧ modifier = none
  | .unnamed _ modifier => modifier = none

instance : DecidablePred Span.Explicit
  | .plain _ => .isTrue trivial
  | .escaped _ => .isTrue trivial
  | .named .. => inferInstanceAs (Decidable (_ ∧ _))
  | .unnamed .. => inferInstanceAs (Decidable (_ = none))

/-- The parameter without its lead. -/
def Parameter.bare (p : Parameter) : Parameter :=
  { p with lead := "", joiner := "", leadStays := false }

namespace Token

/-- A text as literals of one character each. -/
def spelled (text : List Char) : List Token := text.map fun c => .literal (.singleton c)

/-- A literal is split into its characters, a parameter into those of its lead and the rest. -/
def split : Token → List Token
  | literal text => spelled text.toList
  | parameter p => spelled p.lead.toList ++ [.parameter p.bare]

theorem spelled_append (a b : List Char) : spelled (a ++ b) = spelled a ++ spelled b :=
  List.map_append

theorem filterMap_parameter?_spelled (text : List Char) :
    (spelled text).filterMap parameter? = [] := by
  rw [List.filterMap_eq_nil_iff]
  intro a ha
  obtain ⟨c, -, rfl⟩ := List.mem_map.1 ha
  rfl

/-- Splitting keeps the names of the parameters. -/
theorem names_flatMap_split (ts : List Token) :
    ((ts.flatMap split).filterMap parameter?).map Parameter.name =
      (ts.filterMap parameter?).map Parameter.name := by
  induction ts with
  | nil => rfl
  | cons a ts ih =>
    rw [List.flatMap_cons, List.filterMap_append, List.map_append, ih]
    cases a with
    | literal text =>
      rw [split, filterMap_parameter?_spelled]
      rfl
    | parameter p =>
      rw [split, List.filterMap_append, filterMap_parameter?_spelled]
      rfl

end Token

/-! ## The pattern of split tokens -/

namespace Source

theorem join_spelled (text : List Char) :
    String.join ((Token.spelled text).map token) = Regex.quote (.ofList text) := by
  induction text with
  | nil => rfl
  | cons c text ih =>
    rw [Token.spelled, List.map_cons, List.map_cons, String.join_cons]
    show Regex.quote (.singleton c) ++ String.join ((Token.spelled text).map token) = _
    rw [ih, ← Regex.quote_append]
    congr 1
    rw [← String.toList_inj]
    simp

theorem join_split {a : Token} (ha : ∀ p, a = .parameter p → p.quantifier = .one) :
    String.join (a.split.map token) = token a := by
  cases a with
  | literal text => rw [Token.split, join_spelled, String.ofList_toList, token]
  | parameter p =>
    have hone := ha p rfl
    rw [Token.split, List.map_append, String.join_append, join_spelled, String.ofList_toList]
    simp [token, parameter, captured, Parameter.bare, Parameter.isOptional,
      Parameter.isRepeating, Quantifier.isOptional, Quantifier.isRepeating, hone, Regex.quote]

/-- Splitting keeps the pattern if every parameter takes one value. -/
theorem join_flatMap_split {ts : List Token} (hts : ∀ p, .parameter p ∈ ts → p.quantifier = .one) :
    String.join ((ts.flatMap Token.split).map token) = String.join (ts.map token) := by
  induction ts with
  | nil => rfl
  | cons a ts ih =>
    rw [List.flatMap_cons, List.map_append, String.join_append, List.map_cons, String.join_cons,
      ih fun p hp => hts p (List.mem_cons_of_mem _ hp),
      join_split fun p hp => hts p (hp ▸ List.mem_cons_self ..)]

end Source

/-! ## Rendering split tokens -/

namespace Step

variable {encode : String → String} {values : Values}

def spelled (text : List Char) : List Step := text.map fun c => .literal (.singleton c)

/-- What the tokens that a token is split into become. -/
def split : Step → List Step
  | literal text => spelled text.toList
  | parameter p r => spelled p.lead.toList ++ [.parameter p.bare r]

theorem mapM_ofToken_spelled (text : List Char) :
    (Token.spelled text).mapM ofToken = .ok (spelled text) :=
  Except.mapM_eq_ok_iff.2 (by
    rw [Token.spelled, spelled, List.forall₂_map_left_iff, List.forall₂_map_right_iff]
    exact List.forall₂_same.2 fun _ _ => rfl)

theorem mapM_ofToken_split (a : Token) : a.split.mapM ofToken = split <$> ofToken a := by
  cases a with
  | literal text => exact mapM_ofToken_spelled text.toList
  | parameter p =>
    have hbare : validator p.bare = validator p := rfl
    rw [Token.split, List.mapM_append, mapM_ofToken_spelled]
    simp only [List.mapM_cons, List.mapM_nil, ofToken, hbare]
    cases validator p <;> rfl

/-- Split tokens can be prepared for rendering if the tokens can, and have the same error if not. -/
theorem mapM_ofToken_flatMap_split (ts : List Token) :
    (ts.flatMap Token.split).mapM ofToken = (List.flatMap split) <$> ts.mapM ofToken := by
  induction ts with
  | nil => rfl
  | cons a ts ih =>
    rw [List.flatMap_cons, List.mapM_append, ih, mapM_ofToken_split, List.mapM_cons]
    cases ofToken a <;> cases ts.mapM ofToken <;> rfl

theorem renderSteps_spelled (text : List Char) :
    Renderer.renderSteps encode values (spelled text) = .ok (.ofList text) := by
  induction text with
  | nil => rfl
  | cons c text ih =>
    rw [spelled, List.map_cons, Renderer.renderSteps]
    show (do
      let b ← Renderer.renderSteps encode values (spelled text)
      return String.singleton c ++ b) = _
    rw [ih]
    show Except.ok _ = Except.ok _
    congr 1
    rw [← String.toList_inj]
    simp

/-- A parameter that takes one value puts its lead before it and has no other use for it. -/
theorem piece_eq_map_bare {p : Parameter} (hone : p.quantifier = .one) (r : Regex) :
    (parameter p r).piece encode values =
      (p.lead ++ ·) <$> (parameter p.bare r).piece encode values := by
  have ho : p.isOptional = false := by rw [Parameter.isOptional, hone]; rfl
  have hrep : p.isRepeating = false := by rw [Parameter.isRepeating, hone]; rfl
  have hbo : p.bare.isOptional = false := ho
  have hbrep : p.bare.isRepeating = false := hrep
  have hname : p.bare.name = p.name := rfl
  have hsegment : segment p.bare r encode = segment p r encode := rfl
  simp only [piece, hname, ho, hrep, hbo, hbrep, hsegment]
  cases values.lookup p.name with
  | none => rfl
  | some value =>
    cases value with
    | single v =>
      show (do return p.lead ++ (← segment p r encode v)) =
        (p.lead ++ ·) <$> (do return "" ++ (← segment p r encode v))
      cases segment p r encode v with
      | error e => rfl
      | ok s => simp [bind, Except.bind, pure, Except.pure, Functor.map, Except.map]
    | list items => rfl

theorem renderSteps_split {s : Step} (hs : ∀ p r, s = .parameter p r → p.quantifier = .one) :
    Renderer.renderSteps encode values s.split = s.piece encode values := by
  cases s with
  | literal text => rw [split, renderSteps_spelled, String.ofList_toList, piece]
  | parameter p r =>
    rw [split, Renderer.renderSteps_append, renderSteps_spelled, String.ofList_toList,
      piece_eq_map_bare (hs p r rfl), Renderer.renderSteps, Renderer.renderSteps]
    cases (parameter p.bare r).piece encode values with
    | error e => rfl
    | ok s => simp [bind, Except.bind, pure, Except.pure, Functor.map, Except.map]

/-- Splitting keeps what steps render if every parameter takes one value. -/
theorem renderSteps_flatMap_split {steps : List Step}
    (hsteps : ∀ p r, .parameter p r ∈ steps → p.quantifier = .one) :
    Renderer.renderSteps encode values (steps.flatMap split) =
      Renderer.renderSteps encode values steps := by
  induction steps with
  | nil => rfl
  | cons s steps ih =>
    rw [List.flatMap_cons, Renderer.renderSteps_append,
      ih fun p r hp => hsteps p r (List.mem_cons_of_mem _ hp),
      renderSteps_split fun p r hp => hsteps p r (hp ▸ List.mem_cons_self ..),
      Renderer.renderSteps]

end Step

/-! ## Two scans in step -/

namespace Scanner

variable {o o' : Options} {s s' : Scanner}

theorem flatMap_split_flush (tokens : List Token) (pending : List Char) :
    (flush tokens pending).flatMap Token.split =
      tokens.flatMap Token.split ++ Token.spelled pending.reverse := by
  rw [flush_eq, List.flatMap_append, Token.ofText]
  split
  next h => rw [h]; rfl
  next h => simp [Token.split]

/-- Once split, a parameter with a pattern does not show which text is its lead. -/
theorem flatMap_split_addParameter (o : Options) (s : Scanner) (name : String) (body : List Char)
    (after : Option Char) :
    (s.addParameter o name (some body) none after).tokens.flatMap Token.split =
      s.tokens.flatMap Token.split ++ Token.spelled s.pending.reverse ++
        [.parameter ⟨name, "", "", .one, false, .ofList body⟩] := by
  rw [addParameter, List.flatMap_append, flatMap_split_flush, List.flatMap_singleton,
    ← s.reverse_append_lead? (o := o), Token.spelled_append]
  simp [Token.split, parameterOf, Parameter.bare, Quantifier.ofModifier]

/-- The scanners hold the same text, and the same tokens once these are split. -/
structure InStep (s s' : Scanner) : Prop where
  tokens : s'.tokens.flatMap Token.split = s.tokens.flatMap Token.split
  pending : s'.pending = s.pending
  escapedLast : s'.escapedLast = s.escapedLast
  nextIndex : s'.nextIndex = s.nextIndex

theorem InStep.addParameter (h : InStep s s') (name : String) (body : List Char)
    (after : Option Char) :
    InStep (s.addParameter o name (some body) none after)
      (s'.addParameter o' name (some body) none after) where
  tokens := by rw [flatMap_split_addParameter, flatMap_split_addParameter, h.tokens, h.pending]
  pending := rfl
  escapedLast := rfl
  nextIndex := h.nextIndex

/-- Scanners stay in step under any two options. -/
theorem InStep.accept (h : InStep s s') {x : Span} (hx : x.Explicit) (after : Option Char) :
    InStep (s.accept o after x) (s'.accept o' after x) := by
  cases x with
  | plain c => exact ⟨h.tokens, congrArg (c :: ·) h.pending, rfl, h.nextIndex⟩
  | escaped c => exact ⟨h.tokens, congrArg (c :: ·) h.pending, rfl, h.nextIndex⟩
  | named name body modifier =>
    obtain ⟨hbody, rfl⟩ := hx
    obtain ⟨body, rfl⟩ := Option.isSome_iff_exists.1 hbody
    exact h.addParameter (.ofList name) body after
  | unnamed body modifier =>
    obtain rfl : modifier = none := hx
    have hadded : InStep (s.addParameter o (toString s.nextIndex) (some body) none after)
        (s'.addParameter o' (toString s.nextIndex) (some body) none after) :=
      h.addParameter _ body after
    rw [Scanner.accept, Scanner.accept, h.nextIndex]
    exact ⟨hadded.tokens, rfl, rfl, rfl⟩

theorem InStep.scan (h : InStep s s') {spans : List Span} (hspans : ∀ x ∈ spans, x.Explicit)
    (after : Option Char) : InStep (scan o after s spans) (scan o' after s' spans) := by
  induction spans generalizing s s' with
  | nil => exact h
  | cons x spans ih =>
    obtain ⟨hx, hspans⟩ := List.forall_mem_cons.1 hspans
    exact ih (h.accept hx _) hspans

theorem quantifier_accept {x : Span} (hx : x.Explicit) {s : Scanner} {after : Option Char}
    (hs : ∀ p, .parameter p ∈ s.tokens → p.quantifier = .one) :
    ∀ p, .parameter p ∈ (s.accept o after x).tokens → p.quantifier = .one := by
  intro p hp
  cases x with
  | plain c => exact hs p hp
  | escaped c => exact hs p hp
  | named name body modifier =>
    rcases mem_addParameter.1 hp with hp | rfl
    · exact hs p hp
    · rw [hx.2]
      rfl
  | unnamed body modifier =>
    rcases mem_addParameter.1 hp with hp | rfl
    · exact hs p hp
    · obtain rfl : modifier = none := hx
      rfl

end Scanner

/-! ## Explicit templates -/

section

variable {template : String} (h : ∀ x ∈ Span.cut template.toList, x.Explicit)
include h

/-- The tokens of an explicit template are the same ones under any two options, but for the places
where they are cut. -/
theorem Token.flatMap_split_ofTemplate (o o' : Options) :
    (ofTemplate o' template).flatMap split = (ofTemplate o template).flatMap split := by
  have hstart : Scanner.InStep {} {} := ⟨rfl, rfl, rfl, rfl⟩
  have hscan : Scanner.InStep (Scanner.scan o none {} (Span.cut template.toList))
      (Scanner.scan o' none {} (Span.cut template.toList)) := hstart.scan h none
  rw [ofTemplate, ofTemplate, Scanner.finish, Scanner.finish, Scanner.flatMap_split_flush,
    Scanner.flatMap_split_flush, hscan.tokens, hscan.pending]

theorem quantifier_of_explicit {o : Options} {p : Parameter}
    (hp : .parameter p ∈ Token.ofTemplate o template) : p.quantifier = .one :=
  Scanner.forall_scan (s := {}) (fun _ h => absurd h List.not_mem_nil)
    (fun x hx _ _ hs => Scanner.quantifier_accept (h x hx) hs) (Scanner.mem_flush.1 hp)

theorem Source.names_of_explicit (o o' : Options) :
    (ofTokens o' (Token.ofTemplate o' template)).keys.map Parameter.name =
      (ofTokens o (Token.ofTemplate o template)).keys.map Parameter.name := by
  show ((Token.ofTemplate o' template).filterMap _).map _ =
    ((Token.ofTemplate o template).filterMap _).map _
  rw [← Token.names_flatMap_split, Token.flatMap_split_ofTemplate h o o',
    Token.names_flatMap_split]

/-- If a match goes to the end, it does not matter which text is a delimiter there. -/
theorem Source.text_of_explicit {o : Options} (hend : o.matchEnd = true) (delimiters : String) :
    (ofTokens { o with delimiters := delimiters }
        (Token.ofTemplate { o with delimiters := delimiters } template)).text =
      (ofTokens o (Token.ofTemplate o template)).text := by
  have hone : ∀ o p, .parameter p ∈ Token.ofTemplate o template → p.quantifier = .one :=
    fun _ _ hp => quantifier_of_explicit h hp
  have hterminator (delimited delimited' : Bool) :
      terminator { o with delimiters := delimiters } delimited' = terminator o delimited := by
    simp only [terminator, hend, if_true]
    rfl
  simp only [ofTokens]
  rw [hterminator (endsDelimited o (Token.ofTemplate o template).getLast?),
    ← join_flatMap_split (hone _), Token.flatMap_split_ofTemplate h o, join_flatMap_split (hone o)]

/-- The renderers of an explicit template under two options: there is none for the same reason, or
they render the same. -/
theorem Renderer.ofTokens_of_explicit (o o' : Options) :
    (∃ e, ofTokens (Token.ofTemplate o template) = .error e ∧
      ofTokens (Token.ofTemplate o' template) = .error e) ∨
    ∃ r r', ofTokens (Token.ofTemplate o template) = .ok r ∧
      ofTokens (Token.ofTemplate o' template) = .ok r' ∧
      ∀ encode values, r'.renderWith encode values = r.renderWith encode values := by
  have hone (o : Options) {steps : List Step}
      (hm : (Token.ofTemplate o template).mapM Step.ofToken = .ok steps) :
      ∀ p r, .parameter p r ∈ steps → p.quantifier = .one := fun p r hp =>
    quantifier_of_explicit h ((exists_mem_steps_iff (Except.mapM_eq_ok_iff.1 hm)).1 ⟨r, hp⟩)
  -- both renderers are split into the steps of the same tokens
  have hsplit := Step.mapM_ofToken_flatMap_split (Token.ofTemplate o' template)
  rw [Token.flatMap_split_ofTemplate h o o', Step.mapM_ofToken_flatMap_split] at hsplit
  rw [ofTokens, ofTokens]
  cases hm : (Token.ofTemplate o template).mapM Step.ofToken with
  | error e =>
    rw [hm] at hsplit
    exact .inl ⟨e, rfl, Except.map_eq_error_iff.2 (Except.map_eq_error_iff.1 hsplit.symm)⟩
  | ok steps =>
    rw [hm] at hsplit
    obtain ⟨steps', hm', hsteps⟩ := Except.map_eq_ok_iff.1 hsplit.symm
    refine .inr ⟨⟨steps⟩, ⟨steps'⟩, rfl, Except.map_eq_ok_iff.2 ⟨steps', hm', rfl⟩,
      fun encode values => ?_⟩
    rw [renderWith, renderWith, ← Step.renderSteps_flatMap_split (hone o' hm'), hsteps,
      Step.renderSteps_flatMap_split (hone o hm)]

end

theorem Extractor.ofTokens_eq_map (o : Options) (ts : List Token) :
    ofTokens o ts =
      (fun r => ⟨r, (Source.ofTokens o ts).keys⟩) <$> compile o (Source.ofTokens o ts).text := by
  rw [ofTokens]
  cases compile o (Source.ofTokens o ts).text <;> rfl

namespace Template

/-- Options that differ in their delimiters only mean the same for an explicit template: its
pattern, its names, why it cannot be built and, if it can, what it renders. -/
theorem compile_of_explicit {o o' : Options} {template : String}
    (ho : o' = { o with delimiters := o'.delimiters }) (hend : o.matchEnd = true)
    (h : ∀ x ∈ Span.cut template.toList, x.Explicit) :
    (Source.ofTokens o' (Token.ofTemplate o' template)).text =
        (Source.ofTokens o (Token.ofTemplate o template)).text ∧
      (Source.ofTokens o' (Token.ofTemplate o' template)).keys.map Parameter.name =
        (Source.ofTokens o (Token.ofTemplate o template)).keys.map Parameter.name ∧
      ((∃ e, compile o template = .error e ∧ compile o' template = .error e) ∨
        ∃ t t', compile o template = .ok t ∧ compile o' template = .ok t' ∧
          t'.pattern = t.pattern ∧ t'.parameterNames = t.parameterNames ∧
          ∀ encode values, t'.expandWith encode values = t.expandWith encode values) := by
  generalize o'.delimiters = delimiters at ho
  subst ho
  have htext := Source.text_of_explicit h hend delimiters
  have hnames := Source.names_of_explicit h o { o with delimiters := delimiters }
  refine ⟨htext, hnames, ?_⟩
  have hvalid : ({ o with delimiters := delimiters } : Options).validate = o.validate := rfl
  have hregex (pattern : String) :
      Extractor.compile { o with delimiters := delimiters } pattern = Extractor.compile o pattern :=
    rfl
  simp only [compile, Extractor.ofTokens_eq_map, hvalid, hregex, htext]
  cases o.validate with
  | error e => exact .inl ⟨_, rfl, rfl⟩
  | ok _ =>
    rcases Renderer.ofTokens_of_explicit h o { o with delimiters := delimiters } with
      ⟨e, hr, hr'⟩ | ⟨r, r', hr, hr', hrender⟩
    · rw [hr, hr']
      exact .inl ⟨_, rfl, rfl⟩
    · rw [hr, hr']
      cases Extractor.compile o (Source.ofTokens o (Token.ofTemplate o template)).text with
      | error e => exact .inl ⟨_, rfl, rfl⟩
      | ok regex => exact .inr ⟨_, _, rfl, rfl, rfl, hnames, hrender⟩

/-- The leads are slashes or hyphens, and what is a lead under one choice is literal under the
other. -/
theorem compile_of_explicit_of_hyphen :
    ∃ t t', compile {} "/x-:a([a-z]+)/:b(\\d\\d)-(.)" = .ok t ∧
      compile { delimiters := "-" } "/x-:a([a-z]+)/:b(\\d\\d)-(.)" = .ok t' ∧
      Token.ofTemplate { delimiters := "-" } "/x-:a([a-z]+)/:b(\\d\\d)-(.)" ≠
        Token.ofTemplate {} "/x-:a([a-z]+)/:b(\\d\\d)-(.)" ∧
      t'.pattern = t.pattern ∧ t'.parameterNames = t.parameterNames ∧
      ∀ encode values, t'.expandWith encode values = t.expandWith encode values := by
  obtain ⟨-, -, ⟨e, he, -⟩ | ⟨t, t', ht, ht', hsame⟩⟩ :=
    @compile_of_explicit {} { delimiters := "-" } "/x-:a([a-z]+)/:b(\\d\\d)-(.)" rfl rfl
      (by decide +kernel)
  · have hok : (compile {} "/x-:a([a-z]+)/:b(\\d\\d)-(.)").toOption.isSome = true := by
      decide +kernel
    rw [he] at hok
    cases hok
  · exact ⟨t, t', ht, ht', by decide +kernel, hsame⟩

end Template

end RouteTemplate
