import RouteTemplate.Proofs.Regex.Ahead
import RouteTemplate.Proofs.Template.Groups

/-!
What may follow a template, by looking ahead. The pattern of a template consumes the delimiter or
the marker that ends a match; `Options.design` only looks ahead for them, which takes more than the
regular expressions here have. Both accept the same (`design_rests_iff`), so a path is matched, and
its parameters are captured, as if the design stood behind the tokens: `find?_iff_design`.
-/

namespace RouteTemplate

open Regex

/-- What may stand behind a pattern, with look-ahead. -/
inductive Tail
  | nothing
  | text (s : String)
  | textEnd
  | both (a b : Tail)
  | either (a b : Tail)
  | optional (a : Tail)
  | ahead (a : Tail)
  deriving DecidableEq, Repr

instance (o : Options) : DecidableRel o.SameChar :=
  fun _ _ => inferInstanceAs (Decidable (_ ∨ _ ∧ _))

/-- What is left of a text behind one that may stand where a template has `s`. -/
def Options.restsBehind (o : Options) : List Char → List Char → List (List Char)
  | [], l => [l]
  | c :: s, d :: l => if o.SameChar c d then restsBehind o s l else []
  | _ :: _, [] => []

/-- What may be left of a text, preferred rests first. -/
def Tail.rests (o : Options) : Tail → List Char → List (List Char)
  | nothing, l => [l]
  | text s, l => o.restsBehind s.toList l
  | textEnd, l => if l.isEmpty then [l] else []
  | both a b, l => (a.rests o l).flatMap (b.rests o)
  | either a b, l => a.rests o l ++ b.rests o l
  | optional a, l => a.rests o l ++ [l]
  | ahead a, l => if (a.rests o l).isEmpty then [] else [l]

namespace Options

/-- A marker or the end of the text. -/
def designEnd (o : Options) : Tail :=
  o.markers.foldr (fun m t => .either (.text m) t) .textEnd

/-- What may follow the tokens, the last of which ends in a delimiter or does not: a delimiter is
consumed, but nothing else is. -/
def design (o : Options) (delimited : Bool) : Tail :=
  if o.matchEnd then
    .both (if o.strict then .nothing else .optional (.text o.delimiter)) (.ahead o.designEnd)
  else
    .both
      (if o.strict then .nothing else
        .optional (.both (.text o.delimiter) (.ahead o.designEnd)))
      (if delimited then .nothing else .ahead (.either (.text o.delimiter) o.designEnd))

end Options

/-! ## What the design accepts -/

section

variable {o : Options} {a b : Tail} {l r : List Char}

theorem mem_restsBehind_iff {s : List Char} :
    r ∈ o.restsBehind s l ↔ ∃ t, List.Forall₂ o.SameChar s t ∧ l = t ++ r := by
  induction s generalizing l with
  | nil =>
    simp only [Options.restsBehind, List.mem_singleton, List.forall₂_nil_left_iff]
    constructor
    · rintro rfl
      exact ⟨[], rfl, rfl⟩
    · rintro ⟨t, rfl, rfl⟩
      rfl
  | cons c s ih =>
    cases l with
    | nil =>
      simp only [Options.restsBehind, List.not_mem_nil, false_iff]
      rintro ⟨t, ht, hl⟩
      obtain ⟨rfl, -⟩ := List.append_eq_nil_iff.1 hl.symm
      simp at ht
    | cons d l =>
      rw [Options.restsBehind]
      constructor
      · intro hr
        split at hr
        next hc =>
          obtain ⟨t, ht, rfl⟩ := ih.1 hr
          exact ⟨d :: t, .cons hc ht, rfl⟩
        next => exact absurd hr List.not_mem_nil
      · rintro ⟨t, ht, hl⟩
        cases ht with
        | cons hc ht =>
          obtain ⟨rfl, rfl⟩ := List.cons.inj hl
          rw [if_pos hc]
          exact ih.2 ⟨_, ht, rfl⟩

/-- Something with a property may be left of a text. -/
def Tail.Leaves (o : Options) (a : Tail) (l : List Char) (P : List Char → Prop) : Prop :=
  ∃ r ∈ a.rests o l, P r

namespace Tail

variable {P : List Char → Prop}

theorem leaves_nothing : nothing.Leaves o l P ↔ P l := by simp [Leaves, rests]

theorem leaves_text {s : String} : (text s).Leaves o l P ↔
    ∃ t r, o.SameText s t ∧ String.ofList l = t ++ r ∧ P r.toList := by
  simp only [Leaves, rests, mem_restsBehind_iff]
  constructor
  · rintro ⟨r, ⟨t, ht, rfl⟩, hr⟩
    refine ⟨.ofList t, .ofList r, ?_, String.ofList_append, by rwa [String.toList_ofList]⟩
    rwa [Options.SameText, String.toList_ofList]
  · rintro ⟨t, r, ht, hl, hr⟩
    exact ⟨r.toList, ⟨t.toList, ht, by simpa using congrArg String.toList hl⟩, hr⟩

theorem leaves_textEnd : textEnd.Leaves o l P ↔ l = [] ∧ P l := by
  cases l with
  | nil => simp [Leaves, rests]
  | cons c l => simp [Leaves, rests]

theorem leaves_both : (both a b).Leaves o l P ↔ a.Leaves o l fun k => b.Leaves o k P := by
  simp only [Leaves, rests, List.mem_flatMap]
  constructor
  · rintro ⟨r, ⟨k, hk, hr⟩, hP⟩
    exact ⟨k, hk, r, hr, hP⟩
  · rintro ⟨k, hk, r, hr, hP⟩
    exact ⟨r, ⟨k, hk, hr⟩, hP⟩

theorem leaves_either : (either a b).Leaves o l P ↔ a.Leaves o l P ∨ b.Leaves o l P := by
  simp only [Leaves, rests, List.mem_append, or_and_right, exists_or]

theorem leaves_optional : (optional a).Leaves o l P ↔ a.Leaves o l P ∨ P l := by
  simp [Leaves, rests, or_and_right, exists_or]

theorem leaves_ahead : (ahead a).Leaves o l P ↔ a.Leaves o l (fun _ => True) ∧ P l := by
  simp only [Leaves, rests, and_true]
  cases a.rests o l with
  | nil => simp
  | cons r rs => simp

theorem rests_ne_nil_iff : a.rests o l ≠ [] ↔ a.Leaves o l fun _ => True := by
  constructor
  · intro h
    obtain ⟨r, hr⟩ := List.exists_mem_of_ne_nil _ h
    exact ⟨r, hr, trivial⟩
  · rintro ⟨r, hr, -⟩
    exact List.ne_nil_of_mem hr

end Tail

theorem leaves_designEnd : o.designEnd.Leaves o l (fun _ => True) ↔ o.AtEnd (.ofList l) := by
  have hempty : String.ofList l = "" ↔ l = [] := by
    rw [← String.toList_inj, String.toList_ofList, String.toList_empty]
  have hmarkers (ms : List String) :
      (ms.foldr (fun m t => Tail.either (.text m) t) .textEnd).Leaves o l (fun _ => True) ↔
        l = [] ∨ ∃ m ∈ ms, ∃ s r, o.SameText m s ∧ String.ofList l = s ++ r := by
    induction ms with
    | nil => simp [Tail.leaves_textEnd]
    | cons m ms ih =>
      simp only [List.foldr_cons, Tail.leaves_either, Tail.leaves_text, ih, and_true,
        List.exists_mem_cons_iff]
      exact or_left_comm
  rw [Options.AtEnd, hempty]
  exact hmarkers o.markers

/-- The design accepts what may follow. -/
theorem design_rests_iff (o : Options) (delimited : Bool) (l : List Char) :
    (o.design delimited).rests o l ≠ [] ↔ o.Ends delimited (.ofList l) := by
  rw [Tail.rests_ne_nil_iff]
  unfold Options.design Options.Ends
  cases o.matchEnd with
  | true =>
    cases o.strict with
    | true =>
      simp [Tail.leaves_both, Tail.leaves_nothing, Tail.leaves_ahead, leaves_designEnd]
    | false =>
      simp [Tail.leaves_both, Tail.leaves_optional, Tail.leaves_text, Tail.leaves_ahead,
        leaves_designEnd, or_comm]
  | false =>
    -- whoever looks ahead for the delimiter sees it whether or not the end is behind it
    have honward (k : List Char) : (if delimited then Tail.nothing else
        .ahead (.either (.text o.delimiter) o.designEnd)).Leaves o k (fun _ => True) ↔
        delimited = true ∨ o.AtEnd (.ofList k) ∨
          ∃ s r, o.SameText o.delimiter s ∧ String.ofList k = s ++ r := by
      cases delimited with
      | true => simp [Tail.leaves_nothing]
      | false =>
        simp [Tail.leaves_ahead, Tail.leaves_either, Tail.leaves_text, leaves_designEnd, or_comm]
    simp only [Bool.false_eq_true, if_false]
    rw [Tail.leaves_both, ← honward]
    cases o.strict with
    | true =>
      rw [if_pos rfl]
      exact Tail.leaves_nothing
    | false =>
      rw [if_neg Bool.false_ne_true, Tail.leaves_optional, Tail.leaves_both, Tail.leaves_text]
      constructor
      · rintro (⟨s, r, hs, hl, -⟩ | h)
        · exact (honward l).2 (.inr (.inr ⟨s, r, hs, hl⟩))
        · exact h
      · exact .inr

end

/-! ## The tokens in front -/

/-- The pattern of a template without its end. -/
def bodyText (ts : List Token) : String := "^" ++ String.join (ts.map Source.token)

/-- What the pattern of a template without its end is read as. -/
def bodyItems (f : Flags) (ts : List Token) : List Item :=
  { expr := .look .textStart } :: Token.itemsFrom f 1 ts

section

variable {f : Flags} {o : Options} {ts : List Token}

theorem height_sequence_append_left (items more : List Item) :
    (Regex.sequence items).height ≤ (Regex.sequence (items ++ more)).height := by
  have hmax (l m : List Nat) : l.foldr max 0 ≤ (m ++ l).foldr max 0 := by
    induction m with
    | nil => exact Nat.le_refl _
    | cons n m ih => exact Nat.le_trans ih (Nat.le_max_right _ _)
  unfold Regex.sequence Level.branch
  simp only [List.reverse_append, List.map_append, List.length_append, List.length_reverse]
  have := hmax (items.reverse.map Item.height) (more.reverse.map Item.height)
  split <;> split <;> omega

theorem sourceItems_eq (f : Flags) (o : Options) (ts : List Token) : sourceItems f o ts =
    bodyItems f ts ++ o.terminatorItems f (Source.endsDelimited o ts.getLast?) := rfl

/-- If the pattern of a template can be read, so can what stands in front of its end. -/
theorem read_body (hv : f.verbose = false) (hm : f.multiLine = false)
    (hts : ∀ p, .parameter p ∈ ts → p.Readable f) {e : Expr}
    (he : Expr.read f (Source.ofTokens o ts).text.toList = .ok e) :
    Expr.read f (bodyText ts).toList = .ok (.seq ((bodyItems f ts).map Item.expr)) := by
  obtain ⟨hheight, -⟩ := (read_source hv hm hts).1 he
  obtain ⟨g, htokens⟩ := exists_readsAs_tokens hv hts 1
  have hbody := (ReadsAs.lineStart hv hm 1).append htokens
  refine (Expr.read_reads hbody.1).2 ⟨?_, rfl⟩
  rw [sourceItems_eq] at hheight
  exact Nat.le_trans (height_sequence_append_left _ _) hheight

end

/-- Options that differ in the order and repetition of the markers and, if a match need not go to
the end, in strictness. -/
structure Options.EndAlike (o o' : Options) : Prop where
  caseSensitive : o'.caseSensitive = o.caseSensitive
  matchEnd : o'.matchEnd = o.matchEnd
  delimiter : o'.delimiter = o.delimiter
  delimiters : o'.delimiters = o.delimiters
  strict : o'.strict = o.strict ∨ o.matchEnd = false
  markers : ∀ m, m ∈ o'.markers ↔ m ∈ o.markers

section

variable {o o' : Options}

theorem Options.EndAlike.ends_iff (h : o.EndAlike o') (delimited : Bool) (t : String) :
    o'.Ends delimited t ↔ o.Ends delimited t := by
  have hend : o'.AtEnd = o.AtEnd := by
    funext t
    simp only [AtEnd, sameText_congr h.caseSensitive, h.markers]
  unfold Ends
  rw [h.matchEnd, h.delimiter, sameText_congr h.caseSensitive, hend]
  cases hm : o.matchEnd with
  | true =>
    have hs : o'.strict = o.strict := h.strict.resolve_right (by rw [hm]; decide)
    rw [hs]
  | false => rfl

end

theorem Extractor.extract_congr {x y : Extractor} {path : String} (hkeys : y.keys = x.keys)
    (hmatch : y.isMatch path = x.isMatch path)
    (hgroups : ∀ c c', x.regex.find? path = some c → y.regex.find? path = some c' →
      ∀ i, c'.group? (i + 1) = c.group? (i + 1)) : y.extract path = x.extract path := by
  unfold extract extractWith
  rw [isMatch, isMatch, Regex.isMatch, Regex.isMatch] at hmatch
  cases hx : x.regex.find? path with
  | none =>
    rw [hx, Option.isSome_none, Option.isSome_eq_false_iff, Option.isNone_iff_eq_none] at hmatch
    rw [hmatch]
  | some c =>
    rw [hx] at hmatch
    obtain ⟨c', hy⟩ := Option.isSome_iff_exists.1 hmatch
    have hbind : bind id c' = bind id c := by
      funext ps key
      rw [bind, bind, hgroups c c' hx hy]
    rw [hy, hkeys]
    simp only
    rw [hbind]

namespace Template

variable {o o' : Options} {text : String} {t t' : Template}

/-- What stands in front of the end of the pattern takes what it takes in front of whatever accepts
the same as that end. -/
theorem Compiled.find?_body (h : t.Compiled) {after : List Char → List (List Char)}
    (hafter : ∀ l, after l ≠ [] ↔
      t.options.Ends (Source.endsDelimited t.options t.tokens.getLast?) (.ofList l))
    (path : String) :
    (t.isMatch path = true ↔
      ∃ ms, (Expr.seq ((bodyItems t.options.flags t.tokens).map Item.expr)).FoundBefore after
        path.toList ms) ∧
    ∀ c, t.extractor.regex.find? path = some c →
      ∃ ms, (Expr.seq ((bodyItems t.options.flags t.tokens).map Item.expr)).FoundBefore after
        path.toList ms ∧ ∀ i, c.group? (i + 1) = (⟨path.toList, ms⟩ : Captures).group? (i + 1) := by
  obtain ⟨-, he⟩ :=
    (RouteTemplate.read_source rfl rfl fun p hp => h.readable hp).1 h.read_source
  rw [sourceItems_eq, List.map_append, Expr.seq, List.flatMap_append] at he
  let tail := ((t.options.terminatorItems t.options.flags
    (Source.endsDelimited t.options t.tokens.getLast?)).map Item.expr).flatMap Expr.pieces
  have hwalks : Expr.walks path.toList tail = t.options.terminatorWalk t.options.flags path.toList
      (Source.endsDelimited t.options t.tokens.getLast?) := by
    rw [Expr.walks_flatMap_pieces, walks_terminatorItems]
  refine find?_ofPieces_append he (List.cons_ne_nil _ _) ?_ fun k hk => ?_
  · rw [hwalks]
    exact quiet_terminatorWalk t.options path.toList _
  · rw [hwalks, hafter, terminatorWalk_iff t.options _ hk]

/-- A template matches a path, and its groups take what they take, as if the design of its end stood
behind its tokens. Neither changes with the order of the markers, nor if some are repeated, nor with
strictness if a match need not go to the end. -/
theorem find?_iff_design (h : Template.compile o text = .ok t) :
    ∃ body, Expr.read o.flags (bodyText t.tokens).toList = .ok body ∧ ∀ path,
      (t.isMatch path = true ↔ ∃ ms, body.FoundBefore
        ((o.design (Source.endsDelimited o t.tokens.getLast?)).rests o) path.toList ms) ∧
      (∀ c ms, t.extractor.regex.find? path = some c → body.FoundBefore
        ((o.design (Source.endsDelimited o t.tokens.getLast?)).rests o) path.toList ms →
        ∀ i, c.group? (i + 1) = (⟨path.toList, ms⟩ : Captures).group? (i + 1)) ∧
      ∀ o' t', Template.compile o' text = .ok t' → o.EndAlike o' →
        t'.isMatch path = t.isMatch path ∧
        (∀ c c', t.extractor.regex.find? path = some c → t'.extractor.regex.find? path = some c' →
          ∀ i, c'.group? (i + 1) = c.group? (i + 1)) ∧
        t'.extract path = t.extract path := by
  obtain ⟨hc, rfl, rfl⟩ := compiled_of_compile h
  let delimited := Source.endsDelimited t.options t.tokens.getLast?
  refine ⟨_, read_body rfl rfl (fun p hp => hc.readable hp) hc.read_source, fun path => ?_⟩
  obtain ⟨hmatch, hgroups⟩ :=
    hc.find?_body (fun l => design_rests_iff t.options delimited l) path
  refine ⟨hmatch, fun c ms hfind hms i => ?_, fun o' t' h' halike => ?_⟩
  · obtain ⟨ns, hns, hc⟩ := hgroups c hfind
    rw [hns.unique hms] at hc
    exact hc i
  · obtain ⟨hc', rfl, htext⟩ := compiled_of_compile h'
    have htokens : t'.tokens = t.tokens := by
      rw [hc'.tokens_eq, hc.tokens_eq, htext,
        Token.ofTemplate_congr halike.delimiter halike.delimiters]
    have hflags : t'.options.flags = t.options.flags := by
      rw [Options.flags, Options.flags, halike.caseSensitive]
    have hends (l : List Char) : (t.options.design delimited).rests t.options l ≠ [] ↔
        t'.options.Ends (Source.endsDelimited t'.options t'.tokens.getLast?) (.ofList l) := by
      rw [design_rests_iff, htokens, Source.endsDelimited_congr halike.delimiters, halike.ends_iff]
    obtain ⟨hmatch', hgroups'⟩ := hc'.find?_body hends path
    rw [htokens, hflags, ← hmatch] at hmatch'
    have hsame : ∀ c c', t.extractor.regex.find? path = some c →
        t'.extractor.regex.find? path = some c' → ∀ i, c'.group? (i + 1) = c.group? (i + 1) := by
      intro c c' hfind hfind' i
      obtain ⟨ms, hms, hcap⟩ := hgroups c hfind
      obtain ⟨ns, hns, hcap'⟩ := hgroups' c' hfind'
      rw [htokens, hflags] at hns
      rw [hcap', hcap, hns.unique hms]
    have hkeys : t'.extractor.keys = t.extractor.keys := by
      rw [← Template.keys, ← Template.keys, hc'.keys_eq, hc.keys_eq, htokens]
    have hisMatch : t'.isMatch path = t.isMatch path := Bool.eq_iff_iff.2 hmatch'
    exact ⟨hisMatch, hsame, Extractor.extract_congr hkeys hisMatch hsame⟩

theorem find?_iff_design_of_markers :
    ∃ t t', Template.compile { endsWith := some ["#", "?"] } "/:file.:ext?" = .ok t ∧
      Template.compile { endsWith := some ["?", "#", "?"] } "/:file.:ext?" = .ok t' ∧
      t.isMatch "/a.b?c" = true ∧ t'.extract "/a.b?c" = t.extract "/a.b?c" := by
  obtain ⟨t, ht, hm⟩ := exists_of_compile { endsWith := some ["#", "?"] } "/:file.:ext?"
    (p := fun t => t.isMatch "/a.b?c" = true) (by decide +kernel)
  obtain ⟨t', ht', -⟩ := exists_of_compile { endsWith := some ["?", "#", "?"] } "/:file.:ext?"
    (p := fun _ => True) (by decide +kernel)
  have halike : Options.EndAlike { endsWith := some ["#", "?"] }
      { endsWith := some ["?", "#", "?"] } := by
    refine ⟨rfl, rfl, rfl, rfl, .inl rfl, fun m => ?_⟩
    simp only [Options.markers, Option.getD_some, List.mem_cons, List.not_mem_nil, or_false]
    exact ⟨fun h => h.elim .inr id, .inr⟩
  obtain ⟨body, -, hbody⟩ := find?_iff_design ht
  obtain ⟨-, -, hsame⟩ := hbody "/a.b?c"
  exact ⟨t, t', ht, ht', hm, (hsame _ t' ht' halike).2.2⟩

/-- A pattern that cannot be read by itself may change how the end of the whole pattern is read:
here the end of a line takes the place of the end of the text. -/
theorem not_foundBefore_of_multiLine :
    ∃ x body, Extractor.ofTokens { caseSensitive := true }
        (Token.ofTemplate { caseSensitive := true } "(?m)a") = .ok x ∧
      x.isMatch "a\nb" = true ∧
      Expr.read { ignoreCase := false }
        (bodyText (Token.ofTemplate { caseSensitive := true } "(?m)a")).toList = .ok body ∧
      ¬ ∃ ms, body.FoundBefore ((Options.design { caseSensitive := true }
        (Source.endsDelimited { caseSensitive := true }
          (Token.ofTemplate { caseSensitive := true } "(?m)a").getLast?)).rests
            { caseSensitive := true }) "a\nb".toList ms := by
  refine ⟨_, .cat (.look .textStart) (.char 'a'), rfl, by decide +kernel, rfl, ?_⟩
  rintro ⟨ms, hms⟩
  obtain ⟨i, k, ns, hi, ⟨j, _, _, hstart, ⟨-, rfl, -⟩, -⟩, hafter⟩ := hms.exists_walk
  obtain ⟨rfl, rfl, -⟩ := (Expr.walk_textStart_iff hi).1 hstart
  exact hafter (by decide +kernel)

end Template

end RouteTemplate
