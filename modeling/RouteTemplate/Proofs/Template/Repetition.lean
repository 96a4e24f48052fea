import Mathlib.Data.List.Chain
import RouteTemplate.Proofs.Regex.Picking
import RouteTemplate.Proofs.Template.Groups
import RouteTemplate.Proofs.Template.RoundTrip

/-!
Extracting rendered lists. A path can be cut at a repeated parameter in more than one way, since
what follows the template may begin with a joiner just as the rest of the list does. But the group
of the parameter goes on as long as there are items (`Parameter.Separated.pick_items`), and no
parameter in front of it can take anything else than its value (`EndsInList.exists_pick_front`). So
what is found has the whole list: `Template.extract_expand_list`.
-/

namespace RouteTemplate

open Regex
open Regex.PatternText (readBody)

/-! ## Expressions of a repeated parameter -/

/-- A parameter that takes values apart by the character that leads it. -/
structure Parameter.Separated (p : Parameter) (d : Char) : Prop where
  lead_eq : p.lead = String.singleton d
  joiner_eq : p.joiner = String.singleton d
  otherCases_eq : Unicode.otherCases d = []
  repeats : p.isRepeating = true
  pattern_eq : p.pattern = defaultPattern p.joiner

section

variable {o : Options} {p : Parameter} {d : Char} {text : List Char}

theorem exists_set_of_literal (o : Options) (hd : Unicode.otherCases d = []) :
    ∃ u s, o.flags.literal d = .set u s ∧ ∀ c, s.contains c = true ↔ c = d := by
  refine ⟨_, o.flags.fold (.single d), rfl, fun c => ?_⟩
  rw [contains_literal]
  exact ⟨fun h => h.eq hd, fun h => .inl h⟩

theorem exists_set_of_value (o : Options) (hpattern : p.pattern = defaultPattern p.joiner)
    (hjoiner : p.joiner = String.singleton d) (hd : Unicode.otherCases d = []) :
    ∃ u s, (p.value o.flags).expr = .rep ⟨1, none⟩ false (.set u s) ∧
      ∀ c, s.contains c = true ↔ c ≠ d := by
  obtain ⟨height, -, hread⟩ := readBody_defaultPattern (f := o.flags) rfl rfl
    (hjoiner ▸ Scanner.singleton_ne_empty d)
  rw [← hpattern] at hread
  rw [value_eq hread, hjoiner, String.toList_singleton]
  refine ⟨_, _, rfl, fun c => ?_⟩
  rw [Options.flags, contains_outside_fold_gathered_iff, List.mem_singleton]
  · exact .inr fun c hc => List.mem_singleton.1 hc ▸ hd
  · rw [List.mem_singleton, List.mem_singleton]
    exact ne_or_ne_beside_surrogates d

theorem Parameter.Separated.literals_eq (hp : p.Separated d) (f : Flags) :
    literals f p.lead = [{ expr := f.literal d }] := by
  rw [literals, hp.lead_eq, String.toList_singleton, List.map_singleton]

/-- What the group of a repeated parameter is read as. -/
theorem Parameter.Separated.exists_captured (hp : p.Separated d) (o : Options) :
    ∃ u s v s', o.flags.literal d = .set u s ∧ (∀ c, s.contains c = true ↔ c = d) ∧
      (∀ c, s'.contains c = true ↔ c ≠ d) ∧
      (p.captured o.flags).expr = .seq [.rep ⟨1, none⟩ false (.set v s'),
        .rep ⟨0, none⟩ true (.seq [.set u s, .rep ⟨1, none⟩ false (.set v s')])] := by
  obtain ⟨u, s, hliteral, hs⟩ := exists_set_of_literal o hp.otherCases_eq
  obtain ⟨v, s', hvalue, hs'⟩ := exists_set_of_value o hp.pattern_eq hp.joiner_eq hp.otherCases_eq
  refine ⟨u, s, v, s', hliteral, hs, hs', ?_⟩
  have hmore : (Regex.sequence (literals o.flags p.lead ++ [(p.value o.flags).enclosed])).expr =
      .seq [.set u s, .rep ⟨1, none⟩ false (.set v s')] := by
    rw [expr_sequence, hp.literals_eq, ← hvalue, ← hliteral]
    rfl
  rw [captured, if_pos hp.repeats, expr_sequence]
  simp only [List.map_cons, List.map_nil, Item.expr_repeated, Item.expr_enclosed, hmore, hvalue]
  rw [Expr.repeated_star (by rw [Expr.zeroWidth_seq]; rfl)]
  rfl

/-- The group of a repeated parameter takes all of a joined list. -/
theorem Parameter.Separated.pick_captured (hp : p.Separated d) {live : Nat → Prop} {i : Nat}
    {w : List Char} {ws : List (List Char)} (hdrop : text.drop i = w ++ ws.flatMap (d :: ·))
    (hws : ∀ x ∈ w :: ws, x ≠ [] ∧ d ∉ x)
    (hlive : ∀ k c, text[k]? = some c → live k → ∀ x ∈ w :: ws, c ∉ x) :
    (p.captured o.flags).expr.pick text live i (i + (w ++ ws.flatMap (d :: ·)).length) [] := by
  obtain ⟨u, s, v, s', -, hs, hs', hexpr⟩ := hp.exists_captured o
  have hchars : ∀ x ∈ w :: ws, x ≠ [] ∧ ∀ c ∈ x, s'.contains c = true := fun x hx =>
    ⟨(hws x hx).1, fun c hc => (hs' c).2 fun h => (hws x hx).2 (h ▸ hc)⟩
  obtain ⟨e, he⟩ : ∃ e, e = Expr.seq [.set u s, .rep ⟨1, none⟩ false (.set v s')] := ⟨_, rfl⟩
  -- the rest can match behind a value only, at a character that no value holds
  have hstar : ∀ k c, text[k]? = some c → ((e.walk text).some fun _ => True).Leads live k →
      ∀ x ∈ w :: ws, c ∉ x := by
    intro k c hk hl
    rcases Expr.leads_some_iff.1 hl with hl | ⟨l, ms, hw, -⟩
    · exact hlive k c hk hl
    · rw [he, Expr.walk_seq] at hw
      obtain ⟨-, -, -, ⟨⟨c', hc', hsep⟩, -⟩, -⟩ := hw
      obtain rfl := Option.some.inj (hk.symm.trans hc')
      exact fun x hx => (hs c).1 hsep ▸ (hws x hx).2
  have hfirst := Expr.pick_lazySet (u := v) hdrop (hchars w (List.mem_cons_self ..)).1
    (hchars w (List.mem_cons_self ..)).2 fun k c hk hl => hstar k c hk hl w (List.mem_cons_self ..)
  have hrest : text.drop (i + w.length) = ws.flatMap (d :: ·) := by
    rw [← List.drop_drop, hdrop, List.drop_left]
  have hmore := Expr.pickAny_runs hrest ((hs d).2 rfl)
    (fun x hx => hchars x (List.mem_cons_of_mem _ hx)) he fun k c hk hl x hx =>
      hstar k c hk hl x (List.mem_cons_of_mem _ hx)
  rw [hexpr, Expr.pick_seq, Expr.pickAll, Expr.pickAll_singleton, List.length_append,
    ← Nat.add_assoc, ← he]
  refine ⟨_, [], [], ?_, ⟨_, [], [], ⟨rfl, rfl⟩, hmore, rfl⟩, rfl⟩
  rw [Expr.walks_singleton, Expr.walk, Walk.some_admits_star]
  exact hfirst

/-- The group of a repeated parameter stands behind its lead; it may be optional, by itself or
together with the lead. -/
theorem Parameter.Separated.items_cases (hp : p.Separated d) (o : Options) (g : Nat) :
    let lead := o.flags.literal d
    let group := Expr.group g (p.captured o.flags).expr
    (p.items o.flags g).map Item.expr = [lead, group] ∨
      (p.items o.flags g).map Item.expr = [lead, .rep ⟨0, some 1⟩ true group] ∨
      (p.items o.flags g).map Item.expr = [.rep ⟨0, some 1⟩ true (.seq [lead, group])] := by
  intro lead group
  obtain ⟨u, s, _, _, hliteral, -, -, hexpr⟩ := hp.exists_captured o
  have hgroup : group.zeroWidth = false := by
    show (p.captured o.flags).expr.zeroWidth = false
    rw [hexpr, Expr.zeroWidth_seq]
    rfl
  have hseq : (Expr.seq [lead, group]).zeroWidth = false := by
    rw [Expr.zeroWidth_seq, show lead = _ from hliteral]
    rfl
  unfold items
  rw [hp.literals_eq]
  split
  · split
    · refine .inr (.inl ?_)
      rw [← Expr.repeated_optional hgroup]
      rfl
    · refine .inr (.inr ?_)
      rw [← Expr.repeated_optional hseq, List.map_singleton, Item.expr_optional, Item.expr_enclosed,
        expr_sequence]
      rfl
  · exact .inl rfl

/-- A repeated parameter takes its lead and all of a joined list. -/
theorem Parameter.Separated.pick_items (hp : p.Separated d) (g : Nat) {live : Nat → Prop}
    {i j : Nat} {w : List Char} {ws : List (List Char)}
    (hdrop : text.drop i = d :: (w ++ ws.flatMap (d :: ·)))
    (hj : j = i + 1 + (w ++ ws.flatMap (d :: ·)).length)
    (hws : ∀ x ∈ w :: ws, x ≠ [] ∧ d ∉ x)
    (hlive : ∀ k c, text[k]? = some c → live k → ∀ x ∈ w :: ws, c ∉ x) :
    Expr.pickAll text ((p.items o.flags g).map Item.expr) live i j
      [(2 * g + 1, j), (2 * g, i + 1)] := by
  obtain ⟨hi, hdrop⟩ := Expr.drop_eq_cons_iff.1 hdrop
  obtain ⟨u, s, hliteral, hs⟩ := exists_set_of_literal o hp.otherCases_eq
  have hlead (live : Nat → Prop) : (o.flags.literal d).pick text live i (i + 1) [] := by
    rw [hliteral]
    exact ⟨⟨d, hi, (hs d).2 rfl⟩, rfl, rfl⟩
  have hgroup : (Expr.group g (p.captured o.flags).expr).pick text live (i + 1) j
      [(2 * g + 1, j), (2 * g, i + 1)] :=
    ⟨[], hj ▸ hp.pick_captured hdrop hws hlive, rfl⟩
  rcases hp.items_cases o g with h | h | h
  · rw [h, Expr.pickAll, Expr.pickAll_singleton]
    exact ⟨i + 1, [], _, hlead _, hgroup, (List.append_nil _).symm⟩
  · rw [h, Expr.pickAll, Expr.pickAll_singleton, Expr.pick_optional]
    exact ⟨i + 1, [], _, hlead _, .inl hgroup, (List.append_nil _).symm⟩
  · rw [h, Expr.pickAll_singleton, Expr.pick_optional, Expr.pick_seq, Expr.pickAll,
      Expr.pickAll_singleton]
    exact .inl ⟨i + 1, [], _, hlead _, hgroup, (List.append_nil _).symm⟩

end

/-! ## Before and behind -/

section

variable {o : Options} {f : Flags} {ts : List Token}

theorem advances_literals {text : String} {i : Item} (hi : i ∈ literals f text) :
    i.expr.advances = true := by
  obtain ⟨c, -, rfl⟩ := List.mem_map.1 hi
  rfl

theorem advances_items {p : Parameter} (hv : f.verbose = false) (hu : f.unicode = true)
    (hone : p.quantifier = .one) (hpattern : p.pattern = defaultPattern p.joiner)
    (hjoiner : p.joiner ≠ "") (g : Nat) : ∀ i ∈ p.items f g, i.expr.advances = true := by
  obtain ⟨height, -, hread⟩ := readBody_defaultPattern hv hu hjoiner
  rw [← hpattern] at hread
  have hoptional : p.isOptional = false := by rw [Parameter.isOptional, hone]; rfl
  have hrepeating : p.isRepeating = false := by rw [Parameter.isRepeating, hone]; rfl
  intro i hi
  rw [Parameter.items, hoptional, Parameter.captured, hrepeating, value_eq hread] at hi
  rcases List.mem_append.1 hi with hi | hi
  · exact advances_literals hi
  · obtain rfl := List.mem_singleton.1 hi
    rfl

theorem advances_itemsFrom (hv : f.verbose = false) (hu : f.unicode = true)
    (hts : ∀ p, .parameter p ∈ ts →
      p.quantifier = .one ∧ p.pattern = defaultPattern p.joiner ∧ p.joiner ≠ "") (g : Nat) :
    ∀ i ∈ Token.itemsFrom f g ts, i.expr.advances = true := by
  induction ts generalizing g with
  | nil => exact fun i hi => absurd hi List.not_mem_nil
  | cons t ts ih =>
    intro i hi
    rcases List.mem_append.1 hi with hi | hi
    · cases t with
      | literal text => exact advances_literals hi
      | parameter p =>
        obtain ⟨hone, hpattern, hjoiner⟩ := hts p (List.mem_cons_self ..)
        exact advances_items hv hu hone hpattern hjoiner g i hi
    · exact ih (fun p hp => hts p (List.mem_cons_of_mem _ hp)) _ i hi

theorem advances_terminatorItems (hd : o.delimiter = "/") (hmarkers : o.markers = []) :
    ∀ e ∈ (o.terminatorItems o.flags false).map Item.expr, e.advances = true := by
  have hall (caseSensitive strict matchEnd : Bool) :
      ∀ e ∈ (Options.terminatorItems (caseFlags caseSensitive)
        { strict := strict, matchEnd := matchEnd } false).map Item.expr, e.advances = true := by
    cases caseSensitive <;> cases strict <;> cases matchEnd <;> decide
  have hsame : o.terminatorItems o.flags false = Options.terminatorItems (caseFlags o.caseSensitive)
      { strict := o.strict, matchEnd := o.matchEnd } false := by
    simp only [Options.terminatorItems, Options.endItems, hd, hmarkers, Options.flags]
    rfl
  rw [hsame]
  exact hall o.caseSensitive o.strict o.matchEnd

theorem itemsFrom_append (g : Nat) (ts us : List Token) :
    Token.itemsFrom f g (ts ++ us) = Token.itemsFrom f g ts ++
      Token.itemsFrom f (g + (ts.filterMap Token.parameter?).length) us := by
  induction ts generalizing g with
  | nil => rfl
  | cons t ts ih =>
    rw [List.cons_append, Token.itemsFrom, ih, Token.itemsFrom, List.append_assoc]
    cases t with
    | literal text => rfl
    | parameter p =>
      rw [show Token.groups (.parameter p) = 1 from rfl, Nat.add_assoc, Nat.add_comm 1]
      rfl

end

theorem Renders.exists_append {encode : String → String} {values : Values} {ts us : List Token}
    {b : String} (h : Renders encode values (ts ++ us) b) :
    ∃ b₁ b₂, b = b₁ ++ b₂ ∧ Renders encode values ts b₁ ∧ Renders encode values us b₂ := by
  induction ts generalizing b with
  | nil => exact ⟨"", b, String.empty_append.symm, .nil, h⟩
  | cons t ts ih =>
    cases h with
    | literal h =>
      obtain ⟨b₁, b₂, rfl, h₁, h₂⟩ := ih h
      exact ⟨_, b₂, (String.append_assoc ..).symm, .literal h₁, h₂⟩
    | parameter hp h =>
      obtain ⟨b₁, b₂, rfl, h₁, h₂⟩ := ih h
      exact ⟨_, b₂, (String.append_assoc ..).symm, .parameter hp h₁, h₂⟩

theorem Renders.of_singleton {encode : String → String} {values : Values} {p : Parameter}
    {b : String} (h : Renders encode values [.parameter p] b) :
    p.Renders encode (values.lookup p.name) b := by
  cases h with
  | parameter hp hnil =>
    cases hnil
    rwa [String.append_empty]

/-! ## Joined lists -/

theorem toList_intercalate_singleton (d : Char) (x : String) (xs : List String) :
    ((String.singleton d).intercalate (x :: xs)).toList =
      x.toList ++ (xs.map String.toList).flatMap (d :: ·) := by
  induction xs generalizing x with
  | nil => simp
  | cons y ys ih => rw [String.intercalate_cons_cons]; simp [ih]

section

variable {o : Options} {p : Parameter} {d : Char} {text : List Char} {r : Regex}

theorem Parameter.Separated.accepts_iff (hp : p.Separated d)
    (hr : Regex.compile true ("^(?:" ++ p.pattern ++ ")$") = .ok r) {caseSensitive : Bool}
    {w : String} : p.Accepts caseSensitive w ↔ w ≠ "" ∧ d ∉ w.toList :=
  p.accepts_defaultPattern_singleton_iff (hp.joiner_eq ▸ hp.pattern_eq) hr (.inr hp.otherCases_eq) w

/-- A list is rendered as its words, the first behind the lead and each other behind a joiner. -/
theorem Parameter.Separated.exists_words (hp : p.Separated d)
    (hr : Regex.compile true ("^(?:" ++ p.pattern ++ ")$") = .ok r) {encode : String → String}
    {items : List String} (hne : items ≠ []) {s : String}
    (h : p.Renders encode (some (.list items)) s) :
    s = p.lead ++ p.lead.intercalate (items.map encode) ∧
      ∃ w ws, items.map (fun x => (encode x).toList) = w :: ws ∧
        (∀ x ∈ w :: ws, x ≠ [] ∧ d ∉ x) ∧
          (p.lead.intercalate (items.map encode)).toList = w ++ ws.flatMap (d :: ·) := by
  cases h with
  | emptied => exact absurd rfl hne
  | list _ _ hitems =>
    rw [hp.joiner_eq, ← hp.lead_eq]
    refine ⟨rfl, ?_⟩
    cases items with
    | nil => exact absurd rfl hne
    | cons x xs =>
      refine ⟨_, _, List.map_cons, fun y hy => ?_, ?_⟩
      · rw [← List.map_cons (f := fun x => (encode x).toList)] at hy
        obtain ⟨z, hz, rfl⟩ := List.mem_map.1 hy
        obtain ⟨hne, hd⟩ := (hp.accepts_iff hr).1 (hitems z hz)
        exact ⟨fun h => hne (String.toList_inj.1 h), hd⟩
      · rw [hp.lead_eq, List.map_cons, toList_intercalate_singleton, List.map_map]
        rfl

/-- The end of the pattern matches exactly where what is left of the text may follow. -/
theorem leads_terminatorItems_iff (o : Options) (delimited : Bool) {k : Nat}
    (hk : k ≤ text.length) :
    (Expr.walks text ((o.terminatorItems o.flags delimited).map Item.expr)).Leads (fun _ => True)
        k ↔ o.Ends delimited (.ofList (text.drop k)) := by
  rw [walks_terminatorItems, ← terminatorWalk_iff o delimited hk]
  constructor
  · rintro ⟨j, ms, hw, -⟩
    obtain rfl := quiet_terminatorWalk o text delimited _ _ _ hw
    exact ⟨j, hw⟩
  · rintro ⟨j, hw⟩
    exact ⟨j, [], hw, trivial⟩

/-- A repeated parameter stands for nothing or for a text that begins with its lead. -/
theorem Parameter.Separated.eq_empty_or_head? (hp : p.Separated d) {v : Option String} {s : String}
    (h : p.Spells o v s) : s = "" ∨ s.toList.head? = some d := by
  have hlead {s : String} (hs : o.SameText p.lead s) : s.toList.head? = some d :=
    hs.head? hp.otherCases_eq (by rw [hp.lead_eq, String.toList_singleton]; rfl)
  cases h with
  | present hs =>
    right
    rw [String.toList_append, List.head?_append, hlead hs]
    rfl
  | absent _ hs =>
    split at hs
    · exact .inr (hlead hs)
    · exact .inl hs

/-- Where a repeated parameter and the end of the pattern match, a slash or the lead begins, if
anything does. -/
theorem Parameter.Separated.eq_of_leads (hp : p.Separated d) (hplain : p.Plain o)
    (hd : o.delimiter = "/") (hmarkers : o.markers = []) {g k : Nat} (hk : k ≤ text.length)
    (h : (Expr.walks text ((p.items o.flags g).map Item.expr)).Leads
      ((Expr.walks text ((o.terminatorItems o.flags false).map Item.expr)).Leads fun _ => True) k)
    {c : Char} (hc : (text.drop k).head? = some c) : c = '/' ∨ c = d := by
  obtain ⟨j, ms, hw, hend⟩ := h
  rw [hplain.readable.walks_items text rfl] at hw
  obtain ⟨hkj, hj, -, hspells⟩ := spells_of_walk hplain hk hw
  rw [leads_terminatorItems_iff o false hj] at hend
  rw [← slice_length, ← slice_append hkj hj, slice_length] at hc
  rcases hp.eq_empty_or_head? hspells with hs | hs
  · rw [← String.toList_inj, String.toList_ofList] at hs
    rw [hs] at hc
    exact .inl (hend.head?_eq_slash hd hmarkers (by rwa [String.toList_ofList]))
  · rw [String.toList_ofList] at hs
    rw [List.head?_append, hs] at hc
    exact .inr (Option.some.inj hc).symm

end

/-! ## Templates that end in a list -/

section

variable {o : Options} {front : List Token} {p : Parameter} {d : Char} {encode : String → String}
  {values : Values} {b s : String}

/-- The tokens are those in front, which take one value each, and then a repeated parameter. -/
structure EndsInList (o : Options) (front : List Token) (p : Parameter) (d : Char) : Prop where
  delimiter_eq : o.delimiter = "/"
  markers_eq : o.markers = []
  plain : ∀ q, .parameter q ∈ front ++ [Token.parameter p] → q.Plain o
  scanned : ∀ q, .parameter q ∈ front → q.Scanned o
  single : ∀ q, .parameter q ∈ front →
    q.quantifier = .one ∧ q.pattern = defaultPattern q.joiner ∧ q.joiner ≠ ""
  separated : p.Separated d
  chain : (front ++ [Token.parameter p]).IsChain Token.BoundedBy

/-- What the pattern is read as from the repeated parameter on. -/
def Parameter.endExprs (o : Options) (g : Nat) (p : Parameter) : List Expr :=
  (p.items o.flags g).map Item.expr ++ (o.terminatorItems o.flags false).map Item.expr

theorem EndsInList.plain_last (h : EndsInList o front p d) : p.Plain o :=
  h.plain p (List.mem_append_right _ (List.mem_cons_self ..))

theorem EndsInList.plain_front (h : EndsInList o front p d) {q : Parameter}
    (hq : .parameter q ∈ front) : q.Plain o :=
  h.plain q (List.mem_append_left _ hq)

theorem EndsInList.leads_endExprs (h : EndsInList o front p d) {v : Option String}
    (hs : p.Spells o v s) (g : Nat) :
    (Expr.walks (b ++ s).toList (p.endExprs o g)).Leads (fun _ => True) b.toList.length := by
  have hslice : slice (b ++ s).toList b.toList.length (b ++ s).toList.length = s.toList := by
    rw [slice_length, String.toList_append, List.drop_left]
  obtain ⟨ms, hw⟩ := exists_walk_of_spells h.plain_last hs g (length_toList_append_le b s)
    (Nat.le_refl _) hslice
  rw [Parameter.endExprs, Expr.walks_append, Walk.leads_andThen,
    h.plain_last.readable.walks_items _ rfl]
  refine ⟨_, ms, hw, ?_⟩
  rw [leads_terminatorItems_iff o false (Nat.le_refl _), List.drop_length]
  exact o.ends_empty false

/-- The parameters in front take their values, and the last one begins behind them. -/
theorem EndsInList.exists_pick_front (h : EndsInList o front p d) (hts : Bound encode values front)
    (hb : Renders encode values front b) {v : Option String} (hs : p.Spells o v s)
    (hhead : s.toList.head? = some d) (g : Nat) :
    ∃ ms vs, Expr.pickAll (b ++ s).toList ((Token.itemsFrom o.flags 1 front).map Item.expr)
        ((Expr.walks (b ++ s).toList (p.endExprs o g)).Leads fun _ => True) 0 b.toList.length ms ∧
      TakeBound encode values (front.filterMap Token.parameter?) vs ∧
      SavedIn ms 1 (1 + vs.length) ∧
      ∀ i, (⟨(b ++ s).toList, ms⟩ : Captures).group? (1 + i) = (vs[i]?).join := by
  obtain ⟨us, hus⟩ := hts.exists_spells h.scanned hb
  obtain ⟨ms, hw⟩ := exists_walks_of_spells (fun q hq => h.plain_front hq) hus 1 (Nat.zero_le _)
    (length_toList_append_le b s) (by simp [slice])
  have hwalks := walks_itemsFrom (b ++ s).toList rfl
    (fun q hq => (h.plain_front hq).readable) 1
  rw [← hwalks] at hw
  have hadvances : ∀ e ∈ (Token.itemsFrom o.flags 1 front).map Item.expr, e.advances = true := by
    intro e he
    obtain ⟨i, hi, rfl⟩ := List.mem_map.1 he
    exact advances_itemsFrom rfl rfl h.single 1 i hi
  have hfinds : (Expr.walks (b ++ s).toList _).Finds _ _ := Expr.finds_pickAll hadvances
  obtain ⟨k, ms, hpick, hlead⟩ := hfinds.exists_pick _ 0 (Nat.zero_le _)
    ⟨_, ms, hw, h.leads_endExprs hs g⟩
  have hfront := hfinds.walk _ _ _ _ hpick
  rw [hwalks] at hfront
  obtain ⟨-, hk, vs, hvs, hsave, hgroup⟩ :=
    spells_of_walks (fun q hq => h.plain_front hq) (Nat.zero_le _) hfront
  -- what is picked cuts the path at the tokens, and there is one way only to do that
  have heq : b ++ s = .ofList (slice (b ++ s).toList 0 k) ++ .ofList ((b ++ s).toList.drop k) := by
    rw [← slice_length, ofList_slice_append (Nat.zero_le _) hk, slice_zero_length,
      String.ofList_toList]
  have hend : ∀ q c, front.getLast? = some (.parameter q) → q.Simple c →
      (∀ e, s.toList.head? = some e → e = c) ∧
        ∀ e, (String.ofList ((b ++ s).toList.drop k)).toList.head? = some e → e = '/' ∨ e = c := by
    intro q c hq hc
    have hbounded := (List.isChain_append.1 h.chain).2.2 _ hq _ rfl
    have hfirst := hbounded.first? hc
    rw [Token.first?, h.separated.lead_eq, String.toList_singleton] at hfirst
    obtain rfl := Option.some.inj hfirst
    rw [Parameter.endExprs, Expr.walks_append, Walk.leads_andThen] at hlead
    refine ⟨fun e he => (Option.some.inj (hhead.symm.trans he)).symm, fun e he => ?_⟩
    rw [String.toList_ofList] at he
    exact h.separated.eq_of_leads h.plain_last h.delimiter_eq h.markers_eq hk hlead he
  obtain ⟨htake, hrest⟩ :=
    takeBound_of_spells hts (List.isChain_append.1 h.chain).1 hend hb hvs heq
  obtain rfl : k = b.toList.length := by
    have hlength := congrArg (·.toList.length) hrest
    simp only [String.toList_ofList, List.length_drop, String.toList_append,
      List.length_append] at hlength hk
    omega
  exact ⟨ms, vs, hpick, htake, hsave, hgroup⟩

variable {w : List Char} {ws : List (List Char)}

/-- The repeated parameter takes all of a list, and the pattern ends behind it. -/
theorem EndsInList.exists_pick_endExprs (h : EndsInList o front p d)
    (hlist : s.toList = d :: (w ++ ws.flatMap (d :: ·)))
    (hws : ∀ x ∈ w :: ws, x ≠ [] ∧ d ∉ x ∧ '/' ∉ x) (g : Nat) :
    ∃ j, Expr.pickAll (b ++ s).toList (p.endExprs o g) (fun _ => True) b.toList.length j
      [(2 * g + 1, (b ++ s).toList.length), (2 * g, b.toList.length + 1)] := by
  -- only a slash may come behind the list, and no item has one
  have hlive : ∀ k c, (b ++ s).toList[k]? = some c →
      (Expr.walks (b ++ s).toList ((o.terminatorItems o.flags false).map Item.expr)).Leads
        (fun _ => True) k → ∀ x ∈ w :: ws, c ∉ x := by
    intro k c hc hlead x hx
    have hk : k ≤ (b ++ s).toList.length := (List.getElem?_eq_some_iff.1 hc).1.le
    rw [leads_terminatorItems_iff o false hk] at hlead
    obtain rfl := hlead.head?_eq_slash h.delimiter_eq h.markers_eq
      (by rw [String.toList_ofList, List.head?_drop, hc])
    exact (hws x hx).2.2
  have hdrop : (b ++ s).toList.drop b.toList.length = d :: (w ++ ws.flatMap (d :: ·)) := by
    rw [String.toList_append, List.drop_left, hlist]
  have hj : (b ++ s).toList.length =
      b.toList.length + 1 + (w ++ ws.flatMap (d :: ·)).length := by
    rw [String.toList_append, List.length_append, hlist, List.length_cons]
    omega
  have hitems := h.separated.pick_items (o := o) g hdrop hj
    (fun x hx => ⟨(hws x hx).1, (hws x hx).2.1⟩) hlive
  have hfinds : (Expr.walks (b ++ s).toList _).Finds _ _ :=
    Expr.finds_pickAll (advances_terminatorItems h.delimiter_eq h.markers_eq)
  have hend : (Expr.walks (b ++ s).toList ((o.terminatorItems o.flags false).map Item.expr)).Leads
      (fun _ => True) (b ++ s).toList.length := by
    rw [leads_terminatorItems_iff o false (Nat.le_refl _), List.drop_length]
    exact o.ends_empty false
  obtain ⟨j, ns, hterminator, -⟩ := hfinds.exists_pick _ _ (Nat.le_refl _) hend
  have hwalk := hfinds.walk _ _ _ _ hterminator
  rw [walks_terminatorItems] at hwalk
  obtain rfl := quiet_terminatorWalk o _ _ _ _ _ hwalk
  rw [Parameter.endExprs, Expr.pickAll_append]
  exact ⟨j, _, _, _, hitems, hterminator, rfl⟩

theorem map_expr_sourceItems (o : Options) (front : List Token) (p : Parameter) :
    (sourceItems o.flags o (front ++ [Token.parameter p])).map Item.expr =
      .look .textStart :: ((Token.itemsFrom o.flags 1 front).map Item.expr ++
        p.endExprs o (1 + (front.filterMap Token.parameter?).length)) := by
  rw [sourceItems, itemsFrom_append, List.getLast?_concat]
  simp only [Token.itemsFrom, Token.items, List.append_nil, List.map_cons, List.map_append,
    List.append_assoc, Parameter.endExprs, Source.endsDelimited]

/-- The groups hold the values in front and then the whole list. -/
theorem EndsInList.exists_pick (h : EndsInList o front p d) (hts : Bound encode values front)
    (hb : Renders encode values front b) {v : Option String} (hs : p.Spells o v s)
    (hlist : s.toList = d :: (w ++ ws.flatMap (d :: ·)))
    (hws : ∀ x ∈ w :: ws, x ≠ [] ∧ d ∉ x ∧ '/' ∉ x) :
    ∃ j ms vs, (Expr.seq ((sourceItems o.flags o (front ++ [Token.parameter p])).map
        Item.expr)).pick (b ++ s).toList (fun _ => True) 0 j ms ∧
      TakeBound encode values (front.filterMap Token.parameter?) vs ∧
      ∀ i, (⟨(b ++ s).toList, ms⟩ : Captures).group? (1 + i) =
        ((vs ++ [some (.ofList (w ++ ws.flatMap (d :: ·)))])[i]?).join := by
  have hhead : s.toList.head? = some d := by rw [hlist]; rfl
  obtain ⟨ms, vs, hfront, htake, hsave, hgroup⟩ := h.exists_pick_front hts hb hs hhead
    (1 + (front.filterMap Token.parameter?).length)
  rw [htake.length_eq] at hfront
  obtain ⟨j, hend⟩ := h.exists_pick_endExprs (b := b) hlist hws (1 + vs.length)
  have hslice : slice (b ++ s).toList (b.toList.length + 1) (b ++ s).toList.length =
      w ++ ws.flatMap (d :: ·) := by
    rw [slice_length, ← List.drop_drop, String.toList_append, List.drop_left, hlist]
    rfl
  have hpick : (Expr.seq ((sourceItems o.flags o (front ++ [Token.parameter p])).map
      Item.expr)).pick (b ++ s).toList (fun _ => True) 0 j
        ([(2 * (1 + vs.length) + 1, (b ++ s).toList.length),
          (2 * (1 + vs.length), b.toList.length + 1)] ++ ms) := by
    rw [map_expr_sourceItems, htake.length_eq, Expr.pick_seq, Expr.pickAll, Expr.pickAll_append]
    exact ⟨0, [], _, (Expr.walk_textStart_iff (Nat.zero_le _)).2 ⟨rfl, rfl, rfl⟩,
      ⟨_, _, _, hfront, hend, rfl⟩, (List.append_nil _).symm⟩
  refine ⟨j, _, vs, hpick, htake, fun i => ?_⟩
  by_cases hi : i = vs.length
  · rw [hi, group?_append_left hsave (.inr (Nat.le_refl _)), group?_saved, hslice,
      List.getElem?_concat_length]
    rfl
  · rw [group?_append_right (savedIn_group _ _ _) (by omega), hgroup]
    rcases Nat.lt_or_ge i vs.length with hlt | hge
    · rw [List.getElem?_append_left hlt]
    · rw [List.getElem?_eq_none hge, List.getElem?_eq_none]
      rw [List.length_append, List.length_singleton]
      omega

end

namespace Template

variable {o : Options} {text path : String} {t : Template} {values : Values} {front : List Token}
  {p : Parameter} {d : Char} {items : List String}

theorem Compiled.exists_endsInList (h : t.Compiled) (hd : t.options.delimiter = "/")
    (hds : t.options.delimiters = "./") (hmarkers : t.options.markers = [])
    (htokens : t.tokens = front ++ [.parameter p]) (hrepeats : p.isRepeating = true)
    (hlead : p.lead ≠ "") (hfront : ∀ q, .parameter q ∈ front → q.quantifier = .one)
    (hpatterns : ∀ q ∈ t.keys, q.pattern = defaultPattern q.joiner)
    (hchain : t.tokens.IsChain Token.BoundedBy) : ∃ d, EndsInList t.options front p d := by
  have hjoiner : ∀ q, .parameter q ∈ t.tokens → q.joiner = "/" ∨ q.joiner = "." := fun q hq =>
    (h.scanned hq).joiner_eq_slash_or_dot hd hds
  have hne : ∀ q, .parameter q ∈ t.tokens → q.joiner ≠ "" := by
    intro q hq
    rcases hjoiner q hq with hj | hj <;> rw [hj] <;> decide
  have hlook : ∀ q ∈ t.keys, q.LookFree t.options.caseSensitive := fun q hq =>
    q.lookFree_defaultPattern (hpatterns q hq) (hne q (h.mem_keys_iff.1 hq)) _
  have hmem {q : Parameter} (hq : .parameter q ∈ front) : .parameter q ∈ t.tokens :=
    htokens ▸ List.mem_append_left _ hq
  have hlast : .parameter p ∈ t.tokens := htokens ▸ List.mem_append_right _ (List.mem_cons_self ..)
  have hpattern := hpatterns p (h.mem_keys_iff.2 hlast)
  have hsame : p.joiner = p.lead := by
    rw [(h.scanned hlast).joiner_eq, if_neg hlead]
  have hseparated : ∃ d, p.Separated d := by
    rcases hjoiner p hlast with hj | hj
    · exact ⟨'/', hsame ▸ hj, hj, by decide, hrepeats, hpattern⟩
    · exact ⟨'.', hsame ▸ hj, hj, by decide, hrepeats, hpattern⟩
  obtain ⟨d, hp⟩ := hseparated
  exact ⟨d, {
    delimiter_eq := hd
    markers_eq := hmarkers
    plain := fun q hq => h.plain hlook (htokens ▸ hq)
    scanned := fun q hq => h.scanned (hmem hq)
    single := fun q hq => ⟨hfront q hq, hpatterns q (h.mem_keys_iff.2 (hmem hq)), hne q (hmem hq)⟩
    separated := hp
    chain := htokens ▸ hchain }⟩

/-- Whatever case is set, a rendered list is a text that its parameter stands for. -/
theorem Compiled.exists_spells_list (h : t.Compiled) (hl : EndsInList t.options front p d)
    (hp : .parameter p ∈ t.tokens) {encode : String → String} (hne : items ≠ []) {s : String}
    (hs : p.Renders encode (some (.list items)) s) : ∃ v, p.Spells t.options v s := by
  obtain ⟨r, hr⟩ := exists_validator h.steps hp
  refine hs.exists_spells (h.scanned hp) (fun w hw => ?_) fun l hitems => ?_
  · exact (hl.separated.accepts_iff hr).2 ((hl.separated.accepts_iff hr).1 hw)
  · obtain rfl := Value.list.inj (Option.some.inj hitems)
    refine ⟨hne, fun _ => ?_⟩
    rw [hl.separated.lead_eq]
    exact Scanner.singleton_ne_empty d

/-- What is picked at the beginning of a path is what is found in it. -/
theorem Compiled.find?_of_pick (h : t.Compiled) {j : Nat} {ms : List (Nat × Nat)}
    (hpick : (Expr.seq ((sourceItems t.options.flags t.options t.tokens).map Item.expr)).pick
      path.toList (fun _ => True) 0 j ms) :
    t.extractor.regex.find? path = some ⟨path.toList, (1, j) :: (ms ++ [(0, 0)])⟩ := by
  obtain ⟨-, hexpr⟩ := (RouteTemplate.read_source rfl rfl fun q hq => h.readable hq).1 h.read_source
  rw [← hexpr] at hpick
  refine Regex.find?_eq_some_of_pick (Nat.zero_le _) (fun k hk => ?_) hpick
  exact absurd hk (Nat.not_lt_zero k)

theorem Compiled.lookup_extractWith_list (h : t.Compiled) (hl : EndsInList t.options front p d)
    (htokens : t.tokens = front ++ [.parameter p]) (hnames : t.parameterNames.Nodup)
    {encode : String → String} (hts : Bound encode values front)
    (hslash : ∀ x, '/' ∉ (encode x).toList) (hlist : values.lookup p.name = some (.list items))
    (hne : items ≠ []) (hpath : Renders encode values t.tokens path) (decode : String → String) :
    (t.extractor.extractWith decode path).lookup p.name =
        some (decode (p.lead.intercalate (items.map encode))) ∧
      ∀ q, .parameter q ∈ front → ∃ x, values.lookup q.name = some (.single x) ∧
        (t.extractor.extractWith decode path).lookup q.name = some (decode (encode x)) := by
  have hlast : .parameter p ∈ t.tokens := htokens ▸ List.mem_append_right _ (List.mem_cons_self ..)
  obtain ⟨r, hr⟩ := exists_validator h.steps hlast
  rw [htokens] at hpath
  obtain ⟨b, s, rfl, hb, hs⟩ := hpath.exists_append
  have hs := hs.of_singleton
  rw [hlist] at hs
  obtain ⟨hs', w, ws, hwords, hws, hjoined⟩ := hl.separated.exists_words hr hne hs
  obtain ⟨v, hspells⟩ := h.exists_spells_list hl hlast hne hs
  have hstext : s.toList = d :: (w ++ ws.flatMap (d :: ·)) := by
    rw [hs', String.toList_append, hjoined, hl.separated.lead_eq, String.toList_singleton]
    rfl
  have hfree : ∀ x ∈ w :: ws, x ≠ [] ∧ d ∉ x ∧ '/' ∉ x := by
    intro x hx
    obtain ⟨y, -, rfl⟩ := List.mem_map.1 (hwords ▸ hx)
    exact ⟨(hws _ hx).1, (hws _ hx).2, hslash y⟩
  obtain ⟨j, ms, vs, hpick, htake, hgroup⟩ := hl.exists_pick hts hb hspells hstext hfree
  rw [← htokens] at hpick
  have hfind := h.find?_of_pick hpick
  rw [← hjoined, String.ofList_toList] at hgroup
  have hlookup {q : Parameter} {v : Option String} (hv : (q, v) ∈ t.keys.zip
      (vs ++ [some (p.lead.intercalate (items.map encode))])) :
      (t.extractor.extractWith decode (b ++ s)).lookup q.name = q.bound? decode v :=
    lookup_extractWith_of_groups hfind
      (fun k => by rw [group?_whole, Nat.add_comm k 1, hgroup]) hnames hv decode
  have hzip : t.keys.zip (vs ++ [some (p.lead.intercalate (items.map encode))]) =
      (front.filterMap Token.parameter?).zip vs ++
        [(p, some (p.lead.intercalate (items.map encode)))] := by
    rw [h.keys_eq, htokens, List.filterMap_append, List.zip_append htake.length_eq]
    rfl
  rw [hzip] at hlookup
  refine ⟨hlookup (List.mem_append_right _ (List.mem_cons_self ..)), fun q hq => ?_⟩
  obtain ⟨x, hx, hv⟩ := htake.exists_mem_zip (List.mem_filterMap.2 ⟨_, hq, rfl⟩)
  exact ⟨x, hx, hlookup (List.mem_append_left _ hv)⟩

/-- What was rendered from a list behind single values is extracted again, the list as one text. -/
theorem extract_expand_list (h : Template.compile o text = .ok t) (hdelimiter : o.delimiter = "/")
    (hdelimiters : o.delimiters = "./") (hends : o.endsWith = none ∨ o.endsWith = some [])
    (htokens : t.tokens = front ++ [.parameter p])
    (hrepeats : p.quantifier = .oneOrMore ∨ p.quantifier = .zeroOrMore) (hlead : p.lead ≠ "")
    (hfront : ∀ q, .parameter q ∈ front → q.quantifier = .one)
    (hpatterns : ∀ q ∈ t.keys, q.pattern = defaultPattern q.joiner)
    (hnames : t.parameterNames.Nodup) (hchain : t.tokens.IsChain Token.BoundedBy)
    (hlist : values.lookup p.name = some (.list items)) (hne : items ≠ [])
    (hsingles : ∀ q, .parameter q ∈ front → ∃ x, values.lookup q.name = some (.single x))
    (he : t.expand values = .ok path) :
    (t.extract path).lookup p.name = some (p.lead.intercalate (items.map Percent.encode)) ∧
      ∀ q, .parameter q ∈ front → ∀ x, values.lookup q.name = some (.single x) →
        (t.extract path).lookup q.name = some (Percent.encode x) := by
  obtain ⟨hc, rfl, -⟩ := compiled_of_compile h
  have hmarkers : t.options.markers = [] := by
    rcases hends with he | he <;> rw [Options.markers, he] <;> rfl
  have hrepeating : p.isRepeating = true := by
    rcases hrepeats with hq | hq <;> rw [Parameter.isRepeating, hq] <;> rfl
  obtain ⟨d, hl⟩ := hc.exists_endsInList hdelimiter hdelimiters hmarkers htokens hrepeating hlead
    hfront hpatterns hchain
  have hts : Bound Percent.encode values front := by
    intro q hq
    have hkey : q ∈ t.keys := hc.mem_keys_iff.2 (htokens ▸ List.mem_append_left _ hq)
    obtain ⟨c, hsimple, -⟩ :=
      hc.exists_simple hdelimiter hdelimiters hkey (hfront q hq) (hpatterns q hkey)
    obtain ⟨x, hx⟩ := hsingles q hq
    exact ⟨⟨c, hsimple⟩, x, hx, Percent.slash_not_mem_encode x⟩
  obtain ⟨hlast, hothers⟩ := hc.lookup_extractWith_list hl htokens hnames hts
    Percent.slash_not_mem_encode hlist hne (hc.expandWith_eq_ok_iff.1 he) id
  refine ⟨hlast, fun q hq x hx => ?_⟩
  obtain ⟨y, hy, hlookup⟩ := hothers q hq
  obtain rfl := Value.single.inj (Option.some.inj (hx.symm.trans hy))
  exact hlookup

/-- Between slashes a prefix is enough for a match, and yet the whole list is taken. -/
theorem extract_expand_list_of_prefix :
    ∃ t, Template.compile { matchEnd := false } "/:user/:path*" = .ok t ∧
      t.expand [("user", .single "me"), ("path", .list ["a", "b c"])] = .ok "/me/a/b%20c" ∧
      (t.extract "/me/a/b%20c").lookup "path" = some "a/b%20c" ∧
      (t.extract "/me/a/b%20c").lookup "user" = some "me" := by
  obtain ⟨t, ht, htokens, hpatterns, hnames, hchain, he⟩ := exists_of_compile
    { matchEnd := false } "/:user/:path*"
    (p := fun t => t.tokens = [.parameter ⟨"user", "/", "/", .one, false, "[^/]+?"⟩] ++
        [.parameter ⟨"path", "/", "/", .zeroOrMore, false, "[^/]+?"⟩] ∧
      (∀ q ∈ t.keys, q.pattern = defaultPattern q.joiner) ∧ t.parameterNames.Nodup ∧
      t.tokens.IsChain Token.BoundedBy ∧
      t.expand [("user", .single "me"), ("path", .list ["a", "b c"])] = .ok "/me/a/b%20c")
    (by decide +kernel)
  have hfront : ∀ q, Token.parameter q ∈
      [Token.parameter ⟨"user", "/", "/", .one, false, "[^/]+?"⟩] →
        q = ⟨"user", "/", "/", .one, false, "[^/]+?"⟩ := by
    intro q hq
    exact Token.parameter.inj (List.mem_singleton.1 hq)
  obtain ⟨hlist, hothers⟩ := extract_expand_list ht rfl rfl (.inl rfl) htokens (.inr rfl)
    (by decide) (fun q hq => by rw [hfront q hq]) hpatterns hnames hchain rfl (by decide)
    (fun q hq => ⟨"me", by rw [hfront q hq]; rfl⟩) he
  refine ⟨t, ht, he, hlist.trans ?_, (hothers _ (List.mem_cons_self ..) "me" rfl).trans ?_⟩
  · decide +kernel
  · decide +kernel

end Template

end RouteTemplate
