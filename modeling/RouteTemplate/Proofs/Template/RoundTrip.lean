import RouteTemplate.Proofs.Percent
import RouteTemplate.Proofs.Template.DefaultPattern
import RouteTemplate.Proofs.Template.Extraction
import RouteTemplate.Proofs.Template.Rendering

/-!
Extracting what has been rendered. If every parameter takes one value without the character that
comes behind it, a path can be cut at the parameters in one way only, `takeBound_of_spells`, so the
values come back: `extract_expand`.
-/

namespace RouteTemplate

open Regex

namespace Token

/-- The first character of a token, which is that of the lead if it is a parameter. -/
def first? : Token → Option Char
  | literal text => text.toList.head?
  | parameter p => p.lead.toList.head?

/-- What comes behind a parameter begins with the joiner of the parameter. -/
def BoundedBy : Token → Token → Prop
  | literal _, _ => True
  | parameter p, b => b.first?.map String.singleton = some p.joiner

instance : DecidableRel BoundedBy
  | literal _, _ => inferInstanceAs (Decidable True)
  | parameter p, b => inferInstanceAs (Decidable (b.first?.map String.singleton = some p.joiner))

end Token

/-- A parameter that takes one value, which is any text without `c` but the empty one. -/
structure Parameter.Simple (p : Parameter) (c : Char) : Prop where
  joiner_eq : p.joiner = String.singleton c
  otherCases_eq : Unicode.otherCases c = []
  required : p.isOptional = false
  once : p.isRepeating = false
  accepts_iff : ∀ caseSensitive w, p.Accepts caseSensitive w ↔ w ≠ "" ∧ c ∉ w.toList

section

variable {o : Options} {p : Parameter} {c : Char}

theorem Options.SameChar.eq {d : Char} (h : o.SameChar c d) (hc : Unicode.otherCases c = []) :
    d = c := by
  rcases h with h | ⟨-, h⟩
  · exact h
  · rw [hc] at h
    exact absurd h List.not_mem_nil

theorem Options.SameText.head? {s t : String} (h : o.SameText s t)
    (hc : Unicode.otherCases c = []) (hs : s.toList.head? = some c) :
    t.toList.head? = some c := by
  unfold SameText at h
  generalize s.toList = l at h hs
  generalize t.toList = m at h
  cases h with
  | nil => simp at hs
  | cons hcd _ =>
    obtain rfl := Option.some.inj hs
    exact congrArg some (hcd.eq hc)

theorem Options.SameText.eq_of_append {s t : String} (h : o.SameText s t) {a b : String}
    (heq : s ++ a = t ++ b) : s = t ∧ a = b := by
  have hlist := congrArg String.toList heq
  rw [String.toList_append, String.toList_append] at hlist
  obtain ⟨hs, ha⟩ := List.append_inj hlist h.length_eq
  exact ⟨String.toList_inj.1 hs, String.toList_inj.1 ha⟩

/-- A text can be cut in one way only if what comes behind the first part begins with a character
that is not in the first part of another way. -/
theorem eq_of_append_of_heads {v w a b : String} (hv : ∀ c, b.toList.head? = some c → c ∉ v.toList)
    (hw : ∀ c, a.toList.head? = some c → c ∉ w.toList) (heq : v ++ a = w ++ b) :
    v = w ∧ a = b := by
  have hlist := congrArg String.toList heq
  rw [String.toList_append, String.toList_append] at hlist
  rcases List.append_eq_append_iff.1 hlist with ⟨l, hl, hr⟩ | ⟨l, hl, hr⟩
  · cases l with
    | nil =>
      rw [List.append_nil] at hl
      exact ⟨(String.toList_inj.1 hl).symm, String.toList_inj.1 hr⟩
    | cons d l =>
      exact absurd (hl ▸ List.mem_append_right _ (List.mem_cons_self ..)) (hw d (by rw [hr]; rfl))
  · cases l with
    | nil =>
      rw [List.append_nil] at hl
      exact ⟨String.toList_inj.1 hl, (String.toList_inj.1 hr).symm⟩
    | cons d l =>
      exact absurd (hl ▸ List.mem_append_right _ (List.mem_cons_self ..)) (hv d (by rw [hr]; rfl))

theorem Parameter.Simple.spells (hp : p.Simple c) {v : Option String} {s : String}
    (h : p.Spells o v s) : ∃ l w, o.SameText p.lead l ∧ w ≠ "" ∧ c ∉ w.toList ∧ v = some w ∧
      s = l ++ w := by
  cases h with
  | @present l w hl hw =>
    rw [Takes, if_neg (by rw [hp.once]; decide), hp.accepts_iff] at hw
    exact ⟨l, w, hl, hw.1, hw.2, rfl, rfl⟩
  | absent ho =>
    rw [hp.required] at ho
    exact absurd ho Bool.false_ne_true

theorem Parameter.Simple.renders_iff (hp : p.Simple c) {encode : String → String} {x s : String} :
    p.Renders encode (some (.single x)) s ↔
      encode x ≠ "" ∧ c ∉ (encode x).toList ∧ s = p.lead ++ encode x := by
  constructor
  · rintro ⟨⟩
    next hx =>
      obtain ⟨hne, hc⟩ := (hp.accepts_iff true _).1 hx
      exact ⟨hne, hc, rfl⟩
  · rintro ⟨hne, hc, rfl⟩
    exact .single ((hp.accepts_iff true _).2 ⟨hne, hc⟩)

end

/-- The parameters are simple, and bound to single values without slashes once encoded. -/
def Bound (encode : String → String) (values : Values) (ts : List Token) : Prop :=
  ∀ p, .parameter p ∈ ts → (∃ c, p.Simple c) ∧
    ∃ x, values.lookup p.name = some (.single x) ∧ '/' ∉ (encode x).toList

/-- Each parameter takes the single value that it is bound to. -/
def TakeBound (encode : String → String) (values : Values) (ps : List Parameter)
    (vs : List (Option String)) : Prop :=
  List.Forall₂ (fun p v => ∃ x, values.lookup p.name = some (.single x) ∧ v = some (encode x)) ps vs

theorem TakeBound.exists_mem_zip {encode : String → String} {values : Values}
    {ps : List Parameter} {vs : List (Option String)} (h : TakeBound encode values ps vs)
    {p : Parameter} (hp : p ∈ ps) :
    ∃ x, values.lookup p.name = some (.single x) ∧ (p, some (encode x)) ∈ ps.zip vs := by
  obtain ⟨hlength, hzip⟩ := List.forall₂_iff_zip.1 h
  have hmem : p ∈ (ps.zip vs).map Prod.fst := by
    rwa [List.map_fst_zip (Nat.le_of_eq hlength)]
  obtain ⟨⟨_, v⟩, hv, rfl⟩ := List.mem_map.1 hmem
  obtain ⟨x, hx, rfl⟩ := hzip hv
  exact ⟨x, hx, hv⟩

section

variable {o : Options} {encode : String → String} {values : Values} {ts : List Token}
  {a : Token} {c : Char}

theorem Spells.head? {vs : List (Option String)} {b : String} (h : Spells o (a :: ts) vs b)
    (hts : Bound encode values (a :: ts)) (hc : Unicode.otherCases c = [])
    (ha : a.first? = some c) : b.toList.head? = some c := by
  cases h with
  | literal hs _ =>
    rw [String.toList_append, List.head?_append, hs.head? hc ha]
    rfl
  | @parameter p _ _ _ _ _ hp _ =>
    obtain ⟨⟨d, hd⟩, -⟩ := hts p (List.mem_cons_self ..)
    obtain ⟨l, w, hl, -, -, -, rfl⟩ := hd.spells hp
    rw [String.toList_append, String.toList_append, List.append_assoc, List.head?_append,
      hl.head? hc ha]
    rfl

theorem Renders.head? {b : String} (h : Renders encode values (a :: ts) b)
    (hts : Bound encode values (a :: ts)) (ha : a.first? = some c) :
    b.toList.head? = some c := by
  cases h with
  | @literal text r _ _ =>
    have ht : text.toList.head? = some c := ha
    rw [String.toList_append, List.head?_append, ht]
    rfl
  | @parameter p _ _ _ hp _ =>
    obtain ⟨⟨d, hd⟩, x, hx, -⟩ := hts p (List.mem_cons_self ..)
    rw [hx] at hp
    obtain ⟨-, -, rfl⟩ := hd.renders_iff.1 hp
    have hl : p.lead.toList.head? = some c := ha
    rw [String.toList_append, String.toList_append, List.append_assoc, List.head?_append, hl]
    rfl

theorem Token.BoundedBy.first? {p : Parameter} (hp : p.Simple c)
    (h : Token.BoundedBy (.parameter p) a) : a.first? = some c := by
  unfold Token.BoundedBy at h
  obtain ⟨d, hd, hs⟩ := Option.map_eq_some_iff.1 h
  rw [hp.joiner_eq, ← String.toList_inj, String.toList_singleton, String.toList_singleton] at hs
  rw [hd, List.singleton_inj.1 hs]

/-- However a text that begins with a rendered path is cut at the tokens, the parameters take the
values that it was rendered with, as long as at the last one nothing but a slash or its own joiner
may begin what is left over. -/
theorem takeBound_of_spells {vs : List (Option String)} {path after b rest : String}
    (hts : Bound encode values ts) (hchain : ts.IsChain Token.BoundedBy)
    (hend : ∀ p c, ts.getLast? = some (.parameter p) → p.Simple c →
      (∀ d, after.toList.head? = some d → d = c) ∧
        ∀ d, rest.toList.head? = some d → d = '/' ∨ d = c)
    (hpath : Renders encode values ts path) (hb : Spells o ts vs b)
    (heq : path ++ after = b ++ rest) :
    TakeBound encode values (ts.filterMap Token.parameter?) vs ∧ after = rest := by
  induction hb generalizing path with
  | nil =>
    cases hpath
    rw [String.empty_append, String.empty_append] at heq
    exact ⟨.nil, heq⟩
  | @literal text s r ts vs hs _ ih =>
    cases hpath with
    | @literal _ q _ hq =>
      simp only [String.append_assoc] at heq
      obtain ⟨-, heq⟩ := hs.eq_of_append heq
      refine ih (fun p hp => hts p (List.mem_cons_of_mem _ hp)) hchain.of_cons
        (fun p c hp => hend p c ?_) hq heq
      rw [List.getLast?_cons, hp]
      rfl
  | @parameter p s r v ts vs hp hr ih =>
    obtain ⟨⟨c, hc⟩, x, hx, hslash⟩ := hts p (List.mem_cons_self ..)
    have hts' : Bound encode values ts := fun q hq => hts q (List.mem_cons_of_mem _ hq)
    obtain ⟨l, w, hl, -, hw, rfl, rfl⟩ := hc.spells hp
    cases hpath with
    | @parameter _ _ q _ hbound hq =>
      rw [hx] at hbound
      obtain ⟨-, hfree, rfl⟩ := hc.renders_iff.1 hbound
      simp only [String.append_assoc] at heq
      obtain ⟨-, heq⟩ := hl.eq_of_append heq
      cases ts with
      | nil =>
        cases hq
        cases hr
        obtain ⟨hafter, hrest⟩ := hend p c rfl hc
        rw [String.empty_append, String.empty_append] at heq
        obtain ⟨hxw, heq⟩ := eq_of_append_of_heads
          (fun d hd => by rcases hrest d hd with rfl | rfl; exacts [hslash, hfree])
          (fun d hd => hafter d hd ▸ hw) heq
        exact ⟨.cons ⟨x, hx, by rw [hxw]⟩ .nil, heq⟩
      | cons a ts =>
        rw [List.isChain_cons_cons] at hchain
        have hfirst := hchain.1.first? hc
        have hhead {y z : String} (hy : y.toList.head? = some c) (d : Char)
            (hd : (y ++ z).toList.head? = some d) : d = c := by
          rw [String.toList_append, List.head?_append, hy] at hd
          exact (Option.some.inj hd).symm
        obtain ⟨hxw, heq⟩ := eq_of_append_of_heads
          (fun d hd => hhead (hr.head? hts' hc.otherCases_eq hfirst) d hd ▸ hfree)
          (fun d hd => hhead (hq.head? hts' hfirst) d hd ▸ hw) heq
        obtain ⟨hall, hrest⟩ := ih hts' hchain.2 (fun p c hp => hend p c hp) hq heq
        exact ⟨.cons ⟨x, hx, by rw [hxw]⟩ hall, hrest⟩

end

section

variable {o : Options} {p : Parameter}

theorem Parameter.Scanned.joiner_eq_slash_or_dot (hp : p.Scanned o) (hd : o.delimiter = "/")
    (hds : o.delimiters = "./") : p.joiner = "/" ∨ p.joiner = "." := by
  have hjoiner := hp.joiner_eq
  split at hjoiner
  · rw [hjoiner, hd]
    exact .inl rfl
  next hlead =>
    obtain ⟨c, hc, hsingle⟩ := hp.lead_eq.resolve_left hlead
    have hmem : c ∈ ['.', '/'] := by
      rw [Options.isDelimiter, hds] at hc
      exact List.contains_iff_mem.1 hc
    rw [hjoiner, hsingle]
    simp only [List.mem_cons, List.not_mem_nil, or_false] at hmem
    rcases hmem with rfl | rfl
    · exact .inr rfl
    · exact .inl rfl

theorem Parameter.simple_of_singleton {c : Char} {r : Regex}
    (hjoiner : p.joiner = String.singleton c) (hc : Unicode.otherCases c = [])
    (hone : p.quantifier = .one) (hpattern : p.pattern = defaultPattern p.joiner)
    (hr : Regex.compile true ("^(?:" ++ p.pattern ++ ")$") = .ok r) : p.Simple c := by
  refine ⟨hjoiner, hc, ?_, ?_, fun caseSensitive w => ?_⟩
  · rw [isOptional, hone]
    rfl
  · rw [isRepeating, hone]
    rfl
  · exact accepts_defaultPattern_singleton_iff (hjoiner ▸ hpattern) hr (.inr hc) w

/-- Without markers, only a slash may follow a path that does not end in a delimiter. -/
theorem Options.Ends.head?_eq_slash {rest : String} (h : o.Ends false rest)
    (hd : o.delimiter = "/") (hmarkers : o.markers = []) {c : Char}
    (hc : rest.toList.head? = some c) : c = '/' := by
  have hempty (h : o.AtEnd rest) : c = '/' := by
    rw [h.eq_empty hmarkers] at hc
    cases hc
  have hslash {s r : String} (hs : o.SameText o.delimiter s) (hr : rest = s ++ r) : c = '/' := by
    have hhead : s.toList.head? = some '/' :=
      hs.head? (by decide) (by rw [hd]; rfl)
    rw [hr, String.toList_append, List.head?_append, hhead] at hc
    exact (Option.some.inj hc).symm
  unfold Ends at h
  split at h
  · rcases h with h | ⟨-, s, r, hs, hr, -⟩
    · exact hempty h
    · exact hslash hs hr
  · rcases h with h | h | ⟨s, r, hs, hr⟩
    · exact absurd h Bool.false_ne_true
    · exact hempty h
    · exact hslash hs hr

theorem Renders.exists_of_forall {encode : String → String} {values : Values} {ts : List Token}
    (h : ∀ p, .parameter p ∈ ts → ∃ s, p.Renders encode (values.lookup p.name) s) :
    ∃ b, Renders encode values ts b := by
  induction ts with
  | nil => exact ⟨"", .nil⟩
  | cons a ts ih =>
    obtain ⟨b, hb⟩ := ih fun p hp => h p (List.mem_cons_of_mem _ hp)
    cases a with
    | literal text => exact ⟨text ++ b, .literal hb⟩
    | parameter p =>
      obtain ⟨s, hs⟩ := h p (List.mem_cons_self ..)
      exact ⟨s ++ b, .parameter hs hb⟩

end

theorem Bound.exists_spells {o : Options} {encode : String → String} {values : Values}
    {ts : List Token} (hts : Bound encode values ts)
    (hscanned : ∀ p, .parameter p ∈ ts → p.Scanned o) {b : String}
    (h : Renders encode values ts b) : ∃ vs, Spells o ts vs b := by
  refine h.exists_spells fun p hp s hs => ?_
  obtain ⟨⟨c, hc⟩, x, hx, -⟩ := hts p hp
  refine hs.exists_spells (hscanned p hp) (fun w hw => ?_) fun items hitems => ?_
  · exact (hc.accepts_iff _ w).2 ((hc.accepts_iff _ w).1 hw)
  · rw [hx] at hitems
    simp at hitems

namespace Template

variable {o : Options} {text : String} {t : Template} {values : Values}
  {value : String → Option String}

theorem Compiled.lookup_extractWith (h : t.Compiled)
    (hlook : ∀ p ∈ t.keys, p.LookFree t.options.caseSensitive) (hd : t.options.delimiter = "/")
    (hmarkers : t.options.markers = []) (hnames : t.parameterNames.Nodup)
    {encode : String → String} (hts : Bound encode values t.tokens)
    (hchain : t.tokens.IsChain Token.BoundedBy) {path : String}
    (hpath : Renders encode values t.tokens path) (decode : String → String) {p : Parameter}
    (hp : p ∈ t.keys) :
    ∃ x, values.lookup p.name = some (.single x) ∧
      (t.extractor.extractWith decode path).lookup p.name = some (decode (encode x)) := by
  obtain ⟨ws, hws⟩ := hts.exists_spells (fun q hq => h.scanned hq) hpath
  obtain ⟨vs, b, rest, heq, hb, he, hextract⟩ :=
    h.exists_extracted hlook (h.isMatch_of_spells hlook hws)
  have hend : ∀ q c, t.tokens.getLast? = some (.parameter q) → q.Simple c →
      (∀ d, "".toList.head? = some d → d = c) ∧
        ∀ d, rest.toList.head? = some d → d = '/' ∨ d = c := by
    intro q c hq _
    rw [hq] at he
    refine ⟨fun e he => ?_, fun e hrest => .inl (he.head?_eq_slash hd hmarkers hrest)⟩
    cases he
  rw [← String.append_empty (s := path)] at heq
  obtain ⟨htake, -⟩ := takeBound_of_spells hts hchain hend hpath hb heq
  rw [← h.keys_eq] at htake
  obtain ⟨x, hx, hv⟩ := htake.exists_mem_zip hp
  exact ⟨x, hx, (hextract decode).1 hnames _ _ hv⟩

/-- The names bound to single values, and no others, are the names of the parameters. -/
def Binds (t : Template) (values : Values) (value : String → Option String) : Prop :=
  (∀ name, values.lookup name = (value name).map Value.single) ∧
    ∀ name, name ∈ t.parameterNames ↔ (value name).isSome = true

theorem Binds.exists_single (h : t.Binds values value) {p : Parameter} (hp : p ∈ t.keys) :
    ∃ x, value p.name = some x ∧ values.lookup p.name = some (.single x) := by
  have hname : p.name ∈ t.parameterNames := List.mem_map_of_mem hp
  obtain ⟨x, hx⟩ := Option.isSome_iff_exists.1 ((h.2 p.name).1 hname)
  refine ⟨x, hx, ?_⟩
  rw [h.1, hx]
  rfl

theorem Binds.eq_none (h : t.Binds values value) {name : String} (hn : name ∉ t.parameterNames) :
    value name = none := by
  rw [← Option.not_isSome_iff_eq_none, ← h.2]
  exact hn

theorem Compiled.lookup_extractWith_eq (h : t.Compiled)
    (hlook : ∀ p ∈ t.keys, p.LookFree t.options.caseSensitive) (hd : t.options.delimiter = "/")
    (hmarkers : t.options.markers = []) (hnames : t.parameterNames.Nodup)
    {encode : String → String} (hts : Bound encode values t.tokens)
    (hchain : t.tokens.IsChain Token.BoundedBy) {path : String}
    (hpath : Renders encode values t.tokens path) (hbinds : t.Binds values value)
    (decode : String → String) (name : String) :
    (t.extractor.extractWith decode path).lookup name =
      (value name).map fun x => decode (encode x) := by
  by_cases hname : name ∈ t.parameterNames
  · obtain ⟨p, hp, rfl⟩ := List.mem_map.1 hname
    obtain ⟨x, hx, hlookup⟩ :=
      h.lookup_extractWith hlook hd hmarkers hnames hts hchain hpath decode hp
    obtain ⟨y, hy, hsingle⟩ := hbinds.exists_single hp
    rw [hx] at hsingle
    obtain rfl := Value.single.inj (Option.some.inj hsingle)
    rw [hlookup, hy]
    rfl
  · obtain ⟨ws, hws⟩ := hts.exists_spells (fun q hq => h.scanned hq) hpath
    obtain ⟨_, _, _, _, _, _, hnone⟩ := h.exists_extracted hlook (h.isMatch_of_spells hlook hws)
    rw [(hnone decode).2 name hname, hbinds.eq_none hname]
    rfl

/-- A parameter with the default pattern ends at a slash, or at a dot if a dot stands before it. -/
theorem Compiled.exists_simple (h : t.Compiled) (hd : t.options.delimiter = "/")
    (hds : t.options.delimiters = "./") {p : Parameter} (hp : p ∈ t.keys)
    (hone : p.quantifier = .one) (hpattern : p.pattern = defaultPattern p.joiner) :
    ∃ c, p.Simple c ∧ (c = '/' ∨ c = '.' ∧ p.joiner = ".") := by
  have hmem := h.mem_keys_iff.1 hp
  obtain ⟨r, hr⟩ := exists_validator h.steps hmem
  rcases (h.scanned hmem).joiner_eq_slash_or_dot hd hds with hj | hj
  · exact ⟨'/', p.simple_of_singleton hj (by decide) hone hpattern hr, .inl rfl⟩
  · exact ⟨'.', p.simple_of_singleton hj (by decide) hone hpattern hr, .inr ⟨rfl, hj⟩⟩

/-- Values that are not empty and do not hold the dots that their parameters end at are rendered. -/
theorem Compiled.exists_expand (h : t.Compiled)
    (hsimple : ∀ p ∈ t.keys, ∃ c, p.Simple c ∧ (c = '/' ∨ c = '.' ∧ p.joiner = "."))
    (hbinds : t.Binds values value)
    (hfits : ∀ p ∈ t.keys, ∀ x, value p.name = some x →
      x ≠ "" ∧ (p.joiner = "." → '.' ∉ x.toList)) : ∃ path, t.expand values = .ok path := by
  have hpieces : ∀ p, .parameter p ∈ t.tokens →
      ∃ s, p.Renders Percent.encode (values.lookup p.name) s := by
    intro p hp
    have hkey := h.mem_keys_iff.2 hp
    obtain ⟨c, hsc, hcases⟩ := hsimple p hkey
    obtain ⟨x, hvalue, hx⟩ := hbinds.exists_single hkey
    obtain ⟨hne, hdot⟩ := hfits p hkey x hvalue
    have hfree : c ∉ (Percent.encode x).toList := by
      rcases hcases with rfl | ⟨rfl, hj⟩
      · exact Percent.slash_not_mem_encode x
      · exact Percent.dot_not_mem_encode (hdot hj)
    rw [hx]
    exact ⟨_, hsc.renders_iff.2 ⟨Percent.encode_ne_empty hne, hfree, rfl⟩⟩
  obtain ⟨path, hpath⟩ := Renders.exists_of_forall hpieces
  exact ⟨path, h.expandWith_eq_ok_iff.2 hpath⟩

/-- What was rendered from single values is extracted again, and the values do not fail to be
rendered unless one is empty or holds a dot that its parameter would end at. -/
theorem extract_expand (h : Template.compile o text = .ok t) (hdelimiter : o.delimiter = "/")
    (hdelimiters : o.delimiters = "./") (hends : o.endsWith = none ∨ o.endsWith = some [])
    (hkeys : ∀ p ∈ t.keys, p.quantifier = .one ∧ p.pattern = defaultPattern p.joiner)
    (hnames : t.parameterNames.Nodup) (hchain : t.tokens.IsChain Token.BoundedBy)
    (hvalues : ∀ name, values.lookup name = (value name).map Value.single)
    (hbound : ∀ name, name ∈ t.parameterNames ↔ (value name).isSome = true) :
    (∀ path, t.expand values = .ok path → t.isMatch path = true ∧
      (∀ name, (t.extract path).lookup name = (value name).map Percent.encode) ∧
      ∀ name, (t.extractDecoded path).lookup name = value name) ∧
    ((∀ p ∈ t.keys, ∀ x, value p.name = some x →
      x ≠ "" ∧ (p.joiner = "." → '.' ∉ x.toList)) → ∃ path, t.expand values = .ok path) := by
  obtain ⟨hc, rfl, -⟩ := compiled_of_compile h
  have hbinds : t.Binds values value := ⟨hvalues, hbound⟩
  have hmarkers : t.options.markers = [] := by
    rcases hends with he | he <;> rw [Options.markers, he] <;> rfl
  have hsimple : ∀ p ∈ t.keys, ∃ c, p.Simple c ∧ (c = '/' ∨ c = '.' ∧ p.joiner = ".") := by
    intro p hp
    obtain ⟨hone, hpattern⟩ := hkeys p hp
    exact hc.exists_simple hdelimiter hdelimiters hp hone hpattern
  have hts : Bound Percent.encode values t.tokens := by
    intro p hp
    have hkey := hc.mem_keys_iff.2 hp
    obtain ⟨c, hsc, -⟩ := hsimple p hkey
    obtain ⟨x, -, hx⟩ := hbinds.exists_single hkey
    exact ⟨⟨c, hsc⟩, x, hx, Percent.slash_not_mem_encode x⟩
  have hlook : ∀ p ∈ t.keys, p.LookFree t.options.caseSensitive := by
    intro p hp
    obtain ⟨c, hsc, -⟩ := hsimple p hp
    refine p.lookFree_defaultPattern (hkeys p hp).2 ?_ _
    rw [hsc.joiner_eq]
    exact Scanner.singleton_ne_empty c
  refine ⟨fun path he => ?_, hc.exists_expand hsimple hbinds⟩
  have hpath := hc.expandWith_eq_ok_iff.1 he
  obtain ⟨ws, hws⟩ := hts.exists_spells (fun p hp => hc.scanned hp) hpath
  have hextract (decode : String → String) (name : String) :
      (t.extractor.extractWith decode path).lookup name =
        (value name).map fun x => decode (Percent.encode x) :=
    hc.lookup_extractWith_eq hlook hdelimiter hmarkers hnames hts hchain hpath hbinds decode name
  refine ⟨hc.isMatch_of_spells hlook hws, hextract id, fun name => ?_⟩
  refine (hextract Percent.decode name).trans ?_
  simp [Percent.decode_encode]

theorem extract_expand_version :
    ∃ t, Template.compile {} "/:user/v.:major" = .ok t ∧
      t.expand [("user", .single "a b/c"), ("major", .single "1")] = .ok "/a%20b%2Fc/v.1" ∧
      t.isMatch "/a%20b%2Fc/v.1" = true ∧
      (t.extract "/a%20b%2Fc/v.1").lookup "user" = some "a%20b%2Fc" ∧
      (t.extractDecoded "/a%20b%2Fc/v.1").lookup "user" = some "a b/c" := by
  obtain ⟨t, ht, hkeys, hnames, hchain, he⟩ := exists_of_compile {} "/:user/v.:major"
    (p := fun t => (∀ p ∈ t.keys, p.quantifier = .one ∧ p.pattern = defaultPattern p.joiner) ∧
      t.parameterNames = ["user", "major"] ∧ t.tokens.IsChain Token.BoundedBy ∧
      t.expand [("user", .single "a b/c"), ("major", .single "1")] = .ok "/a%20b%2Fc/v.1")
    (by decide +kernel)
  let value (name : String) : Option String :=
    if name = "user" then some "a b/c" else if name = "major" then some "1" else none
  have hvalues (name : String) :
      List.lookup name [("user", .single "a b/c"), ("major", .single "1")] =
        (value name).map Value.single := by
    by_cases hu : name = "user"
    · simp [value, hu]
    · by_cases hm : name = "major"
      · simp [value, hm, List.lookup_cons]
      · simp [value, hu, hm, List.lookup_cons, beq_eq_false_iff_ne.2 hu,
          beq_eq_false_iff_ne.2 hm]
  have hbound (name : String) : name ∈ t.parameterNames ↔ (value name).isSome = true := by
    rw [hnames]
    by_cases hu : name = "user"
    · simp [value, hu]
    · simp [value, hu]
  obtain ⟨hexpand, -⟩ := extract_expand ht rfl rfl (.inl rfl) hkeys (by rw [hnames]; decide) hchain
    hvalues hbound
  obtain ⟨hm, hextract, hdecoded⟩ := hexpand _ he
  refine ⟨t, ht, he, hm, (hextract "user").trans ?_, (hdecoded "user").trans ?_⟩
  · decide +kernel
  · rfl

end Template

end RouteTemplate
