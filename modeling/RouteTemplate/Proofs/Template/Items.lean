import RouteTemplate.Proofs.Regex.Reading
import RouteTemplate.Template

/-!
What the pattern of a template is read as. Each token becomes some items, and so does the end of the
pattern. `ReadsAs` says that a text is read as given items, whatever stands around it; it holds of
each token and of the end of the pattern, so `read_source` can put them together.
-/

namespace RouteTemplate

open Regex
open Regex.PatternText (readBody maxHeight)

/-- The pattern of a parameter can be read in any group. -/
structure Parameter.Readable (f : Flags) (p : Parameter) : Prop where
  enclosable : Enclosable p.pattern.toList
  exists_body : ∃ b, readBody f p.pattern.toList = .ok b

/-! ## Items -/

namespace Regex.Item

/-- In parentheses that do not capture. -/
def enclosed (i : Item) : Item := { expr := i.expr, height := i.height + 1 }

/-- In parentheses that capture. -/
def captured (g : Nat) (i : Item) : Item := { expr := .group g i.expr, height := i.height + 1 }

def repeated (f : Flags) (times : Times) (i : Item) : Item :=
  { expr := .repeated times (f.greedy false) i.expr, height := i.height + 1 }

def optional (f : Flags) (i : Item) : Item := i.repeated f ⟨0, some 1⟩

@[simp] theorem expr_enclosed (i : Item) : i.enclosed.expr = i.expr := rfl

@[simp] theorem expr_captured (g : Nat) (i : Item) : (i.captured g).expr = .group g i.expr := rfl

@[simp] theorem expr_repeated (f : Flags) (times : Times) (i : Item) :
    (i.repeated f times).expr = .repeated times (f.greedy false) i.expr := rfl

@[simp] theorem expr_optional (f : Flags) (i : Item) :
    (i.optional f).expr = .repeated ⟨0, some 1⟩ (f.greedy false) i.expr := rfl

end Regex.Item

section

variable (f : Flags)

/-- The characters of a text. -/
def literals (s : String) : List Item := s.toList.map fun c => { expr := f.literal c }

/-- One value of a parameter; a pattern that cannot be read by itself stands for nothing. -/
def Parameter.value (p : Parameter) : Item :=
  (readBody f p.pattern.toList).toOption.getD { expr := .empty }

/-- What the group of a parameter holds. -/
def Parameter.captured (p : Parameter) : Item :=
  if p.isRepeating then
    Regex.sequence [(p.value f).enclosed,
      (Regex.sequence (literals f p.lead ++ [(p.value f).enclosed])).enclosed.repeated f ⟨0, none⟩]
  else p.value f

def Parameter.items (g : Nat) (p : Parameter) : List Item :=
  let group := (p.captured f).captured g
  if p.isOptional then
    if p.leadStays then literals f p.lead ++ [group.optional f]
    else [(Regex.sequence (literals f p.lead ++ [group])).enclosed.optional f]
  else literals f p.lead ++ [group]

namespace Token

/-- How many groups a token has. -/
def groups : Token → Nat
  | literal _ => 0
  | parameter _ => 1

def items (g : Nat) : Token → List Item
  | literal s => literals f s
  | parameter p => p.items f g

/-- Tokens in turn, the parameters of which are the groups from `g` on. -/
def itemsFrom : Nat → List Token → List Item
  | _, [] => []
  | g, t :: ts => t.items f g ++ itemsFrom (g + t.groups) ts

end Token

/-- The end of a text. -/
def endItem : Item := { expr := .look .textEnd }

/-- Texts as alternatives, the last of which is the end of the text. -/
def endChoice (texts : List String) : Item :=
  (bodyOf (texts.map (literals f) ++ [[endItem]])).enclosed

def Options.endItems (o : Options) : List Item :=
  if o.markers.isEmpty then [endItem] else [endChoice f o.markers]

/-- The end of the pattern of a template. -/
def Options.terminatorItems (o : Options) (delimited : Bool) : List Item :=
  if o.matchEnd then
    (if o.strict then [] else [(Regex.sequence (literals f o.delimiter)).enclosed.optional f]) ++
      o.endItems f
  else if delimited then []
  else [endChoice f (o.delimiter :: o.markers)]

/-- The pattern of a template. -/
def sourceItems (o : Options) (ts : List Token) : List Item :=
  { expr := .look .textStart } ::
    (Token.itemsFrom f 1 ts ++ o.terminatorItems f (Source.endsDelimited o ts.getLast?))

end

/-! ## Texts and their items -/

/-- The text is read behind any other, as the given items. -/
def ReadsAs (f : Flags) (s : String) (g g' : Nat) (items : List Item) : Prop :=
  Reads f s.toList g g' items ∧ s.toList.head? ≠ some '?'

section

variable {f : Flags} {s s' : String} {g g₁ g₂ : Nat} {items items' : List Item} {b : Item}

theorem head?_append_ne {a b : List Char} (ha : a.head? ≠ some '?') (hb : b.head? ≠ some '?') :
    (a ++ b).head? ≠ some '?' := by
  cases a with
  | nil => exact hb
  | cons c a => exact ha

theorem ReadsAs.nil (f : Flags) (g : Nat) : ReadsAs f "" g g [] := ⟨Reads.nil f g, by simp⟩

theorem ReadsAs.append (h : ReadsAs f s g g₁ items) (h' : ReadsAs f s' g₁ g₂ items') :
    ReadsAs f (s ++ s') g g₂ (items ++ items') := by
  rw [ReadsAs, String.toList_append]
  exact ⟨h.1.append h'.1 h'.2, head?_append_ne h.2 h'.2⟩

theorem ReadsAs.quote (hv : f.verbose = false) (s : String) (g : Nat) :
    ReadsAs f (Regex.quote s) g g (literals f s) := by
  rw [ReadsAs, toList_quote]
  exact ⟨Reads.quote hv s.toList g, head?_flatMap_quoteChar s.toList⟩

theorem lineStart_eq (hm : f.multiLine = false) : f.lineStart = .textStart := by
  rw [Flags.lineStart, hm]
  rfl

theorem lineEnd_eq (hm : f.multiLine = false) : f.lineEnd = .textEnd := by
  rw [Flags.lineEnd, hm]
  rfl

theorem ReadsAs.lineStart (hv : f.verbose = false) (hm : f.multiLine = false) (g : Nat) :
    ReadsAs f "^" g g [{ expr := .look .textStart }] := by
  have htext : "^".toList = ['^'] := by decide
  rw [ReadsAs, htext, ← lineStart_eq hm]
  exact ⟨(ReadsItem.lineStart hv g).reads, by decide⟩

theorem ReadsAs.lineEnd (hv : f.verbose = false) (hm : f.multiLine = false) (g : Nat) :
    ReadsAs f "$" g g [endItem] := by
  have htext : "$".toList = ['$'] := by decide
  rw [ReadsAs, htext, endItem, ← lineEnd_eq hm]
  exact ⟨(ReadsItem.lineEnd hv g).reads, by decide⟩

theorem ReadsAs.fills (h : ReadsAs f s g g₁ items) : Fills f s.toList g g₁ (Regex.sequence items) :=
  Fills.seq h.1

theorem ReadsAs.group (hv : f.verbose = false) (h : Fills f s.toList g g₁ b) :
    ReadsAs f ("(?:" ++ s ++ ")") g g₁ [b.enclosed] := by
  have htext : ("(?:" ++ s ++ ")").toList = grouped s.toList := by simp [grouped]
  rw [ReadsAs, htext]
  exact ⟨(ReadsItem.group hv h).reads, head?_grouped _⟩

theorem ReadsAs.optionalGroup (hv : f.verbose = false) (h : Fills f s.toList g g₁ b) :
    ReadsAs f ("(?:" ++ s ++ ")?") g g₁ [b.enclosed.optional f] := by
  have htext : ("(?:" ++ s ++ ")?").toList = grouped s.toList ++ ['?'] := by simp [grouped]
  rw [ReadsAs, htext]
  exact ⟨Reads.optional hv (ReadsItem.group hv h), head?_grouped_append _ _⟩

theorem ReadsAs.repeatedGroup (hv : f.verbose = false) (h : Fills f s.toList g g₁ b) :
    ReadsAs f ("(?:" ++ s ++ ")*") g g₁ [b.enclosed.repeated f ⟨0, none⟩] := by
  have htext : ("(?:" ++ s ++ ")*").toList = grouped s.toList ++ ['*'] := by simp [grouped]
  rw [ReadsAs, htext]
  exact ⟨Reads.star hv (ReadsItem.group hv h), head?_grouped_append _ _⟩

theorem ReadsAs.capture (hv : f.verbose = false) (h : Fills f s.toList (g + 1) g₁ b)
    (hhead : s.toList.head? ≠ some '?') :
    ReadsAs f ("(" ++ s ++ ")") g g₁ [b.captured g] := by
  have htext : ("(" ++ s ++ ")").toList = '(' :: (s.toList ++ [')']) := by simp
  rw [ReadsAs, htext]
  exact ⟨(ReadsItem.capture hv h hhead).reads, by simp⟩

theorem ReadsAs.optionalCapture (hv : f.verbose = false) (h : Fills f s.toList (g + 1) g₁ b)
    (hhead : s.toList.head? ≠ some '?') :
    ReadsAs f ("(" ++ s ++ ")" ++ "?") g g₁ [(b.captured g).optional f] := by
  have htext : ("(" ++ s ++ ")" ++ "?").toList = '(' :: (s.toList ++ [')']) ++ ['?'] := by simp
  rw [ReadsAs, htext]
  exact ⟨Reads.optional hv (ReadsItem.capture hv h hhead), by simp⟩

theorem ReadsAs.endChoice (hv : f.verbose = false) (hm : f.multiLine = false)
    (texts : List String) (g : Nat) :
    ReadsAs f ("(?:" ++ "|".intercalate (texts.map Regex.quote ++ ["$"]) ++ ")") g g
      [endChoice f texts] := by
  have hall : List.Forall₂ (Reads f · g g) ((texts.map Regex.quote ++ ["$"]).map String.toList)
      (texts.map (literals f) ++ [[endItem]]) := by
    induction texts with
    | nil => exact .cons (ReadsAs.lineEnd hv hm g).1 .nil
    | cons m texts ih => exact .cons (ReadsAs.quote hv m g).1 ih
  have hbar : "|".toList = ['|'] := by decide
  refine ReadsAs.group hv ?_
  rw [String.toList_intercalate, hbar]
  exact Fills.alternatives hv (by simp) hall

end

/-! ## Tokens -/

section

variable {f : Flags} {p : Parameter}

theorem value_eq {b : Item} (hb : readBody f p.pattern.toList = .ok b) : p.value f = b := by
  rw [Parameter.value, hb]
  rfl

theorem Parameter.Readable.readBody_value (hp : p.Readable f) :
    readBody f p.pattern.toList = .ok (p.value f) := by
  obtain ⟨b, hb⟩ := hp.exists_body
  rw [value_eq hb, hb]

theorem Parameter.Readable.fills (hp : p.Readable f) (hv : f.verbose = false) (g : Nat) :
    Fills f p.pattern.toList g g (p.value f) :=
  Fills.pattern hv hp.enclosable hp.readBody_value g

theorem toList_captured (hr : p.isRepeating = true) :
    Source.captured p = ("(?:" ++ p.pattern ++ ")") ++
      ("(?:" ++ (quote p.lead ++ ("(?:" ++ p.pattern ++ ")")) ++ ")*") := by
  rw [Source.captured, if_pos hr, ← String.toList_inj]
  simp

/-- A run of values is read as a sequence. -/
theorem Parameter.Readable.reads_captured (hp : p.Readable f) (hv : f.verbose = false)
    (hr : p.isRepeating = true) (g : Nat) :
    ReadsAs f (Source.captured p) g g [(p.value f).enclosed,
      (Regex.sequence (literals f p.lead ++ [(p.value f).enclosed])).enclosed.repeated f
        ⟨0, none⟩] := by
  have hvalue := ReadsAs.group hv (hp.fills hv g)
  have hmore := (ReadsAs.quote hv p.lead g).append hvalue
  rw [toList_captured hr]
  exact hvalue.append (ReadsAs.repeatedGroup hv hmore.fills)

theorem fills_captured (hv : f.verbose = false) (hp : p.Readable f) (g : Nat) :
    Fills f (Source.captured p).toList g g (p.captured f) ∧
      (Source.captured p).toList.head? ≠ some '?' := by
  unfold Parameter.captured
  cases hr : p.isRepeating with
  | false =>
    rw [Source.captured, hr]
    exact ⟨hp.fills hv g, head?_of_readBody hv hp.readBody_value⟩
  | true =>
    have hread := hp.reads_captured hv hr g
    exact ⟨hread.fills, hread.2⟩

theorem readsAs_parameter (hv : f.verbose = false) (hp : p.Readable f) (g : Nat) :
    ReadsAs f (Source.parameter p) g (g + 1) (p.items f g) := by
  obtain ⟨hcaptured, hhead⟩ := fills_captured hv hp (g + 1)
  have hlead := ReadsAs.quote hv p.lead g
  have hgroup := ReadsAs.capture hv hcaptured hhead
  unfold Source.parameter Parameter.items
  cases p.isOptional with
  | false => exact hlead.append hgroup
  | true =>
    cases p.leadStays with
    | true =>
      simp only [if_true]
      rw [String.append_assoc]
      exact hlead.append (ReadsAs.optionalCapture hv hcaptured hhead)
    | false =>
      have htext : "(?:" ++ quote p.lead ++ ("(" ++ Source.captured p ++ ")") ++ ")?" =
          "(?:" ++ (quote p.lead ++ ("(" ++ Source.captured p ++ ")")) ++ ")?" := by
        simp only [String.append_assoc]
      simp only [Bool.false_eq_true, if_true, if_false]
      rw [htext]
      exact ReadsAs.optionalGroup hv (hlead.append hgroup).fills

theorem readsAs_token (hv : f.verbose = false) {t : Token}
    (ht : ∀ p, t = .parameter p → p.Readable f) (g : Nat) :
    ReadsAs f (Source.token t) g (g + t.groups) (t.items f g) := by
  cases t with
  | literal s => exact ReadsAs.quote hv s g
  | parameter p => exact readsAs_parameter hv (ht p rfl) g

theorem exists_readsAs_tokens (hv : f.verbose = false) {ts : List Token}
    (hts : ∀ p, .parameter p ∈ ts → p.Readable f) (g : Nat) :
    ∃ g', ReadsAs f (String.join (ts.map Source.token)) g g' (Token.itemsFrom f g ts) := by
  induction ts generalizing g with
  | nil => exact ⟨g, ReadsAs.nil f g⟩
  | cons t ts ih =>
    have ht := readsAs_token hv (fun p hp => hts p (hp ▸ List.mem_cons_self ..)) g
    obtain ⟨g', hmore⟩ := ih (fun p hp => hts p (List.mem_cons_of_mem _ hp)) (g + t.groups)
    rw [List.map_cons, String.join_cons]
    exact ⟨g', ht.append hmore⟩

/-! ## What may follow -/

theorem readsAs_end (hv : f.verbose = false) (hm : f.multiLine = false) (o : Options) (g : Nat) :
    ReadsAs f (if o.markers.isEmpty then "$" else "(?:" ++ Source.markers o ++ ")") g g
      (o.endItems f) := by
  unfold Options.endItems
  cases o.markers.isEmpty with
  | true => exact ReadsAs.lineEnd hv hm g
  | false => exact ReadsAs.endChoice hv hm o.markers g

theorem readsAs_onward (hv : f.verbose = false) (hm : f.multiLine = false) (o : Options)
    (g : Nat) :
    ReadsAs f ("(?:" ++ quote o.delimiter ++ "|" ++ Source.markers o ++ ")") g g
      [endChoice f (o.delimiter :: o.markers)] := by
  have htext : "(?:" ++ quote o.delimiter ++ "|" ++ Source.markers o ++ ")" =
      "(?:" ++ "|".intercalate ((o.delimiter :: o.markers).map quote ++ ["$"]) ++ ")" := by
    rw [List.map_cons, List.cons_append, String.intercalate_cons_of_ne_nil (by simp)]
    simp only [Source.markers, String.append_assoc]
  rw [htext]
  exact ReadsAs.endChoice hv hm (o.delimiter :: o.markers) g

theorem readsAs_terminator (hv : f.verbose = false) (hm : f.multiLine = false) (o : Options)
    (delimited : Bool) (g : Nat) :
    ReadsAs f (Source.terminator o delimited) g g (o.terminatorItems f delimited) := by
  have hend := readsAs_end hv hm o g
  unfold Source.terminator Options.terminatorItems
  cases o.matchEnd with
  | true =>
    simp only [if_true]
    cases o.strict with
    | true => exact (ReadsAs.nil f g).append hend
    | false => exact (ReadsAs.optionalGroup hv (ReadsAs.quote hv o.delimiter g).fills).append hend
  | false =>
    simp only [Bool.false_eq_true, if_false]
    cases delimited with
    | true => exact ReadsAs.nil f g
    | false => exact readsAs_onward hv hm o g

theorem exists_reads_source (hv : f.verbose = false) (hm : f.multiLine = false) (o : Options)
    {ts : List Token} (hts : ∀ p, .parameter p ∈ ts → p.Readable f) :
    ∃ g, Reads f (Source.ofTokens o ts).text.toList 1 g (sourceItems f o ts) := by
  obtain ⟨g, htokens⟩ := exists_readsAs_tokens hv hts 1
  have hend := readsAs_terminator hv hm o (Source.endsDelimited o ts.getLast?) g
  have hall := (ReadsAs.lineStart hv hm 1).append (htokens.append hend)
  rw [← String.append_assoc] at hall
  exact ⟨g, hall.1⟩

/-- The pattern of a template can be read if it does not nest too deeply, and what it is read as. -/
theorem read_source (hv : f.verbose = false) (hm : f.multiLine = false) {o : Options}
    {ts : List Token} (hts : ∀ p, .parameter p ∈ ts → p.Readable f) {e : Expr} :
    Expr.read f (Source.ofTokens o ts).text.toList = .ok e ↔
      (Regex.sequence (sourceItems f o ts)).height ≤ maxHeight ∧
        e = .seq ((sourceItems f o ts).map Item.expr) := by
  obtain ⟨g, hreads⟩ := exists_reads_source hv hm o hts
  exact Expr.read_reads hreads

end

end RouteTemplate
