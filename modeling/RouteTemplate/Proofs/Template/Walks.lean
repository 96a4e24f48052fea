import RouteTemplate.Proofs.Template.Items
import RouteTemplate.Proofs.Template.Language

/-!
Where the pattern of a template leads, token by token: over the text of a literal, over the lead and
the values of a parameter, and over what may follow the tokens. `walk_source` says that the
expression which the whole pattern is read as walks in just this way.
-/

namespace RouteTemplate

open Regex
open Regex.PatternText (readBody groupFree_of_readBody)

section

variable (f : Flags) (text : List Char)

/-- A literal text in a pattern. -/
def textWalk (s : String) : Walk := Expr.walks text (s.toList.map f.literal)

/-- Over one value of a parameter. -/
def Parameter.valueWalk (p : Parameter) : Walk := fun i j ms =>
  ∃ b, readBody f p.pattern.toList = .ok b ∧ b.expr.walk text i j ms

def Parameter.capturedWalk (p : Parameter) : Walk :=
  if p.isRepeating then
    (p.valueWalk f text).andThen
      (((textWalk f text p.lead).andThen (p.valueWalk f text)).some (Times.Admits ⟨0, none⟩))
  else p.valueWalk f text

def Parameter.walk (g : Nat) (p : Parameter) : Walk :=
  let lead := textWalk f text p.lead
  let group := (p.capturedWalk f text).saving g
  if p.isOptional then
    if p.leadStays then lead.andThen (group.either Walk.stay)
    else (lead.andThen group).either Walk.stay
  else lead.andThen group

namespace Token

def walk (g : Nat) : Token → Walk
  | literal s => textWalk f text s
  | parameter p => p.walk f text g

/-- Tokens in turn, the parameters of which are the groups from `g` on. -/
def walks : Nat → List Token → Walk
  | _, [] => Walk.stay
  | g, t :: ts => (t.walk f text g).andThen (walks (g + t.groups) ts)

end Token

/-- One of the end markers, or the end of the text. -/
def Options.endWalk (o : Options) : Walk := fun i j ms =>
  (∃ m ∈ o.markers, textWalk f text m i j ms) ∨ (Expr.look .textEnd).walk text i j ms

def Options.terminatorWalk (o : Options) (delimited : Bool) : Walk :=
  if o.matchEnd then
    (if o.strict then Walk.stay else (textWalk f text o.delimiter).either Walk.stay).andThen
      (o.endWalk f text)
  else if delimited then Walk.stay
  else (textWalk f text o.delimiter).either (o.endWalk f text)

end

section

variable {f : Flags} {p : Parameter} (text : List Char)

theorem walks_literals (s : String) :
    Expr.walks text ((literals f s).map Item.expr) = textWalk f text s := by
  rw [literals, List.map_map]
  rfl

theorem quiet_textWalk (s : String) : (textWalk f text s).Quiet := by
  refine Expr.Quiet.walks (fun e he => ?_) text
  obtain ⟨c, -, rfl⟩ := List.mem_map.1 he
  exact Expr.Quiet.ofClass _ _

theorem walk_sequence (items : List Item) :
    (Regex.sequence items).expr.walk text = Expr.walks text (items.map Item.expr) := by
  rw [expr_sequence, Expr.walk_seq]

theorem walk_optional (i : Item) :
    (i.optional f).expr.walk text = (i.expr.walk text).either Walk.stay := by
  rw [Item.expr_optional, Expr.walk_repeated text (.inr rfl),
    Expr.some_admits_optional]

/-! ## Parameters -/

theorem valueWalk_eq {b : Item} (hb : readBody f p.pattern.toList = .ok b) :
    p.valueWalk f text = b.expr.walk text := by
  apply Walk.ext
  intro i j ms
  rw [Parameter.valueWalk, hb]
  simp

theorem Parameter.Readable.walk_value (hp : p.Readable f) :
    (p.value f).expr.walk text = p.valueWalk f text :=
  (valueWalk_eq text hp.readBody_value).symm

theorem Parameter.Readable.quiet (hp : p.Readable f) (hv : f.verbose = false) :
    (p.valueWalk f text).Quiet := by
  rw [valueWalk_eq text hp.readBody_value]
  exact (groupFree_of_readBody hv hp.enclosable hp.readBody_value).quiet text

/-- The lead and one more value. -/
theorem Parameter.Readable.walk_more (hp : p.Readable f) :
    (Regex.sequence (literals f p.lead ++ [(p.value f).enclosed])).expr.walk text =
      (textWalk f text p.lead).andThen (p.valueWalk f text) := by
  rw [walk_sequence, List.map_append, Expr.walks_append, walks_literals, List.map_singleton,
    Expr.walks_singleton, Item.expr_enclosed, hp.walk_value]

theorem Parameter.Readable.walk_captured (hp : p.Readable f) (hv : f.verbose = false) :
    (p.captured f).expr.walk text = p.capturedWalk f text := by
  unfold Parameter.captured Parameter.capturedWalk
  cases p.isRepeating with
  | false => exact hp.walk_value text
  | true =>
    have hmore := hp.walk_more text
    have hquiet : ((textWalk f text p.lead).andThen (p.valueWalk f text)).Quiet :=
      (quiet_textWalk text p.lead).andThen (hp.quiet text hv)
    rw [if_pos rfl, if_pos rfl, walk_sequence]
    simp only [List.map_cons, List.map_nil, Expr.walks, Walk.all, Walk.andThen_stay,
      Item.expr_enclosed, Item.expr_repeated, hp.walk_value]
    rw [Expr.walk_repeated text (.inl (by rwa [hmore])), hmore]

/-- A parameter is read as items that walk as the parameter does. -/
theorem Parameter.Readable.walks_items (hp : p.Readable f) (hv : f.verbose = false) (g : Nat) :
    Expr.walks text ((p.items f g).map Item.expr) = p.walk f text g := by
  have hgroup : ((p.captured f).captured g).expr.walk text = (p.capturedWalk f text).saving g := by
    rw [Item.expr_captured, Expr.walk, hp.walk_captured text hv]
  have hlead (i : Item) : Expr.walks text ((literals f p.lead ++ [i]).map Item.expr) =
      (textWalk f text p.lead).andThen (i.expr.walk text) := by
    rw [List.map_append, Expr.walks_append, walks_literals, List.map_singleton,
      Expr.walks_singleton]
  unfold Parameter.items Parameter.walk
  cases p.isOptional with
  | false =>
    rw [← hgroup]
    exact hlead _
  | true =>
    cases p.leadStays with
    | true =>
      simp only [if_true]
      rw [hlead, walk_optional, hgroup]
    | false =>
      simp only [Bool.false_eq_true, if_true, if_false]
      rw [List.map_singleton, Expr.walks_singleton, walk_optional, Item.expr_enclosed,
        walk_sequence, hlead, hgroup]

/-! ## Tokens -/

theorem walks_itemsFrom (hv : f.verbose = false) {ts : List Token}
    (hts : ∀ p, .parameter p ∈ ts → p.Readable f) (g : Nat) :
    Expr.walks text ((Token.itemsFrom f g ts).map Item.expr) = Token.walks f text g ts := by
  induction ts generalizing g with
  | nil => rfl
  | cons t ts ih =>
    have ht : Expr.walks text ((t.items f g).map Item.expr) = t.walk f text g := by
      cases t with
      | literal s => exact walks_literals text s
      | parameter p => exact (hts p (List.mem_cons_self ..)).walks_items text hv g
    rw [Token.itemsFrom, List.map_append, Expr.walks_append, ht,
      ih (fun p hp => hts p (List.mem_cons_of_mem _ hp)), Token.walks]

/-! ## What may follow -/

theorem walk_endChoice (texts : List String) : (endChoice f texts).expr.walk text = fun i j ms =>
    (∃ m ∈ texts, textWalk f text m i j ms) ∨ (Expr.look .textEnd).walk text i j ms := by
  refine Walk.ext fun i j ms => ?_
  rw [endChoice, Item.expr_enclosed, walk_bodyOf _ (by simp), List.map_append, Expr.choices_append,
    List.map_singleton, Expr.choices_singleton, Expr.walk_seq, List.map_singleton,
    Expr.walks_singleton]
  refine or_congr ?_ Iff.rfl
  constructor
  · rintro ⟨e, he, hw⟩
    obtain ⟨items, hi, rfl⟩ := List.mem_map.1 he
    obtain ⟨m, hm, rfl⟩ := List.mem_map.1 hi
    rw [Expr.walk_seq, walks_literals] at hw
    exact ⟨m, hm, hw⟩
  · rintro ⟨m, hm, hw⟩
    refine ⟨_, List.mem_map.2 ⟨_, List.mem_map.2 ⟨m, hm, rfl⟩, rfl⟩, ?_⟩
    rw [Expr.walk_seq, walks_literals]
    exact hw

theorem walks_endItems (o : Options) :
    Expr.walks text ((o.endItems f).map Item.expr) = o.endWalk f text := by
  unfold Options.endItems
  cases he : o.markers.isEmpty with
  | true =>
    refine Walk.ext fun i j ms => ?_
    rw [Options.endWalk, List.isEmpty_iff.1 he, if_pos rfl, List.map_singleton,
      Expr.walks_singleton]
    simp [endItem]
  | false =>
    rw [if_neg Bool.false_ne_true, List.map_singleton, Expr.walks_singleton, walk_endChoice]
    rfl

/-- The end of the pattern is read as items that walk over what may follow. -/
theorem walks_terminatorItems (o : Options) (delimited : Bool) :
    Expr.walks text ((o.terminatorItems f delimited).map Item.expr) =
      o.terminatorWalk f text delimited := by
  unfold Options.terminatorItems Options.terminatorWalk
  cases o.matchEnd with
  | true =>
    simp only [if_true]
    rw [List.map_append, Expr.walks_append, walks_endItems]
    cases o.strict with
    | true => rfl
    | false =>
      simp only [Bool.false_eq_true, if_false]
      rw [List.map_singleton, Expr.walks_singleton, walk_optional, Item.expr_enclosed,
        walk_sequence, walks_literals]
  | false =>
    simp only [Bool.false_eq_true, if_false]
    cases delimited with
    | true => rfl
    | false =>
      refine Walk.ext fun i j ms => ?_
      rw [if_neg Bool.false_ne_true, if_neg Bool.false_ne_true, List.map_singleton,
        Expr.walks_singleton, walk_endChoice]
      simp only [Walk.either, Options.endWalk, List.exists_mem_cons_iff, or_assoc]

/-- The pattern of a template leads from the beginning of a text over the tokens to what may
follow. -/
theorem walk_source (hv : f.verbose = false) (hm : f.multiLine = false) {o : Options}
    {ts : List Token} (hts : ∀ p, .parameter p ∈ ts → p.Readable f) {e : Expr}
    (he : Expr.read f (Source.ofTokens o ts).text.toList = .ok e) :
    e.walk text = ((Expr.look .textStart).walk text).andThen ((Token.walks f text 1 ts).andThen
      (o.terminatorWalk f text (Source.endsDelimited o ts.getLast?))) := by
  obtain ⟨-, rfl⟩ := (read_source hv hm hts).1 he
  rw [Expr.walk_seq, sourceItems, List.map_cons, List.map_append, ← walks_itemsFrom text hv hts,
    ← walks_terminatorItems, ← Expr.walks_append]
  rfl

end

end RouteTemplate
