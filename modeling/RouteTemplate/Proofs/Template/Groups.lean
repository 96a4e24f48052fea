import RouteTemplate.Proofs.Template.Extraction

/-!
The groups of a template. The pattern of a template has one group for each key, in order, and the
group of a key holds what was written into its parentheses; neither a custom pattern nor a literal
adds one (`groups_of_compile`). A group outside of everything that may be left out takes part in
each match, so extraction binds all names or, without a match, none: `Template.extract_by_groups`.
-/

namespace RouteTemplate

open Regex
open Regex.PatternText (readBody maxHeight groupFree_of_readBody)

/-! ## Groups of items -/

/-- The groups of some items in turn. -/
def groupsOf (items : List Item) : List (Nat × Expr) := (items.map Item.expr).flatMap Expr.groups

theorem groupsOf_append (a b : List Item) : groupsOf (a ++ b) = groupsOf a ++ groupsOf b := by
  rw [groupsOf, List.map_append, List.flatMap_append]
  rfl

theorem groupsOf_singleton (i : Item) : groupsOf [i] = i.expr.groups := List.flatMap_singleton _ _

theorem groups_sequence (items : List Item) :
    (Regex.sequence items).expr.groups = groupsOf items := by
  rw [expr_sequence, Expr.groups_seq]
  rfl

section

variable {f : Flags} {p : Parameter}

theorem groupsOf_literals (s : String) : groupsOf (literals f s) = [] := by
  refine Expr.groups_flatMap_eq_nil fun e he => ?_
  obtain ⟨i, hi, rfl⟩ := List.mem_map.1 he
  obtain ⟨c, -, rfl⟩ := List.mem_map.1 hi
  exact Expr.GroupFree.ofClass _ _

theorem groupFree_sequence {items : List Item} (h : groupsOf items = []) :
    (Regex.sequence items).expr.GroupFree := (groups_sequence items).trans h

theorem Parameter.Readable.groupFree_value (hp : p.Readable f) (hv : f.verbose = false) :
    (p.value f).expr.GroupFree :=
  groupFree_of_readBody hv hp.enclosable hp.readBody_value

theorem Parameter.Readable.groupFree_captured (hp : p.Readable f) (hv : f.verbose = false) :
    (p.captured f).expr.GroupFree := by
  have hvalue := hp.groupFree_value hv
  unfold Parameter.captured
  cases p.isRepeating with
  | false => exact hvalue
  | true =>
    have hmore : (Regex.sequence (literals f p.lead ++ [(p.value f).enclosed])).expr.GroupFree := by
      refine groupFree_sequence ?_
      rw [groupsOf_append, groupsOf_literals, groupsOf_singleton, Item.expr_enclosed]
      exact hvalue
    refine groupFree_sequence (Expr.groups_flatMap_eq_nil fun e he => ?_)
    simp only [List.map_cons, List.map_nil, List.mem_cons, List.not_mem_nil, or_false,
      Item.expr_enclosed, Item.expr_repeated] at he
    rcases he with rfl | rfl
    · exact hvalue
    · exact hmore.repeated _ _

/-- A parameter has the one group that is written for it. -/
theorem Parameter.Readable.groupsOf_items (hp : p.Readable f) (hv : f.verbose = false) (g : Nat) :
    groupsOf (p.items f g) = [(g, (p.captured f).expr)] := by
  have hgroup : ((p.captured f).captured g).expr.groups = [(g, (p.captured f).expr)] := by
    have hfree := hp.groupFree_captured hv
    rw [Expr.GroupFree] at hfree
    rw [Item.expr_captured, Expr.groups, hfree]
  have hlead (i : Item) : groupsOf (literals f p.lead ++ [i]) = i.expr.groups := by
    rw [groupsOf_append, groupsOf_literals, groupsOf_singleton, List.nil_append]
  unfold Parameter.items
  cases p.isOptional with
  | false => exact (hlead _).trans hgroup
  | true =>
    cases p.leadStays with
    | true =>
      refine (hlead _).trans ?_
      rw [Item.expr_optional, Expr.groups_repeated_optional, hgroup]
    | false =>
      refine (groupsOf_singleton _).trans ?_
      rw [Item.expr_optional, Expr.groups_repeated_optional, Item.expr_enclosed, groups_sequence,
        hlead, hgroup]

theorem groupsOf_itemsFrom (hv : f.verbose = false) {ts : List Token}
    (hts : ∀ p, .parameter p ∈ ts → p.Readable f) (g : Nat) :
    groupsOf (Token.itemsFrom f g ts) =
      ((ts.filterMap Token.parameter?).zipIdx g).map
        fun key => (key.2, (key.1.captured f).expr) := by
  induction ts generalizing g with
  | nil => rfl
  | cons t ts ih =>
    have hmore := ih (fun p hp => hts p (List.mem_cons_of_mem _ hp)) (g + t.groups)
    rw [Token.itemsFrom, groupsOf_append, hmore]
    cases t with
    | literal s => rw [Token.items, groupsOf_literals]; rfl
    | parameter p => rw [Token.items, (hts p (List.mem_cons_self ..)).groupsOf_items hv]; rfl

theorem groupFree_endChoice (texts : List String) : (endChoice f texts).expr.GroupFree := by
  have hall : ∀ i ∈ (texts.map (literals f) ++ [[endItem]]).map Regex.sequence,
      i.expr.GroupFree := by
    intro i hi
    obtain ⟨items, hitems, rfl⟩ := List.mem_map.1 hi
    refine groupFree_sequence ?_
    rcases List.mem_append.1 hitems with hitems | hitems
    · obtain ⟨s, -, rfl⟩ := List.mem_map.1 hitems
      exact groupsOf_literals s
    · obtain rfl := List.mem_singleton.1 hitems
      rfl
  rw [endChoice, Item.expr_enclosed, bodyOf]
  split
  · rfl
  next i h => exact hall i (by rw [h]; exact List.mem_cons_self ..)
  next i rest _ h =>
    rw [h] at hall
    refine Expr.GroupFree.choice fun e he => ?_
    obtain ⟨j, hj, rfl⟩ := List.mem_map.1 he
    exact hall j hj

theorem groupsOf_terminatorItems (o : Options) (delimited : Bool) :
    groupsOf (o.terminatorItems f delimited) = [] := by
  have hend : groupsOf (o.endItems f) = [] := by
    unfold Options.endItems
    split
    · rfl
    · exact (groupsOf_singleton _).trans (groupFree_endChoice _)
  unfold Options.terminatorItems
  split
  · rw [groupsOf_append, hend, List.append_nil]
    split
    · rfl
    · have hdelimiter := groupFree_sequence (groupsOf_literals (f := f) o.delimiter)
      refine (groupsOf_singleton _).trans ?_
      rw [Item.expr_optional, Expr.groups_repeated_optional, Item.expr_enclosed]
      exact hdelimiter
  · split
    · rfl
    · exact (groupsOf_singleton _).trans (groupFree_endChoice _)

/-- The groups of the pattern of a template are those of its parameters, from 1 on. -/
theorem groups_sourceItems (hv : f.verbose = false) (o : Options) {ts : List Token}
    (hts : ∀ p, .parameter p ∈ ts → p.Readable f) :
    (Regex.sequence (sourceItems f o ts)).expr.groups =
      ((ts.filterMap Token.parameter?).zipIdx 1).map fun key =>
        (key.2, (key.1.captured f).expr) := by
  rw [groups_sequence, sourceItems, ← List.singleton_append, groupsOf_append, groupsOf_append,
    groupsOf_itemsFrom hv hts, groupsOf_terminatorItems, List.append_nil]
  rfl

/-! ## What a group holds -/

theorem height_le_sequence {items : List Item} {i : Item} (h : i ∈ items) :
    i.height ≤ (Regex.sequence items).height := by
  have hmax : ∀ l : List Item, i ∈ l → i.height ≤ (l.map Item.height).foldr max 0 := by
    intro l hl
    induction l with
    | nil => exact absurd hl List.not_mem_nil
    | cons j l ih =>
      rw [List.map_cons, List.foldr_cons]
      rcases List.mem_cons.1 hl with rfl | hl
      · exact Nat.le_max_left _ _
      · exact Nat.le_trans (ih hl) (Nat.le_max_right _ _)
  have hi := hmax items.reverse (List.mem_reverse.2 h)
  unfold Regex.sequence Level.branch
  simp only
  split <;> omega

theorem height_captured_le (g : Nat) :
    ∃ i ∈ p.items f g, (p.captured f).height ≤ i.height := by
  unfold Parameter.items
  cases p.isOptional with
  | false => exact ⟨_, List.mem_append_right _ (List.mem_cons_self ..), Nat.le_succ _⟩
  | true =>
    cases p.leadStays with
    | true =>
      refine ⟨_, List.mem_append_right _ (List.mem_cons_self ..), ?_⟩
      show _ ≤ (p.captured f).height + 1 + 1
      omega
    | false =>
      refine ⟨_, List.mem_cons_self .., ?_⟩
      have hgroup := height_le_sequence (List.mem_append_right (literals f p.lead)
        (List.mem_cons_self (a := (p.captured f).captured g) (l := [])))
      have hcaptured : ((p.captured f).captured g).height = (p.captured f).height + 1 := rfl
      show _ ≤ (Regex.sequence (literals f p.lead ++ [(p.captured f).captured g])).height + 1 + 1
      omega

theorem height_captured_le_itemsFrom {ts : List Token} (hp : .parameter p ∈ ts) (g : Nat) :
    ∃ i ∈ Token.itemsFrom f g ts, (p.captured f).height ≤ i.height := by
  induction ts generalizing g with
  | nil => exact absurd hp List.not_mem_nil
  | cons t ts ih =>
    rw [Token.itemsFrom]
    rcases List.mem_cons.1 hp with rfl | hp
    · obtain ⟨i, hi, hh⟩ := height_captured_le (f := f) (p := p) g
      exact ⟨i, List.mem_append_left _ hi, hh⟩
    · obtain ⟨i, hi, hh⟩ := ih hp (g + t.groups)
      exact ⟨i, List.mem_append_right _ hi, hh⟩

/-- What a group holds is what the text in its parentheses is read as by itself. -/
theorem Parameter.Readable.read_captured (hp : p.Readable f) (hv : f.verbose = false)
    (hh : (p.captured f).height ≤ maxHeight) :
    Expr.read f (Source.captured p).toList = .ok (p.captured f).expr := by
  cases hr : p.isRepeating with
  | false =>
    rw [Source.captured, hr, if_neg Bool.false_ne_true]
    rw [Parameter.captured, hr, if_neg Bool.false_ne_true] at hh ⊢
    exact Expr.read_of_readBody hv hp.enclosable hp.readBody_value hh
  | true =>
    rw [Parameter.captured, hr, if_pos rfl] at hh ⊢
    exact (Expr.read_reads (hp.reads_captured hv hr 1).1).2 ⟨hh, expr_sequence _⟩

/-! ## Which groups take part -/

variable {text : List Char}

theorem savedIn_group (g i j : Nat) : SavedIn [(2 * g + 1, j), (2 * g, i)] g (g + 1) := by
  intro m hm
  simp only [List.mem_cons, List.not_mem_nil, or_false] at hm
  rcases hm with rfl | rfl <;> constructor <;> dsimp only <;> omega

theorem Parameter.Readable.saved_of_walk (hp : p.Readable f) (hv : f.verbose = false)
    {g i j : Nat} {ms : List (Nat × Nat)} (hw : p.walk f text g i j ms) :
    SavedIn ms g (g + 1) ∧
      (p.isOptional = false → ((⟨text, ms⟩ : Captures).group? g).isSome = true) := by
  have hgroup {i j : Nat} {ms : List (Nat × Nat)}
      (h : ((textWalk f text p.lead).andThen ((p.capturedWalk f text).saving g)) i j ms) :
      SavedIn ms g (g + 1) ∧ ((⟨text, ms⟩ : Captures).group? g).isSome = true := by
    obtain ⟨k, ns, os, hlead, ⟨us, hc, rfl⟩, rfl⟩ := h
    obtain rfl := quiet_textWalk text p.lead _ _ _ hlead
    rw [← hp.walk_captured text hv] at hc
    obtain rfl := (hp.groupFree_captured hv).quiet text _ _ _ hc
    rw [List.append_nil, List.nil_append, group?_saved]
    exact ⟨savedIn_group g k j, rfl⟩
  unfold Parameter.walk at hw
  cases ho : p.isOptional with
  | false =>
    simp only [ho, Bool.false_eq_true, if_false] at hw
    obtain ⟨hs, hg⟩ := hgroup hw
    exact ⟨hs, fun _ => hg⟩
  | true =>
    refine ⟨?_, fun h => absurd h (by decide)⟩
    cases hl : p.leadStays with
    | true =>
      simp only [ho, hl, if_true] at hw
      obtain ⟨k, ns, os, hlead, h | ⟨rfl, rfl⟩, rfl⟩ := hw
      · exact (hgroup ⟨k, ns, os, hlead, h, rfl⟩).1
      · obtain rfl := quiet_textWalk text p.lead _ _ _ hlead
        exact SavedIn.nil _ _
    | false =>
      simp only [ho, hl, Bool.false_eq_true, if_true, if_false] at hw
      rcases hw with h | ⟨rfl, rfl⟩
      · exact (hgroup h).1
      · exact SavedIn.nil _ _

theorem SavedIn.append {ms ns : List (Nat × Nat)} {g g₁ g₂ : Nat} (h : SavedIn ms g g₁)
    (h' : SavedIn ns g₁ g₂) (hle : g ≤ g₁) (hle' : g₁ ≤ g₂) : SavedIn (ns ++ ms) g g₂ := by
  intro m hm
  rcases List.mem_append.1 hm with hm | hm
  · have := h' m hm
    omega
  · have := h m hm
    omega

/-- The group of a parameter that may not be left out takes part. -/
theorem saved_of_walks (hv : f.verbose = false) {ts : List Token}
    (hts : ∀ p, .parameter p ∈ ts → p.Readable f) {g i j : Nat} {ms : List (Nat × Nat)}
    (hw : Token.walks f text g ts i j ms) :
    SavedIn ms g (g + (ts.filterMap Token.parameter?).length) ∧
      ∀ k p, (ts.filterMap Token.parameter?)[k]? = some p → p.isOptional = false →
        ((⟨text, ms⟩ : Captures).group? (g + k)).isSome = true := by
  induction ts generalizing g i ms with
  | nil =>
    obtain ⟨-, rfl⟩ := hw
    exact ⟨SavedIn.nil _ _, by simp⟩
  | cons t ts ih =>
    have hts' : ∀ p, .parameter p ∈ ts → p.Readable f := fun p hp =>
      hts p (List.mem_cons_of_mem _ hp)
    obtain ⟨k, ns, os, ht, hr, rfl⟩ := hw
    obtain ⟨hsave, hgroup⟩ := ih hts' hr
    cases t with
    | literal s =>
      obtain rfl := quiet_textWalk text s _ _ _ ht
      rw [List.append_nil]
      exact ⟨hsave, hgroup⟩
    | parameter p =>
      obtain ⟨hfirst, hpart⟩ := (hts p (List.mem_cons_self ..)).saved_of_walk hv ht
      have hone : g + Token.groups (.parameter p) = g + 1 := rfl
      rw [hone] at hsave hgroup
      refine ⟨?_, fun n q hn hq => ?_⟩
      · have hall := hfirst.append hsave (by omega) (by omega)
        rwa [Nat.add_assoc, Nat.add_comm 1] at hall
      · cases n with
        | zero =>
          obtain rfl := Option.some.inj hn
          rw [Nat.add_zero, group?_append_right hsave (.inl (Nat.lt_succ_self g))]
          exact hpart hq
        | succ n =>
          rw [group?_append_left hfirst (.inr (by omega)), Nat.add_comm n, ← Nat.add_assoc]
          exact hgroup n q hn hq

end

/-! ## Compiled templates -/

namespace Template

variable {t : Template}

theorem Compiled.readable (h : t.Compiled) {p : Parameter} (hp : .parameter p ∈ t.tokens) :
    p.Readable t.options.flags := by
  obtain ⟨r, hr⟩ := exists_validator h.steps hp
  have hs := (h.scanned hp).enclosable
  obtain ⟨b, hb, -⟩ := RouteTemplate.exists_body hs hr t.options.caseSensitive
  exact ⟨hs, b, hb⟩

theorem Compiled.read_source (h : t.Compiled) :
    Expr.read t.options.flags (Source.ofTokens t.options t.tokens).text.toList =
      .ok t.extractor.regex.expr := by
  obtain ⟨e, he, hr⟩ := Regex.compile_eq_ok_iff.1 h.regex
  rw [hr]
  exact he

/-- A template matches a path if and only if its tokens lead from the beginning of the path to a
place that the path may end behind. -/
theorem Compiled.isMatch_iff_walks (h : t.Compiled) (path : String) :
    t.isMatch path = true ↔ ∃ k ms, k ≤ path.toList.length ∧
      Token.walks t.options.flags path.toList 1 t.tokens 0 k ms ∧
      t.options.Ends (Source.endsDelimited t.options t.tokens.getLast?)
        (.ofList (path.toList.drop k)) := by
  have hsource := walk_source path.toList rfl rfl (fun p hp => h.readable hp) h.read_source
  show t.extractor.regex.isMatch path = true ↔ _
  rw [Regex.isMatch_iff, hsource]
  constructor
  · rintro ⟨i, j, ms, hi, k, ns, os, hstart, ⟨l, us, vs, hb, he, rfl⟩, rfl⟩
    obtain ⟨rfl, rfl, rfl⟩ := (Expr.walk_textStart_iff hi).1 hstart
    obtain rfl := quiet_terminatorWalk t.options _ _ _ _ _ he
    have hl : l ≤ path.toList.length := by
      rw [← walks_itemsFrom path.toList rfl (fun p hp => h.readable hp), ← Expr.walk_seq] at hb
      exact (Expr.walk_forward _ _ _ _ _ hb).2 hi
    exact ⟨l, us, hl, hb, (terminatorWalk_iff t.options _ hl).1 ⟨j, he⟩⟩
  · rintro ⟨k, ms, hk, hb, he⟩
    obtain ⟨j, hj⟩ := (terminatorWalk_iff t.options _ hk).2 he
    exact ⟨0, j, _, Nat.zero_le _, 0, [], _,
      (Expr.walk_textStart_iff (Nat.zero_le _)).2 ⟨rfl, rfl, rfl⟩, ⟨k, ms, [], hb, hj, rfl⟩, rfl⟩

/-- Group `i + 1` is that of key `i`, and there are no others. -/
theorem Compiled.forall₂_groups (h : t.Compiled) :
    List.Forall₂ (fun key group => group.1 = key.2 + 1 ∧
        Expr.read t.options.flags (Source.captured key.1).toList = .ok group.2)
      t.keys.zipIdx t.extractor.regex.expr.groups := by
  obtain ⟨hheight, he⟩ :=
    (RouteTemplate.read_source rfl rfl fun p hp => h.readable hp).1 h.read_source
  rw [he, ← expr_sequence, groups_sourceItems rfl _ fun p hp => h.readable hp, ← h.keys_eq,
    List.zipIdx_succ, List.map_map, List.forall₂_map_right_iff, List.forall₂_same]
  intro key hkey
  have hp : .parameter key.1 ∈ t.tokens :=
    h.mem_keys_iff.1 (List.mem_of_getElem? (List.mem_zipIdx_iff_getElem?.1 hkey))
  obtain ⟨i, hi, hle⟩ := height_captured_le_itemsFrom (f := t.options.flags) hp 1
  have hsource : i ∈ sourceItems t.options.flags t.options t.tokens :=
    List.mem_cons_of_mem _ (List.mem_append_left _ hi)
  have hitem := height_le_sequence hsource
  exact ⟨rfl, (h.readable hp).read_captured rfl (by omega)⟩

/-- In a match, the group of a key that may not be left out takes part. -/
theorem Compiled.isSome_group? (h : t.Compiled) {path : String} {m : Captures}
    (hm : t.extractor.regex.find? path = some m) {p : Parameter} {i : Nat}
    (hp : t.keys[i]? = some p) (hone : p.isOptional = false) :
    (m.group? (i + 1)).isSome = true := by
  obtain ⟨htext, k, j, ns, hk, hw, hmarks⟩ := Regex.exists_walk_of_find? hm
  rw [walk_source path.toList rfl rfl (fun p hp => h.readable hp) h.read_source] at hw
  obtain ⟨k', ns', os, hstart, ⟨l, ms, us, hb, he, rfl⟩, rfl⟩ := hw
  obtain ⟨-, -, rfl⟩ := (Expr.walk_textStart_iff hk).1 hstart
  obtain rfl := quiet_terminatorWalk t.options _ _ _ _ _ he
  have hgroup := (saved_of_walks rfl (fun p hp => h.readable hp) hb).2 i p (h.keys_eq ▸ hp) hone
  have hm : m = ⟨path.toList, (1, j) :: (ms ++ [(0, k)])⟩ := by
    cases m
    simp_all
  rwa [hm, group?_whole, Nat.add_comm]

/-- Whatever a key is read from, it is bound. -/
theorem Compiled.bound?_group? (h : t.Compiled) {path : String} {m : Captures}
    (hm : t.extractor.regex.find? path = some m) {p : Parameter} {i : Nat}
    (hp : t.keys[i]? = some p) (decode : String → String) :
    p.bound? decode (m.group? (i + 1)) = some (((m.group? (i + 1)).map decode).getD "") := by
  cases hg : m.group? (i + 1) with
  | some v => rfl
  | none =>
    cases ho : p.isOptional with
    | true => simp [Parameter.bound?, ho]
    | false =>
      have hpart := h.isSome_group? hm hp ho
      rw [hg] at hpart
      exact absurd hpart (by decide)

theorem Compiled.lookup_of_last (h : t.Compiled) {path : String} {m : Captures}
    (hm : t.extractor.regex.find? path = some m) {p : Parameter} {i : Nat}
    (hp : t.keys[i]? = some p)
    (hlast : ∀ j q, i < j → t.keys[j]? = some q → q.name ≠ p.name) (decode : String → String) :
    (t.extractor.extractWith decode path).lookup p.name =
      some (((m.group? (i + 1)).map decode).getD "") := by
  obtain ⟨hi, rfl⟩ := List.getElem?_eq_some_iff.1 hp
  have hsplit : t.extractor.keys.zipIdx = t.extractor.keys.zipIdx.take i ++
      (t.keys[i], i) :: t.extractor.keys.zipIdx.drop (i + 1) := by
    have hz : i < t.extractor.keys.zipIdx.length := by
      rw [List.length_zipIdx]
      exact hi
    have hd := List.drop_eq_getElem_cons hz
    rw [List.getElem_zipIdx, Nat.zero_add] at hd
    have hsplit := (List.take_append_drop i t.extractor.keys.zipIdx).symm
    rwa [hd] at hsplit
  have hafter : t.keys[i].name ∉
      (t.extractor.keys.zipIdx.drop (i + 1)).map fun key => key.1.name := by
    intro hmem
    obtain ⟨key, hkey, hname⟩ := List.mem_map.1 hmem
    obtain ⟨k, hk⟩ := List.mem_iff_getElem?.1 hkey
    rw [List.getElem?_drop, List.getElem?_zipIdx, Option.map_eq_some_iff] at hk
    obtain ⟨q, hq, rfl⟩ := hk
    exact hlast (i + 1 + k) q (by omega) hq hname
  rw [Extractor.extractWith, hm]
  simp only
  rw [hsplit]
  refine (Extractor.lookup_foldl_bind_of_last (t.keys[i], i) hafter []).trans ?_
  rw [h.bound?_group? hm hp, Option.some_or]

theorem Compiled.isSome_lookup_iff (h : t.Compiled) {path : String} {m : Captures}
    (hm : t.extractor.regex.find? path = some m) (decode : String → String) (name : String) :
    ((t.extractor.extractWith decode path).lookup name).isSome = true ↔
      name ∈ t.parameterNames := by
  have hbound : ∀ key ∈ t.extractor.keys.zipIdx,
      (key.1.bound? decode (m.group? (key.2 + 1))).isSome = true := by
    intro key hkey
    rw [h.bound?_group? hm (List.mem_zipIdx_iff_getElem?.1 hkey)]
    rfl
  rw [Extractor.extractWith, hm]
  simp only
  rw [Extractor.isSome_lookup_foldl_bind hbound, map_name_zipIdx]
  simp

/-- The pattern of a template has one group for each key and no others: group `i + 1` holds what was
written into the parentheses of key `i`. So a path without a match gives nothing, and one with a
match gives all names: each is bound to what the group of its last key took, or to the empty text if
that may be left out and was. -/
theorem extract_by_groups {o : Options} {text : String} {t : Template}
    (h : Template.compile o text = .ok t) :
    List.Forall₂ (fun key group => group.1 = key.2 + 1 ∧
        Expr.read o.flags (Source.captured key.1).toList = .ok group.2)
      t.keys.zipIdx t.extractor.regex.expr.groups ∧
    ∀ path,
      (t.isMatch path = false → t.extract path = []) ∧
      (t.isMatch path = true → ∃ m, t.extractor.regex.find? path = some m ∧
        (∀ name, ((t.extract path).lookup name).isSome = true ↔ name ∈ t.parameterNames) ∧
        (∀ i p, t.keys[i]? = some p → p.isOptional = false →
          (m.group? (i + 1)).isSome = true) ∧
        ∀ i p, t.keys[i]? = some p →
          (∀ j q, i < j → t.keys[j]? = some q → q.name ≠ p.name) →
          (t.extract path).lookup p.name = some ((m.group? (i + 1)).getD "")) := by
  obtain ⟨hc, rfl, -⟩ := compiled_of_compile h
  refine ⟨hc.forall₂_groups, fun path => ⟨fun hm => ?_, fun hm => ?_⟩⟩
  · have hnone : t.extractor.regex.find? path = none :=
      Option.isNone_iff_eq_none.1 (Option.isSome_eq_false_iff.1 hm)
    rw [extract, Extractor.extract, Extractor.extractWith, hnone]
  · obtain ⟨m, hfind⟩ := Option.isSome_iff_exists.1 hm
    refine ⟨m, hfind, hc.isSome_lookup_iff hfind id, fun i p hp => hc.isSome_group? hfind hp,
      fun i p hp hlast => ?_⟩
    have hlookup := hc.lookup_of_last hfind hp hlast id
    rwa [Option.map_id, id_eq] at hlookup

/-- An unnamed parameter may share its number with a name; what it takes counts if it comes last. -/
theorem extract_by_groups_of_zeros :
    ∃ t, Template.compile {} "/:0([a-z]+)?([0-9]+)" = .ok t ∧ t.isMatch "/7" = true ∧
      t.keys.map Parameter.name = ["0", "0"] ∧
      ∃ m, t.extractor.regex.find? "/7" = some m ∧
        (t.extract "/7").lookup "0" = some ((m.group? 2).getD "") := by
  obtain ⟨t, ht, hm, hkeys⟩ := exists_of_compile {} "/:0([a-z]+)?([0-9]+)"
    (p := fun t => t.isMatch "/7" = true ∧ t.keys.map Parameter.name = ["0", "0"])
    (by decide +kernel)
  obtain ⟨m, hfind, -, -, hlast⟩ := ((extract_by_groups ht).2 "/7").2 hm
  have hlen : t.keys.length = 2 := by
    rw [← List.length_map (f := Parameter.name), hkeys]
    rfl
  obtain ⟨p, hp⟩ : ∃ p, t.keys[1]? = some p := ⟨_, List.getElem?_eq_getElem (by omega)⟩
  have hname : p.name = "0" := by
    have := congrArg (·[1]?) hkeys
    simpa [hp] using this
  have hnone : ∀ j q, 1 < j → t.keys[j]? = some q → q.name ≠ p.name := by
    intro j q hj hq
    have := (List.getElem?_eq_some_iff.1 hq).1
    omega
  exact ⟨t, ht, hm, hkeys, m, hfind, hname ▸ hlast 1 p hp hnone⟩

end Template

end RouteTemplate
