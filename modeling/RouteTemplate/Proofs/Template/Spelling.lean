import RouteTemplate.Proofs.Template.Values
import RouteTemplate.Proofs.Template.Walks

/-!
Walks and spellings. In a path, the tokens of a template walk over a part that they spell, and over
every such part; what a group saves on the way is what its parameter takes.
-/

namespace RouteTemplate

open Regex
open Regex.PatternText (groupFree_of_readBody)

section

variable {o : Options} {text : List Char}

theorem contains_literal (o : Options) (c d : Char) :
    (o.flags.fold (.single c)).contains d = true ↔ o.SameChar c d := by
  rw [Options.SameChar]
  cases h : o.caseSensitive with
  | true =>
    have hfold : o.flags.fold (.single c) = .single c := by
      rw [Flags.fold, Options.flags, caseFlags, h]
      rfl
    rw [hfold, CharClass.contains_single]
    simp
  | false =>
    have hfold : o.flags.fold (.single c) = (CharClass.single c).folded := by
      rw [Flags.fold, Options.flags, caseFlags, h]
      rfl
    rw [hfold, CharClass.contains_folded_iff]
    simp only [CharClass.contains_single, beq_iff_eq, true_and]
    constructor
    · rintro (hd | ⟨c', rfl, hd⟩)
      · exact .inl hd
      · exact .inr hd
    · rintro (hd | hd)
      · exact .inl hd
      · exact .inr ⟨c, rfl, hd⟩

theorem slice_cons {i j : Nat} {c : Char} (hc : text[i]? = some c) (hij : i < j) :
    slice text i j = c :: slice text (i + 1) j := by
  obtain ⟨hi, rfl⟩ := List.getElem?_eq_some_iff.1 hc
  have hj : j - i = (j - (i + 1)) + 1 := by omega
  rw [slice, slice, hj, List.drop_eq_getElem_cons hi, List.take_succ_cons]

theorem walks_literal_iff (o : Options) (l : List Char) {i j : Nat} {ms : List (Nat × Nat)}
    (hi : i ≤ text.length) :
    Expr.walks text (l.map o.flags.literal) i j ms ↔
      ms = [] ∧ i ≤ j ∧ j ≤ text.length ∧ List.Forall₂ o.SameChar l (slice text i j) := by
  induction l generalizing i ms with
  | nil =>
    constructor
    · rintro ⟨rfl, rfl⟩
      exact ⟨rfl, Nat.le_refl _, hi, by rw [slice_self]; exact .nil⟩
    · rintro ⟨rfl, hij, hj, hs⟩
      have hlen := length_slice (i := i) hj
      rw [List.forall₂_nil_left_iff.1 hs] at hlen
      exact ⟨by simp at hlen; omega, rfl⟩
  | cons c l ih =>
    constructor
    · rintro ⟨k, ns, os, ⟨⟨d, hd, hc⟩, rfl, rfl⟩, hr, rfl⟩
      have hik := (List.getElem?_eq_some_iff.1 hd).1
      obtain ⟨rfl, hij, hj, hs⟩ := (ih hik).1 hr
      refine ⟨rfl, by omega, hj, ?_⟩
      rw [slice_cons hd (by omega)]
      exact .cons ((contains_literal o c d).1 hc) hs
    · rintro ⟨rfl, hij, hj, hs⟩
      have hlen := hs.length_eq
      rw [length_slice hj, List.length_cons] at hlen
      have hi' : i < text.length := by omega
      have hd : text[i]? = some text[i] := List.getElem?_eq_getElem hi'
      rw [slice_cons hd (by omega), List.forall₂_cons] at hs
      refine ⟨i + 1, [], [], ⟨⟨text[i], hd, ?_⟩, rfl, rfl⟩, ?_, rfl⟩
      · exact (contains_literal o c _).2 hs.1
      · exact (ih (by omega)).2 ⟨rfl, by omega, hj, hs.2⟩

theorem textWalk_iff (o : Options) (s : String) {i j : Nat} {ms : List (Nat × Nat)}
    (hi : i ≤ text.length) :
    textWalk o.flags text s i j ms ↔
      ms = [] ∧ i ≤ j ∧ j ≤ text.length ∧ o.SameText s (.ofList (slice text i j)) := by
  rw [textWalk, walks_literal_iff o s.toList hi, Options.SameText, String.toList_ofList]

/-! ## Values -/

/-- What holds of each parameter of a template without assertions: its pattern can stand in a group,
has a validator and looks at nothing but the value. -/
structure Parameter.Plain (o : Options) (p : Parameter) : Prop where
  enclosable : Enclosable p.pattern.toList
  valid : ∃ r, Regex.compile true ("^(?:" ++ p.pattern ++ ")$") = .ok r
  lookFree : p.LookFree o.caseSensitive

variable {p : Parameter}

theorem Parameter.Plain.readable (hp : p.Plain o) : p.Readable o.flags := by
  obtain ⟨r, hr⟩ := hp.valid
  obtain ⟨b, hb, -⟩ := exists_body hp.enclosable hr o.caseSensitive
  exact ⟨hp.enclosable, b, hb⟩

theorem valueWalk_iff (hp : p.Plain o) {i j : Nat} {ms : List (Nat × Nat)}
    (hi : i ≤ text.length) :
    p.valueWalk o.flags text i j ms ↔
      ms = [] ∧ i ≤ j ∧ j ≤ text.length ∧
        p.Accepts o.caseSensitive (.ofList (slice text i j)) := by
  obtain ⟨r, hr⟩ := hp.valid
  obtain ⟨b, hb, hh, ha⟩ := exists_body hp.enclosable hr o.caseSensitive
  have hquiet := (groupFree_of_readBody rfl hp.enclosable hb).quiet text
  have hlook : b.expr.lookFree = true :=
    hp.lookFree _ (Expr.read_of_readBody rfl hp.enclosable hb (by omega))
  rw [valueWalk_eq (f := o.flags) text hb, ha, String.toList_ofList]
  constructor
  · intro hw
    have hf := Expr.walk_forward text b.expr _ _ _ hw
    exact ⟨hquiet _ _ _ hw, hf.1, hf.2 hi,
      (Expr.walk_slice_iff hlook hf.1 (hf.2 hi)).1 ⟨ms, hw⟩⟩
  · rintro ⟨rfl, hij, hj, hm⟩
    obtain ⟨ns, hw⟩ := (Expr.walk_slice_iff hlook hij hj).2 hm
    rwa [hquiet _ _ _ hw] at hw

theorem slice_split {i j : Nat} {a b : List Char} (hj : j ≤ text.length) (hij : i ≤ j)
    (h : slice text i j = a ++ b) :
    i + a.length ≤ j ∧ slice text i (i + a.length) = a ∧ slice text (i + a.length) j = b := by
  have hlen := congrArg List.length h
  rw [length_slice hj, List.length_append] at hlen
  have hle : i + a.length ≤ j := by omega
  have hs : slice text i _ ++ slice text _ j = _ := slice_append (Nat.le_add_right i a.length) hle
  rw [h] at hs
  have ha := List.append_inj hs (by rw [length_slice (by omega)]; omega)
  exact ⟨hle, ha.1, ha.2⟩

theorem ofList_slice_append {i j k : Nat} (hij : i ≤ j) (hjk : j ≤ k) :
    String.ofList (slice text i j) ++ String.ofList (slice text j k) =
      String.ofList (slice text i k) := by
  rw [← slice_append hij hjk, String.ofList_append]

/-- A value and further ones, each behind a lead, make up a run. -/
theorem run_of_walks (hp : p.Plain o) (n : Nat) {i k j : Nat} {ns os : List (Nat × Nat)}
    (hi : i ≤ text.length) (hv : p.valueWalk o.flags text i k ns)
    (hm : ((textWalk o.flags text p.lead).andThen (p.valueWalk o.flags text)).times n k j os) :
    ns = [] ∧ os = [] ∧ i ≤ j ∧ j ≤ text.length ∧ p.Run o (.ofList (slice text i j)) := by
  induction n generalizing i k ns os with
  | zero =>
    obtain ⟨rfl, hik, hk, ha⟩ := (valueWalk_iff hp hi).1 hv
    obtain ⟨rfl, rfl⟩ := hm
    exact ⟨rfl, rfl, hik, hk, .one ha⟩
  | succ n ih =>
    obtain ⟨rfl, hik, hk, ha⟩ := (valueWalk_iff hp hi).1 hv
    obtain ⟨m, ms₁, ms₂, ⟨l, ms₃, ms₄, hs, hv', rfl⟩, hr, rfl⟩ := hm
    obtain ⟨rfl, hkl, hl, hs⟩ := (textWalk_iff o p.lead hk).1 hs
    obtain ⟨rfl, rfl, hlj, hj, hrun⟩ := ih hl hv' hr
    refine ⟨rfl, rfl, by omega, hj, ?_⟩
    rw [← ofList_slice_append (Nat.le_trans hik hkl) hlj, ← ofList_slice_append hik hkl]
    exact .more ha hs hrun

theorem walks_of_run (hp : p.Plain o) {v : String} (hv : p.Run o v) {i j : Nat} (hij : i ≤ j)
    (hj : j ≤ text.length) (hs : slice text i j = v.toList) :
    ∃ k n, p.valueWalk o.flags text i k [] ∧
      ((textWalk o.flags text p.lead).andThen (p.valueWalk o.flags text)).times n k j [] := by
  induction hv generalizing i with
  | @one v ha =>
    refine ⟨j, 0, (valueWalk_iff hp (by omega)).2 ⟨rfl, hij, hj, ?_⟩, rfl, rfl⟩
    rwa [hs, String.ofList_toList]
  | @more v s r ha hlead _ ih =>
    rw [String.toList_append, String.toList_append, List.append_assoc] at hs
    obtain ⟨hk, hv, hs⟩ := slice_split hj hij hs
    obtain ⟨hl, hs, hr⟩ := slice_split hj hk hs
    obtain ⟨m, n, hv', hm⟩ := ih hl hr
    have hval : p.valueWalk o.flags text i (i + v.toList.length) [] := by
      refine (valueWalk_iff hp (by omega)).2 ⟨rfl, by omega, by omega, ?_⟩
      rwa [hv, String.ofList_toList]
    have hsep : textWalk o.flags text p.lead (i + v.toList.length)
        (i + v.toList.length + s.toList.length) [] := by
      refine (textWalk_iff o p.lead (by omega)).2 ⟨rfl, by omega, by omega, ?_⟩
      rwa [hs, String.ofList_toList]
    exact ⟨_, n + 1, hval, m, [], [], ⟨_, [], [], hsep, hv', rfl⟩, hm, rfl⟩

theorem capturedWalk_iff (hp : p.Plain o) {i j : Nat} {ms : List (Nat × Nat)}
    (hi : i ≤ text.length) :
    p.capturedWalk o.flags text i j ms ↔
      ms = [] ∧ i ≤ j ∧ j ≤ text.length ∧ p.Takes o (.ofList (slice text i j)) := by
  unfold Parameter.capturedWalk Parameter.Takes
  cases p.isRepeating with
  | false => exact valueWalk_iff hp hi
  | true =>
    simp only [if_true]
    constructor
    · rintro ⟨k, ns, os, hv, ⟨n, -, hm⟩, rfl⟩
      obtain ⟨rfl, rfl, hij, hj, hr⟩ := run_of_walks hp n hi hv hm
      exact ⟨rfl, hij, hj, hr⟩
    · rintro ⟨rfl, hij, hj, hr⟩
      obtain ⟨k, n, hv, hm⟩ := walks_of_run hp hr hij hj (String.toList_ofList ..).symm
      exact ⟨k, [], [], hv, ⟨n, ⟨Nat.zero_le _, by simp⟩, hm⟩, rfl⟩

/-! ## What groups save -/

/-- Nothing but the ends of groups from `g` up to `g'` is saved. -/
def SavedIn (ms : List (Nat × Nat)) (g g' : Nat) : Prop := ∀ m ∈ ms, 2 * g ≤ m.1 ∧ m.1 < 2 * g'

theorem SavedIn.nil (g g' : Nat) : SavedIn [] g g' := fun _ h => absurd h (List.not_mem_nil)

theorem SavedIn.lookup_eq_none {ms : List (Nat × Nat)} {g g' : Nat} (h : SavedIn ms g g')
    {k : Nat} (hk : k < 2 * g ∨ 2 * g' ≤ k) : ms.lookup k = none := by
  rw [List.lookup_eq_none_iff]
  intro m hm
  have hb := h m hm
  simp only [bne_iff_ne, ne_eq]
  omega

theorem group?_append_right {ms ns : List (Nat × Nat)} {g g' n : Nat} (h : SavedIn ms g g')
    (hn : n < g ∨ g' ≤ n) :
    (⟨text, ms ++ ns⟩ : Captures).group? n = (⟨text, ns⟩ : Captures).group? n := by
  simp only [Captures.group?, List.lookup_append, h.lookup_eq_none (k := 2 * n) (by omega),
    h.lookup_eq_none (k := 2 * n + 1) (by omega), Option.none_or]

theorem group?_append_left {ms ns : List (Nat × Nat)} {g g' n : Nat} (h : SavedIn ns g g')
    (hn : n < g ∨ g' ≤ n) :
    (⟨text, ms ++ ns⟩ : Captures).group? n = (⟨text, ms⟩ : Captures).group? n := by
  simp only [Captures.group?, List.lookup_append, h.lookup_eq_none (k := 2 * n) (by omega),
    h.lookup_eq_none (k := 2 * n + 1) (by omega), Option.or_none]

/-- Group 0 is the match itself, so what is saved around it tells nothing about other groups. -/
theorem group?_whole (ns : List (Nat × Nat)) (i j k : Nat) :
    (⟨text, (1, j) :: (ns ++ [(0, i)])⟩ : Captures).group? (k + 1) =
      (⟨text, ns⟩ : Captures).group? (k + 1) := by
  have hwhole (slot n : Nat) (hs : slot < 2) : SavedIn [(slot, n)] 0 1 := by
    intro q hq
    obtain rfl := List.mem_singleton.1 hq
    exact ⟨Nat.zero_le _, hs⟩
  rw [← List.singleton_append, group?_append_right (hwhole 1 j (by decide)) (.inr (by omega)),
    group?_append_left (hwhole 0 i (by decide)) (.inr (by omega))]

theorem group?_saved (g i j : Nat) :
    (⟨text, [(2 * g + 1, j), (2 * g, i)]⟩ : Captures).group? g =
      some (.ofList (slice text i j)) := by
  have hne : (2 * g == 2 * g + 1) = false := by simp
  simp [Captures.group?, slice, List.lookup_cons, hne]

/-! ## Parameters and tokens -/

/-- The lead and then the group of a parameter, which saves what the parameter takes. -/
theorem spells_of_saving (hp : p.Plain o) {g i k j : Nat} {ns os : List (Nat × Nat)}
    (hi : i ≤ text.length) (hs : textWalk o.flags text p.lead i k ns)
    (hv : ((p.capturedWalk o.flags text).saving g) k j os) :
    i ≤ j ∧ j ≤ text.length ∧ SavedIn (os ++ ns) g (g + 1) ∧
      p.Spells o ((⟨text, os ++ ns⟩ : Captures).group? g) (.ofList (slice text i j)) := by
  obtain ⟨rfl, hik, hk, hs⟩ := (textWalk_iff o p.lead hi).1 hs
  obtain ⟨ms, hv, rfl⟩ := hv
  obtain ⟨rfl, hkj, hj, hv⟩ := (capturedWalk_iff hp hk).1 hv
  refine ⟨by omega, hj, ?_, ?_⟩
  · intro m hm
    simp only [List.nil_append, List.append_nil, List.mem_cons, List.not_mem_nil,
      or_false] at hm
    rcases hm with rfl | rfl <;> constructor <;> dsimp only <;> omega
  · rw [List.append_nil, List.nil_append, group?_saved, ← ofList_slice_append hik hkj]
    exact .present hs hv

theorem spells_of_walk (hp : p.Plain o) {g i j : Nat} {ms : List (Nat × Nat)}
    (hi : i ≤ text.length) (hw : p.walk o.flags text g i j ms) :
    i ≤ j ∧ j ≤ text.length ∧ SavedIn ms g (g + 1) ∧
      p.Spells o ((⟨text, ms⟩ : Captures).group? g) (.ofList (slice text i j)) := by
  unfold Parameter.walk at hw
  cases ho : p.isOptional with
  | false =>
    simp only [ho, Bool.false_eq_true, if_false] at hw
    obtain ⟨k, ns, os, hs, hv, rfl⟩ := hw
    exact spells_of_saving hp hi hs hv
  | true =>
    cases hl : p.leadStays with
    | true =>
      simp only [ho, hl, if_true] at hw
      obtain ⟨k, ns, os, hs, hv | ⟨rfl, rfl⟩, rfl⟩ := hw
      · exact spells_of_saving hp hi hs hv
      · obtain ⟨rfl, hik, hk, hs⟩ := (textWalk_iff o p.lead hi).1 hs
        refine ⟨hik, hk, SavedIn.nil _ _, .absent ho ?_⟩
        rwa [if_pos hl]
    | false =>
      simp only [ho, hl, Bool.false_eq_true, if_true, if_false] at hw
      rcases hw with ⟨k, ns, os, hs, hv, rfl⟩ | ⟨rfl, rfl⟩
      · exact spells_of_saving hp hi hs hv
      · refine ⟨Nat.le_refl _, hi, SavedIn.nil _ _, .absent ho ?_⟩
        rw [if_neg (by simp [hl]), slice_self]

theorem exists_walk_of_spells (hp : p.Plain o) {v : Option String} {s : String}
    (hs : p.Spells o v s) (g : Nat) {i j : Nat} (hij : i ≤ j) (hj : j ≤ text.length)
    (ht : slice text i j = s.toList) : ∃ ms, p.walk o.flags text g i j ms := by
  unfold Parameter.walk
  cases hs with
  | @present s v hlead hv =>
    rw [String.toList_append] at ht
    obtain ⟨hk, hs, hr⟩ := slice_split hj hij ht
    have hl : textWalk o.flags text p.lead i (i + s.toList.length) [] := by
      refine (textWalk_iff o p.lead (by omega)).2 ⟨rfl, by omega, by omega, ?_⟩
      rwa [hs, String.ofList_toList]
    have hc : p.capturedWalk o.flags text (i + s.toList.length) j [] := by
      refine (capturedWalk_iff hp (by omega)).2 ⟨rfl, hk, hj, ?_⟩
      rwa [hr, String.ofList_toList]
    have hg : ((p.capturedWalk o.flags text).saving g) (i + s.toList.length) j _ := ⟨[], hc, rfl⟩
    cases p.isOptional with
    | false => exact ⟨_, _, [], _, hl, hg, rfl⟩
    | true =>
      cases p.leadStays with
      | true => exact ⟨_, _, [], _, hl, .inl hg, rfl⟩
      | false => exact ⟨_, .inl ⟨_, [], _, hl, hg, rfl⟩⟩
  | absent ho hlead =>
    simp only [ho, if_true]
    cases hls : p.leadStays with
    | true =>
      rw [hls, if_pos rfl] at hlead
      refine ⟨[], j, [], [], (textWalk_iff o p.lead (by omega)).2 ⟨rfl, hij, hj, ?_⟩,
        .inr ⟨rfl, rfl⟩, rfl⟩
      rwa [ht, String.ofList_toList]
    | false =>
      rw [hls, if_neg Bool.false_ne_true] at hlead
      obtain rfl : j = i := by
        have hlen := length_slice (i := i) hj
        rw [ht, hlead] at hlen
        simp at hlen
        omega
      exact ⟨[], .inr ⟨rfl, rfl⟩⟩

/-- What the tokens walk over they spell, and group `g + k` has saved what the parameter `k`
takes. -/
theorem spells_of_walks {ts : List Token} (hts : ∀ p, .parameter p ∈ ts → p.Plain o)
    {g i j : Nat} {ms : List (Nat × Nat)} (hi : i ≤ text.length)
    (hw : Token.walks o.flags text g ts i j ms) :
    i ≤ j ∧ j ≤ text.length ∧ ∃ vs, Spells o ts vs (.ofList (slice text i j)) ∧
      SavedIn ms g (g + vs.length) ∧
      ∀ k, (⟨text, ms⟩ : Captures).group? (g + k) = (vs[k]?).join := by
  induction ts generalizing g i ms with
  | nil =>
    obtain ⟨rfl, rfl⟩ := hw
    refine ⟨Nat.le_refl _, hi, [], ?_, SavedIn.nil _ _, fun k => rfl⟩
    rw [slice_self]
    exact .nil
  | cons t ts ih =>
    have hts' : ∀ p, .parameter p ∈ ts → p.Plain o := fun p hp =>
      hts p (List.mem_cons_of_mem _ hp)
    obtain ⟨k, ns, os, ht, hr, rfl⟩ := hw
    cases t with
    | literal s =>
      obtain ⟨rfl, hik, hk, hs⟩ := (textWalk_iff o s hi).1 ht
      obtain ⟨hkj, hj, vs, hvs, hsave, hgroup⟩ := ih hts' hk hr
      refine ⟨by omega, hj, vs, ?_, ?_, ?_⟩
      · rw [← ofList_slice_append hik hkj]
        exact .literal hs hvs
      · rwa [List.append_nil]
      · rwa [List.append_nil]
    | parameter p =>
      obtain ⟨hik, hk, hsave, hp⟩ := spells_of_walk (hts p (List.mem_cons_self ..)) hi ht
      obtain ⟨hkj, hj, vs, hvs, hsave', hgroup⟩ := ih hts' hk hr
      have hg : g + Token.groups (.parameter p) = g + 1 := rfl
      rw [hg] at hsave' hgroup
      refine ⟨by omega, hj, (⟨text, ns⟩ : Captures).group? g :: vs, ?_, ?_, fun n => ?_⟩
      · rw [← ofList_slice_append hik hkj]
        exact .parameter hp hvs
      · intro m hm
        rw [List.length_cons]
        rcases List.mem_append.1 hm with hm | hm
        · have := hsave' m hm
          omega
        · have := hsave m hm
          omega
      · cases n with
        | zero => exact group?_append_right hsave' (.inl (Nat.lt_succ_self g))
        | succ n =>
          rw [group?_append_left hsave (.inr (by omega)), List.getElem?_cons_succ, ← hgroup n]
          congr 1
          omega

theorem exists_walks_of_spells {ts : List Token} (hts : ∀ p, .parameter p ∈ ts → p.Plain o)
    {vs : List (Option String)} {b : String} (hb : Spells o ts vs b) (g : Nat) {i j : Nat}
    (hij : i ≤ j) (hj : j ≤ text.length) (ht : slice text i j = b.toList) :
    ∃ ms, Token.walks o.flags text g ts i j ms := by
  induction hb generalizing g i with
  | nil =>
    have hlen := length_slice (i := i) hj
    rw [ht] at hlen
    obtain rfl : j = i := by
      simp at hlen
      omega
    exact ⟨[], rfl, rfl⟩
  | @literal s t r ts vs hs _ ih =>
    rw [String.toList_append] at ht
    obtain ⟨hk, ht, hr⟩ := slice_split hj hij ht
    obtain ⟨ms, hw⟩ := ih (fun p hp => hts p (List.mem_cons_of_mem _ hp)) g hk hr
    refine ⟨_, _, [], ms, (textWalk_iff o s (by omega)).2 ⟨rfl, by omega, by omega, ?_⟩, hw, rfl⟩
    rwa [ht, String.ofList_toList]
  | @parameter p s r v ts vs hp _ ih =>
    rw [String.toList_append] at ht
    obtain ⟨hk, ht, hr⟩ := slice_split hj hij ht
    obtain ⟨ms, hw⟩ := ih (fun p hp => hts p (List.mem_cons_of_mem _ hp)) (g + 1) hk hr
    obtain ⟨ns, hn⟩ := exists_walk_of_spells (hts p (List.mem_cons_self ..)) hp g
      (Nat.le_add_right _ _) (by omega) ht
    exact ⟨_, _, ns, ms, hn, hw, rfl⟩

/-! ## What may follow -/

theorem length_toList_append_le (b s : String) : b.toList.length ≤ (b ++ s).toList.length := by
  rw [String.toList_append, List.length_append]
  exact Nat.le_add_right _ _

theorem slice_length (i : Nat) : slice text i text.length = text.drop i := by
  rw [slice, List.take_of_length_le (Nat.le_of_eq List.length_drop)]

/-- What is left of a text begins with one that stands for `s`. -/
theorem starts_iff (o : Options) (text : List Char) (s : String) (P : String → Prop) {i : Nat}
    (hi : i ≤ text.length) :
    (∃ t r, o.SameText s t ∧ String.ofList (text.drop i) = t ++ r ∧ P r) ↔
      ∃ j, textWalk o.flags text s i j [] ∧ P (.ofList (text.drop j)) := by
  simp only [textWalk_iff o s hi, true_and]
  constructor
  · rintro ⟨t, r, hs, ht, hr⟩
    have hdrop : slice text i text.length = t.toList ++ r.toList := by
      rw [slice_length, ← String.toList_append, ← ht, String.toList_ofList]
    obtain ⟨hj, hst, hsr⟩ := slice_split (Nat.le_refl _) hi hdrop
    refine ⟨i + t.toList.length, ⟨by omega, hj, ?_⟩, ?_⟩
    · rwa [hst, String.ofList_toList]
    · rwa [← slice_length, hsr, String.ofList_toList]
  · rintro ⟨j, ⟨hij, hj, hs⟩, hr⟩
    refine ⟨_, _, hs, ?_, hr⟩
    rw [← slice_length, ← slice_length, ofList_slice_append hij hj]

theorem atEnd_iff (o : Options) {i : Nat} (hi : i ≤ text.length) :
    o.AtEnd (.ofList (text.drop i)) ↔ ∃ j, o.endWalk o.flags text i j [] := by
  have hempty : String.ofList (text.drop i) = "" ↔ i = text.length := by
    rw [← String.toList_inj, String.toList_ofList, String.toList_empty, List.drop_eq_nil_iff]
    omega
  have hmarker (m : String) := starts_iff o text m (fun _ => True) hi
  simp only [and_true] at hmarker
  simp only [Options.AtEnd, hempty, hmarker, Options.endWalk, Expr.walk_textEnd_iff hi]
  constructor
  · rintro (h | ⟨m, hm, j, hw⟩)
    · exact ⟨i, .inr ⟨h, rfl, trivial⟩⟩
    · exact ⟨j, .inl ⟨m, hm, hw⟩⟩
  · rintro ⟨j, ⟨m, hm, hw⟩ | ⟨h, -, -⟩⟩
    · exact .inr ⟨m, hm, j, hw⟩
    · exact .inl h

theorem quiet_endWalk (o : Options) (text : List Char) : (o.endWalk o.flags text).Quiet := by
  rintro i j ms (⟨m, -, hw⟩ | hw)
  · exact quiet_textWalk text m _ _ _ hw
  · exact Expr.Quiet.look _ text _ _ _ hw

theorem quiet_terminatorWalk (o : Options) (text : List Char) (delimited : Bool) :
    (o.terminatorWalk o.flags text delimited).Quiet := by
  have hend := quiet_endWalk o text
  have hdelimiter : (textWalk o.flags text o.delimiter).Quiet := quiet_textWalk text o.delimiter
  unfold Options.terminatorWalk
  split
  · split
    · exact Walk.Quiet.stay.andThen hend
    · exact (hdelimiter.either Walk.Quiet.stay).andThen hend
  · split
    · exact Walk.Quiet.stay
    · exact hdelimiter.either hend

/-- The end, with or without a delimiter before it. -/
theorem lenientWalk_iff (o : Options) {i : Nat} (hi : i ≤ text.length) :
    (∃ j, ((textWalk o.flags text o.delimiter).either Walk.stay).andThen
        (o.endWalk o.flags text) i j []) ↔
      o.AtEnd (.ofList (text.drop i)) ∨
        ∃ s r, o.SameText o.delimiter s ∧ String.ofList (text.drop i) = s ++ r ∧ o.AtEnd r := by
  rw [starts_iff o text o.delimiter _ hi, atEnd_iff o hi]
  constructor
  · rintro ⟨j, k, ns, os, hd | ⟨rfl, rfl⟩, he, -⟩
    · obtain ⟨rfl, -, hk, -⟩ := (textWalk_iff o o.delimiter hi).1 hd
      obtain rfl := quiet_endWalk o text _ _ _ he
      exact .inr ⟨k, hd, (atEnd_iff o hk).2 ⟨j, he⟩⟩
    · obtain rfl := quiet_endWalk o text _ _ _ he
      exact .inl ⟨j, he⟩
  · rintro (⟨j, he⟩ | ⟨k, hd, he⟩)
    · exact ⟨j, i, [], [], .inr ⟨rfl, rfl⟩, he, rfl⟩
    · have hk := ((textWalk_iff o o.delimiter hi).1 hd).2.2.1
      obtain ⟨j, he⟩ := (atEnd_iff o hk).1 he
      exact ⟨j, k, [], [], .inl hd, he, rfl⟩

/-- The end of a path, or a delimiter with anything behind it. -/
theorem onwardWalk_iff (o : Options) {i : Nat} (hi : i ≤ text.length) :
    (∃ j, (textWalk o.flags text o.delimiter).either (o.endWalk o.flags text) i j []) ↔
      o.AtEnd (.ofList (text.drop i)) ∨
        ∃ s r, o.SameText o.delimiter s ∧ String.ofList (text.drop i) = s ++ r := by
  have hd := starts_iff o text o.delimiter (fun _ => True) hi
  simp only [and_true] at hd
  rw [hd, atEnd_iff o hi]
  constructor
  · rintro ⟨j, hw | hw⟩
    · exact .inr ⟨j, hw⟩
    · exact .inl ⟨j, hw⟩
  · rintro (⟨j, hw⟩ | ⟨j, hw⟩)
    · exact ⟨j, .inr hw⟩
    · exact ⟨j, .inl hw⟩

/-- The end of the pattern can be walked over if and only if what is left of the text may follow. -/
theorem terminatorWalk_iff (o : Options) (delimited : Bool) {i : Nat} (hi : i ≤ text.length) :
    (∃ j, o.terminatorWalk o.flags text delimited i j []) ↔
      o.Ends delimited (.ofList (text.drop i)) := by
  unfold Options.terminatorWalk Options.Ends
  cases o.matchEnd with
  | true =>
    simp only [if_true]
    cases o.strict with
    | true =>
      simp only [if_true, Walk.stay_andThen, Bool.true_eq_false, false_and, or_false]
      exact (atEnd_iff o hi).symm
    | false =>
      simp only [Bool.false_eq_true, if_false, true_and]
      exact lenientWalk_iff o hi
  | false =>
    simp only [Bool.false_eq_true, if_false]
    cases delimited with
    | true =>
      simp only [if_true, true_or, iff_true]
      exact ⟨i, rfl, rfl⟩
    | false =>
      simp only [Bool.false_eq_true, if_false, false_or]
      exact onwardWalk_iff o hi

end

end RouteTemplate
