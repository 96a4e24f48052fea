import RouteTemplate.Proofs.Regex.Walk
import RouteTemplate.Regex.Build

/-!
Building expressions keeps what they match. `walk_seq` and `walk_choice` say that flattening,
joining classes and taking out a common beginning do not change the walks of a sequence and of an
alternation; `walk_repeated` says it of repetitions. The latter needs a part without groups unless
it is just made optional: a group in a part that matches the empty text only would be saved less
often.
-/

namespace RouteTemplate.Regex

namespace Expr

variable (text : List Char)

@[simp] theorem walk_ofClass (u : Bool) (s : CharClass) :
    (ofClass u s).walk text = (set u s).walk text := rfl

/-! ## Sequences -/

theorem walks_pieces (e : Expr) : walks text e.pieces = e.walk text := by
  induction e with
  | empty => rfl
  | cat a b iha ihb => rw [pieces, walks_append, iha, ihb, walk]
  | set u s => exact walks_singleton text _
  | look l => exact walks_singleton text _
  | alt a b => exact walks_singleton text _
  | rep t g e => exact walks_singleton text _
  | group g e => exact walks_singleton text _

theorem walk_ofPieces (l : List Expr) : (ofPieces l).walk text = walks text l := by
  induction l with
  | nil => rfl
  | cons e l ih =>
    cases l with
    | nil => exact (walks_singleton text e).symm
    | cons d l =>
      rw [ofPieces, walk, ih]
      · rfl
      · simp

theorem walks_flatMap_pieces (l : List Expr) : walks text (l.flatMap pieces) = walks text l := by
  induction l with
  | nil => rfl
  | cons e l ih =>
    rw [List.flatMap_cons, walks_append, walks_pieces, ih]
    rfl

theorem walk_seq (l : List Expr) : (seq l).walk text = walks text l := by
  rw [seq, walk_ofPieces, walks_flatMap_pieces]

/-! ## Alternations -/

/-- What one of several expressions matches. -/
def choices (l : List Expr) : Walk := fun i j ms => ∃ e ∈ l, e.walk text i j ms

theorem choices_singleton (e : Expr) : choices text [e] = e.walk text := by
  apply Walk.ext
  intro i j ms
  simp [choices]

theorem choices_cons (e : Expr) (l : List Expr) :
    choices text (e :: l) = (e.walk text).either (choices text l) := by
  apply Walk.ext
  intro i j ms
  simp [choices, Walk.either]

theorem choices_append (l m : List Expr) :
    choices text (l ++ m) = (choices text l).either (choices text m) := by
  apply Walk.ext
  intro i j ms
  simp [choices, Walk.either, or_and_right, exists_or]

theorem choices_branches (e : Expr) : choices text e.branches = e.walk text := by
  induction e with
  | alt a b iha ihb => rw [branches, choices_append, iha, ihb, walk]
  | empty => exact choices_singleton text _
  | set u s => exact choices_singleton text _
  | look l => exact choices_singleton text _
  | cat a b => exact choices_singleton text _
  | rep t g e => exact choices_singleton text _
  | group g e => exact choices_singleton text _

theorem choices_flatMap_branches (l : List Expr) :
    choices text (l.flatMap branches) = choices text l := by
  induction l with
  | nil => rfl
  | cons e l ih =>
    rw [List.flatMap_cons, choices_append, choices_branches, ih, choices_cons]

theorem walk_ofBranches (l : List Expr) : (ofBranches l).walk text = choices text l := by
  induction l with
  | nil =>
    apply Walk.ext
    intro i j ms
    simp [ofBranches, walk, choices]
  | cons e l ih =>
    cases l with
    | nil => exact (choices_singleton text e).symm
    | cons d l =>
      rw [ofBranches, walk, ih, choices_cons text e]
      simp

/-- The classes of a list of class expressions match what their union does. -/
theorem choices_eq_unions {l : List Expr} (h : ∀ e ∈ l, e.charClass?.isSome = true) (u : Bool) :
    choices text l = (set u (.unions (l.filterMap charClass?))).walk text := by
  apply Walk.ext
  intro i j ms
  simp only [walk, CharClass.contains_unions, List.any_eq_true, List.mem_filterMap]
  constructor
  · rintro ⟨e, he, hw⟩
    cases e with
    | set v s =>
      obtain ⟨⟨c, hc, hs⟩, hj, hm⟩ := hw
      exact ⟨⟨c, hc, s, ⟨_, he, rfl⟩, hs⟩, hj, hm⟩
    | empty | look | cat | alt | rep | group => simpa [charClass?] using h _ he
  · rintro ⟨⟨c, hc, s, ⟨e, he, hes⟩, hs⟩, hj, hm⟩
    refine ⟨e, he, ?_⟩
    cases e with
    | set v s' =>
      obtain rfl := Option.some.inj hes
      exact ⟨⟨c, hc, hs⟩, hj, hm⟩
    | empty | look | cat | alt | rep | group => simp [charClass?] at hes

theorem walk_joined {l : List Expr} {e : Expr} (h : joined? l = some e) :
    e.walk text = choices text l := by
  unfold joined? at h
  split at h
  next hl =>
    obtain rfl := Option.some.inj h
    rw [walk_ofClass]
    refine (choices_eq_unions text (fun e he => ?_) _).symm
    rw [Bool.or_eq_true, List.all_eq_true, List.all_eq_true] at hl
    have hse : e.literal?.isSome = true ∨ e.isWideSet = true := hl.imp (· e he) (· e he)
    cases e with
    | set v s => rfl
    | empty | look | cat | alt | rep | group => simp [literal?, isWideSet] at hse
  next => simp at h

theorem walk_oneOf (l : List Expr) : (oneOf l).walk text = choices text l := by
  unfold oneOf
  split
  · exact (choices_singleton text _).symm
  · cases h : joined? l with
    | none => exact walk_ofBranches text l
    | some e => exact walk_joined text h

theorem flatten_runs (l : List Expr) : (runs l).flatten = l := by
  induction l with
  | nil => rfl
  | cons e l ih =>
    unfold runs
    split
    next d run more hr =>
      rw [hr] at ih
      split <;> simp [← ih]
    next hr => rw [List.flatten_cons, ih, List.singleton_append]

theorem sharedStart_isPrefix_left {α : Type} [DecidableEq α] (s t : List α) :
    sharedStart s t <+: s := by
  induction s generalizing t with
  | nil => cases t <;> exact List.prefix_rfl
  | cons a s ih =>
    cases t with
    | nil => exact List.nil_prefix
    | cons b t =>
      unfold sharedStart
      split
      · exact List.cons_prefix_cons.2 ⟨rfl, ih t⟩
      · exact List.nil_prefix

theorem sharedStart_isPrefix_right {α : Type} [DecidableEq α] (s t : List α) :
    sharedStart s t <+: t := by
  induction s generalizing t with
  | nil => cases t <;> exact List.nil_prefix
  | cons a s ih =>
    cases t with
    | nil => exact List.prefix_rfl
    | cons b t =>
      unfold sharedStart
      split
      next h => exact List.cons_prefix_cons.2 ⟨h, ih t⟩
      next => exact List.nil_prefix

theorem foldl_sharedStart_isPrefix {α : Type} [DecidableEq α] (rest : List (List α))
    (l : List α) :
    rest.foldl sharedStart l <+: l ∧ ∀ m ∈ rest, rest.foldl sharedStart l <+: m := by
  induction rest generalizing l with
  | nil => exact ⟨List.prefix_rfl, by simp⟩
  | cons m rest ih =>
    obtain ⟨hl, hr⟩ := ih (sharedStart l m)
    refine ⟨hl.trans (sharedStart_isPrefix_left l m), fun n hn => ?_⟩
    rcases List.mem_cons.1 hn with rfl | hn
    · exact hl.trans (sharedStart_isPrefix_right l n)
    · exact hr n hn

theorem commonStart_isPrefix {α : Type} [DecidableEq α] {ls : List (List α)} {l : List α}
    (h : l ∈ ls) : commonStart ls <+: l := by
  cases ls with
  | nil => simp at h
  | cons m rest =>
    obtain ⟨hm, hr⟩ := foldl_sharedStart_isPrefix rest m
    rcases List.mem_cons.1 h with rfl | h
    · exact hm
    · exact hr l h

/-- A part in front distributes over alternatives. -/
theorem andThen_choices (p : Walk) (l : List Expr) :
    p.andThen (choices text l) = fun i j ms => ∃ e ∈ l, (p.andThen (e.walk text)) i j ms := by
  apply Walk.ext
  intro i j ms
  constructor
  · rintro ⟨k, ns, os, hp, ⟨e, he, hw⟩, rfl⟩
    exact ⟨e, he, k, ns, os, hp, hw, rfl⟩
  · rintro ⟨e, he, k, ns, os, hp, hw, rfl⟩
    exact ⟨k, ns, os, hp, ⟨e, he, hw⟩, rfl⟩

theorem walk_factored {l : List Expr} {e : Expr} (h : factored? l = some e) :
    e.walk text = choices text l := by
  unfold factored? at h
  simp only at h
  split at h
  next =>
    obtain rfl := Option.some.inj h
    generalize hs : commonStart (l.map fun e => runs e.pieces) = start
    rw [walk_seq, walks_append, walks_singleton, walk_oneOf, choices_flatMap_branches,
      andThen_choices]
    -- behind the common start, each alternative goes on with its own rest
    have hrest : ∀ e ∈ l, (walks text start.flatten).andThen
        ((seq ((runs e.pieces).drop start.length).flatten).walk text) = e.walk text := by
      intro e he
      have hp : start <+: runs e.pieces := by
        rw [← hs]
        exact commonStart_isPrefix (List.mem_map_of_mem he)
      obtain ⟨rest, hr⟩ := hp
      rw [walk_seq, ← walks_append, ← List.flatten_append, ← hr, List.drop_left, hr, flatten_runs,
        walks_pieces]
    apply Walk.ext
    intro i j ms
    constructor
    · rintro ⟨d, hd, hw⟩
      obtain ⟨p, hp, rfl⟩ := List.mem_map.1 hd
      obtain ⟨e, he, rfl⟩ := List.mem_map.1 hp
      rw [hrest e he] at hw
      exact ⟨e, he, hw⟩
    · rintro ⟨e, he, hw⟩
      rw [← hrest e he] at hw
      exact ⟨_, List.mem_map_of_mem (List.mem_map_of_mem he), hw⟩
  next => simp at h

/-- Two alternatives stay apart if they begin with different parts. -/
theorem choice_pair {a b : Expr} (ha : a.branches = [a]) (hb : b.branches = [b])
    (hl : a.literal? = none) (hw : a.isWideSet = false)
    (hstart : ((2 ≤ (runs a.pieces).length ∧ 2 ≤ (runs b.pieces).length) →
      commonStart [runs a.pieces, runs b.pieces] = [])) :
    choice [a, b] = .alt a b := by
  have hbranches : [a, b].flatMap branches = [a, b] := by simp [ha, hb]
  have hj : joined? [a, b] = none := by simp [joined?, hl, hw]
  have hf : factored? [a, b] = none := by
    simp only [factored?, List.map_cons, List.map_nil]
    rw [if_neg]
    simp only [List.all_cons, List.all_nil, Bool.and_true, Bool.and_eq_true, decide_eq_true_eq,
      Bool.not_eq_true', not_and]
    intro h
    rw [hstart h]
    simp
  simp only [choice, hbranches, hj, hf]
  rfl

theorem walk_choice (l : List Expr) : (choice l).walk text = choices text l := by
  rw [← choices_flatMap_branches text l]
  unfold choice
  generalize l.flatMap branches = l
  simp only
  split
  · exact (choices_singleton text _).symm
  · cases hj : joined? l with
    | some e => exact walk_joined text hj
    | none =>
      cases hf : factored? l with
      | some e => exact walk_factored text hf
      | none => exact walk_ofBranches text l

/-! ## Repetitions -/

theorem walk_of_zeroWidth {e : Expr} (h : e.zeroWidth = true) {i j : Nat} {ms : List (Nat × Nat)}
    (hw : e.walk text i j ms) : j = i := by
  induction e generalizing i j ms with
  | empty => exact hw.1
  | set u s => simp [zeroWidth] at h
  | look l => exact hw.2.1
  | cat a b iha ihb =>
    rw [zeroWidth, Bool.and_eq_true] at h
    obtain ⟨k, ns, os, ha, hb, -⟩ := hw
    rw [ihb h.2 hb, iha h.1 ha]
  | alt a b iha ihb =>
    rw [zeroWidth, Bool.and_eq_true] at h
    rcases hw with hw | hw
    · exact iha h.1 hw
    · exact ihb h.2 hw
  | rep t g e ih =>
    obtain ⟨n, -, hn⟩ := hw
    induction n generalizing i ms with
    | zero => exact hn.1
    | succ n ihn =>
      obtain ⟨k, ns, os, he, hr, -⟩ := hn
      rw [ihn hr, ih h he]
  | group g e ih =>
    obtain ⟨ns, hw, -⟩ := hw
    exact ih h hw

/-- Any number of copies but none matches what one copy does, if it matches the empty text only. -/
theorem times_zeroWidth {e : Expr} (hz : e.zeroWidth = true) (hq : (e.walk text).Quiet) (n : Nat) :
    (e.walk text).times (n + 1) = e.walk text := by
  induction n with
  | zero => exact Walk.times_one _
  | succ n ih =>
    rw [Walk.times, ih]
    apply Walk.ext
    intro i j ms
    constructor
    · rintro ⟨k, ns, os, h₁, h₂, rfl⟩
      obtain rfl := walk_of_zeroWidth text hz h₁
      obtain rfl := hq _ _ _ h₁
      simpa using h₂
    · intro hw
      obtain rfl := walk_of_zeroWidth text hz hw
      obtain rfl := hq _ _ _ hw
      exact ⟨j, [], [], hw, hw, rfl⟩

/-- How often a part is repeated that matches the empty text only. -/
def flatTimes (t : Times) : Times := ⟨min t.least 1, some (min (t.most.getD 1) 1)⟩

theorem walk_flatTimes {e : Expr} (hz : e.zeroWidth = true) (hq : (e.walk text).Quiet)
    (t : Times) : (e.walk text).some (flatTimes t).Admits = (e.walk text).some t.Admits := by
  have hmost (n : Nat) (h : (flatTimes t).Admits n) :
      min t.least 1 ≤ n ∧ n ≤ max (min t.least 1) (min (t.most.getD 1) 1) :=
    ⟨h.1, h.2 _ rfl⟩
  apply Walk.ext
  intro i j ms
  constructor
  · rintro ⟨n, hn, hw⟩
    have hb := hmost n hn
    cases n with
    | zero => exact ⟨0, ⟨by omega, fun m _ => Nat.zero_le _⟩, hw⟩
    | succ n =>
      rw [times_zeroWidth text hz hq] at hw
      -- at least one copy is asked for or admitted, and all such counts match alike
      refine ⟨max t.least 1, ⟨Nat.le_max_left _ _, fun m hm => ?_⟩, ?_⟩
      · rw [hm, Option.getD_some] at hb
        omega
      · rw [show max t.least 1 = (max t.least 1 - 1) + 1 by omega, times_zeroWidth text hz hq]
        exact hw
  · rintro ⟨n, ⟨hl, hm⟩, hw⟩
    cases n with
    | zero =>
      refine ⟨0, ⟨?_, fun m _ => Nat.zero_le _⟩, hw⟩
      show min t.least 1 ≤ 0
      omega
    | succ n =>
      rw [times_zeroWidth text hz hq, ← Walk.times_one (e.walk text)] at hw
      refine ⟨1, ⟨Nat.min_le_right _ _, fun m hm' => ?_⟩, hw⟩
      obtain rfl := Option.some.inj hm'
      cases ht : t.most with
      | none =>
        simp only [flatTimes, Option.getD_none]
        omega
      | some m =>
        have := hm m ht
        simp only [flatTimes, Option.getD_some]
        omega

theorem some_admits_zero (p : Walk) : p.some (Times.Admits ⟨0, some 0⟩) = Walk.stay := by
  apply Walk.ext
  intro i j ms
  constructor
  · rintro ⟨n, ⟨-, hn⟩, hw⟩
    obtain rfl : n = 0 := by simpa using hn 0 rfl
    exact hw
  · intro hw
    exact ⟨0, ⟨Nat.le_refl _, by simp⟩, hw⟩

theorem some_admits_one (p : Walk) : p.some (Times.Admits ⟨1, some 1⟩) = p := by
  apply Walk.ext
  intro i j ms
  constructor
  · rintro ⟨n, ⟨h1, hn⟩, hw⟩
    have hn1 : n ≤ 1 := by simpa using hn 1 rfl
    obtain rfl : n = 1 := Nat.le_antisymm hn1 h1
    rwa [Walk.times_one] at hw
  · intro hw
    exact ⟨1, ⟨Nat.le_refl _, by simp⟩, by rwa [Walk.times_one]⟩

theorem some_admits_optional (p : Walk) :
    p.some (Times.Admits ⟨0, some 1⟩) = p.either Walk.stay := by
  apply Walk.ext
  intro i j ms
  constructor
  · rintro ⟨n, ⟨-, hn⟩, hw⟩
    have hn1 : n ≤ 1 := by simpa using hn 1 rfl
    rcases (by omega : n = 0 ∨ n = 1) with rfl | rfl
    · exact .inr hw
    · exact .inl (by rwa [Walk.times_one] at hw)
  · rintro (hw | hw)
    · exact ⟨1, ⟨Nat.zero_le _, by simp⟩, by rwa [Walk.times_one]⟩
    · exact ⟨0, ⟨Nat.le_refl _, by simp⟩, hw⟩

theorem walk_repeated {e : Expr} {t : Times} (h : (e.walk text).Quiet ∨ t = ⟨0, some 1⟩)
    (g : Bool) : (repeated t g e).walk text = (e.walk text).some t.Admits := by
  have htimes : (e.walk text).some (if e.zeroWidth then flatTimes t else t).Admits =
      (e.walk text).some t.Admits := by
    split
    next hz =>
      rcases h with hq | rfl
      · exact walk_flatTimes text hz hq t
      · rfl
    next => rfl
  rw [← htimes, repeated]
  simp only [flatTimes]
  generalize (if e.zeroWidth = true then _ else t : Times) = t'
  split
  next h0 => rw [h0, some_admits_zero, walk]
  next =>
    split
    next h1 => rw [h1, some_admits_one]
    next => rfl

/-! ## Nothing saved -/

theorem Quiet.ofClass (u : Bool) (s : CharClass) : (ofClass u s).Quiet := by
  intro text
  rw [walk_ofClass]
  exact Quiet.set u s text

end Expr

end RouteTemplate.Regex
