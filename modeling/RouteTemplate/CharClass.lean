/-!
Sets of characters. A class is given by the code points at which membership changes, in increasing
order: it begins at the first of them, ends before the second, and so on. So classes with the same
code points are equal (`ext_inside`), and two classes are combined in one pass over both. The main
statements say what the operations hold: `contains_union`, `contains_inter`, `contains_diff`,
`contains_symmDiff` and `contains_compl`.
-/

namespace RouteTemplate

structure CharClass where
  points : List Nat
  increasing : points.Pairwise (· < ·)
  deriving DecidableEq

namespace CharClass

/-- Whether an odd number of points lie at `n` or below. -/
def inside : List Nat → Nat → Bool
  | [], _ => false
  | p :: rest, n => if n < p then false else !inside rest n

theorem inside_cons_of_lt {p n : Nat} {l : List Nat} (h : n < p) : inside (p :: l) n = false := by
  rw [inside, if_pos h]

theorem inside_cons_of_le {p n : Nat} {l : List Nat} (h : p ≤ n) :
    inside (p :: l) n = !inside l n := by
  rw [inside, if_neg (by omega)]

theorem inside_eq_false {l : List Nat} {n : Nat} (h : ∀ p ∈ l, n < p) : inside l n = false := by
  cases l with
  | nil => rfl
  | cons p rest => simp [inside, h p (by simp)]

/-- Behind the last point, membership no longer changes. -/
theorem inside_of_forall_le {l : List Nat} {n : Nat} (h : ∀ p ∈ l, p ≤ n) :
    inside l n = (l.length % 2 == 1) := by
  induction l with
  | nil => rfl
  | cons p rest ih =>
    have hp := h p (by simp)
    rw [inside_cons_of_le hp, ih fun q hq => h q (by simp [hq]), List.length_cons]
    rcases Nat.mod_two_eq_zero_or_one rest.length with h2 | h2
    · rw [h2, show (rest.length + 1) % 2 = 1 by omega]; rfl
    · rw [h2, show (rest.length + 1) % 2 = 0 by omega]; rfl

theorem eq_of_inside {s t : List Nat} (hs : s.Pairwise (· < ·)) (ht : t.Pairwise (· < ·))
    (h : ∀ n, inside s n = inside t n) : s = t := by
  induction s generalizing t with
  | nil =>
    cases t with
    | nil => rfl
    | cons q t =>
      have hq := h q
      rw [inside_cons_of_le (Nat.le_refl q),
        inside_eq_false (List.pairwise_cons.1 ht).1] at hq
      simp [inside] at hq
  | cons p s ih =>
    obtain ⟨hp, hs'⟩ := List.pairwise_cons.1 hs
    have hpp := h p
    rw [inside_cons_of_le (Nat.le_refl p), inside_eq_false hp] at hpp
    cases t with
    | nil => simp [inside] at hpp
    | cons q t =>
      obtain ⟨hq, ht'⟩ := List.pairwise_cons.1 ht
      have hqq := h q
      rw [inside_cons_of_le (Nat.le_refl q), inside_eq_false hq] at hqq
      have hpq : p = q := by
        rcases Nat.lt_trichotomy p q with h | h | h
        · rw [inside_cons_of_lt h] at hpp
          simp at hpp
        · exact h
        · rw [inside_cons_of_lt h] at hqq
          simp at hqq
      subst hpq
      refine congrArg (p :: ·) (ih hs' ht' fun n => ?_)
      by_cases hn : p ≤ n
      · simpa [inside_cons_of_le hn] using h n
      · rw [inside_eq_false fun r hr => Nat.lt_trans (by omega) (hp r hr),
          inside_eq_false fun r hr => Nat.lt_trans (by omega) (hq r hr)]

theorem ext_inside {s t : CharClass} (h : ∀ n, inside s.points n = inside t.points n) : s = t := by
  cases s with
  | mk s hs =>
    cases t with
    | mk t ht =>
      congr
      exact eq_of_inside hs ht h

def contains (s : CharClass) (c : Char) : Bool := inside s.points c.toNat

/-! ## Combining two classes -/

/-- A point is kept where the combined membership changes. -/
def mark (before after : Bool) (p : Nat) (rest : List Nat) : List Nat :=
  if before = after then rest else p :: rest

/-- Combines point lists where `p` is the next point of the first one. The memberships reached so
far are `a` and `b`; `next` goes on behind `p`. -/
def weave (op : Bool → Bool → Bool) (a : Bool) (p : Nat) (next : Bool → List Nat → List Nat) :
    Bool → List Nat → List Nat
  | b, [] => mark (op a b) (op (!a) b) p (next b [])
  | b, q :: t =>
    if q < p then mark (op a b) (op a !b) q (weave op a p next (!b) t)
    else if p < q then mark (op a b) (op (!a) b) p (next b (q :: t))
    else mark (op a b) (op (!a) !b) p (next (!b) t)

/-- Combines point lists, from the memberships `a` and `b` on. -/
def merge (op : Bool → Bool → Bool) : Bool → List Nat → Bool → List Nat → List Nat
  | a, [] => fun _ t => if op a false = op a true then [] else t
  | a, p :: s => weave op a p (merge op (!a) s)

theorem mem_of_mem_mark {before after : Bool} {p q : Nat} {rest : List Nat}
    (h : q ∈ mark before after p rest) : q = p ∨ q ∈ rest := by
  unfold mark at h
  split at h
  · exact .inr h
  · simpa using h

theorem mem_of_mem_weave {op : Bool → Bool → Bool} {a : Bool} {p q : Nat} {s : List Nat}
    {next : Bool → List Nat → List Nat} (hn : ∀ b t, q ∈ next b t → q ∈ s ∨ q ∈ t)
    {b : Bool} {t : List Nat} (h : q ∈ weave op a p next b t) : q = p ∨ q ∈ s ∨ q ∈ t := by
  induction t generalizing b with
  | nil =>
    rcases mem_of_mem_mark h with h | h
    · exact .inl h
    · exact .inr (hn _ _ h)
  | cons r t ih =>
    unfold weave at h
    split at h
    · rcases mem_of_mem_mark h with h | h
      · simp [h]
      · rcases ih h with h | h | h <;> simp [h]
    · split at h
      · rcases mem_of_mem_mark h with h | h
        · exact .inl h
        · exact .inr (hn _ _ h)
      · rcases mem_of_mem_mark h with h | h
        · exact .inl h
        · rcases hn _ _ h with h | h <;> simp [h]

theorem mem_of_mem_merge {op : Bool → Bool → Bool} {q : Nat} {a b : Bool} {s t : List Nat}
    (h : q ∈ merge op a s b t) : q ∈ s ∨ q ∈ t := by
  induction s generalizing a b t with
  | nil =>
    unfold merge at h
    split at h
    · simp at h
    · exact .inr h
  | cons p s ih =>
    rcases mem_of_mem_weave (fun b t h => ih h) h with h | h | h <;> simp [h]

theorem pairwise_mark {before after : Bool} {p : Nat} {rest : List Nat}
    (hr : rest.Pairwise (· < ·)) (hp : ∀ q ∈ rest, p < q) :
    (mark before after p rest).Pairwise (· < ·) := by
  unfold mark
  split
  · exact hr
  · exact List.pairwise_cons.2 ⟨hp, hr⟩

theorem pairwise_weave {op : Bool → Bool → Bool} {a : Bool} {p : Nat} {s : List Nat}
    {next : Bool → List Nat → List Nat} (hs : ∀ q ∈ s, p < q)
    (hm : ∀ b t q, q ∈ next b t → q ∈ s ∨ q ∈ t)
    (hn : ∀ b t, t.Pairwise (· < ·) → (next b t).Pairwise (· < ·)) (b : Bool) {t : List Nat}
    (ht : t.Pairwise (· < ·)) : (weave op a p next b t).Pairwise (· < ·) := by
  induction t generalizing b with
  | nil =>
    refine pairwise_mark (hn _ _ ht) fun q hq => ?_
    rcases hm _ _ _ hq with h | h
    · exact hs q h
    · simp at h
  | cons r t ih =>
    obtain ⟨hr, ht'⟩ := List.pairwise_cons.1 ht
    unfold weave
    split
    next hrp =>
      refine pairwise_mark (ih _ ht') fun q hq => ?_
      rcases mem_of_mem_weave (fun b t h => hm b t q h) hq with h | h | h
      · omega
      · exact Nat.lt_trans hrp (hs q h)
      · exact hr q h
    next hrp =>
      split
      next hpr =>
        refine pairwise_mark (hn _ _ ht) fun q hq => ?_
        rcases hm _ _ _ hq with h | h
        · exact hs q h
        · rcases List.mem_cons.1 h with h | h
          · omega
          · exact Nat.lt_trans hpr (hr q h)
      next hpr =>
        refine pairwise_mark (hn _ _ ht') fun q hq => ?_
        rcases hm _ _ _ hq with h | h
        · exact hs q h
        · have := hr q h
          omega

theorem pairwise_merge (op : Bool → Bool → Bool) (a b : Bool) {s t : List Nat}
    (hs : s.Pairwise (· < ·)) (ht : t.Pairwise (· < ·)) :
    (merge op a s b t).Pairwise (· < ·) := by
  induction s generalizing a b t with
  | nil =>
    unfold merge
    split
    · exact .nil
    · exact ht
  | cons p s ih =>
    obtain ⟨hp, hs'⟩ := List.pairwise_cons.1 hs
    exact pairwise_weave hp (fun _ _ _ h => mem_of_mem_merge h) (fun b t ht => ih _ b hs' ht) b ht

theorem inside_mark_of_lt {before after : Bool} {p n : Nat} {rest : List Nat} (hn : n < p)
    (hp : ∀ q ∈ rest, p < q) : inside (mark before after p rest) n = false := by
  refine inside_eq_false fun q hq => ?_
  rcases mem_of_mem_mark hq with h | h
  · omega
  · exact Nat.lt_trans hn (hp q h)

theorem inside_mark_of_le {before after : Bool} {p n : Nat} {rest : List Nat} (hn : p ≤ n) :
    inside (mark before after p rest) n = (inside rest n ^^ (before ^^ after)) := by
  unfold mark
  split
  next h => simp [h]
  next h =>
    rw [inside_cons_of_le hn]
    cases before <;> cases after <;> simp_all

theorem xor_xor_cancel (x y z : Bool) : (x ^^ y ^^ (z ^^ y)) = (x ^^ z) := by
  cases x <;> cases y <;> cases z <;> rfl

theorem not_xor_comm (x y : Bool) : (!x ^^ y) = (x ^^ !y) := by
  cases x <;> cases y <;> rfl

theorem inside_weave {op : Bool → Bool → Bool} {a : Bool} {p n : Nat} {s : List Nat}
    {next : Bool → List Nat → List Nat} (hs : ∀ q ∈ s, p < q)
    (hm : ∀ b t q, q ∈ next b t → q ∈ s ∨ q ∈ t)
    (hn : ∀ b t, t.Pairwise (· < ·) →
      inside (next b t) n = (op (!a ^^ inside s n) (b ^^ inside t n) ^^ op (!a) b))
    (b : Bool) {t : List Nat} (ht : t.Pairwise (· < ·)) :
    inside (weave op a p next b t) n =
      (op (a ^^ inside (p :: s) n) (b ^^ inside t n) ^^ op a b) := by
  induction t generalizing b with
  | nil =>
    unfold weave
    by_cases h : p ≤ n
    · rw [inside_mark_of_le h, hn _ _ ht, inside_cons_of_le h, xor_xor_cancel, not_xor_comm]
    · rw [inside_mark_of_lt (by omega) (fun q hq => (hm _ _ _ hq).elim (hs q) (by simp)),
        inside_cons_of_lt (by omega)]
      simp [inside]
  | cons r t ih =>
    obtain ⟨hr, ht'⟩ := List.pairwise_cons.1 ht
    unfold weave
    split
    next hrp =>
      by_cases h : r ≤ n
      · rw [inside_mark_of_le h, ih _ ht', inside_cons_of_le h, xor_xor_cancel, not_xor_comm]
      · rw [inside_mark_of_lt (by omega), inside_cons_of_lt (by omega),
          inside_cons_of_lt (by omega)]
        · simp
        · intro q hq
          rcases mem_of_mem_weave (fun b t h => hm b t q h) hq with h | h | h
          · omega
          · exact Nat.lt_trans hrp (hs q h)
          · exact hr q h
    next hrp =>
      split
      next hpr =>
        by_cases h : p ≤ n
        · rw [inside_mark_of_le h, hn _ _ ht, inside_cons_of_le h, xor_xor_cancel, not_xor_comm]
        · rw [inside_mark_of_lt (by omega), inside_cons_of_lt (by omega),
            inside_cons_of_lt (by omega)]
          · simp
          · intro q hq
            rcases hm _ _ _ hq with h | h
            · exact hs q h
            · rcases List.mem_cons.1 h with h | h
              · omega
              · exact Nat.lt_trans hpr (hr q h)
      next hpr =>
        have hrp : r = p := by omega
        subst hrp
        by_cases h : r ≤ n
        · rw [inside_mark_of_le h, hn _ _ ht', inside_cons_of_le h, inside_cons_of_le h,
            xor_xor_cancel, not_xor_comm, not_xor_comm]
        · rw [inside_mark_of_lt (by omega), inside_cons_of_lt (by omega),
            inside_cons_of_lt (by omega)]
          · simp
          · intro q hq
            rcases hm _ _ _ hq with h | h
            · exact hs q h
            · exact hr q h

theorem inside_merge (op : Bool → Bool → Bool) (n : Nat) (a b : Bool) {s t : List Nat}
    (hs : s.Pairwise (· < ·)) (ht : t.Pairwise (· < ·)) :
    inside (merge op a s b t) n =
      (op (a ^^ inside s n) (b ^^ inside t n) ^^ op a b) := by
  induction s generalizing a b t with
  | nil =>
    unfold merge
    cases a <;> cases b <;> cases h : inside t n <;> cases h0 : op false false <;>
      cases h1 : op false true <;> cases h2 : op true false <;> cases h3 : op true true <;>
      simp_all [inside]
  | cons p s ih =>
    obtain ⟨hp, hs'⟩ := List.pairwise_cons.1 hs
    exact inside_weave hp (fun _ _ _ h => mem_of_mem_merge h) (fun b t ht => ih _ b hs' ht) b ht

def combine (op : Bool → Bool → Bool) (s t : CharClass) : CharClass :=
  ⟨merge op false s.points false t.points, pairwise_merge _ _ _ s.increasing t.increasing⟩

theorem contains_combine {op : Bool → Bool → Bool} (h : op false false = false)
    (s t : CharClass) (c : Char) :
    (s.combine op t).contains c = op (s.contains c) (t.contains c) := by
  simp [contains, combine, inside_merge op _ _ _ s.increasing t.increasing, h]

/-! ## Ranges -/

def empty : CharClass := ⟨[], .nil⟩

theorem pairwise_between {low high : Nat} (h : low ≤ high) :
    [low, high + 1].Pairwise (· < ·) := by
  rw [List.pairwise_pair]
  omega

/-- The code points from `low` to `high`. -/
def between (low high : Nat) : CharClass :=
  if h : low ≤ high then ⟨[low, high + 1], pairwise_between h⟩ else empty

theorem inside_between_iff (low high n : Nat) :
    inside (between low high).points n = true ↔ low ≤ n ∧ n ≤ high := by
  unfold between
  split
  · simp only [inside]
    split
    · simp; omega
    · split <;> simp <;> omega
  · simp [empty, inside]; omega

theorem contains_between_iff (low high : Nat) (c : Char) :
    (between low high).contains c = true ↔ low ≤ c.toNat ∧ c.toNat ≤ high :=
  inside_between_iff low high c.toNat

def range (low high : Char) : CharClass := between low.toNat high.toNat

def single (c : Char) : CharClass := range c c

/-- All characters. -/
def any : CharClass := between 0 0x10FFFF

@[simp] theorem contains_empty (c : Char) : empty.contains c = false := rfl

theorem contains_range_iff (low high c : Char) :
    (range low high).contains c = true ↔ low.toNat ≤ c.toNat ∧ c.toNat ≤ high.toNat :=
  contains_between_iff _ _ c

@[simp] theorem contains_single (c d : Char) : (single c).contains d = (d == c) := by
  rw [Bool.eq_iff_iff, single, contains_range_iff, beq_iff_eq]
  constructor
  · intro h
    exact Char.toNat_inj.1 (by omega)
  · rintro rfl
    simp

theorem toNat_le (c : Char) : c.toNat ≤ 0x10FFFF := by
  have h := c.valid
  simp only [UInt32.isValidChar, Nat.isValidChar] at h
  simp only [Char.toNat]
  omega

@[simp] theorem contains_any (c : Char) : any.contains c = true :=
  (contains_between_iff _ _ c).2 ⟨Nat.zero_le _, toNat_le c⟩

/-! ## Surrogates -/

/-- The surrogates, which are code points but no characters. -/
def surrogates : CharClass := between 0xD800 0xDFFF

theorem toNat_lt_or_lt (c : Char) : c.toNat < 0xD800 ∨ 0xDFFF < c.toNat := by
  have h := c.valid
  simp only [UInt32.isValidChar, Nat.isValidChar] at h
  simp only [Char.toNat]
  omega

theorem contains_surrogates (c : Char) : surrogates.contains c = false := by
  have h := toNat_lt_or_lt c
  rw [Bool.eq_false_iff, Ne, surrogates, contains_between_iff]
  omega

/-- Whether both characters beside the surrogates are in. -/
def spansSurrogates (s : CharClass) : Bool := inside s.points 0xD7FF && inside s.points 0xE000

/-- The surrogates are in a class only between the two characters beside them: a range does not end
at a surrogate. -/
def settle (s : CharClass) : CharClass :=
  if s.spansSurrogates then s else s.combine (fun a b => a && !b) surrogates

theorem contains_settle (s : CharClass) (c : Char) : s.settle.contains c = s.contains c := by
  unfold settle
  split
  · rfl
  · simp [contains_combine, contains_surrogates]

/-! ## Operations -/

def union (s t : CharClass) : CharClass := s.combine or t

def inter (s t : CharClass) : CharClass := s.combine and t

def diff (s t : CharClass) : CharClass := (s.combine (fun a b => a && !b) t).settle

def symmDiff (s t : CharClass) : CharClass := (s.combine xor t).settle

def compl (s : CharClass) : CharClass := any.diff s

theorem inside_union (s t : CharClass) (n : Nat) :
    inside (s.union t).points n = (inside s.points n || inside t.points n) := by
  simp [union, combine, inside_merge or _ _ _ s.increasing t.increasing]

@[simp] theorem contains_union (s t : CharClass) (c : Char) :
    (s.union t).contains c = (s.contains c || t.contains c) := inside_union s t c.toNat

@[simp] theorem contains_inter (s t : CharClass) (c : Char) :
    (s.inter t).contains c = (s.contains c && t.contains c) := contains_combine rfl s t c

@[simp] theorem contains_diff (s t : CharClass) (c : Char) :
    (s.diff t).contains c = (s.contains c && !t.contains c) := by
  rw [diff, contains_settle, contains_combine (by rfl)]

@[simp] theorem contains_symmDiff (s t : CharClass) (c : Char) :
    (s.symmDiff t).contains c = (s.contains c ^^ t.contains c) := by
  rw [symmDiff, contains_settle, contains_combine (by rfl)]

@[simp] theorem contains_compl (s : CharClass) (c : Char) :
    s.compl.contains c = !s.contains c := by simp [compl]

/-- Whether one range ends just below the surrogates and the next begins just above them. -/
def partsAtSurrogates (s : CharClass) : Bool := s.spansSurrogates && !inside s.points 0xD800

/-- What a negated class holds: the complement, cut out between the ranges of the class. Where two
ranges part at the surrogates nothing lies between them, and the cut takes in the two characters
beside it. -/
def outside (s : CharClass) : CharClass :=
  if s.partsAtSurrogates then s.compl.union (between 0xD7FF 0xE000) else s.compl

theorem partsAtSurrogates_eq_false {s : CharClass}
    (h : s.contains '\ud7ff' = false ∨ s.contains '\ue000' = false) :
    s.partsAtSurrogates = false := by
  show (s.contains '\ud7ff' && s.contains '\ue000' && !inside s.points 0xD800) = false
  rcases h with h | h <;> simp [h]

/-- A negated class holds what the class does not, and the two characters beside the surrogates if
the class parts there. -/
theorem contains_outside_iff (s : CharClass) (c : Char) :
    s.outside.contains c = true ↔ s.contains c = false ∨
      s.partsAtSurrogates = true ∧ (c = '\ud7ff' ∨ c = '\ue000') := by
  have hbeside : (between 0xD7FF 0xE000).contains c = true ↔ c = '\ud7ff' ∨ c = '\ue000' := by
    have h := toNat_lt_or_lt c
    have hbelow : '\ud7ff'.toNat = 0xD7FF := rfl
    have habove : '\ue000'.toNat = 0xE000 := rfl
    rw [contains_between_iff, ← Char.toNat_inj, ← Char.toNat_inj, hbelow, habove]
    omega
  unfold outside
  split
  next hparts => simp [hbeside, hparts]
  next hparts => simp [hparts]

def unions (l : List CharClass) : CharClass := l.foldr union empty

theorem contains_unions (l : List CharClass) (c : Char) :
    (unions l).contains c = l.any (·.contains c) := by
  induction l with
  | nil => rfl
  | cons s l ih => simpa [unions] using congrArg (s.contains c || ·) ih

def ofRanges (l : List (Nat × Nat)) : CharClass := unions (l.map fun r => between r.1 r.2)

def ofChars (l : List Char) : CharClass := unions (l.map single)

theorem contains_ofChars (l : List Char) (c : Char) : (ofChars l).contains c = l.contains c := by
  rw [ofChars, contains_unions, Bool.eq_iff_iff]
  simp

/-! ## Inspection -/

/-- The inclusive ranges of code points. -/
def rangesOf : List Nat → List (Nat × Nat)
  | p :: q :: rest => (p, q - 1) :: rangesOf rest
  | _ => []

def ranges (s : CharClass) : List (Nat × Nat) := rangesOf s.points

/-- The character of a class that holds just one. -/
def single? (s : CharClass) : Option Char :=
  match s.points with
  | [p, q] => if q = p + 1 then some (Char.ofNat p) else none
  | _ => none

def isEmpty (s : CharClass) : Bool := s.points.isEmpty

/-- Whether the class may hold characters beyond ASCII. -/
def beyondAscii (s : CharClass) : Bool := inside s.points 128 || s.points.any (128 < ·)

theorem contains_of_not_beyondAscii {s : CharClass} (h : s.beyondAscii = false) {c : Char}
    (hc : 128 ≤ c.toNat) : s.contains c = false := by
  simp only [beyondAscii, Bool.or_eq_false_iff, List.any_eq_false, decide_eq_true_eq,
    Nat.not_lt] at h
  rw [contains, inside_of_forall_le fun p hp => Nat.le_trans (h.2 p hp) hc,
    ← inside_of_forall_le h.2]
  exact h.1

end CharClass

end RouteTemplate
