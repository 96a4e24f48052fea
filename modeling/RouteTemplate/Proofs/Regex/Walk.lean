import RouteTemplate.Regex.Expr

/-!
What expressions match, apart from any search. A walk says which places of a text an expression
leads to from a given one, and which slots are saved on the way. `Expr.walk` gives every expression
its walk by recursion. `walk_slice_iff` says that an expression without assertions looks at nothing
but the text that it matches.
-/

namespace RouteTemplate.Regex

/-- From where to where a match leads, with the slots that it saves, latest first. -/
abbrev Walk := Nat → Nat → List (Nat × Nat) → Prop

namespace Walk

theorem ext {p q : Walk} (h : ∀ i j ms, p i j ms ↔ q i j ms) : p = q := by
  funext i j ms
  exact propext (h i j ms)

/-- Matches the empty text. -/
def stay : Walk := fun i j ms => j = i ∧ ms = []

def andThen (p q : Walk) : Walk := fun i j ms =>
  ∃ k ns os, p i k ns ∧ q k j os ∧ ms = os ++ ns

def either (p q : Walk) : Walk := fun i j ms => p i j ms ∨ q i j ms

def times (p : Walk) : Nat → Walk
  | 0 => stay
  | n + 1 => p.andThen (p.times n)

/-- Any number of copies that a condition admits. -/
def some (p : Walk) (admits : Nat → Prop) : Walk := fun i j ms => ∃ n, admits n ∧ p.times n i j ms

/-- Saves both ends of a group. -/
def saving (g : Nat) (p : Walk) : Walk := fun i j ms =>
  ∃ ns, p i j ns ∧ ms = (2 * g + 1, j) :: (ns ++ [(2 * g, i)])

/-- Several walks in turn. -/
def all : List Walk → Walk
  | [] => stay
  | p :: rest => p.andThen (all rest)

theorem stay_andThen (p : Walk) : stay.andThen p = p := by
  apply ext
  intro i j ms
  constructor
  · rintro ⟨k, ns, os, ⟨rfl, rfl⟩, hp, rfl⟩
    simpa using hp
  · intro hp
    exact ⟨i, [], ms, ⟨rfl, rfl⟩, hp, by simp⟩

theorem andThen_stay (p : Walk) : p.andThen stay = p := by
  apply ext
  intro i j ms
  constructor
  · rintro ⟨k, ns, os, hp, ⟨rfl, rfl⟩, rfl⟩
    exact hp
  · intro hp
    exact ⟨j, ms, [], hp, ⟨rfl, rfl⟩, rfl⟩

theorem andThen_assoc (p q r : Walk) : (p.andThen q).andThen r = p.andThen (q.andThen r) := by
  apply ext
  intro i j ms
  constructor
  · rintro ⟨l, ns, os, ⟨k, ms₁, ms₂, hp, hq, rfl⟩, hr, rfl⟩
    exact ⟨k, ms₁, os ++ ms₂, hp, ⟨l, ms₂, os, hq, hr, rfl⟩, by rw [List.append_assoc]⟩
  · rintro ⟨k, ns, os, hp, ⟨l, ms₁, ms₂, hq, hr, rfl⟩, rfl⟩
    exact ⟨l, ms₁ ++ ns, ms₂, ⟨k, ns, ms₁, hp, hq, rfl⟩, hr, by rw [List.append_assoc]⟩

theorem all_append (l m : List Walk) : all (l ++ m) = (all l).andThen (all m) := by
  induction l with
  | nil => exact (stay_andThen _).symm
  | cons p l ih => rw [List.cons_append, all, all, ih, andThen_assoc]

theorem all_singleton (p : Walk) : all [p] = p := andThen_stay p

theorem times_one (p : Walk) : p.times 1 = p := andThen_stay p

theorem times_add (p : Walk) (m n : Nat) : p.times (m + n) = (p.times m).andThen (p.times n) := by
  induction m with
  | zero => rw [Nat.zero_add, times, stay_andThen]
  | succ m ih => rw [Nat.succ_add, times, times, ih, andThen_assoc]

/-- What holds of a walk and goes over to the walks in turn, holds of all copies. -/
theorem times_induction {P : Walk → Prop} {p : Walk} (hs : P stay)
    (ha : ∀ q, P q → P (p.andThen q)) (n : Nat) : P (p.times n) := by
  induction n with
  | zero => exact hs
  | succ n ih => exact ha _ ih

/-! ## Where walks lead -/

/-- Leads on in a text of the given length, and not out of it. -/
def Forward (length : Nat) (p : Walk) : Prop :=
  ∀ i j ms, p i j ms → i ≤ j ∧ (i ≤ length → j ≤ length)

theorem Forward.stay (length : Nat) : Forward length stay := by
  rintro i j ms ⟨rfl, rfl⟩
  exact ⟨Nat.le_refl _, id⟩

theorem Forward.andThen {length : Nat} {p q : Walk} (hp : p.Forward length)
    (hq : q.Forward length) : (p.andThen q).Forward length := by
  rintro i j ms ⟨k, ns, os, h₁, h₂, rfl⟩
  have hp' := hp _ _ _ h₁
  have hq' := hq _ _ _ h₂
  exact ⟨Nat.le_trans hp'.1 hq'.1, fun h => hq'.2 (hp'.2 h)⟩

/-- Saves nothing. -/
def Quiet (p : Walk) : Prop := ∀ i j ms, p i j ms → ms = []

theorem Quiet.stay : Quiet stay := fun _ _ _ h => h.2

theorem Quiet.either {p q : Walk} (hp : p.Quiet) (hq : q.Quiet) : (p.either q).Quiet := by
  rintro i j ms (h | h)
  · exact hp _ _ _ h
  · exact hq _ _ _ h

theorem Quiet.andThen {p q : Walk} (hp : p.Quiet) (hq : q.Quiet) : (p.andThen q).Quiet := by
  rintro i j ms ⟨k, ns, os, h₁, h₂, rfl⟩
  rw [hp _ _ _ h₁, hq _ _ _ h₂]
  rfl

end Walk

/-- Whether a repetition may have `n` copies. -/
def Times.Admits (t : Times) (n : Nat) : Prop :=
  t.least ≤ n ∧ ∀ m, t.most = some m → n ≤ max t.least m

namespace Expr

/-- No assertion anywhere. -/
def lookFree : Expr → Bool
  | empty => true
  | set _ _ => true
  | look _ => false
  | cat a b => a.lookFree && b.lookFree
  | alt a b => a.lookFree && b.lookFree
  | rep _ _ e => e.lookFree
  | group _ e => e.lookFree

/-- The character before a place. -/
def before (text : List Char) (i : Nat) : Option Char := if i = 0 then none else text[i - 1]?

/-- What an expression matches in a text. -/
def walk (text : List Char) : Expr → Walk
  | empty => Walk.stay
  | set _ s => fun i j ms => (∃ c, text[i]? = some c ∧ s.contains c = true) ∧ j = i + 1 ∧ ms = []
  | look l => fun i j ms => l.holds (before text i) text[i]? = true ∧ j = i ∧ ms = []
  | cat a b => (a.walk text).andThen (b.walk text)
  | alt a b => (a.walk text).either (b.walk text)
  | rep t _ e => (e.walk text).some t.Admits
  | group g e => (e.walk text).saving g

theorem walk_textStart_iff {text : List Char} {i j : Nat} {ms : List (Nat × Nat)}
    (hi : i ≤ text.length) :
    (look .textStart).walk text i j ms ↔ i = 0 ∧ j = i ∧ ms = [] := by
  have hstart : (before text i).isNone = true ↔ i = 0 := by
    unfold before
    split
    next h => simp [h]
    next h =>
      rw [List.getElem?_eq_getElem (by omega)]
      simp [h]
  rw [← hstart]
  rfl

theorem walk_textEnd_iff {text : List Char} {i j : Nat} {ms : List (Nat × Nat)}
    (hi : i ≤ text.length) :
    (look .textEnd).walk text i j ms ↔ i = text.length ∧ j = i ∧ ms = [] := by
  have hend : text[i]?.isNone = true ↔ i = text.length := by
    rw [Option.isNone_iff_eq_none, List.getElem?_eq_none_iff]
    omega
  rw [← hend]
  rfl

/-- Expressions in turn. -/
def walks (text : List Char) (l : List Expr) : Walk := Walk.all (l.map (walk text))

theorem walks_append (text : List Char) (l m : List Expr) :
    walks text (l ++ m) = (walks text l).andThen (walks text m) := by
  rw [walks, List.map_append, Walk.all_append]
  rfl

theorem walks_singleton (text : List Char) (e : Expr) : walks text [e] = e.walk text :=
  Walk.all_singleton _

theorem walk_forward (text : List Char) (e : Expr) : (e.walk text).Forward text.length := by
  induction e with
  | empty => exact Walk.Forward.stay _
  | set u s =>
    rintro i j ms ⟨⟨c, hc, -⟩, rfl, rfl⟩
    have hi := (List.getElem?_eq_some_iff.1 hc).1
    exact ⟨Nat.le_succ _, fun _ => hi⟩
  | look l =>
    rintro i j ms ⟨-, rfl, rfl⟩
    exact ⟨Nat.le_refl _, id⟩
  | cat a b iha ihb => exact iha.andThen ihb
  | alt a b iha ihb =>
    rintro i j ms (h | h)
    · exact iha _ _ _ h
    · exact ihb _ _ _ h
  | rep t g e ih =>
    rintro i j ms ⟨n, -, h⟩
    exact Walk.times_induction (P := Walk.Forward text.length) (Walk.Forward.stay _)
      (fun q hq => ih.andThen hq) n _ _ _ h
  | group g e ih =>
    rintro i j ms ⟨ns, h, rfl⟩
    exact ih _ _ _ h

/-- Saves nothing in any text. -/
def Quiet (e : Expr) : Prop := ∀ text, (e.walk text).Quiet

theorem Quiet.set (u : Bool) (s : CharClass) : (Expr.set u s).Quiet := fun _ _ _ _ h => h.2.2

theorem Quiet.look (l : Look) : (Expr.look l).Quiet := fun _ _ _ _ h => h.2.2

theorem Quiet.walks {l : List Expr} (h : ∀ e ∈ l, e.Quiet) (text : List Char) :
    (walks text l).Quiet := by
  induction l with
  | nil => exact Walk.Quiet.stay
  | cons e l ih =>
    have he := h e (List.mem_cons_self ..) text
    exact he.andThen (ih fun d hd => h d (List.mem_cons_of_mem _ hd))

end Expr

/-! ## Expressions without assertions -/

/-- The part of a text between two places. -/
def slice (text : List Char) (i j : Nat) : List Char := (text.drop i).take (j - i)

theorem slice_self (text : List Char) (i : Nat) : slice text i i = [] := by simp [slice]

theorem slice_append {text : List Char} {i j k : Nat} (hij : i ≤ j) (hjk : j ≤ k) :
    slice text i j ++ slice text j k = slice text i k := by
  have hk : k - i = (j - i) + (k - j) := by omega
  have hj : j = i + (j - i) := by omega
  rw [slice, slice, slice, hk, List.take_add, List.drop_drop, ← hj]

theorem length_slice {text : List Char} {i j : Nat} (hj : j ≤ text.length) :
    (slice text i j).length = j - i := by
  simp only [slice, List.length_take, List.length_drop]
  omega

theorem getElem?_slice (text : List Char) {i j k : Nat} (h : i + k < j) :
    (slice text i j)[k]? = text[i + k]? := by
  rw [slice, List.getElem?_take_of_lt (by omega), List.getElem?_drop]

theorem slice_zero_length (text : List Char) : slice text 0 text.length = text := by simp [slice]

/-- A walk can be taken where another one begins, as long as the text is the same. -/
def Walk.Moves (p q : Walk) (s t : List Char) : Prop :=
  ∀ i j ms, p i j ms → ∀ i', (∀ k, i + k < j → s[i + k]? = t[i' + k]?) →
    ∃ ns, q i' (i' + (j - i)) ns

theorem Walk.Moves.stay (s t : List Char) : Moves stay stay s t := by
  rintro i j ms ⟨rfl, rfl⟩ i' -
  exact ⟨[], by omega, rfl⟩

theorem Walk.Moves.andThen {p q p' q' : Walk} {s t : List Char} (hp : p.Forward s.length)
    (hq : q.Forward s.length) (hpp : p.Moves p' s t) (hqq : q.Moves q' s t) :
    (p.andThen q).Moves (p'.andThen q') s t := by
  rintro i j ms ⟨k, ns, os, h₁, h₂, rfl⟩ i' hst
  have hik := (hp _ _ _ h₁).1
  have hkj := (hq _ _ _ h₂).1
  obtain ⟨ns', h₁'⟩ := hpp _ _ _ h₁ i' fun n hn => hst n (by omega)
  obtain ⟨os', h₂'⟩ := hqq _ _ _ h₂ (i' + (k - i)) fun n hn => by
    have := hst (k - i + n) (by omega)
    rwa [show i + (k - i + n) = k + n by omega, ← Nat.add_assoc] at this
  refine ⟨os' ++ ns', i' + (k - i), ns', os', h₁', ?_, rfl⟩
  rwa [show i' + (j - i) = i' + (k - i) + (j - k) by omega]

namespace Expr

theorem moves_walk {e : Expr} (h : e.lookFree = true) (s t : List Char) :
    (e.walk s).Moves (e.walk t) s t := by
  induction e with
  | empty => exact Walk.Moves.stay s t
  | set u c =>
    rintro i j ms ⟨⟨d, hd, hc⟩, rfl, rfl⟩ i' hst
    have h0 := hst 0 (by omega)
    rw [Nat.add_zero, Nat.add_zero] at h0
    exact ⟨[], ⟨d, h0 ▸ hd, hc⟩, by omega, rfl⟩
  | look l => simp [lookFree] at h
  | cat a b iha ihb =>
    rw [lookFree, Bool.and_eq_true] at h
    exact Walk.Moves.andThen (walk_forward s a) (walk_forward s b) (iha h.1) (ihb h.2)
  | alt a b iha ihb =>
    rw [lookFree, Bool.and_eq_true] at h
    rintro i j ms (hw | hw) i' hst
    · obtain ⟨ns, hn⟩ := iha h.1 _ _ _ hw i' hst
      exact ⟨ns, .inl hn⟩
    · obtain ⟨ns, hn⟩ := ihb h.2 _ _ _ hw i' hst
      exact ⟨ns, .inr hn⟩
  | rep times g e ih =>
    rintro i j ms ⟨n, hn, hw⟩ i' hst
    have hm : ((e.walk s).times n).Moves ((e.walk t).times n) s t := by
      clear hn hw
      induction n with
      | zero => exact Walk.Moves.stay s t
      | succ n ihn =>
        refine Walk.Moves.andThen (walk_forward s e) ?_ (ih h) ihn
        exact Walk.times_induction (P := Walk.Forward s.length) (Walk.Forward.stay _)
          (fun q hq => (walk_forward s e).andThen hq) n
    obtain ⟨ns, hw'⟩ := hm _ _ _ hw i' hst
    exact ⟨ns, n, hn, hw'⟩
  | group g e ih =>
    rintro i j ms ⟨ns, hw, rfl⟩ i' hst
    obtain ⟨os, hw'⟩ := ih h _ _ _ hw i' hst
    exact ⟨_, os, hw', rfl⟩

/-- Whether an expression matches a whole text. -/
def Matches (e : Expr) (w : List Char) : Prop := ∃ ms, e.walk w 0 w.length ms

theorem walk_slice_iff {e : Expr} (h : e.lookFree = true) {text : List Char} {i j : Nat}
    (hij : i ≤ j) (hj : j ≤ text.length) :
    (∃ ms, e.walk text i j ms) ↔ e.Matches (slice text i j) := by
  have hl := length_slice (i := i) hj
  constructor
  · rintro ⟨ms, hw⟩
    obtain ⟨ns, hn⟩ := moves_walk h text (slice text i j) _ _ _ hw 0 fun k hk => by
      rw [Nat.zero_add, getElem?_slice text hk]
    refine ⟨ns, ?_⟩
    rwa [hl, ← Nat.zero_add (j - i)]
  · rintro ⟨ms, hw⟩
    rw [hl] at hw
    obtain ⟨ns, hn⟩ := moves_walk h (slice text i j) text _ _ _ hw i fun k hk => by
      rw [Nat.zero_add, getElem?_slice text (by omega)]
    refine ⟨ns, ?_⟩
    rwa [Nat.sub_zero, show i + (j - i) = j by omega] at hn

end Expr

end RouteTemplate.Regex
