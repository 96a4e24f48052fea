import RouteTemplate.Proofs.Regex.Backtracking

/-!
Picks as matches. What an expression picks is one of its matches, and one is picked wherever there
is any that leads on, if every part that is repeated without bound takes something in each round:
`Expr.finds_pick`. A sequence picks part by part, each with regard to the parts behind it:
`Expr.pick_seq`. So a lazy run of characters ends where the rest can match for the first time
(`Expr.pick_lazySet`), while a greedy repetition of separated runs goes on to the last of them
(`Expr.pickAny_runs`).
-/

namespace RouteTemplate.Regex

namespace Walk

variable {p q : Walk} {live : Nat → Prop} {length i : Nat}

theorem leads_andThen (p q : Walk) (live : Nat → Prop) :
    (p.andThen q).Leads live = p.Leads (q.Leads live) := by
  funext i
  apply propext
  constructor
  · rintro ⟨j, _, ⟨k, ns, os, hp, hq, rfl⟩, hj⟩
    exact ⟨k, ns, hp, j, os, hq, hj⟩
  · rintro ⟨k, ns, hp, j, os, hq, hj⟩
    exact ⟨j, os ++ ns, ⟨k, ns, os, hp, hq, rfl⟩, hj⟩

theorem leads_either : (p.either q).Leads live i ↔ p.Leads live i ∨ q.Leads live i := by
  constructor
  · rintro ⟨j, ms, h | h, hj⟩
    · exact .inl ⟨j, ms, h, hj⟩
    · exact .inr ⟨j, ms, h, hj⟩
  · rintro (⟨j, ms, h, hj⟩ | ⟨j, ms, h, hj⟩)
    · exact ⟨j, ms, .inl h, hj⟩
    · exact ⟨j, ms, .inr h, hj⟩

/-- What is picked is a match, and where a match leads on, one that does is picked. -/
structure Finds (length : Nat) (p : Walk) (pick : (Nat → Prop) → Walk) : Prop where
  walk : ∀ live i j ms, pick live i j ms → p i j ms
  exists_pick : ∀ live i, i ≤ length → p.Leads live i → ∃ j ms, pick live i j ms ∧ live j

variable {pick pick' : (Nat → Prop) → Walk}

theorem Finds.const (length : Nat) (p : Walk) : Finds length p fun _ => p :=
  ⟨fun _ _ _ _ h => h, fun _ _ _ ⟨j, ms, h, hj⟩ => ⟨j, ms, h, hj⟩⟩

theorem Finds.andThen (hp : Finds length p pick) (hq : Finds length q pick')
    (hf : p.Forward length) :
    Finds length (p.andThen q) fun live => (pick (q.Leads live)).andThen (pick' live) := by
  constructor
  · rintro live i j ms ⟨k, ns, os, h₁, h₂, rfl⟩
    exact ⟨k, ns, os, hp.walk _ _ _ _ h₁, hq.walk _ _ _ _ h₂, rfl⟩
  · intro live i hi h
    rw [leads_andThen] at h
    obtain ⟨k, ns, h₁, hk⟩ := hp.exists_pick _ i hi h
    have hle := (hf _ _ _ (hp.walk _ _ _ _ h₁)).2 hi
    obtain ⟨j, os, h₂, hj⟩ := hq.exists_pick live k hle hk
    exact ⟨j, os ++ ns, ⟨k, ns, os, h₁, h₂, rfl⟩, hj⟩

theorem Finds.orElse (hp : Finds length p pick) (hq : Finds length q pick') :
    Finds length (p.either q) fun live => (pick live).orElse (p.Leads live) (pick' live) := by
  constructor
  · rintro live i j ms (h | ⟨-, h⟩)
    · exact .inl (hp.walk _ _ _ _ h)
    · exact .inr (hq.walk _ _ _ _ h)
  · intro live i hi h
    by_cases hleads : p.Leads live i
    · obtain ⟨j, ms, h, hj⟩ := hp.exists_pick live i hi hleads
      exact ⟨j, ms, .inl h, hj⟩
    · obtain ⟨j, ms, h, hj⟩ :=
        hq.exists_pick live i hi ((leads_either.1 h).resolve_left hleads)
      exact ⟨j, ms, .inr ⟨hleads, h⟩, hj⟩

theorem Finds.saving (g : Nat) (hp : Finds length p pick) :
    Finds length (p.saving g) fun live => (pick live).saving g := by
  constructor
  · rintro live i j ms ⟨ns, h, rfl⟩
    exact ⟨ns, hp.walk _ _ _ _ h, rfl⟩
  · rintro live i hi ⟨j, _, ⟨ms, h, -⟩, hj⟩
    obtain ⟨k, ns, h, hk⟩ := hp.exists_pick live i hi ⟨j, ms, h, hj⟩
    exact ⟨k, _, ⟨ns, h, rfl⟩, hk⟩

theorem either_comm (p q : Walk) : p.either q = q.either p := ext fun _ _ _ => or_comm

end Walk

namespace Expr

section

variable {p : Walk} {one : (Nat → Prop) → Walk} {length : Nat}

theorem finds_pickTimes (h : p.Finds length one) (hf : p.Forward length) (n : Nat) :
    (p.times n).Finds length (pickTimes one p n) := by
  induction n with
  | zero => exact .const length .stay
  | succ n ih => exact h.andThen ih hf

theorem finds_pickUpTo (h : p.Finds length one) (hf : p.Forward length) (greedy : Bool) (n : Nat) :
    (p.some (· ≤ n)).Finds length (pickUpTo one p greedy n) := by
  induction n with
  | zero =>
    rw [Walk.some_le_zero]
    exact .const length .stay
  | succ n ih =>
    rw [Walk.some_le_succ]
    cases greedy with
    | true => exact (h.andThen ih hf).orElse (.const length .stay)
    | false =>
      rw [Walk.either_comm]
      have hstay := (Walk.Finds.const length .stay).orElse (h.andThen ih hf)
      simp only [Walk.leads_stay] at hstay
      exact hstay

theorem leads_some_iff {live : Nat → Prop} {i : Nat} :
    (p.some fun _ => True).Leads live i ↔
      live i ∨ p.Leads ((p.some fun _ => True).Leads live) i := by
  constructor
  · rintro ⟨j, ms, ⟨_ | n, -, hw⟩, hj⟩
    · obtain ⟨rfl, rfl⟩ := hw
      exact .inl hj
    · obtain ⟨k, ns, os, hone, hrest, rfl⟩ := hw
      exact .inr ⟨k, ns, hone, j, os, ⟨n, trivial, hrest⟩, hj⟩
  · rintro (hi | ⟨k, ns, hone, j, os, ⟨n, -, hrest⟩, hj⟩)
    · exact ⟨i, [], ⟨0, trivial, rfl, rfl⟩, hi⟩
    · exact ⟨j, os ++ ns, ⟨n + 1, trivial, k, ns, os, hone, hrest, rfl⟩, hj⟩

theorem leads_some_pos_iff {live : Nat → Prop} {i : Nat} :
    (p.some (1 ≤ ·)).Leads live i ↔ p.Leads ((p.some fun _ => True).Leads live) i := by
  constructor
  · rintro ⟨j, ms, ⟨_ | n, hn, hw⟩, hj⟩
    · exact absurd hn (by decide)
    · obtain ⟨k, ns, os, hone, hrest, rfl⟩ := hw
      exact ⟨k, ns, hone, j, os, ⟨n, trivial, hrest⟩, hj⟩
  · rintro ⟨k, ns, hone, j, os, ⟨n, -, hrest⟩, hj⟩
    exact ⟨j, os ++ ns, ⟨n + 1, by omega, k, ns, os, hone, hrest, rfl⟩, hj⟩

/-- Rounds come to an end, because each of them takes something. -/
theorem finds_pickAny (h : p.Finds length one) (hf : p.Forward length)
    (hadvance : ∀ i j ms, p i j ms → i < j) (greedy : Bool) :
    (p.some fun _ => True).Finds length (pickAny one p greedy) := by
  constructor
  · intro live i j ms hw
    induction hw with
    | stop => exact ⟨0, trivial, rfl, rfl⟩
    | more _ hone _ ih =>
      obtain ⟨n, -, hn⟩ := ih
      exact ⟨n + 1, trivial, _, _, _, h.walk _ _ _ _ hone, hn, rfl⟩
  · intro live i hi hleads
    induction hk : length - i using Nat.strong_induction_on generalizing i with
    | _ k ih =>
      have hmore (hone : p.Leads ((p.some fun _ => True).Leads live) i)
          (hlive : greedy = false → ¬ live i) :
          ∃ j ms, pickAny one p greedy live i j ms ∧ live j := by
        obtain ⟨l, ns, hone, hl⟩ := h.exists_pick _ i hi hone
        have hwalk := h.walk _ _ _ _ hone
        have hle := (hf _ _ _ hwalk).2 hi
        have hlt := hadvance _ _ _ hwalk
        obtain ⟨j, os, hrest, hj⟩ := ih (length - l) (by omega) l hle hl rfl
        exact ⟨j, os ++ ns, .more hlive hone hrest, hj⟩
      cases greedy with
      | true =>
        by_cases hone : p.Leads ((p.some fun _ => True).Leads live) i
        · exact hmore hone (by simp)
        · refine ⟨i, [], .stop fun _ => ?_, (leads_some_iff.1 hleads).resolve_right hone⟩
          rwa [leads_some_pos_iff]
      | false =>
        by_cases hlive : live i
        · exact ⟨i, [], .stop (by simp), hlive⟩
        · exact hmore ((leads_some_iff.1 hleads).resolve_left hlive) fun _ => hlive

end

/-- Every part that is repeated without bound takes something in each round. -/
def advances : Expr → Bool
  | empty => true
  | set _ _ => true
  | look _ => true
  | cat a b => a.advances && b.advances
  | alt a b => a.advances && b.advances
  | rep ⟨_, none⟩ _ e => !e.nullable && e.advances
  | rep ⟨_, some _⟩ _ e => e.advances
  | group _ e => e.advances

variable {text : List Char}

theorem lt_of_walk {e : Expr} (he : e.nullable = false) {i j : Nat} {ms : List (Nat × Nat)}
    (hw : e.walk text i j ms) : i < j := by
  induction e generalizing i j ms with
  | empty => cases he
  | look l => cases he
  | set u s =>
    obtain ⟨-, rfl, -⟩ := hw
    exact Nat.lt_succ_self i
  | cat a b iha ihb =>
    obtain ⟨k, ns, os, ha, hb, rfl⟩ := hw
    have hle := (walk_forward text a _ _ _ ha).1
    have hle' := (walk_forward text b _ _ _ hb).1
    rcases Bool.and_eq_false_iff.1 he with he | he
    · exact Nat.lt_of_lt_of_le (iha he ha) hle'
    · exact Nat.lt_of_le_of_lt hle (ihb he hb)
  | alt a b iha ihb =>
    obtain ⟨ha, hb⟩ := Bool.or_eq_false_iff.1 he
    rcases hw with hw | hw
    · exact iha ha hw
    · exact ihb hb hw
  | rep t greedy e ih =>
    obtain ⟨ht, he⟩ := Bool.or_eq_false_iff.1 he
    obtain ⟨n, ⟨hn, -⟩, hw⟩ := hw
    cases n with
    | zero => exact absurd (Nat.le_zero.1 hn) (by simpa using ht)
    | succ n =>
      obtain ⟨k, ns, os, hone, hrest, rfl⟩ := hw
      have hforward := Walk.times_induction (P := Walk.Forward text.length) (.stay _)
        (fun _ hq => (walk_forward text e).andThen hq) n
      exact Nat.lt_of_lt_of_le (ih he hone) (hforward _ _ _ hrest).1
  | group g e ih =>
    obtain ⟨ns, hw, -⟩ := hw
    exact ih he hw

theorem finds_pick (e : Expr) (he : e.advances = true) :
    (e.walk text).Finds text.length (e.pick text) := by
  induction e with
  | empty => exact .const _ _
  | set u s => exact .const _ _
  | look l => exact .const _ _
  | cat a b iha ihb =>
    obtain ⟨ha, hb⟩ := Bool.and_eq_true_iff.1 he
    exact (iha ha).andThen (ihb hb) (walk_forward text a)
  | alt a b iha ihb =>
    obtain ⟨ha, hb⟩ := Bool.and_eq_true_iff.1 he
    exact (iha ha).orElse (ihb hb)
  | rep t greedy e ih =>
    have hf := walk_forward text e
    have htimes (n : Nat) : ((e.walk text).times n).Forward text.length :=
      Walk.times_induction (.stay _) (fun _ hq => hf.andThen hq) n
    rcases t with ⟨n, _ | m⟩
    · obtain ⟨hnull, he⟩ := Bool.and_eq_true_iff.1 he
      have hadvance : ∀ i j ms, e.walk text i j ms → i < j :=
        fun i j ms => lt_of_walk (by simpa using hnull)
      rw [walk, Walk.some_admits_least]
      exact (finds_pickTimes (ih he) hf n).andThen (finds_pickAny (ih he) hf hadvance greedy)
        (htimes n)
    · rw [walk, Walk.some_admits_bounded]
      exact (finds_pickTimes (ih he) hf n).andThen (finds_pickUpTo (ih he) hf greedy (m - n))
        (htimes n)
  | group g e ih => exact (ih he).saving g

/-! ## Sequences -/

/-- Expressions in turn, each picked with regard to those behind it. -/
def pickAll (text : List Char) : List Expr → (Nat → Prop) → Walk
  | [], _ => .stay
  | e :: rest, live => (e.pick text ((walks text rest).Leads live)).andThen (pickAll text rest live)

theorem pickAll_singleton (e : Expr) (live : Nat → Prop) :
    pickAll text [e] live = e.pick text live := by
  have hnil : walks text [] = Walk.stay := rfl
  rw [pickAll, pickAll, Walk.andThen_stay, hnil, Walk.leads_stay]

theorem pickAll_append (l m : List Expr) (live : Nat → Prop) :
    pickAll text (l ++ m) live =
      (pickAll text l ((walks text m).Leads live)).andThen (pickAll text m live) := by
  induction l with
  | nil => exact (Walk.stay_andThen _).symm
  | cons e l ih =>
    rw [List.cons_append, pickAll, pickAll, ih, walks_append, Walk.leads_andThen,
      Walk.andThen_assoc]

theorem pickAll_pieces (e : Expr) (live : Nat → Prop) :
    pickAll text e.pieces live = e.pick text live := by
  induction e generalizing live with
  | empty => rfl
  | cat a b iha ihb => rw [pieces, pickAll_append, iha, ihb, walks_pieces, pick]
  | set u s => exact pickAll_singleton _ live
  | look l => exact pickAll_singleton _ live
  | alt a b => exact pickAll_singleton _ live
  | rep t g e => exact pickAll_singleton _ live
  | group g e => exact pickAll_singleton _ live

theorem pick_ofPieces (l : List Expr) (live : Nat → Prop) :
    (ofPieces l).pick text live = pickAll text l live := by
  induction l generalizing live with
  | nil => rfl
  | cons e l ih =>
    cases l with
    | nil => exact (pickAll_singleton e live).symm
    | cons d l =>
      rw [ofPieces, pick, ih, walk_ofPieces]
      · rfl
      · simp

theorem pick_seq (l : List Expr) (live : Nat → Prop) :
    (seq l).pick text live = pickAll text l live := by
  have hpieces : pickAll text (l.flatMap pieces) live = pickAll text l live := by
    induction l with
    | nil => rfl
    | cons e l ih =>
      rw [List.flatMap_cons, pickAll_append, pickAll_pieces, walks_flatMap_pieces, ih, pickAll]
  rw [seq, pick_ofPieces, hpieces]

theorem finds_pickAll {l : List Expr} (h : ∀ e ∈ l, e.advances = true) :
    (walks text l).Finds text.length (pickAll text l) := by
  induction l with
  | nil => exact .const _ .stay
  | cons e l ih =>
    exact (finds_pick e (h e (List.mem_cons_self ..))).andThen
      (ih fun d hd => h d (List.mem_cons_of_mem _ hd)) (walk_forward text e)

/-! ## Runs of characters -/

section

variable {u v : Bool} {s s' : CharClass} {live : Nat → Prop} {i : Nat} {w rest : List Char}

/-- A lazy run of characters goes on as long as the rest cannot match. -/
theorem pickAny_lazySet (hdrop : text.drop i = w ++ rest) (hw : ∀ c ∈ w, s.contains c = true)
    (hlive : ∀ k c, text[k]? = some c → live k → c ∉ w) :
    pickAny ((set u s).pick text) ((set u s).walk text) false live i (i + w.length) [] := by
  induction w generalizing i with
  | nil => exact .stop (by simp)
  | cons c w ih =>
    obtain ⟨hi, hdrop⟩ := drop_eq_cons_iff.1 hdrop
    have hmore : ¬ live i := fun h => hlive i c hi h (List.mem_cons_self ..)
    have hrest := ih hdrop (fun d hd => hw d (List.mem_cons_of_mem _ hd))
      fun k d hk hl hd => hlive k d hk hl (List.mem_cons_of_mem _ hd)
    rw [Nat.add_assoc, Nat.add_comm 1] at hrest
    exact .more (fun _ => hmore) ⟨⟨c, hi, hw c (List.mem_cons_self ..)⟩, rfl, rfl⟩ hrest

theorem pick_lazySet (hdrop : text.drop i = w ++ rest) (hne : w ≠ [])
    (hw : ∀ c ∈ w, s.contains c = true) (hlive : ∀ k c, text[k]? = some c → live k → c ∉ w) :
    (rep ⟨1, none⟩ false (set u s)).pick text live i (i + w.length) [] := by
  cases w with
  | nil => exact absurd rfl hne
  | cons c w =>
    obtain ⟨hi, hdrop⟩ := drop_eq_cons_iff.1 hdrop
    have hrest := pickAny_lazySet (u := u) hdrop (fun d hd => hw d (List.mem_cons_of_mem _ hd))
      fun k d hk hl hd => hlive k d hk hl (List.mem_cons_of_mem _ hd)
    rw [Nat.add_assoc, Nat.add_comm 1] at hrest
    have hone : pickTimes ((set u s).pick text) ((set u s).walk text) 1
        (((set u s).walk text).some (fun _ => True) |>.Leads live) i (i + 1) [] :=
      ⟨i + 1, [], [], ⟨⟨c, hi, hw c (List.mem_cons_self ..)⟩, rfl, rfl⟩, ⟨rfl, rfl⟩, rfl⟩
    exact ⟨i + 1, [], [], hone, hrest, rfl⟩

/-- A separator and a lazy run. -/
theorem pick_separated {d : Char} (hdrop : text.drop i = d :: (w ++ rest))
    (hd : s.contains d = true) (hne : w ≠ []) (hw : ∀ c ∈ w, s'.contains c = true)
    (hlive : ∀ k c, text[k]? = some c → live k → c ∉ w) :
    (seq [set u s, rep ⟨1, none⟩ false (set v s')]).pick text live i (i + (d :: w).length) [] := by
  obtain ⟨hi, hdrop⟩ := drop_eq_cons_iff.1 hdrop
  have hrun := pick_lazySet (u := v) hdrop hne hw hlive
  rw [Nat.add_assoc, Nat.add_comm 1] at hrun
  rw [pick_seq, pickAll, pickAll_singleton]
  exact ⟨i + 1, [], [], ⟨⟨d, hi, hd⟩, rfl, rfl⟩, hrun, rfl⟩

/-- A greedy repetition of separated runs takes all that there are. -/
theorem pickAny_runs {d : Char} {ws : List (List Char)}
    (hdrop : text.drop i = ws.flatMap (d :: ·)) (hd : s.contains d = true)
    (hws : ∀ w ∈ ws, w ≠ [] ∧ ∀ c ∈ w, s'.contains c = true) {e : Expr}
    (he : e = seq [set u s, rep ⟨1, none⟩ false (set v s')])
    (hlive : ∀ k c, text[k]? = some c → ((e.walk text).some fun _ => True).Leads live k →
      ∀ w ∈ ws, c ∉ w) :
    pickAny (e.pick text) (e.walk text) true live i (i + (ws.flatMap (d :: ·)).length) [] := by
  induction ws generalizing i with
  | nil =>
    refine pickAny_stop fun j ms hw => ?_
    rw [he, walk_seq] at hw
    obtain ⟨k, ns, os, ⟨⟨c, hc, -⟩, -⟩, -⟩ := hw
    rw [← List.head?_drop, hdrop] at hc
    cases hc
  | cons w ws ih =>
    obtain ⟨hne, hw⟩ := hws w (List.mem_cons_self ..)
    rw [List.flatMap_cons] at hdrop
    have hone : e.pick text (((e.walk text).some fun _ => True).Leads live) i
        (i + (d :: w).length) [] := by
      rw [he]
      exact pick_separated hdrop hd hne hw fun k c hk hl =>
        hlive k c hk (he ▸ hl) w (List.mem_cons_self ..)
    have hrest : text.drop (i + (d :: w).length) = ws.flatMap (d :: ·) := by
      rw [← List.drop_drop, hdrop, List.drop_left]
    have hmore := ih hrest (fun x hx => hws x (List.mem_cons_of_mem _ hx))
      fun k c hk hl x hx => hlive k c hk hl x (List.mem_cons_of_mem _ hx)
    rw [List.flatMap_cons, List.length_append, ← Nat.add_assoc]
    exact .more (by simp) hone hmore

end

/-! ## Repetitions that are kept -/

theorem zeroWidth_pieces (e : Expr) : e.pieces.all zeroWidth = e.zeroWidth := by
  induction e with
  | cat a b iha ihb => rw [pieces, List.all_append, iha, ihb, zeroWidth]
  | _ => simp [pieces, zeroWidth]

theorem zeroWidth_ofPieces (l : List Expr) : (ofPieces l).zeroWidth = l.all zeroWidth := by
  induction l with
  | nil => rfl
  | cons e l ih =>
    cases l with
    | nil => simp [ofPieces]
    | cons d l =>
      rw [ofPieces, zeroWidth, ih]
      · rfl
      · exact List.cons_ne_nil d l

theorem zeroWidth_seq (l : List Expr) : (seq l).zeroWidth = l.all zeroWidth := by
  rw [seq, zeroWidth_ofPieces]
  induction l with
  | nil => rfl
  | cons e l ih => rw [List.flatMap_cons, List.all_append, zeroWidth_pieces, ih, List.all_cons]

theorem repeated_star {e : Expr} (he : e.zeroWidth = false) (greedy : Bool) :
    repeated ⟨0, none⟩ greedy e = rep ⟨0, none⟩ greedy e := by
  simp [repeated, he]

theorem repeated_optional {e : Expr} (he : e.zeroWidth = false) (greedy : Bool) :
    repeated ⟨0, some 1⟩ greedy e = rep ⟨0, some 1⟩ greedy e := by
  simp [repeated, he]

end Expr

end RouteTemplate.Regex
