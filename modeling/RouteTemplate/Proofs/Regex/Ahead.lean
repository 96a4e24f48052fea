import RouteTemplate.Proofs.Regex.Search

/-!
What stands behind an expression. The code of a sequence is that of its front, then that of its back
(`code_ofPieces_append`), and it is left only at its end (`within_code`). So the search for a
sequence runs through the front as it does if something else stands behind the front that matches at
the same places, and the groups of the front take the same: `find?_ofPieces_append`.
-/

namespace RouteTemplate.Regex

/-! ## Where code leads -/

namespace Node

def targets : Node → List Nat
  | set _ next => [next]
  | look _ next => [next]
  | fork first second => [first, second]
  | save _ next => [next]
  | jump next => [next]

theorem mem_targets_loop {greedy : Bool} {body leave n : Nat} :
    n ∈ (loop greedy body leave).targets ↔ n = body ∨ n = leave := by
  cases greedy with
  | true => simp [loop, targets]
  | false => simp [loop, targets, or_comm]

theorem mem_targets_of_mem_ways {text : List Char} {t u : Thread} {node : Node}
    (hu : u ∈ node.ways text t) : u.node ∈ node.targets := by
  cases node with
  | set s next =>
    simp only [ways] at hu
    split at hu
    · split at hu
      · obtain rfl := List.mem_singleton.1 hu
        exact List.mem_singleton.2 rfl
      · simp at hu
    · simp at hu
  | look l next =>
    simp only [ways] at hu
    split at hu
    · obtain rfl := List.mem_singleton.1 hu
      exact List.mem_singleton.2 rfl
    · simp at hu
  | fork first second =>
    simp only [ways, List.mem_cons, List.not_mem_nil, or_false] at hu
    rcases hu with rfl | rfl <;> simp [targets]
  | save | jump =>
    obtain rfl := List.mem_singleton.1 hu
    exact List.mem_singleton.2 rfl

end Node

/-- The nodes lead to addresses from `first` up to `last`, and to `next`. -/
def Within (first last next : Nat) (nodes : List Node) : Prop :=
  ∀ node ∈ nodes, ∀ n ∈ node.targets, (first ≤ n ∧ n < last) ∨ n = next

section

variable {first last next first' last' next' : Nat} {nodes nodes' : List Node}

theorem Within.mono (h : Within first last next nodes) (hf : first' ≤ first) (hl : last ≤ last')
    (hn : next = next' ∨ first' ≤ next ∧ next < last') : Within first' last' next' nodes := by
  intro node hnode n hmem
  rcases h node hnode n hmem with hin | rfl
  · exact .inl (by omega)
  · exact hn.symm

theorem Within.append (h : Within first last next nodes) (h' : Within first last next nodes') :
    Within first last next (nodes ++ nodes') :=
  fun node hnode => (List.mem_append.1 hnode).elim (h node) (h' node)

theorem Within.cons {node : Node} (h : ∀ n ∈ node.targets, (first ≤ n ∧ n < last) ∨ n = next)
    (h' : Within first last next nodes) : Within first last next (node :: nodes) :=
  List.forall_mem_cons.2 ⟨h, h'⟩

theorem Within.singleton {node : Node} (h : ∀ n ∈ node.targets, n = next) :
    Within first last next [node] := by
  intro node' hnode n hn
  obtain rfl := List.mem_singleton.1 hnode
  exact .inr (h n hn)

end

namespace Expr

section

variable {code : Nat → Nat → List Node} {size : Nat}

theorem within_copies (h : ∀ base next, Within base (base + size) next (code base next))
    (n base : Nat) : Within base (base + n * size) (base + n * size) (copies code size n base) := by
  induction n generalizing base with
  | zero => simp [copies, Within]
  | succ n ih =>
    rw [copies_succ, Nat.succ_mul]
    refine .append ?_ ?_
    · exact (h base (base + size)).mono (Nat.le_refl _) (by omega) (by omega)
    · exact (ih (base + size)).mono (by omega) (by omega) (.inl (by omega))

theorem within_options (h : ∀ base next, Within base (base + size) next (code base next))
    (greedy : Bool) (n base next : Nat) :
    Within base (base + n * (1 + size) + 1) next
      (options code size greedy n base next ++ [.jump next]) := by
  induction n generalizing base with
  | zero => exact Within.singleton fun n hn => List.mem_singleton.1 hn
  | succ n ih =>
    rw [options_succ, Nat.succ_mul, List.cons_append, List.append_assoc]
    refine .cons (fun k hk => ?_) (.append ?_ ?_)
    · rcases Node.mem_targets_loop.1 hk with rfl | rfl
      · exact .inl (by omega)
      · exact .inr rfl
    · exact (h (base + 1) (base + (1 + size))).mono (by omega) (by omega) (by omega)
    · exact (ih (base + (1 + size))).mono (by omega) (by omega) (.inl rfl)

theorem within_again (h : ∀ base next, Within base (base + size) next (code base next))
    (greedy : Bool) (base next : Nat) :
    Within base (base + size + 1) next (again code size greedy base next) := by
  refine .append ?_ (.cons (fun k hk => ?_) (by simp [Within]))
  · exact (h base (base + size)).mono (Nat.le_refl _) (by omega) (by omega)
  · rcases Node.mem_targets_loop.1 hk with rfl | rfl
    · exact .inl (by omega)
    · exact .inr rfl

theorem within_repeatCode (h : ∀ base next, Within base (base + size) next (code base next))
    (hsize : 0 < size) (nullable greedy : Bool) (t : Times) (base next : Nat) :
    Within base (base + repeatSize size nullable t) next
      (repeatCode code size nullable greedy t base next) := by
  have hloop (last : Nat) (hl : base + 1 < last) :
      ∀ k ∈ (Node.loop greedy (base + 1) next).targets, (base ≤ k ∧ k < last) ∨ k = next := by
    intro k hk
    rcases Node.mem_targets_loop.1 hk with rfl | rfl
    · exact .inl (by omega)
    · exact .inr rfl
  rcases t with ⟨n, _ | m⟩
  · cases n with
    | zero =>
      simp only [repeatCode, repeatSize]
      cases nullable with
      | true =>
        rw [if_pos rfl, if_pos rfl]
        refine .cons (hloop _ (by omega)) ?_
        exact (within_again h greedy (base + 1) next).mono (by omega) (by omega) (.inl rfl)
      | false =>
        rw [if_neg Bool.false_ne_true, if_neg Bool.false_ne_true]
        refine .cons (hloop _ (by omega)) ?_
        exact (h (base + 1) base).mono (by omega) (by omega) (.inr (by omega))
    | succ n =>
      simp only [repeatCode, repeatSize]
      refine .append ?_ ?_
      · exact (within_copies h n base).mono (Nat.le_refl _) (by omega) (by omega)
      · exact (within_again h greedy (base + n * size) next).mono (by omega) (by omega) (.inl rfl)
  · simp only [repeatCode, repeatSize]
    refine .append ?_ ?_
    · exact (within_copies h n base).mono (Nat.le_refl _) (by omega) (by omega)
    · exact (within_options h greedy (m - n) (base + n * size) next).mono (by omega) (by omega)
        (.inl rfl)

end

theorem within_code (e : Expr) (base next : Nat) :
    Within base (base + e.size) next (e.code base next) := by
  induction e generalizing base next with
  | empty | set | look => exact Within.singleton fun n hn => List.mem_singleton.1 hn
  | cat a b iha ihb =>
    have hb := b.size_pos
    refine .append ?_ ?_
    · exact (iha base (base + a.size)).mono (Nat.le_refl _) (by simp only [size]; omega)
        (.inr (by simp only [size]; omega))
    · exact (ihb (base + a.size) next).mono (by omega) (by simp only [size]; omega) (.inl rfl)
  | alt a b iha ihb =>
    have hb := b.size_pos
    refine .cons (fun n hn => .inl ?_) (.append ?_ ?_)
    · simp only [Node.targets, List.mem_cons, List.not_mem_nil, or_false] at hn
      simp only [size]
      omega
    · exact (iha (base + 1) next).mono (by omega) (by simp only [size]; omega) (.inl rfl)
    · exact (ihb (base + 1 + a.size) next).mono (by omega) (by simp only [size]; omega) (.inl rfl)
  | rep t greedy e ih => exact within_repeatCode ih e.size_pos e.nullable greedy t base next
  | group g e ih =>
    refine .cons (fun n hn => .inl ?_) (.append ?_ ?_)
    · obtain rfl := List.mem_singleton.1 hn
      simp only [size]
      omega
    · exact (ih (base + 1) (base + 1 + e.size)).mono (by omega) (by simp only [size]; omega)
        (.inr (by simp only [size]; omega))
    · exact Within.singleton fun n hn => List.mem_singleton.1 hn

/-! ## Front and back -/

theorem size_ofPieces_append {l m : List Expr} (hl : l ≠ []) (hm : m ≠ []) :
    (ofPieces (l ++ m)).size = (ofPieces l).size + (ofPieces m).size := by
  induction l with
  | nil => exact absurd rfl hl
  | cons e l ih =>
    obtain ⟨d, m, rfl⟩ := List.exists_cons_of_ne_nil hm
    cases l with
    | nil => rfl
    | cons c l =>
      have hrest := ih (List.cons_ne_nil c l)
      simp only [List.cons_append, ofPieces, size] at hrest ⊢
      omega

/-- A sequence is laid out as its front and then its back. -/
theorem code_ofPieces_append {l m : List Expr} (hl : l ≠ []) (hm : m ≠ []) (base next : Nat) :
    (ofPieces (l ++ m)).code base next =
      (ofPieces l).code base (base + (ofPieces l).size) ++
        (ofPieces m).code (base + (ofPieces l).size) next := by
  induction l generalizing base with
  | nil => exact absurd rfl hl
  | cons e l ih =>
    obtain ⟨d, m, rfl⟩ := List.exists_cons_of_ne_nil hm
    cases l with
    | nil => rfl
    | cons c l =>
      have hrest := ih (List.cons_ne_nil c l) (base + e.size)
      simp only [List.cons_append, ofPieces, code, size] at hrest ⊢
      rw [hrest]
      simp only [List.append_assoc, Nat.add_assoc]

/-- The search for an expression, up to where the expression has matched. -/
def opening (e : Expr) : List Node :=
  (rep ⟨0, none⟩ false (set true .any)).code 0 2 ++ .save 0 3 :: e.code 3 (3 + e.size)

theorem length_opening (e : Expr) : e.opening.length = 3 + e.size := by
  simp only [opening, List.length_append, List.length_cons, length_code, size, repeatSize, nullable]
  simp
  omega

theorem code_anywhere (e : Expr) (next : Nat) :
    e.anywhere.code 0 next = e.opening ++ [.save 1 next] := by
  simp [anywhere, opening, code, size, repeatSize, nullable]

end Expr

/-! ## Matchers behind an expression -/

/-- A program with a matcher behind it, which gives what it may leave of a text, preferred first. -/
def Machine.before (program : Array Node) (after : List Char → List (List Char))
    (text : List Char) : Machine where
  ways p :=
    if p.1 = program.size then
      (after (text.drop p.2)).map fun rest => ((program.size + 1, text.length - rest.length), [])
    else (Machine.ofProgram program text).ways p
  goal p := p.1 = program.size + 1

section

variable {program : Array Node} {after : List Char → List (List Char)} {text : List Char}
  {p : Place}

theorem Machine.ways_before_of_eq (hp : p.1 = program.size) :
    (Machine.before program after text).ways p = (after (text.drop p.2)).map fun rest =>
      ((program.size + 1, text.length - rest.length), []) := if_pos hp

theorem Machine.ways_before_of_ne (hp : p.1 ≠ program.size) :
    (Machine.before program after text).ways p = (Machine.ofProgram program text).ways p :=
  if_neg hp

end

/-- What the preferred match of an expression saves if `after` has to match behind it. -/
def Expr.FoundBefore (e : Expr) (after : List Char → List (List Char)) (text : List Char)
    (ms : List (Nat × Nat)) : Prop :=
  (Machine.before e.program after text).Preferred ∅ (0, 0) ms

section

variable {text : List Char}

theorem Search.follow_congr {program program' : Array Node} {t : Thread}
    (h : program[t.node]? = program'[t.node]?) :
    Search.follow program text.toArray t = Search.follow program' text.toArray t := by
  unfold Search.follow
  rw [h]

/-- Code in front of an address, which leads there and nowhere else outside of itself, and code
behind it that walks from there to the end. -/
structure Parted (program : Array Node) (text : List Char) (front back : List Node) (q : Walk) :
    Prop where
  program_eq : program = (front ++ back).toArray
  front_within : Within 0 front.length front.length front
  back_within : Within front.length program.size program.size back
  block : Block program text q front.length back.length program.size

variable {program : Array Node} {front back : List Node} {q : Walk}

theorem Parted.size_eq (h : Parted program text front back q) :
    program.size = front.length + back.length := by
  rw [h.program_eq, List.size_toArray, List.length_append]

theorem mem_targets_of_mem_ways {p : Place} {w : Place × List (Nat × Nat)}
    (hw : w ∈ (Machine.ofProgram program text).ways p) :
    ∃ node, program[p.1]? = some node ∧ w.1.1 ∈ node.targets := by
  obtain ⟨u, hu, rfl⟩ := List.mem_map.1 hw
  cases hn : program[p.1]? with
  | none => simp [Search.follow, hn] at hu
  | some node =>
    rw [follow_of_node hn] at hu
    exact ⟨node, rfl, Node.mem_targets_of_mem_ways hu⟩

theorem pos_le_of_mem_ways {p : Place} {w : Place × List (Nat × Nat)}
    (hw : w ∈ (Machine.ofProgram program text).ways p) (hp : p.2 ≤ text.length) :
    w.1.2 ≤ text.length := by
  obtain ⟨u, hu, rfl⟩ := List.mem_map.1 hw
  exact Search.pos_le_of_mem_follow hu hp

theorem Parted.getElem?_of_lt (h : Parted program text front back q) {k : Nat}
    (hk : k < front.length) : program[k]? = front[k]? := by
  rw [h.program_eq, List.getElem?_toArray, List.getElem?_append_left hk]

theorem Parted.le_of_lt (h : Parted program text front back q) {p : Place}
    {w : Place × List (Nat × Nat)} (hw : w ∈ (Machine.ofProgram program text).ways p)
    (hp : p.1 < front.length) : w.1.1 ≤ front.length := by
  obtain ⟨node, hnode, ht⟩ := mem_targets_of_mem_ways hw
  rw [h.getElem?_of_lt hp] at hnode
  have := h.front_within node (List.mem_of_getElem? hnode) _ ht
  omega

theorem Parted.le_size (h : Parted program text front back q) {p : Place}
    {w : Place × List (Nat × Nat)} (hw : w ∈ (Machine.ofProgram program text).ways p) :
    w.1.1 ≤ program.size := by
  obtain ⟨node, hnode, ht⟩ := mem_targets_of_mem_ways hw
  have hsize := h.size_eq
  rw [h.program_eq, List.getElem?_toArray] at hnode
  rcases List.mem_append.1 (List.mem_of_getElem? hnode) with hf | hb
  · have := h.front_within node hf _ ht
    omega
  · have := h.back_within node hb _ ht
    omega

theorem Parted.le_of_le (h : Parted program text front back q) {p : Place}
    {w : Place × List (Nat × Nat)} (hw : w ∈ (Machine.ofProgram program text).ways p)
    (hp : front.length ≤ p.1) : front.length ≤ w.1.1 := by
  obtain ⟨node, hnode, ht⟩ := mem_targets_of_mem_ways hw
  have hsize := h.size_eq
  rw [h.program_eq, List.getElem?_toArray, List.getElem?_append_right hp] at hnode
  have := h.back_within node (List.mem_of_getElem? hnode) _ ht
  omega

/-- The places in front. -/
def inFront (text : List Char) (front : List Node) : Set Place :=
  {p | p.1 < front.length ∧ p.2 ≤ text.length}

/-- The places where the front is left. -/
def atFrontEnd (text : List Char) (front : List Node) : Set Place :=
  {p | p.1 = front.length ∧ p.2 ≤ text.length}

variable {V : Set Place} {k : Nat} {ms : List (Nat × Nat)}

/-- Behind the front, it makes no difference where the run has been in front. -/
theorem Parted.reaches_of_empty (h : Parted program text front back q)
    (hV : V ⊆ inFront text front) {p : Place} (hp : front.length ≤ p.1)
    (hr : (Machine.ofProgram program text).Reaches ∅ p) :
    (Machine.ofProgram program text).Reaches V p := by
  induction hr with
  | goal hg => exact .goal hg
  | step _ hw _ ih =>
    exact .step (fun hpV => Nat.not_lt.2 hp (hV hpV).1) hw (ih (h.le_of_le hw hp))

theorem Parted.exists_walk (h : Parted program text front back q) {n j : Nat}
    (hs : Steps program text n ⟨front.length, k, []⟩ ⟨program.size, j, ms⟩) :
    q k j ms := by
  obtain ⟨ns, hw, rfl⟩ := h.block.exists_walk_of_steps (Nat.le_of_eq h.size_eq.symm) hs
  rwa [List.append_nil]

theorem Parted.reaches_iff (h : Parted program text front back q)
    (hV : V ⊆ inFront text front) :
    (Machine.ofProgram program text).Reaches V (front.length, k) ↔ ∃ j ns, q k j ns := by
  constructor
  · intro hr
    obtain ⟨n, j, ns, hs⟩ := Search.Reaches.exists_steps hr []
    exact ⟨j, ns ++ [], h.exists_walk hs⟩
  · rintro ⟨j, ns, hw⟩
    obtain ⟨n, hs⟩ := h.block.enters [] hw
    exact h.reaches_of_empty hV (Nat.le_refl _) (Search.reaches_of_steps hs rfl)

theorem Parted.exists_walk_of_preferred (h : Parted program text front back q)
    (hr : (Machine.ofProgram program text).Preferred V (front.length, k) ms) :
    ∃ j, q k j ms := by
  obtain ⟨n, j, hs⟩ := Search.Preferred.exists_steps hr []
  rw [List.append_nil] at hs
  exact ⟨j, h.exists_walk hs⟩

/-! ## Another end behind the same front -/

namespace Expr

theorem program_eq_opening (e : Expr) :
    e.program = (e.opening ++ [Node.save 1 (e.opening.length + 1)]).toArray := by
  have hsize : e.anywhere.size = e.opening.length + 1 := by
    rw [← length_code e.anywhere 0 0, code_anywhere, List.length_append]
    rfl
  rw [program, code_anywhere, hsize]

theorem size_program_opening (e : Expr) : e.program.size = e.opening.length + 1 := by
  rw [program_eq_opening, List.size_toArray, List.length_append]
  rfl

theorem within_opening (e : Expr) : Within 0 e.opening.length e.opening.length e.opening := by
  have hpos := e.size_pos
  rw [length_opening]
  refine .append ?_ (.cons (fun n hn => ?_) ?_)
  · exact ((rep ⟨0, none⟩ false (set true .any)).within_code 0 2).mono (Nat.le_refl _)
      (by simp [size, repeatSize, nullable]; omega) (.inr (by omega))
  · obtain rfl := List.mem_singleton.1 hn
    exact .inl (by omega)
  · exact (e.within_code 3 (3 + e.size)).mono (Nat.zero_le _) (Nat.le_refl _) (.inl rfl)

end Expr

theorem laid_append {front back : List Node} : Laid (front ++ back).toArray front.length back := by
  intro k node hk
  rw [List.getElem?_toArray, List.getElem?_append_right (Nat.le_add_right _ _),
    Nat.add_sub_cancel_left, hk]

/-- Saves where a match ends. -/
def endWalk : Walk := fun i j ms => j = i ∧ ms = [(1, i)]

theorem parted_program (text : List Char) (e : Expr) :
    Parted e.program text e.opening [.save 1 (e.opening.length + 1)] endWalk where
  program_eq := e.program_eq_opening
  front_within := e.within_opening
  back_within := by
    rw [e.size_program_opening]
    exact Within.singleton fun n hn => List.mem_singleton.1 hn
  block := by
    rw [e.size_program_opening, e.program_eq_opening]
    exact Block.save (laid_append 0 (.save 1 (e.opening.length + 1)) rfl)

/-- The program of a sequence begins as the program of its front does. -/
theorem exists_parted (text : List Char) {l : List Expr} (hl : l ≠ []) (m : List Expr) :
    ∃ back, Parted (Expr.ofPieces (l ++ m)).program text (Expr.ofPieces l).opening back
      ((Expr.walks text m).andThen endWalk) := by
  by_cases hm : m = []
  · subst hm
    rw [List.append_nil, Expr.walks, List.map_nil, Walk.all, Walk.stay_andThen]
    exact ⟨_, parted_program text (Expr.ofPieces l)⟩
  · let base := (Expr.ofPieces l).opening.length
    let next := base + (Expr.ofPieces m).size
    let back := (Expr.ofPieces m).code base next ++ [Node.save 1 (next + 1)]
    have hfront : (Expr.ofPieces (l ++ m)).opening =
        (Expr.ofPieces l).opening ++ (Expr.ofPieces m).code base next := by
      have hbase : base = 3 + (Expr.ofPieces l).size := Expr.length_opening _
      have hnext : next = 3 + (Expr.ofPieces (l ++ m)).size := by
        rw [Expr.size_ofPieces_append hl hm, ← Nat.add_assoc, ← hbase]
      rw [Expr.opening, Expr.code_ofPieces_append hl hm, ← hnext, ← hbase, Expr.opening,
        ← hbase, List.append_assoc]
      rfl
    have hlength : (Expr.ofPieces (l ++ m)).opening.length = next := by
      rw [hfront, List.length_append, Expr.length_code]
    have hsize : (Expr.ofPieces (l ++ m)).program.size = next + 1 := by
      rw [Expr.size_program_opening, hlength]
    have hprogram : (Expr.ofPieces (l ++ m)).program =
        ((Expr.ofPieces l).opening ++ back).toArray := by
      rw [Expr.program_eq_opening, hlength, hfront, List.append_assoc]
    have hlaid : Laid (Expr.ofPieces (l ++ m)).program base back := hprogram ▸ laid_append
    rw [laid_append_iff, Expr.length_code] at hlaid
    refine ⟨back, hprogram, Expr.within_opening _, ?_, ?_⟩
    · rw [hsize]
      refine .append ?_ (Within.singleton fun n hn => List.mem_singleton.1 hn)
      exact ((Expr.ofPieces m).within_code base next).mono (Nat.le_refl _) (Nat.le_succ _)
        (.inr ⟨Nat.le_add_right _ _, Nat.lt_succ_self _⟩)
    · rw [hsize, ← Expr.walk_ofPieces]
      have hfirst : Block (Expr.ofPieces (l ++ m)).program text _ _ _ _ :=
        Expr.block_code (Expr.ofPieces m) hlaid.1
      have hb := hfirst.andThen (Block.save (hlaid.2 0 (.save 1 (next + 1)) rfl))
      have hlen : back.length = (Expr.ofPieces m).size + 1 := by
        rw [List.length_append, Expr.length_code]
        rfl
      rw [hlen]
      exact hb

/-! ## Searches with the same front -/

section

variable {e : Expr} {after : List Char → List (List Char)}

theorem ways_before {p : Place} (hp : p.1 < e.opening.length) :
    (Machine.before e.program after text).ways p = (Machine.ofProgram e.program text).ways p := by
  refine Machine.ways_before_of_ne ?_
  rw [e.size_program_opening]
  omega

theorem ways_before_end :
    (Machine.before e.program after text).ways (e.opening.length, k) =
      [((e.opening.length + 1, k), [(1, k)])] := by
  have hne : e.opening.length ≠ e.program.size := by
    rw [e.size_program_opening]
    omega
  have hnode : e.program[e.opening.length]? = some (.save 1 (e.opening.length + 1)) := by
    rw [e.program_eq_opening]
    exact laid_append 0 _ rfl
  rw [Machine.ways_before_of_ne hne]
  simp only [Machine.ofProgram]
  rw [follow_of_node (by exact hnode)]
  rfl

theorem ways_before_after :
    (Machine.before e.program after text).ways (e.opening.length + 1, k) =
      (after (text.drop k)).map fun rest =>
        ((e.opening.length + 2, text.length - rest.length), []) := by
  have hsize := e.size_program_opening
  rw [Machine.ways_before_of_eq hsize.symm, hsize]

theorem goal_before_iff {p : Place} :
    (Machine.before e.program after text).goal p ↔ p.1 = e.opening.length + 2 := by
  rw [Machine.before, e.size_program_opening]

theorem reaches_before_iff (hV : V ⊆ inFront text e.opening) :
    (Machine.before e.program after text).Reaches V (e.opening.length, k) ↔
      after (text.drop k) ≠ [] := by
  constructor
  · intro hr hnil
    rcases hr with hg | ⟨-, hw, hr⟩
    · exact absurd (goal_before_iff.1 hg) (by simp)
    · rw [ways_before_end, List.mem_singleton] at hw
      subst hw
      rcases hr with hg | ⟨-, hw, -⟩
      · exact absurd (goal_before_iff.1 hg) (by simp)
      · rw [ways_before_after, hnil] at hw
        exact absurd hw List.not_mem_nil
  · intro hne
    obtain ⟨rest, hrest⟩ := List.exists_mem_of_ne_nil _ hne
    refine .step (fun hp => Nat.lt_irrefl _ (hV hp).1)
      (ways_before_end ▸ List.mem_singleton_self _) ?_
    refine .step (fun hp => Nat.not_succ_lt_self (hV hp).1)
      (ways_before_after ▸ List.mem_map_of_mem hrest) ?_
    exact .goal (goal_before_iff.2 rfl)

/-- Behind the front, the matcher takes the first of what it may leave. -/
theorem preferred_before (hV : V ⊆ inFront text e.opening) (h : after (text.drop k) ≠ []) :
    (Machine.before e.program after text).Preferred V (e.opening.length, k) [(1, k)] := by
  obtain ⟨rest, more, hrest⟩ := List.exists_cons_of_ne_nil h
  let N := Machine.before e.program after text
  have hend : N.ways (e.opening.length, k) = [] ++ ((e.opening.length + 1, k), [(1, k)]) :: [] :=
    ways_before_end
  have hafter : N.ways (e.opening.length + 1, k) =
      [] ++ ((e.opening.length + 2, text.length - rest.length), []) :: more.map fun rest =>
        ((e.opening.length + 2, text.length - rest.length), []) := by
    rw [ways_before_after, hrest]
    rfl
  have hgoal {n : Nat} (hn : n < e.opening.length + 2) : ¬ N.goal (n, k) := fun hg =>
    absurd (goal_before_iff.1 hg) (Nat.ne_of_lt hn)
  have hlast : N.Preferred (insert (e.opening.length, k) V) (e.opening.length + 1, k) [] := by
    refine .step (hgoal (Nat.lt_succ_self _)) ?_ hafter (by simp) (.goal (goal_before_iff.2 rfl))
    rintro (hp | hp)
    · exact absurd (congrArg Prod.fst hp) (by simp)
    · exact Nat.not_succ_lt_self (hV hp).1
  have hstart : ¬ N.goal (e.opening.length, k) := hgoal (by omega)
  exact .step hstart (fun hp => Nat.lt_irrefl _ (hV hp).1) hend (by simp) hlast

/-- The preferred runs of a program agree with those of its front with a matcher behind it, if that
matches where the back of the program does. -/
theorem Parted.agree (h : Parted program text e.opening back q)
    (hafter : ∀ k ≤ text.length, (∃ j ms, q k j ms) ↔ after (text.drop k) ≠ []) :
    (Machine.ofProgram program text).Agree (Machine.before e.program after text)
      (inFront text e.opening) (atFrontEnd text e.opening) where
  ways_eq p hp := by
    rw [ways_before hp.1, Machine.ofProgram, Machine.ofProgram]
    refine congrArg (List.map _) (Search.follow_congr ?_)
    rw [h.getElem?_of_lt hp.1, (parted_program text e).getElem?_of_lt hp.1]
  not_goal p hp := by
    have hsize := h.size_eq
    have hlt : p.1 < e.opening.length := hp.1
    refine ⟨fun hg => ?_, fun hg => ?_⟩
    · have heq : p.1 = program.size := hg
      omega
    · have heq : p.1 = e.opening.length + 2 := goal_before_iff.1 hg
      omega
  onward p hp w hw := by
    have hle := h.le_of_lt hw hp.1
    have hpos := pos_le_of_mem_ways hw hp.2
    rcases Nat.lt_or_eq_of_le hle with hlt | heq
    · exact .inl ⟨hlt, hpos⟩
    · exact .inr ⟨heq, hpos⟩
  reaches_exit V hV p hp := by
    obtain ⟨n, k⟩ := p
    obtain ⟨rfl, hk⟩ := hp
    rw [h.reaches_iff hV, reaches_before_iff hV, hafter k hk]

end

/-- What leads to a goal runs through the program, and then the matcher matches. -/
theorem exists_steps_of_reaches_before {e : Expr} {after : List Char → List (List Char)} {p : Place}
    (h : (Machine.before e.program after text).Reaches V p) (marks : List (Nat × Nat)) :
    p.1 = e.program.size + 1 ∨ ∃ n k ns,
      Steps e.program text n ⟨p.1, p.2, marks⟩ ⟨e.program.size, k, ns⟩ ∧
        after (text.drop k) ≠ [] := by
  induction h generalizing marks with
  | goal hg => exact .inl hg
  | @step p w _ hw _ ih =>
    right
    by_cases hp : p.1 = e.program.size
    · refine ⟨0, p.2, marks, by rw [hp]; rfl, fun hnil => ?_⟩
      rw [Machine.ways_before_of_eq hp, hnil] at hw
      exact absurd hw List.not_mem_nil
    · rw [Machine.ways_before_of_ne hp] at hw
      have hle := (parted_program text e).le_size hw
      rcases ih (w.2 ++ marks) with hend | ⟨n, k, ns, hs, hafter⟩
      · omega
      · refine ⟨n + 1, k, ns, ⟨Thread.along ⟨p.1, p.2, marks⟩ w, ?_, hs⟩, hafter⟩
        rw [Search.follow_eq]
        exact List.mem_map_of_mem hw

/-- What is found before a matcher is a match behind which the matcher matches. -/
theorem Expr.FoundBefore.exists_walk {e : Expr} {after : List Char → List (List Char)}
    (h : e.FoundBefore after text ms) :
    ∃ i k ns, i ≤ text.length ∧ e.walk text i k ns ∧ after (text.drop k) ≠ [] := by
  rcases exists_steps_of_reaches_before (Machine.Preferred.reaches h) [] with
    hend | ⟨n, k, ns, hs, hafter⟩
  · simp at hend
  · obtain ⟨ns', hw, -⟩ := (block_program e).exists_walk_of_steps (by simp) hs
    obtain ⟨i, os, hi, hw, -⟩ := walk_anywhere_iff.1 hw
    exact ⟨i, k, os, hi, hw, hafter⟩

theorem lookup_savedInGroups {slot : Nat} (hs : 2 ≤ slot) (ms : List (Nat × Nat)) :
    (Machine.savedInGroups ms).lookup slot = ms.lookup slot := by
  unfold Machine.savedInGroups
  induction ms with
  | nil => rfl
  | cons m ms ih =>
    rw [List.filter_cons]
    split
    · rw [List.lookup_cons, List.lookup_cons, ih]
    next hm =>
      have hne : (slot == m.1) = false := by
        rw [beq_eq_false_iff_ne]
        rintro rfl
        exact hm (decide_eq_true hs)
      rw [ih, List.lookup_cons, hne]

theorem group?_succ_congr {ms ns : List (Nat × Nat)}
    (h : Machine.savedInGroups ns = Machine.savedInGroups ms) (i : Nat) :
    (⟨text, ms⟩ : Captures).group? (i + 1) = (⟨text, ns⟩ : Captures).group? (i + 1) := by
  have hlookup {slot : Nat} (hs : 2 ≤ slot) : ms.lookup slot = ns.lookup slot := by
    rw [← lookup_savedInGroups hs, ← lookup_savedInGroups hs ns, h]
  simp only [Captures.group?]
  rw [hlookup (by omega), hlookup (by omega)]

/-- A walk that saves nothing, to the end of the match. -/
theorem andThen_endWalk_iff {p : Walk} (hp : p.Quiet) {k j : Nat} {ms : List (Nat × Nat)} :
    (p.andThen endWalk) k j ms ↔ p k j [] ∧ ms = [(1, j)] := by
  constructor
  · rintro ⟨i, ns, os, hw, ⟨rfl, rfl⟩, rfl⟩
    obtain rfl := hp _ _ _ hw
    exact ⟨hw, rfl⟩
  · rintro ⟨hw, rfl⟩
    exact ⟨j, [], _, hw, ⟨rfl, rfl⟩, rfl⟩

/-- What a sequence is found to take in groups of its front is what the front takes if something
else stands behind it that matches at the same places. -/
theorem find?_ofPieces_append {r : Regex} {l m : List Expr} (hr : r.expr = .ofPieces (l ++ m))
    (hl : l ≠ []) {path : String} (hm : (Expr.walks path.toList m).Quiet)
    {after : List Char → List (List Char)}
    (hafter : ∀ k ≤ path.toList.length,
      (∃ j, Expr.walks path.toList m k j []) ↔ after (path.toList.drop k) ≠ []) :
    (r.isMatch path = true ↔ ∃ ms, (Expr.ofPieces l).FoundBefore after path.toList ms) ∧
    ∀ c, r.find? path = some c → ∃ ms, (Expr.ofPieces l).FoundBefore after path.toList ms ∧
      ∀ i, c.group? (i + 1) = (⟨path.toList, ms⟩ : Captures).group? (i + 1) := by
  obtain ⟨back, hparted⟩ := exists_parted path.toList hl m
  have hends (k : Nat) (hk : k ≤ path.toList.length) :
      (∃ j ms, ((Expr.walks path.toList m).andThen endWalk) k j ms) ↔
        after (path.toList.drop k) ≠ [] := by
    rw [← hafter k hk]
    simp [andThen_endWalk_iff hm]
  have hagree := hparted.agree hends
  have hzero : (0, 0) ∈ inFront path.toList (Expr.ofPieces l).opening := by
    refine ⟨?_, Nat.zero_le _⟩
    rw [Expr.length_opening]
    omega
  have hexits : ∀ V ⊆ inFront path.toList (Expr.ofPieces l).opening,
      ∀ p ∈ atFrontEnd path.toList (Expr.ofPieces l).opening, ∀ ms,
        (Machine.ofProgram (Expr.ofPieces (l ++ m)).program path.toList).Preferred V p ms →
        ∃ ns, (Machine.before (Expr.ofPieces l).program after path.toList).Preferred V p ns ∧
          Machine.savedInGroups ns = Machine.savedInGroups ms := by
    rintro V hV ⟨n, k⟩ ⟨rfl, hk⟩ ms hms
    obtain ⟨j, hw⟩ := hparted.exists_walk_of_preferred hms
    obtain ⟨-, rfl⟩ := (andThen_endWalk_iff hm).1 hw
    have hreach := (hagree.reaches_exit V hV _ ⟨rfl, hk⟩).1 hms.reaches
    exact ⟨_, preferred_before hV ((reaches_before_iff hV).1 hreach), rfl⟩
  have hfound (c : Captures) (hc : r.find? path = some c) :
      ∃ ms, (Expr.ofPieces l).FoundBefore after path.toList ms ∧
        ∀ i, c.group? (i + 1) = (⟨path.toList, ms⟩ : Captures).group? (i + 1) := by
    obtain ⟨htext, hp⟩ := Regex.find?_eq_some_iff.1 hc
    rw [hr] at hp
    obtain ⟨ns, hns, hsame⟩ :=
      hagree.exists_preferred hexits (Set.empty_subset _) (.inl hzero) hp
    obtain ⟨text, marks⟩ := c
    obtain rfl := htext
    exact ⟨ns, hns, group?_succ_congr hsame⟩
  refine ⟨⟨fun hmatch => ?_, fun ⟨ms, hms⟩ => ?_⟩, hfound⟩
  · obtain ⟨c, hc⟩ := Option.isSome_iff_exists.1 hmatch
    obtain ⟨ms, hms, -⟩ := hfound c hc
    exact ⟨ms, hms⟩
  · have hreach := hagree.symm.reaches (Set.empty_subset _) (.inl hzero) hms.reaches
    rw [Regex.isMatch, Regex.find?, r.program_eq, Option.isSome_map, hr]
    exact Search.isSome_start_iff.2 hreach

end

end RouteTemplate.Regex
