import RouteTemplate.Proofs.Regex.Backtracking
import RouteTemplate.Proofs.Regex.Reading
import RouteTemplate.Proofs.Unicode.WordClass
import RouteTemplate.Template.Scanner

/-!
The grammar of templates as a pattern. One pattern with five groups describes an escape, a parameter
with a name and perhaps a body, and a parameter that is just a body. It is read as `Grammar.expr`
(`read_pattern`), matches where a span begins that is not a plain character
(`exists_first_of_walk`), and there it picks this span (`pick_expr`), although shorter names and
parameters without their bodies or modifiers would match as well.
-/

namespace RouteTemplate

open Regex PatternText

namespace Grammar

/-- An escape; or a parameter, of which groups 2 and 3 are the name and the body, or group 4 is the
body if there is no name; group 5 is the modifier. -/
def pattern : String :=
  "(\\\\.)|(?::(\\w+)(?:\\(((?:\\\\.|[^\\\\()])+)\\))?|\\(((?:\\\\.|[^\\\\()])+)\\))([+*?])?"

/-- Any character but a line feed, behind a backslash. -/
def escape : Expr := .cat (.char '\\') (.set true (CharClass.single '\n').compl)

/-- What a body is made of. -/
def unit : Expr :=
  .alt escape (.set true (CharClass.unions [.single '\\', .single '(', .single ')']).compl)

/-- A body in parentheses, whose inside is a group. -/
def body (g : Nat) : Expr :=
  .cat (.char '(') (.cat (.group g (.rep ⟨1, none⟩ true unit)) (.char ')'))

def word : Expr := .rep ⟨1, none⟩ true (.set true Unicode.wordClass)

def named : Expr :=
  .cat (.char ':') (.cat (.group 2 word) (.rep ⟨0, some 1⟩ true (body 3)))

def modifier : Expr :=
  .rep ⟨0, some 1⟩ true
    (.group 5 (.set true (CharClass.unions [.single '+', .single '*', .single '?'])))

def expr : Expr := .alt (.group 1 escape) (.cat (.alt named (body 4)) modifier)

def regex : Regex := { pattern := pattern, expr := expr, program := expr.program }

/-! ## Reading the pattern -/

theorem readsItem_of_foldlM {text : List Char} {e : Expr} {height g : Nat}
    (h : ∀ (level : Level) (outer : List Level) (groups : Nat) (names : List (List Char)),
      text.foldlM PatternText.step ⟨level, outer, {}, groups, names, .item, false⟩ =
        .ok ⟨level.push ⟨e, height, true⟩, outer, {}, groups, names, .item, false⟩) :
    ReadsItem {} text g g e height := by
  rintro ⟨level, outer, flags, groups, names, mode, inComment⟩ rest ⟨rfl, rfl, rfl, rfl⟩
  rw [readOn, List.foldlM_append, h]
  rfl

def escapeItems : List Item :=
  [⟨.char '\\', 0, true⟩, ⟨.set true (CharClass.single '\n').compl, 0, true⟩]

theorem reads_escape (g : Nat) : Reads {} ['\\', '\\', '.'] g g escapeItems := by
  have hdot : ReadsItem {} ['.'] g g (.set true (CharClass.single '\n').compl) 0 :=
    readsItem_of_foldlM fun _ _ _ _ => rfl
  exact (ReadsItem.escaped rfl (by decide) g).reads.append hdot.reads (by simp)

theorem reads_others (g : Nat) : ReadsItem {} ['[', '^', '\\', '\\', '(', ')', ']'] g g
    (.set true (CharClass.unions [.single '\\', .single '(', .single ')']).compl) 2 :=
  readsItem_of_foldlM fun _ _ _ _ => by rfl

theorem reads_signs (g : Nat) : ReadsItem {} ['[', '+', '*', '?', ']'] g g
    (.set true (CharClass.unions [.single '+', .single '*', .single '?'])) 2 :=
  readsItem_of_foldlM fun _ _ _ _ => by rfl

theorem reads_word (g : Nat) : ReadsItem {} ['\\', 'w'] g g (.set true Unicode.wordClass) 0 :=
  readsItem_of_foldlM fun _ _ _ _ => by rfl

def unitText : List Char :=
  grouped (['\\', '\\', '.'] ++ '|' :: ['[', '^', '\\', '\\', '(', ')', ']'])

def bodyPattern : List Char :=
  ['\\', '('] ++ ('(' :: ((unitText ++ ['+']) ++ [')']) ++ ['\\', ')'])

def namedPattern : List Char :=
  [':'] ++ ('(' :: ((['\\', 'w'] ++ ['+']) ++ [')']) ++ (grouped bodyPattern ++ ['?']))

theorem toList_pattern : pattern.toList =
    '(' :: (['\\', '\\', '.'] ++ [')']) ++ '|' ::
      (grouped (namedPattern ++ '|' :: bodyPattern) ++
        ('(' :: (['[', '+', '*', '?', ']'] ++ [')']) ++ ['?'])) := by
  decide +kernel

theorem reads_unit (g : Nat) : ReadsItem {} unitText g g unit 4 := by
  have h := ReadsItem.group rfl (Fills.either rfl (reads_escape g) (reads_others g).reads)
  have hchoice : Expr.choice [escape,
      .set true (CharClass.unions [.single '\\', .single '(', .single ')']).compl] = unit :=
    Expr.choice_pair rfl rfl rfl rfl fun h => absurd h.2 (by decide)
  rw [← hchoice]
  exact h

theorem reads_body (g : Nat) : Reads {} bodyPattern g (g + 1)
    [⟨.char '(', 0, true⟩, ⟨.group g (.rep ⟨1, none⟩ true unit), 6, true⟩,
      ⟨.char ')', 0, true⟩] := by
  have hopen : ReadsItem {} ['\\', '('] g g (.char '(') 0 :=
    ReadsItem.escaped rfl (by decide) g
  have hinside := ReadsItem.capture rfl (Fills.seq (Reads.oneOrMore rfl (reads_unit (g + 1))))
    (by simp [unitText, grouped])
  have hclose : ReadsItem {} ['\\', ')'] (g + 1) (g + 1) (.char ')') 0 :=
    ReadsItem.escaped rfl (by decide) (g + 1)
  exact hopen.reads.append (hinside.reads.append hclose.reads (by simp)) (by simp)

theorem reads_named : Reads {} namedPattern 2 4
    [⟨.char ':', 0, true⟩, ⟨.group 2 word, 2, true⟩,
      ⟨.rep ⟨0, some 1⟩ true (body 3), 9, true⟩] := by
  have hcolon : ReadsItem {} [':'] 2 2 (.char ':') 0 := ReadsItem.plain rfl (by decide) 2
  have hname := ReadsItem.capture (f := {}) (g := 2) rfl
    (Fills.seq (Reads.oneOrMore rfl (reads_word 3))) (by simp)
  have hbody := Reads.optional rfl (ReadsItem.group rfl (Fills.seq (reads_body 3)))
  exact hcolon.reads.append (hname.reads.append hbody (by simp [grouped])) (by simp)

theorem read_pattern : Expr.read {} pattern.toList = .ok expr := by
  have hescape := ReadsItem.capture (f := {}) (g := 1) rfl (Fills.seq (reads_escape 2)) (by simp)
  have hparameter := ReadsItem.group rfl (Fills.either rfl reads_named (reads_body 4))
  have hmodifier := Reads.optional rfl (ReadsItem.capture (f := {}) (g := 5) rfl
    (Fills.seq (reads_signs 6).reads) (by simp))
  have hchoice : Expr.choice [named, body 4] = .alt named (body 4) :=
    Expr.choice_pair rfl rfl rfl rfl fun _ => by rfl
  have htop : Expr.choice [.group 1 escape, .cat (.alt named (body 4)) modifier] = expr :=
    Expr.choice_pair rfl rfl rfl rfl fun h => absurd h.1 (by decide)
  rw [toList_pattern, ← htop, ← hchoice]
  exact Expr.read_either rfl hescape.reads (hparameter.reads.append hmodifier (by simp))
    (by decide)

theorem compile_pattern : Regex.compile true pattern = .ok regex := by
  rw [Regex.compile]
  show (Expr.read {} pattern.toList >>= _) = _
  rw [read_pattern]
  rfl

/-! ## Bodies -/

variable {text : List Char} {i j k : Nat} {ms : List (Nat × Nat)} {live : Nat → Prop}

theorem walk_char_iff (c : Char) :
    (Expr.char c).walk text i j ms ↔ text[i]? = some c ∧ j = i + 1 ∧ ms = [] := by
  rw [Expr.char, Expr.walk_ofClass]
  simp [Expr.walk]

theorem walk_escape_iff : escape.walk text i j ms ↔
    text[i]? = some '\\' ∧ (∃ d, text[i + 1]? = some d ∧ d ≠ '\n') ∧ j = i + 2 ∧ ms = [] := by
  constructor
  · rintro ⟨k, ns, os, h, ⟨⟨d, hd, hc⟩, rfl, rfl⟩, rfl⟩
    obtain ⟨hi, rfl, rfl⟩ := (walk_char_iff _).1 h
    exact ⟨hi, ⟨d, hd, by simpa using hc⟩, rfl, rfl⟩
  · rintro ⟨hi, ⟨d, hd, hne⟩, rfl, rfl⟩
    exact ⟨i + 1, [], [], (walk_char_iff _).2 ⟨hi, rfl, rfl⟩,
      ⟨⟨d, hd, by simpa using hne⟩, rfl, rfl⟩, rfl⟩

/-- A unit of a body goes from `i` to `j`. -/
def UnitAt (text : List Char) (i j : Nat) : Prop :=
  (text[i]? = some '\\' ∧ (∃ d, text[i + 1]? = some d ∧ d ≠ '\n') ∧ j = i + 2) ∨
    ∃ c, text[i]? = some c ∧ (c ≠ '\\' ∧ c ≠ '(' ∧ c ≠ ')') ∧ j = i + 1

theorem walk_unit_iff : unit.walk text i j ms ↔ UnitAt text i j ∧ ms = [] := by
  constructor
  · rintro (h | ⟨⟨c, hc, hs⟩, rfl, rfl⟩)
    · obtain ⟨hi, hd, rfl, rfl⟩ := walk_escape_iff.1 h
      exact ⟨.inl ⟨hi, hd, rfl⟩, rfl⟩
    · rw [CharClass.contains_compl, CharClass.contains_unions] at hs
      exact ⟨.inr ⟨c, hc, by simpa using hs, rfl⟩, rfl⟩
  · rintro ⟨⟨hi, hd, rfl⟩ | ⟨c, hc, hs, rfl⟩, rfl⟩
    · exact .inl (walk_escape_iff.2 ⟨hi, hd, rfl, rfl⟩)
    · refine .inr ⟨⟨c, hc, ?_⟩, rfl, rfl⟩
      rw [CharClass.contains_compl, CharClass.contains_unions]
      simpa using hs

theorem pick_unit (h : UnitAt text i j) : unit.pick text live i j [] := by
  rcases h with ⟨hi, hd, rfl⟩ | ⟨c, hc, hs, rfl⟩
  · exact .inl (walk_escape_iff.2 ⟨hi, hd, rfl, rfl⟩)
  · refine .inr ⟨?_, ?_⟩
    · rintro ⟨j, ms, hw, -⟩
      obtain ⟨hi, -⟩ := walk_escape_iff.1 hw
      exact hs.1 (Option.some.inj (hc.symm.trans hi))
    · refine ⟨⟨c, hc, ?_⟩, rfl, rfl⟩
      rw [CharClass.contains_compl, CharClass.contains_unions]
      simpa using hs

/-- A unit adds to the inside of a body. -/
theorem UnitAt.inside? (h : UnitAt text i j) : ∃ u, u ≠ [] ∧
    Span.inside? (text.drop i) = (Span.inside? (text.drop j)).map (u ++ ·) := by
  rcases h with ⟨hi, ⟨d, hd, hne⟩, rfl⟩ | ⟨c, hc, ⟨h₁, h₂, h₃⟩, rfl⟩
  · refine ⟨['\\', d], by simp, ?_⟩
    rw [Expr.drop_eq_cons_iff.2 ⟨hi, Expr.drop_eq_cons_iff.2 ⟨hd, rfl⟩⟩, Span.inside?, if_neg hne]
    rfl
  · refine ⟨[c], by simp, ?_⟩
    rw [Expr.drop_eq_cons_iff.2 ⟨hc, rfl⟩, Span.inside?, if_neg h₃, if_neg (by simp [h₁, h₂])]
    · rfl
    · intro d l heq _
      exact h₁ (by simpa using heq)

theorem exists_inside_of_times {n : Nat} (h : (unit.walk text).times n i j ms)
    (hj : text[j]? = some ')') :
    ∃ b, Span.inside? (text.drop i) = some b ∧ (n ≠ 0 → b ≠ []) := by
  induction n generalizing i ms with
  | zero =>
    obtain ⟨rfl, -⟩ := h
    refine ⟨[], ?_, by simp⟩
    rw [Expr.drop_eq_cons_iff.2 ⟨hj, rfl⟩]
    simp [Span.inside?]
  | succ n ih =>
    obtain ⟨k, ns, os, h₁, h₂, -⟩ := h
    obtain ⟨b, hb, -⟩ := ih h₂
    obtain ⟨u, hu, heq⟩ := (walk_unit_iff.1 h₁).1.inside?
    exact ⟨u ++ b, by rw [heq, hb]; rfl, by simp [hu]⟩

/-- All units up to the closing parenthesis are picked. -/
theorem pickAny_of_inside? {b rest : List Char} (live : Nat → Prop) (hrest : text.drop i = rest)
    (h : Span.inside? rest = some b) :
    Expr.pickAny (unit.pick text) (unit.walk text) true live i (i + b.length) [] := by
  fun_induction Span.inside? rest generalizing i b with
  | case1 => simp at h
  | case2 => simp at h
  | case3 c rest hc ih =>
    obtain ⟨b, hb, rfl⟩ := Option.map_eq_some_iff.1 h
    obtain ⟨h₁, hrest⟩ := Expr.drop_eq_cons_iff.1 hrest
    obtain ⟨h₂, hrest⟩ := Expr.drop_eq_cons_iff.1 hrest
    have hunit : UnitAt text i (i + 2) := .inl ⟨h₁, ⟨c, h₂, hc⟩, rfl⟩
    have hrounds := ih hrest hb
    rw [show i + 1 + 1 + b.length = i + ('\\' :: c :: b).length by
      simp only [List.length_cons]; omega] at hrounds
    exact .more (by simp) (pick_unit hunit) hrounds
  | case4 =>
    obtain rfl := Option.some.inj h
    refine Expr.pickAny_stop fun j ms hone => ?_
    have hi := (Expr.drop_eq_cons_iff.1 hrest).1
    rcases (walk_unit_iff.1 hone).1 with ⟨hc, -⟩ | ⟨c, hc, hs, -⟩
    · simp [hi] at hc
    · exact hs.2.2 (Option.some.inj (hc.symm.trans hi))
  | case5 => simp at h
  | case6 c rest _ h₁ h₂ ih =>
    obtain ⟨b, hb, rfl⟩ := Option.map_eq_some_iff.1 h
    obtain ⟨hi, hrest⟩ := Expr.drop_eq_cons_iff.1 hrest
    rw [not_or] at h₂
    have hunit : UnitAt text i (i + 1) := .inr ⟨c, hi, ⟨h₂.2, h₂.1, h₁⟩, rfl⟩
    have hrounds := ih hrest hb
    rw [show i + 1 + b.length = i + (c :: b).length by
      simp only [List.length_cons]; omega] at hrounds
    exact .more (by simp) (pick_unit hunit) hrounds

theorem body?_eq_some_iff {cs b : List Char} :
    Span.body? cs = some b ↔ ∃ rest, cs = '(' :: rest ∧ Span.inside? rest = some b ∧ b ≠ [] := by
  unfold Span.body?
  constructor
  · intro h
    split at h
    next rest =>
      split at h
      next c body hb =>
        obtain rfl := Option.some.inj h
        exact ⟨rest, rfl, hb, by simp⟩
      next => simp at h
    next => simp at h
  · rintro ⟨rest, rfl, hb, hne⟩
    obtain ⟨c, b, rfl⟩ := List.exists_cons_of_ne_nil hne
    simp [hb]

/-- Where the body of a parameter is, and nowhere else, the pattern of a body matches. -/
theorem exists_body_of_walk {g : Nat} (h : (body g).walk text i j ms) :
    ∃ b, Span.body? (text.drop i) = some b := by
  obtain ⟨k, ns, os, h₁, ⟨l, ns', os', ⟨ps, ⟨n, hn, h₂⟩, -⟩, h₃, -⟩, -⟩ := h
  obtain ⟨hi, rfl, -⟩ := (walk_char_iff _).1 h₁
  obtain ⟨hl, -⟩ := (walk_char_iff _).1 h₃
  obtain ⟨b, hb, hne⟩ := exists_inside_of_times h₂ hl
  have hrest := Expr.drop_eq_cons_iff.2 ⟨hi, rfl⟩
  exact ⟨b, body?_eq_some_iff.2 ⟨_, hrest, hb, hne (Nat.ne_of_gt hn.1)⟩⟩

/-- What the group of a body at `i` saves. -/
@[simp] def bodyMarks (g i : Nat) (b : List Char) : List (Nat × Nat) :=
  [(2 * g + 1, i + 1 + b.length), (2 * g, i + 1)]

theorem pick_body {g : Nat} {b : List Char} (h : Span.body? (text.drop i) = some b) :
    (body g).pick text live i (i + (Span.bodyText (some b)).length) (bodyMarks g i b) := by
  obtain ⟨rest, hrest, hb, hne⟩ := body?_eq_some_iff.1 h
  obtain ⟨hi, hrest⟩ := Expr.drop_eq_cons_iff.1 hrest
  obtain ⟨r, hr⟩ := Span.isPrefix_of_inside? hb
  have hclose : text[i + 1 + b.length]? = some ')' := by
    rw [← List.getElem?_drop, hrest, ← hr]
    simp
  have hlen : 0 < b.length := List.length_pos_iff.2 hne
  have hinside := Expr.pick_oneOrMore
    (pickAny_of_inside? (((Expr.char ')').walk text).Leads live) hrest hb) (by omega)
  refine ⟨i + 1, [], bodyMarks g i b, (walk_char_iff _).2 ⟨hi, rfl, rfl⟩, ?_, rfl⟩
  refine ⟨i + 1 + b.length, bodyMarks g i b, [], ⟨[], hinside, rfl⟩, ?_, rfl⟩
  refine (walk_char_iff _).2 ⟨hclose, ?_, rfl⟩
  simp [Span.bodyText]
  omega

/-! ## Parameters -/

@[simp] def optionalBodyMarks (g i : Nat) : Option (List Char) → List (Nat × Nat)
  | none => []
  | some b => bodyMarks g i b

theorem pick_optionalBody {g : Nat} :
    (Expr.rep ⟨0, some 1⟩ true (body g)).pick text live i
      (i + (Span.bodyText (Span.body? (text.drop i))).length)
      (optionalBodyMarks g i (Span.body? (text.drop i))) := by
  rw [Expr.pick_optional]
  cases hb : Span.body? (text.drop i) with
  | some b => exact .inl (pick_body hb)
  | none =>
    refine .inr ⟨?_, rfl, rfl⟩
    rintro ⟨j, ms, hw, -⟩
    obtain ⟨b, hb'⟩ := exists_body_of_walk hw
    simp [hb] at hb'

/-- What the group of a name at `i` saves. -/
@[simp] def nameMarks (i : Nat) (name : List Char) : List (Nat × Nat) :=
  [(5, i + name.length), (4, i)]

theorem drop_takeWhile {c : Char} {rest : List Char} (h : text.drop i = c :: rest) :
    text.drop (i + 1 + (rest.takeWhile Unicode.isWord).length) = rest.dropWhile Unicode.isWord := by
  rw [← List.drop_drop, (Expr.drop_eq_cons_iff.1 h).2]
  calc rest.drop (rest.takeWhile Unicode.isWord).length
      = (rest.takeWhile Unicode.isWord ++ rest.dropWhile Unicode.isWord).drop
          (rest.takeWhile Unicode.isWord).length := by rw [List.takeWhile_append_dropWhile]
    _ = rest.dropWhile Unicode.isWord := List.drop_left

theorem pick_named {rest : List Char} (h : text.drop i = ':' :: rest)
    (hne : rest.takeWhile Unicode.isWord ≠ []) :
    named.pick text live i
      (i + 1 + (rest.takeWhile Unicode.isWord).length +
        (Span.bodyText (Span.body? (rest.dropWhile Unicode.isWord))).length)
      (optionalBodyMarks 3 (i + 1 + (rest.takeWhile Unicode.isWord).length)
        (Span.body? (rest.dropWhile Unicode.isWord)) ++
          nameMarks (i + 1) (rest.takeWhile Unicode.isWord)) := by
  obtain ⟨hi, hrest⟩ := Expr.drop_eq_cons_iff.1 h
  have hpos := List.length_pos_iff.2 hne
  rw [← drop_takeWhile h]
  refine ⟨i + 1, [], _, (walk_char_iff _).2 ⟨hi, rfl, rfl⟩, ⟨_, _, _, ⟨[], ?_, rfl⟩,
    pick_optionalBody, rfl⟩, (List.append_nil _).symm⟩
  refine Expr.pick_oneOrMore ?_ (by omega)
  rw [Unicode.isWord_eq]
  exact Expr.pickAny_set hrest

/-- What the group of a modifier at `i` saves. -/
@[simp] def modifierMarks (i : Nat) : Option Char → List (Nat × Nat)
  | none => []
  | some _ => [(11, i + 1), (10, i)]

theorem modifier?_eq_some_iff {cs : List Char} {c : Char} :
    Span.modifier? cs = some c ↔ cs.head? = some c ∧ (c = '+' ∨ c = '*' ∨ c = '?') := by
  unfold Span.modifier?
  split
  next d _ =>
    rw [List.head?_cons, Option.some.injEq]
    split
    next h =>
      rw [Option.some.injEq]
      exact ⟨fun he => ⟨he, he ▸ h⟩, fun he => he.1⟩
    next h =>
      simp only [reduceCtorEq, false_iff]
      rintro ⟨rfl, h'⟩
      exact h h'
  next => simp

theorem pick_modifier (text : List Char) (i : Nat) (live : Nat → Prop) :
    modifier.pick text live i (i + (Span.modifier? (text.drop i)).toList.length)
      (modifierMarks i (Span.modifier? (text.drop i))) := by
  rw [modifier, Expr.pick_optional]
  cases hm : Span.modifier? (text.drop i) with
  | some c =>
    obtain ⟨hc, hsign⟩ := modifier?_eq_some_iff.1 hm
    rw [List.head?_drop] at hc
    refine .inl ⟨[], ⟨⟨c, hc, ?_⟩, rfl, rfl⟩, rfl⟩
    rw [CharClass.contains_unions]
    simpa using hsign
  | none =>
    refine .inr ⟨?_, rfl, rfl⟩
    rintro ⟨j, _, ⟨ms, ⟨⟨c, hc, hs⟩, -⟩, -⟩, -⟩
    rw [CharClass.contains_unions] at hs
    have := modifier?_eq_some_iff.2 ⟨(List.head?_drop ..).trans hc, by simpa using hs⟩
    simp [hm] at this

/-! ## Spans -/

/-- What the pattern of the grammar saves for a span at `i`. -/
def marks (i : Nat) : Span → List (Nat × Nat)
  | .plain _ => []
  | .escaped _ => [(3, i + 2), (2, i)]
  | .named name body m =>
    modifierMarks (i + 1 + name.length + (Span.bodyText body).length) m ++
      (optionalBodyMarks 3 (i + 1 + name.length) body ++ nameMarks (i + 1) name)
  | .unnamed body m =>
    modifierMarks (i + (Span.bodyText (some body)).length) m ++ bodyMarks 4 i body

theorem first_escape {d : Char} (rest : List Char) (hd : d ≠ '\n') :
    Span.first '\\' (d :: rest) = .escaped d := by simp [Span.first, hd]

theorem first_named {rest : List Char} (h : rest.takeWhile Unicode.isWord ≠ []) :
    Span.first ':' rest = Span.namedOf rest := by
  have hhead : rest.head?.any Unicode.isWord = true := by
    cases rest with
    | nil => simp at h
    | cons c rest =>
      rw [List.takeWhile_cons] at h
      simpa using h
  rw [Span.first.eq_def, if_neg (by decide), if_pos rfl, if_pos hhead]

theorem first_unnamed {rest b : List Char} (h : Span.body? ('(' :: rest) = some b) :
    Span.first '(' rest = .unnamed b
      (Span.modifier? (('(' :: rest).drop (Span.bodyText (some b)).length)) := by
  rw [Span.first.eq_def, if_neg (by decide), if_neg (by decide), h]

/-- The spans other than plain characters. -/
theorem first_cases {c : Char} {rest : List Char} (h : ∀ d, Span.first c rest ≠ .plain d) :
    (∃ d tail, c = '\\' ∧ rest = d :: tail ∧ d ≠ '\n') ∨
      (c = ':' ∧ rest.takeWhile Unicode.isWord ≠ []) ∨
      ∃ b, c = '(' ∧ Span.body? (c :: rest) = some b := by
  rw [Span.first.eq_def] at h
  split at h
  next hc =>
    split at h
    next d tail =>
      split at h
      · exact absurd rfl (h _)
      next hd => exact .inl ⟨d, tail, hc, rfl, hd⟩
    next => exact absurd rfl (h _)
  next =>
    split at h
    next hc =>
      split at h
      next hw =>
        refine .inr (.inl ⟨hc, ?_⟩)
        cases rest with
        | nil => simp at hw
        | cons d rest =>
          rw [List.takeWhile_cons, show Unicode.isWord d = true by simpa using hw]
          simp
      next => exact absurd rfl (h _)
    next =>
      split at h
      next b hb =>
        obtain ⟨_, heq, -⟩ := body?_eq_some_iff.1 hb
        exact .inr (.inr ⟨b, (List.cons.inj heq).1, hb⟩)
      next => exact absurd rfl (h _)

/-- The pattern matches where a span begins that is not a plain character, and nowhere else. -/
theorem exists_first_of_walk (h : expr.walk text i j ms) :
    ∃ c rest, text.drop i = c :: rest ∧ ∀ d, Span.first c rest ≠ .plain d := by
  rcases h with ⟨ns, hw, -⟩ | ⟨k, ns, os, hw | hw, -⟩
  · obtain ⟨hi, ⟨d, hd, hne⟩, -⟩ := walk_escape_iff.1 hw
    refine ⟨_, _, Expr.drop_eq_cons_iff.2 ⟨hi, Expr.drop_eq_cons_iff.2 ⟨hd, rfl⟩⟩, fun c => ?_⟩
    rw [first_escape _ hne]
    simp
  · obtain ⟨l, ns', os', h₁, ⟨l', _, _, ⟨_, ⟨n, hn, h₂⟩, -⟩, -⟩, -⟩ := hw
    obtain ⟨hi, rfl, -⟩ := (walk_char_iff _).1 h₁
    refine ⟨_, _, Expr.drop_eq_cons_iff.2 ⟨hi, rfl⟩, fun c => ?_⟩
    obtain ⟨n, rfl⟩ : ∃ m, n = m + 1 := ⟨n - 1, (Nat.sub_add_cancel hn.1).symm⟩
    obtain ⟨_, _, _, ⟨⟨c, hc, hs⟩, -⟩, -⟩ := h₂
    rw [first_named]
    · simp [Span.namedOf]
    · rw [Expr.drop_eq_cons_iff.2 ⟨hc, rfl⟩, Unicode.isWord_eq, List.takeWhile_cons, hs]
      simp
  · obtain ⟨b, hb⟩ := exists_body_of_walk hw
    obtain ⟨rest, hrest, -⟩ := body?_eq_some_iff.1 hb
    refine ⟨_, _, hrest, fun c => ?_⟩
    rw [first_unnamed (hrest ▸ hb)]
    simp

/-- Where a span begins that is not a plain character, it is picked. -/
theorem pick_expr {c : Char} {rest : List Char} (h : text.drop i = c :: rest)
    (hs : ∀ d, Span.first c rest ≠ .plain d) :
    expr.pick text live i (i + (Span.first c rest).text.length) (marks i (Span.first c rest)) := by
  obtain ⟨hi, hrest⟩ := Expr.drop_eq_cons_iff.1 h
  have hescape (hne : c ≠ '\\') : ¬ ((Expr.group 1 escape).walk text).Leads live i := by
    rintro ⟨j, ms, ⟨ns, hw, -⟩, -⟩
    exact hne (Option.some.inj (hi.symm.trans (walk_escape_iff.1 hw).1))
  rcases first_cases hs with ⟨d, tail, rfl, rfl, hd⟩ | ⟨rfl, hw⟩ | ⟨b, rfl, hb⟩
  · rw [first_escape tail hd]
    have hd' := (Expr.drop_eq_cons_iff.1 hrest).1
    exact .inl ⟨[], walk_escape_iff.2 ⟨hi, ⟨d, hd', hd⟩, rfl, rfl⟩, rfl⟩
  · rw [first_named hw]
    refine .inr ⟨hescape (by decide), _, _, _, .inl (pick_named h hw), ?_, rfl⟩
    have hm := pick_modifier text (i + 1 + (rest.takeWhile Unicode.isWord).length +
      (Span.bodyText (Span.body? (rest.dropWhile Unicode.isWord))).length) live
    rw [← List.drop_drop, drop_takeWhile h] at hm
    rw [Span.namedOf, Span.text]
    simp only [List.length_cons, List.length_append, Nat.add_assoc, Nat.add_comm,
      Nat.add_left_comm] at hm ⊢
    exact hm
  · rw [first_unnamed hb]
    rw [← h] at hb
    refine .inr ⟨hescape (by decide), _, _, _, .inr ⟨?_, pick_body hb⟩, ?_, rfl⟩
    · rintro ⟨j, ms, ⟨k, _, _, hw, -⟩, -⟩
      have hcolon := ((walk_char_iff _).1 hw).1
      exact absurd (Option.some.inj (hi.symm.trans hcolon)) (by decide)
    · have hm := pick_modifier text (i + (Span.bodyText (some b)).length) live
      rw [← List.drop_drop, h] at hm
      rwa [Span.text, List.length_append, ← Nat.add_assoc]

end Grammar

end RouteTemplate
