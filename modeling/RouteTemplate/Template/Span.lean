import RouteTemplate.Unicode.Character

/-!
The grammar of templates. A template is cut from left to right into spans: escapes, parameters and
plain characters. `flatten_text_cut` says that the spans make up the template.
-/

namespace RouteTemplate

inductive Span
  | plain (c : Char)
  | escaped (c : Char)
  | named (name : List Char) (body : Option (List Char)) (modifier : Option Char)
  | unnamed (body : List Char) (modifier : Option Char)
  deriving DecidableEq, Repr

namespace Span

def bodyText : Option (List Char) → List Char
  | none => []
  | some body => '(' :: (body ++ [')'])

def text : Span → List Char
  | plain c => [c]
  | escaped c => ['\\', c]
  | named name body modifier => ':' :: (name ++ bodyText body ++ modifier.toList)
  | unnamed body modifier => bodyText (some body) ++ modifier.toList

/-- What stands before the parenthesis that closes a body: escapes of anything but a line feed, and
characters other than backslashes and parentheses. -/
def inside? : List Char → Option (List Char)
  | [] => none
  | '\\' :: c :: rest => if c = '\n' then none else (inside? rest).map fun b => '\\' :: c :: b
  | c :: rest =>
    if c = ')' then some []
    else if c = '(' ∨ c = '\\' then none
    else (inside? rest).map (c :: ·)

/-- The body that begins here, without its parentheses. It is not empty. -/
def body? : List Char → Option (List Char)
  | '(' :: rest =>
    match inside? rest with
    | some (c :: body) => some (c :: body)
    | _ => none
  | _ => none

def modifier? : List Char → Option Char
  | c :: _ => if c = '+' ∨ c = '*' ∨ c = '?' then some c else none
  | [] => none

/-- The named parameter behind a colon. -/
def namedOf (rest : List Char) : Span :=
  let name := rest.takeWhile Unicode.isWord
  let after := rest.dropWhile Unicode.isWord
  let body := body? after
  named name body (modifier? (after.drop (bodyText body).length))

/-- The span that begins with a character. -/
def first (c : Char) (rest : List Char) : Span :=
  if c = '\\' then
    match rest with
    | d :: _ => if d = '\n' then plain c else escaped d
    | [] => plain c
  else if c = ':' then
    if (rest.head?.any Unicode.isWord) then namedOf rest else plain c
  else
    match body? (c :: rest) with
    | some body => unnamed body (modifier? ((c :: rest).drop (bodyText (some body)).length))
    | none => plain c

/-- Cuts a template whose first `skip` characters belong to a span already found. -/
def cutFrom : Nat → List Char → List Span
  | _, [] => []
  | skip + 1, _ :: rest => cutFrom skip rest
  | 0, c :: rest => first c rest :: cutFrom ((first c rest).text.length - 1) rest

def cut (template : List Char) : List Span := cutFrom 0 template

theorem isPrefix_of_inside? {cs body : List Char} (h : inside? cs = some body) :
    body ++ [')'] <+: cs := by
  fun_induction inside? cs generalizing body with
  | case1 => simp at h
  | case2 => simp at h
  | case3 c rest hc ih =>
    obtain ⟨b, hb, rfl⟩ := Option.map_eq_some_iff.1 h
    simpa using ih hb
  | case4 => simp_all
  | case5 => simp at h
  | case6 c rest _ _ _ ih =>
    obtain ⟨b, hb, rfl⟩ := Option.map_eq_some_iff.1 h
    simpa using ih hb

theorem isPrefix_of_body? {cs body : List Char} (h : body? cs = some body) :
    bodyText (some body) <+: cs := by
  unfold body? at h
  split at h
  · split at h
    · next hb =>
      obtain rfl := Option.some.inj h
      simpa [bodyText] using isPrefix_of_inside? hb
    · simp at h
  · simp at h

theorem isPrefix_toList_modifier? (cs : List Char) : (modifier? cs).toList <+: cs := by
  unfold modifier?
  split
  · split <;> simp
  · simp

private theorem isPrefix_append_drop {a b cs : List Char} (ha : a <+: cs)
    (hb : b <+: cs.drop a.length) : a ++ b <+: cs := by
  obtain ⟨r, rfl⟩ := ha
  simpa using hb

theorem isPrefix_text_first (c : Char) (rest : List Char) : (first c rest).text <+: c :: rest := by
  unfold first
  split
  · next h =>
    subst h
    split
    · split <;> simp [text]
    · simp [text]
  · split
    · next h =>
      subst h
      split
      · simp only [namedOf, text, List.cons_prefix_cons, true_and, List.append_assoc]
        have hs : rest.takeWhile Unicode.isWord ++ rest.dropWhile Unicode.isWord = rest :=
          List.takeWhile_append_dropWhile
        suffices h : _ <+: rest.dropWhile Unicode.isWord by
          obtain ⟨r, hr⟩ := h
          exact ⟨r, by rw [List.append_assoc, hr, hs]⟩
        refine isPrefix_append_drop ?_ (isPrefix_toList_modifier? _)
        cases hb : body? (rest.dropWhile Unicode.isWord) with
        | none => simp [bodyText]
        | some b => exact isPrefix_of_body? hb
      · simp [text]
    · split
      · next hb => exact isPrefix_append_drop (isPrefix_of_body? hb) (isPrefix_toList_modifier? _)
      · simp [text]

theorem length_text_pos (s : Span) : 0 < s.text.length := by
  cases s <;> simp [text, bodyText]

private theorem flatten_text_cutFrom (skip : Nat) (cs : List Char) :
    ((cutFrom skip cs).map text).flatten = cs.drop skip := by
  induction cs generalizing skip with
  | nil => simp [cutFrom]
  | cons c rest ih =>
    cases skip with
    | succ skip => simpa [cutFrom] using ih skip
    | zero =>
      simp only [cutFrom, List.map_cons, List.flatten_cons, ih, List.drop_zero]
      obtain ⟨r, hr⟩ := isPrefix_text_first c rest
      have hp := length_text_pos (first c rest)
      cases ht : (first c rest).text with
      | nil => simp [ht] at hp
      | cons d t =>
        rw [ht, List.cons_append, List.cons.injEq] at hr
        simp [← hr.2, hr.1]

/-- No character of a template is lost or moved. -/
theorem flatten_text_cut (template : List Char) :
    ((cut template).map text).flatten = template := by
  simpa [cut] using flatten_text_cutFrom 0 template

end Span

end RouteTemplate
