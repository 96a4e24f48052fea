import Mathlib.Logic.Basic
import Mathlib.Logic.Relation
import RouteTemplate.Proofs.Template.Explicit

/-!
Where literals are cut. Empty literals may come and go, and a literal may be cut in two, without any
change of the text that the tokens stand for: `Token.Recut` is one such change and `Token.Alike` any
number of them, made or taken back. Lists are alike exactly if they are the same list once all
literals are cut into characters (`Token.alike_iff`). The keys and the pattern up to its end do not
depend on the cuts. The end does: what may follow a match is decided by the last token, and if this
one is empty it hides a delimiter that stands before it. `Source.text_eq_iff_of_alike` says when
this shows in the pattern.
-/

namespace RouteTemplate

namespace Token

/-- An empty literal comes in, or a literal is cut in two. -/
inductive Recut : List Token → List Token → Prop
  | empty (xs ys : List Token) : Recut (xs ++ ys) (xs ++ literal "" :: ys)
  | cut (xs ys : List Token) (a b : String) :
      Recut (xs ++ literal (a ++ b) :: ys) (xs ++ literal a :: literal b :: ys)

/-- The tokens are the same but for the places where literals are cut. -/
def Alike : List Token → List Token → Prop := Relation.EqvGen Recut

/-- A literal as literals of one character each, a parameter as it is. -/
def letters : Token → List Token
  | literal text => spelled text.toList
  | parameter p => [parameter p]

variable {ts us xs ys : List Token}

/-- What is common to two lists that differ by one cut is common to any two alike lists. -/
theorem Alike.eq {α : Type} {f : List Token → α} (h : Alike ts us)
    (hf : ∀ xs ys, Recut xs ys → f xs = f ys) : f ts = f us := by
  induction h with
  | rel xs ys hcut => exact hf xs ys hcut
  | refl xs => rfl
  | symm xs ys _ ih => exact ih.symm
  | trans xs ys zs _ _ ih₁ ih₂ => exact ih₁.trans ih₂

theorem Recut.cons (h : Recut xs ys) (t : Token) : Recut (t :: xs) (t :: ys) := by
  cases h with
  | empty xs ys => exact .empty (t :: xs) ys
  | cut xs ys a b => exact .cut (t :: xs) ys a b

theorem Alike.cons (h : Alike ts us) (t : Token) : Alike (t :: ts) (t :: us) := by
  induction h with
  | rel xs ys hcut => exact .rel _ _ (hcut.cons t)
  | refl xs => exact .refl _
  | symm xs ys _ ih => exact .symm _ _ ih
  | trans xs ys zs _ _ ih₁ ih₂ => exact .trans _ _ _ ih₁ ih₂

theorem alike_spelled_append (text : List Char) (h : Alike ts us) :
    Alike (literal (.ofList text) :: ts) (spelled text ++ us) := by
  induction text with
  | nil => exact .trans _ _ _ (.symm _ _ (.rel _ _ (.empty [] ts))) h
  | cons c text ih =>
    have hcut : Recut (literal (.ofList (c :: text)) :: ts)
        (literal (.singleton c) :: literal (.ofList text) :: ts) := by
      have happend : String.ofList (c :: text) = .singleton c ++ .ofList text := by
        rw [← String.toList_inj]
        simp
      rw [happend]
      exact .cut [] ts _ _
    exact .trans _ _ _ (.rel _ _ hcut) (ih.cons _)

theorem alike_flatMap_letters (ts : List Token) : Alike ts (ts.flatMap letters) := by
  induction ts with
  | nil => exact .refl _
  | cons t ts ih =>
    cases t with
    | literal text =>
      have h := alike_spelled_append text.toList ih
      rwa [String.ofList_toList] at h
    | parameter p => exact ih.cons _

theorem Recut.letters_eq (h : Recut xs ys) : xs.flatMap letters = ys.flatMap letters := by
  cases h with
  | empty xs ys => simp [letters, spelled]
  | cut xs ys a b => simp [letters, spelled_append]

/-- Lists are alike exactly if they have the same characters and parameters in the same order. -/
theorem alike_iff : Alike ts us ↔ ts.flatMap letters = us.flatMap letters := by
  constructor
  · intro h
    exact h.eq (f := fun ts => ts.flatMap letters) fun _ _ hcut => hcut.letters_eq
  · intro h
    have hus := alike_flatMap_letters us
    rw [← h] at hus
    exact .trans _ _ _ (alike_flatMap_letters ts) (.symm _ _ hus)

instance (ts us : List Token) : Decidable (Alike ts us) := decidable_of_iff _ alike_iff.symm

/-- The text behind the last parameter, after the text `before`. -/
def closingFrom (before : List Char) : List Token → List Char
  | [] => before
  | literal text :: ts => closingFrom (before ++ text.toList) ts
  | parameter _ :: ts => closingFrom [] ts

/-- The text behind the last parameter, or all text if there is no parameter. -/
def closing (ts : List Token) : List Char := closingFrom [] ts

theorem closingFrom_append (before : List Char) (xs ys : List Token) :
    closingFrom before (xs ++ ys) = closingFrom (closingFrom before xs) ys := by
  induction xs generalizing before with
  | nil => rfl
  | cons x xs ih =>
    cases x with
    | literal text => exact ih _
    | parameter p => exact ih _

theorem Recut.closing_eq (h : Recut xs ys) : closing xs = closing ys := by
  cases h with
  | empty xs ys => simp [closing, closingFrom_append, closingFrom]
  | cut xs ys a b => simp [closing, closingFrom_append, closingFrom]

theorem Recut.parameters_eq (h : Recut xs ys) :
    xs.filterMap parameter? = ys.filterMap parameter? := by
  cases h with
  | empty xs ys =>
    rw [List.filterMap_append, List.filterMap_append]
    rfl
  | cut xs ys a b =>
    rw [List.filterMap_append, List.filterMap_append]
    rfl

end Token

namespace Source

variable {o : Options} {ts us : List Token}

theorem join_eq_of_recut (h : Token.Recut ts us) :
    String.join (ts.map token) = String.join (us.map token) := by
  cases h with
  | empty xs ys =>
    have hquote : Regex.quote "" = "" := rfl
    simp [token, hquote]
  | cut xs ys a b => simp [token, Regex.quote_append, String.append_assoc]

/-- The last token ends in a delimiter exactly if the text does and the token is not empty. -/
theorem endsDelimited_getLast?_iff : endsDelimited o ts.getLast? = true ↔
    (∃ c, (Token.closing ts).getLast? = some c ∧ o.isDelimiter c = true) ∧
      ts.getLast? ≠ some (.literal "") := by
  rcases ts.eq_nil_or_concat with rfl | ⟨ts, t, rfl⟩
  · simp [endsDelimited, Token.closing, Token.closingFrom]
  · rw [List.concat_eq_append, List.getLast?_concat, Token.closing, Token.closingFrom_append]
    cases t with
    | parameter p => simp [endsDelimited, Token.closingFrom]
    | literal text =>
      rcases text.toList.eq_nil_or_concat with htext | ⟨front, c, htext⟩
      · obtain rfl : text = "" := String.toList_eq_nil_iff.1 htext
        simp [endsDelimited]
      · have hne : text ≠ "" := by
          rintro rfl
          simp at htext
        rw [List.concat_eq_append] at htext
        simp [endsDelimited, Token.closingFrom, htext, hne, ← List.append_assoc]

theorem terminator_of_matchEnd (h : o.matchEnd = true) (d d' : Bool) :
    terminator o d = terminator o d' := by
  simp only [terminator, h, if_true]

/-- Unless a match goes to the end, it shows in the pattern whether the end is looked at. -/
theorem terminator_eq_iff (h : o.matchEnd = false) {d d' : Bool} :
    terminator o d = terminator o d' ↔ d = d' := by
  have hne : terminator o true ≠ terminator o false := by
    rw [ne_eq, ← String.toList_inj]
    simp [terminator, h]
  cases d <;> cases d'
  · simp
  · simpa using hne.symm
  · simpa using hne
  · simp

/-- Cutting the literals in other places changes no key. It changes the pattern exactly if a match
need not go to the end, the text behind the parameters ends in a delimiter, and one list ends in an
empty literal where the other does not. -/
theorem text_eq_iff_of_alike (h : Token.Alike ts us) :
    (ofTokens o ts).keys = (ofTokens o us).keys ∧
      ((ofTokens o ts).text = (ofTokens o us).text ↔
        (o.matchEnd = false →
          (∃ c, (Token.closing ts).getLast? = some c ∧ o.isDelimiter c = true) →
          (ts.getLast? = some (.literal "") ↔ us.getLast? = some (.literal "")))) := by
  have hclosing : Token.closing ts = Token.closing us :=
    h.eq (f := Token.closing) fun _ _ hcut => hcut.closing_eq
  have hjoin : String.join (ts.map token) = String.join (us.map token) :=
    h.eq (f := fun ts => String.join (ts.map token)) fun _ _ hcut => join_eq_of_recut hcut
  refine ⟨h.eq (f := List.filterMap Token.parameter?) fun _ _ hcut => hcut.parameters_eq, ?_⟩
  simp only [ofTokens]
  rw [hjoin, String.append_right_inj]
  cases hend : o.matchEnd with
  | true => exact iff_of_true (terminator_of_matchEnd hend _ _) (by simp)
  | false =>
    rw [terminator_eq_iff hend, Bool.eq_iff_iff, endsDelimited_getLast?_iff,
      endsDelimited_getLast?_iff, hclosing, and_congr_right_iff, ne_eq, ne_eq, not_iff_not]
    exact ⟨fun h _ => h, fun h => h rfl⟩

/-- Both lists end in a slash, one of them in a literal that is nothing else. -/
theorem text_eq_iff_of_alike_of_slash :
    Token.Alike [.literal "/a", .parameter ⟨"0", "", "/", .one, false, ".*"⟩, .literal "b/"]
        [.literal "/", .literal "", .literal "a", .parameter ⟨"0", "", "/", .one, false, ".*"⟩,
          .literal "b", .literal "/"] ∧
      ofTokens { matchEnd := false }
          [.literal "/a", .parameter ⟨"0", "", "/", .one, false, ".*"⟩, .literal "b/"] =
        ofTokens { matchEnd := false }
          [.literal "/", .literal "", .literal "a", .parameter ⟨"0", "", "/", .one, false, ".*"⟩,
            .literal "b", .literal "/"] := by
  have h : Token.Alike
      [.literal "/a", .parameter ⟨"0", "", "/", .one, false, ".*"⟩, .literal "b/"]
      [.literal "/", .literal "", .literal "a", .parameter ⟨"0", "", "/", .one, false, ".*"⟩,
        .literal "b", .literal "/"] := by
    decide
  obtain ⟨hkeys, htext⟩ := text_eq_iff_of_alike (o := { matchEnd := false }) h
  exact ⟨h, congrArg₂ Source.mk (htext.2 fun _ _ => by decide) hkeys⟩

/-- The empty literal hides the slash, so the end asks for another one. -/
theorem text_ne_of_last_empty :
    Token.Alike [.literal "a/"] [.literal "a/", .literal ""] ∧
      (ofTokens { matchEnd := false } [.literal "a/"]).text = "^a/" ∧
      (ofTokens { matchEnd := false } [.literal "a/", .literal ""]).text = "^a/(?:/|$)" := by
  decide +kernel

end Source

end RouteTemplate
