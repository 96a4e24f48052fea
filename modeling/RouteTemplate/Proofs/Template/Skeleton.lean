import RouteTemplate.Proofs.Percent.Canonical
import RouteTemplate.Proofs.Template.Rendering

/-!
What values cannot change about a path. A percent-encoded value is written with unreserved
characters and percent signs only, so all other characters of a path come from the template: from
literals, leads and joiners. How many of these there are depends on which names are bound and on how
many items they are bound to, but not on the values themselves: `Template.skeleton_eq_of_expand`.
-/

namespace RouteTemplate

/-- What is left of a path if the characters are deleted that encoded values are written with. -/
def skeleton (path : String) : List Char :=
  path.toList.filter fun c => ¬ Percent.Alphabet c

@[simp] theorem skeleton_append (a b : String) : skeleton (a ++ b) = skeleton a ++ skeleton b := by
  rw [skeleton, String.toList_append, List.filter_append]
  rfl

theorem skeleton_encode (text : String) : skeleton (Percent.encode text) = [] := by
  rw [skeleton, List.filter_eq_nil_iff]
  intro c hc
  simpa using (Percent.written_encode text).alphabet c hc

/-- A character of the skeleton is as frequent there as in the path. -/
theorem count_skeleton {c : Char} (hc : ¬ Percent.Alphabet c) (path : String) :
    (skeleton path).count c = path.toList.count c :=
  List.count_filter (decide_eq_true hc)

/-- Values of one shape: two single ones, or two lists of one length. -/
inductive Value.SameShape : Value → Value → Prop
  | single {v w : String} : SameShape (.single v) (.single w)
  | list {vs ws : List String} : vs.length = ws.length → SameShape (.list vs) (.list ws)

section

variable {encode : String → String} (hencode : ∀ v, skeleton (encode v) = [])
include hencode

/-- Of joined items, the skeleton holds the joiners: one fewer than there are items. -/
theorem skeleton_intercalate (joiner : String) (items : List String) :
    skeleton (joiner.intercalate (items.map encode)) =
      (List.replicate (items.length - 1) (skeleton joiner)).flatten := by
  induction items with
  | nil => rfl
  | cons v items ih =>
    cases items with
    | nil => simp [hencode]
    | cons w items =>
      rw [List.map_cons] at ih
      rw [List.map_cons, List.map_cons, String.intercalate_cons_cons, skeleton_append,
        skeleton_append, hencode, ih]
      rfl

theorem Parameter.Renders.skeleton_eq {p : Parameter} {x y : Option Value} {s t : String}
    (hxy : Option.Rel Value.SameShape x y) (hs : p.Renders encode x s)
    (ht : p.Renders encode y t) : skeleton s = skeleton t := by
  cases hxy with
  | none =>
    cases hs with
    | leftOut => cases ht with
      | leftOut => rfl
  | some hvalue =>
    cases hvalue with
    | single =>
      cases hs with
      | single => cases ht with
        | single => simp [hencode]
    | list hlength =>
      cases hs with
      | emptied =>
        obtain rfl := List.eq_nil_of_length_eq_zero hlength.symm
        cases ht with
        | emptied => rfl
        | list _ hne => exact absurd rfl hne
      | list _ hne =>
        cases ht with
        | emptied => exact absurd (List.eq_nil_of_length_eq_zero hlength) hne
        | list =>
          rw [skeleton_append, skeleton_append, skeleton_intercalate hencode,
            skeleton_intercalate hencode, hlength]

/-- Two renderings of the same tokens have one skeleton if their values have the same shapes. -/
theorem Renders.skeleton_eq {v w : Values} {ts : List Token} {a b : String}
    (hshape : ∀ name, Option.Rel Value.SameShape (v.lookup name) (w.lookup name))
    (ha : Renders encode v ts a) (hb : Renders encode w ts b) : skeleton a = skeleton b := by
  induction ha generalizing b with
  | nil =>
    cases hb
    rfl
  | literal _ ih =>
    cases hb with
    | literal hb => rw [skeleton_append, skeleton_append, ih hb]
  | parameter hs _ ih =>
    cases hb with
    | parameter ht hb =>
      rw [skeleton_append, skeleton_append, hs.skeleton_eq hencode (hshape _) ht, ih hb]

end

namespace Template

/-- Under any values of the same shapes, encoded as usual, a template renders paths that agree in
all characters but those that values are written with. So they have as many segments. -/
theorem skeleton_eq_of_expand {o : Options} {text : String} {t : Template} {v w : Values}
    {a b : String} (h : Template.compile o text = .ok t)
    (hshape : ∀ name, Option.Rel Value.SameShape (v.lookup name) (w.lookup name))
    (ha : t.expand v = .ok a) (hb : t.expand w = .ok b) :
    skeleton a = skeleton b ∧ a.toList.count '/' = b.toList.count '/' := by
  obtain ⟨hc, -, -⟩ := compiled_of_compile h
  have heq : skeleton a = skeleton b :=
    Renders.skeleton_eq skeleton_encode hshape (hc.expandWith_eq_ok_iff.1 ha)
      (hc.expandWith_eq_ok_iff.1 hb)
  have hslash : ¬ Percent.Alphabet '/' := by decide
  exact ⟨heq, by rw [← count_skeleton hslash, heq, count_skeleton hslash]⟩

/-- Patterns that accept everything do not let a value bring in a slash. -/
theorem skeleton_eq_of_expand_of_slashes :
    ∃ t, Template.compile {} "/x/:p(.*)/:ids(.*)+" = .ok t ∧
      t.expand [("p", .single "../etc/"), ("ids", .list ["1/2", ""])] =
        .ok "/x/..%2Fetc%2F/1%2F2/" ∧
      t.expand [("p", .single ""), ("ids", .list ["é?", "#"])] = .ok "/x//%C3%A9%3F/%23" ∧
      skeleton "/x/..%2Fetc%2F/1%2F2/" = skeleton "/x//%C3%A9%3F/%23" := by
  obtain ⟨t, ht, ha, hb⟩ := exists_of_compile {} "/x/:p(.*)/:ids(.*)+"
    (p := fun t => t.expand [("p", .single "../etc/"), ("ids", .list ["1/2", ""])] =
        .ok "/x/..%2Fetc%2F/1%2F2/" ∧
      t.expand [("p", .single ""), ("ids", .list ["é?", "#"])] = .ok "/x//%C3%A9%3F/%23")
    (by decide +kernel)
  refine ⟨t, ht, ha, hb, (skeleton_eq_of_expand ht (fun name => ?_) ha hb).1⟩
  simp only [List.lookup_cons]
  cases name == "p" with
  | true => exact .some .single
  | false =>
    cases name == "ids" with
    | true => exact .some (.list rfl)
    | false => exact .none

end Template

end RouteTemplate
