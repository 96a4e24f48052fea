import RouteTemplate.Proofs.Regex.LetterCase
import RouteTemplate.Proofs.Regex.Search
import RouteTemplate.Proofs.Template.Language

/-!
The values of a parameter. `exists_body` says that whatever validator a pattern has, the pattern can
be read by itself, with and without regard to letter case, and that it accepts the texts that it
matches as a whole.
-/

namespace RouteTemplate

open Regex
open Regex.PatternText (readBody maxHeight map_height_readBody)

theorem Regex.compile_eq_ok_iff {caseSensitive : Bool} {pattern : String} {r : Regex} :
    Regex.compile caseSensitive pattern = .ok r ↔
      ∃ e, Expr.read (caseFlags caseSensitive) pattern.toList = .ok e ∧
        r = { pattern := pattern, expr := e, program := e.program } := by
  unfold Regex.compile caseFlags
  rw [Except.bind_eq_ok_iff]
  constructor
  · rintro ⟨e, he, h⟩
    exact ⟨e, he, (Except.ok.inj h).symm⟩
  · rintro ⟨e, he, rfl⟩
    exact ⟨e, he, rfl⟩

theorem toList_validator (pattern : String) :
    ("^(?:" ++ pattern ++ ")$").toList = anchored pattern.toList := by
  simp [anchored, grouped]

/-- An expression between the ends of a text matches the whole text. -/
theorem walk_anchored_iff {e : Expr} {text : List Char} :
    (∃ i j ms, i ≤ text.length ∧
      (Expr.seq [.look .textStart, e, .look .textEnd]).walk text i j ms) ↔ e.Matches text := by
  have hend {k j : Nat} {ms : List (Nat × Nat)} (hk : k ≤ text.length) :
      Expr.walks text [.look .textEnd] k j ms ↔ k = text.length ∧ j = k ∧ ms = [] := by
    rw [Expr.walks_singleton, Expr.walk_textEnd_iff hk]
  constructor
  · rintro ⟨i, j, ms, hi, hw⟩
    rw [Expr.walk_seq] at hw
    obtain ⟨k, ns, os, hstart, ⟨l, ns', os', he, hlast, rfl⟩, rfl⟩ := hw
    obtain ⟨rfl, rfl, rfl⟩ := (Expr.walk_textStart_iff hi).1 hstart
    have hl := (Expr.walk_forward text e _ _ _ he).2 hi
    obtain ⟨rfl, rfl, rfl⟩ := (hend hl).1 hlast
    exact ⟨_, he⟩
  · rintro ⟨ms, he⟩
    refine ⟨0, text.length, ms, Nat.zero_le _, ?_⟩
    rw [Expr.walk_seq]
    refine ⟨0, [], ms, (Expr.walk_textStart_iff (Nat.zero_le _)).2 ⟨rfl, rfl, rfl⟩, ?_, by simp⟩
    exact ⟨text.length, ms, [], he, (hend (Nat.le_refl _)).2 ⟨rfl, rfl, rfl⟩, rfl⟩

/-- The pattern of a parameter that has a validator, read by itself. -/
theorem exists_body {p : Parameter} (hp : Enclosable p.pattern.toList) {r : Regex}
    (hr : Regex.compile true ("^(?:" ++ p.pattern ++ ")$") = .ok r) (caseSensitive : Bool) :
    ∃ b, readBody (caseFlags caseSensitive) p.pattern.toList = .ok b ∧
      b.height + 2 ≤ maxHeight ∧
      ∀ w, p.Accepts caseSensitive w ↔ b.expr.Matches w.toList := by
  obtain ⟨e, he, -⟩ := Regex.compile_eq_ok_iff.1 hr
  rw [toList_validator] at he
  obtain ⟨b, hb, hh, -⟩ := (Expr.read_anchored_iff rfl hp).1 he
  -- letter case changes the classes of a pattern but not its nesting
  have hsame := map_height_readBody (caseFlags caseSensitive) p.pattern.toList
  have hflags : (caseFlags caseSensitive).shape = caseFlags true := rfl
  rw [hflags, hb] at hsame
  cases hc : readBody (caseFlags caseSensitive) p.pattern.toList with
  | error err => simp [hc, Except.map] at hsame
  | ok c =>
    have hheight : b.height = c.height := by simpa [hc, Except.map] using hsame
    refine ⟨c, rfl, by omega, fun w => ?_⟩
    have hread := (Expr.read_anchored_iff rfl hp).2 ⟨c, hc, by omega, rfl⟩
    rw [← toList_validator] at hread
    rw [Parameter.Accepts, ← walk_anchored_iff]
    constructor
    · rintro ⟨r', hr', hw⟩
      obtain ⟨e', he', rfl⟩ := Regex.compile_eq_ok_iff.1 hr'
      rw [hread] at he'
      obtain rfl := Except.ok.inj he'
      exact (Regex.isMatch_iff _ w).1 hw
    · intro hw
      exact ⟨_, Regex.compile_eq_ok_iff.2 ⟨_, hread, rfl⟩, (Regex.isMatch_iff _ w).2 hw⟩

end RouteTemplate
