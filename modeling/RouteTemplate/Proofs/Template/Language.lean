import Mathlib.Data.List.Forall2
import RouteTemplate.Proofs.Regex.Walk
import RouteTemplate.Template

/-!
The language of a template, apart from any pattern. `Spells` says which texts the tokens stand for,
and which values the parameters take in them; `Options.Ends` says what may follow. Texts are
compared as the options say: by equality, or up to the case forms of their characters.
-/

namespace RouteTemplate

/-- The flags that a choice of letter case sets. -/
def caseFlags (caseSensitive : Bool) : Regex.Flags := { ignoreCase := !caseSensitive }

namespace Options

/-- The flags that the pattern of a template is read with. -/
def flags (o : Options) : Regex.Flags := caseFlags o.caseSensitive

/-- The character `d` may stand where a template has `c`. -/
def SameChar (o : Options) (c d : Char) : Prop :=
  d = c ∨ o.caseSensitive = false ∧ d ∈ Unicode.otherCases c

/-- The text `t` may stand where a template has `s`. -/
def SameText (o : Options) (s t : String) : Prop := List.Forall₂ o.SameChar s.toList t.toList

theorem SameText.refl (o : Options) (s : String) : o.SameText s s :=
  List.forall₂_same.2 fun _ _ => .inl rfl

theorem sameText_iff {o : Options} (h : o.caseSensitive = true) (s t : String) :
    o.SameText s t ↔ t = s := by
  constructor
  · intro hst
    have heq : List.Forall₂ Eq s.toList t.toList :=
      hst.imp fun c d hcd => hcd.elim Eq.symm fun hi => by simp [h] at hi
    rw [List.forall₂_eq_eq_eq] at heq
    exact (String.toList_inj.1 heq).symm
  · rintro rfl
    exact SameText.refl o t

theorem sameText_congr {o o' : Options} (h : o'.caseSensitive = o.caseSensitive) :
    o'.SameText = o.SameText := by
  have hchar : o'.SameChar = o.SameChar := by
    funext c d
    rw [SameChar, SameChar, h]
  funext s t
  rw [SameText, SameText, hchar]

/-- The path ends here, or an end marker follows. -/
def AtEnd (o : Options) (t : String) : Prop :=
  t = "" ∨ ∃ m ∈ o.markers, ∃ s r, o.SameText m s ∧ t = s ++ r

theorem AtEnd.eq_empty {o : Options} {t : String} (h : o.AtEnd t) (hmarkers : o.markers = []) :
    t = "" := by
  rcases h with h | ⟨m, hm, -⟩
  · exact h
  · rw [hmarkers] at hm
    exact absurd hm List.not_mem_nil

/-- What may follow the tokens, the last of which ends in a delimiter or does not. -/
def Ends (o : Options) (delimited : Bool) (t : String) : Prop :=
  if o.matchEnd then
    o.AtEnd t ∨ o.strict = false ∧ ∃ s r, o.SameText o.delimiter s ∧ t = s ++ r ∧ o.AtEnd r
  else
    delimited = true ∨ o.AtEnd t ∨ ∃ s r, o.SameText o.delimiter s ∧ t = s ++ r

end Options

namespace Parameter

/-- A text matches the pattern of the parameter as a whole. -/
def Accepts (caseSensitive : Bool) (p : Parameter) (w : String) : Prop :=
  ∃ r, Regex.compile caseSensitive ("^(?:" ++ p.pattern ++ ")$") = .ok r ∧ r.isMatch w = true

theorem accepts_iff {p : Parameter} {caseSensitive : Bool} {r : Regex}
    (hr : Regex.compile caseSensitive ("^(?:" ++ p.pattern ++ ")$") = .ok r) (w : String) :
    p.Accepts caseSensitive w ↔ r.isMatch w = true := by
  constructor
  · rintro ⟨r', hr', hw⟩
    rw [hr] at hr'
    obtain rfl := Except.ok.inj hr'
    exact hw
  · intro hw
    exact ⟨r, hr, hw⟩

theorem accepts_iff_any (caseSensitive : Bool) (p : Parameter) (w : String) :
    p.Accepts caseSensitive w ↔
      (Regex.compile caseSensitive ("^(?:" ++ p.pattern ++ ")$")).toOption.any
        (fun r => r.isMatch w) = true := by
  unfold Accepts
  cases Regex.compile caseSensitive ("^(?:" ++ p.pattern ++ ")$") with
  | error err => simp [Except.toOption]
  | ok r => simp [Except.toOption]

instance (caseSensitive : Bool) (p : Parameter) (w : String) :
    Decidable (p.Accepts caseSensitive w) :=
  decidable_of_iff _ (accepts_iff_any caseSensitive p w).symm

/-- The pattern of the parameter has neither anchors nor word boundaries. -/
def LookFree (caseSensitive : Bool) (p : Parameter) : Prop :=
  ∀ e, Regex.Expr.read (caseFlags caseSensitive) p.pattern.toList = .ok e → e.lookFree = true

theorem lookFree_iff (caseSensitive : Bool) (p : Parameter) :
    p.LookFree caseSensitive ↔
      (Regex.Expr.read (caseFlags caseSensitive) p.pattern.toList).toOption.all
        Regex.Expr.lookFree = true := by
  unfold LookFree
  cases Regex.Expr.read (caseFlags caseSensitive) p.pattern.toList with
  | error err => simp [Except.toOption]
  | ok e => simp [Except.toOption]

instance (caseSensitive : Bool) (p : Parameter) : Decidable (p.LookFree caseSensitive) :=
  decidable_of_iff _ (lookFree_iff caseSensitive p).symm

/-- One value or more, with the lead between them. -/
inductive Run (o : Options) (p : Parameter) : String → Prop
  | one {v : String} : p.Accepts o.caseSensitive v → Run o p v
  | more {v s r : String} : p.Accepts o.caseSensitive v → o.SameText p.lead s → Run o p r →
      Run o p (v ++ s ++ r)

/-- What the group of a parameter takes: one value or, if it repeats, a run of them. -/
def Takes (o : Options) (p : Parameter) (v : String) : Prop :=
  if p.isRepeating then p.Run o v else p.Accepts o.caseSensitive v

/-- What a parameter stands for, with the text that it takes, if any. -/
inductive Spells (o : Options) (p : Parameter) : Option String → String → Prop
  | present {s v : String} : o.SameText p.lead s → p.Takes o v → Spells o p (some v) (s ++ v)
  | absent {s : String} : p.isOptional = true →
      (if p.leadStays then o.SameText p.lead s else s = "") → Spells o p none s

end Parameter

/-- What tokens stand for, with the texts that the parameters take in it, if any. -/
inductive Spells (o : Options) : List Token → List (Option String) → String → Prop
  | nil : Spells o [] [] ""
  | literal {text s r : String} {ts : List Token} {vs : List (Option String)} :
      o.SameText text s → Spells o ts vs r → Spells o (.literal text :: ts) vs (s ++ r)
  | parameter {p : Parameter} {s r : String} {v : Option String} {ts : List Token}
      {vs : List (Option String)} :
      p.Spells o v s → Spells o ts vs r → Spells o (.parameter p :: ts) (v :: vs) (s ++ r)

end RouteTemplate
