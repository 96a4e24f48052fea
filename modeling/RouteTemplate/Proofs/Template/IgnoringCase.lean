import RouteTemplate.Proofs.Regex.IgnoringCase
import RouteTemplate.Proofs.Template.DefaultPattern
import RouteTemplate.Proofs.Template.Relaxing

/-!
Templates that ignore case. A literal and the lead of a parameter then match more than before, but
the pattern of a parameter need not: a negated class loses the case forms of what it leaves out, so
`([^a])` no longer matches `A`. A template whose classes keep their characters loses no match:
`isMatch_of_ignoringCase`. The class of a default pattern does so unless the delimiter has other
case forms (`keepsClasses_defaultPattern`). Both templates are taken as built: a class of case forms
is larger than a character, so the pattern that ignores case may be too large for an engine
that takes the one that minds case.
-/

namespace RouteTemplate

open Regex
open Regex.PatternText

/-- If case is ignored, no class of the pattern loses a character. -/
def Parameter.KeepsClasses (p : Parameter) : Prop :=
  List.Forall₂ (· ⊆ ·) (classes (caseFlags true) p.pattern.toList)
    (classes (caseFlags false) p.pattern.toList)

/-! ## Walks -/

section

variable {p : Parameter} {ts : List Token} (text : List Char)

theorem textWalk_mono (s : String) :
    textWalk (caseFlags true) text s ≤ textWalk (caseFlags false) text s := by
  refine Expr.walks_mono ?_ text
  rw [List.forall₂_map_left_iff, List.forall₂_map_right_iff]
  exact List.forall₂_same.2 fun c _ => (caseFlags false).below_literal c

theorem Parameter.KeepsClasses.valueWalk_mono (hk : p.KeepsClasses)
    (hp : Enclosable p.pattern.toList) :
    p.valueWalk (caseFlags true) text ≤ p.valueWalk (caseFlags false) text := by
  rintro i j ms ⟨b, hb, hw⟩
  obtain ⟨b', hb', hbelow⟩ := exists_readBody_below (f := caseFlags false) rfl hp hk hb
  exact ⟨b', hb', hbelow.walk_le text _ _ _ hw⟩

theorem Parameter.KeepsClasses.capturedWalk_mono (hk : p.KeepsClasses)
    (hp : Enclosable p.pattern.toList) :
    p.capturedWalk (caseFlags true) text ≤ p.capturedWalk (caseFlags false) text := by
  have hvalue := hk.valueWalk_mono text hp
  unfold capturedWalk
  split
  · exact Walk.andThen_mono hvalue
      (Walk.some_mono (Walk.andThen_mono (textWalk_mono text p.lead) hvalue) _)
  · exact hvalue

theorem Parameter.KeepsClasses.walk_mono (hk : p.KeepsClasses)
    (hp : Enclosable p.pattern.toList) (g : Nat) :
    p.walk (caseFlags true) text g ≤ p.walk (caseFlags false) text g := by
  have hlead := textWalk_mono text p.lead
  have hgroup := Walk.saving_mono (hk.capturedWalk_mono text hp) g
  unfold walk
  split
  · split
    · exact Walk.andThen_mono hlead (Walk.either_mono hgroup (le_refl _))
    · exact Walk.either_mono (Walk.andThen_mono hlead hgroup) (le_refl _)
  · exact Walk.andThen_mono hlead hgroup

theorem Token.walks_mono
    (hts : ∀ p, .parameter p ∈ ts → Enclosable p.pattern.toList ∧ p.KeepsClasses) (g : Nat) :
    walks (caseFlags true) text g ts ≤ walks (caseFlags false) text g ts := by
  induction ts generalizing g with
  | nil => exact le_refl _
  | cons t ts ih =>
    have hrest := ih (fun p hp => hts p (List.mem_cons_of_mem _ hp)) (g + t.groups)
    refine Walk.andThen_mono ?_ hrest
    cases t with
    | literal s => exact textWalk_mono text s
    | parameter p =>
      obtain ⟨hp, hk⟩ := hts p (List.mem_cons_self ..)
      exact hk.walk_mono text hp g

end

/-- What the validator of a parameter accepts, its pattern accepts ignoring case. -/
theorem Parameter.KeepsClasses.accepts {p : Parameter} (hk : p.KeepsClasses)
    (hp : Enclosable p.pattern.toList) {w : String} (hw : p.Accepts true w) :
    p.Accepts false w := by
  obtain ⟨r, hr, hmatch⟩ := hw
  obtain ⟨b, hb, -, ha⟩ := exists_body hp hr true
  obtain ⟨b', hb', -, ha'⟩ := exists_body hp hr false
  obtain ⟨c, hc, hbelow⟩ := exists_readBody_below (f := caseFlags false) rfl hp hk hb
  rw [hb'] at hc
  obtain rfl := Except.ok.inj hc
  obtain ⟨ms, hwalk⟩ := (ha w).1 ⟨r, hr, hmatch⟩
  exact (ha' w).2 ⟨ms, hbelow.walk_le _ _ _ _ hwalk⟩

/-! ## The default pattern -/

theorem CharClass.folded_eq {s : CharClass} (h : s.otherForms = []) : s.folded = s := by
  refine ext_inside fun n => ?_
  rw [folded, h]
  show inside (merge or false s.points false []) n = _
  rw [inside_merge or n false false s.increasing .nil]
  simp [inside]

theorem otherForms_gathered {l : List Char} (hl : ∀ c ∈ l, Unicode.otherCases c = []) :
    (CharClass.gathered l).otherForms = [] := by
  refine List.eq_nil_iff_forall_not_mem.2 fun c hc => ?_
  obtain ⟨d, hd, hc⟩ := (CharClass.mem_otherForms_iff _ c).1 hc
  rw [hl d ((CharClass.contains_gathered l d).1 hd)] at hc
  exact absurd hc List.not_mem_nil

theorem classes_defaultPattern {f : Flags} (hv : f.verbose = false) (hu : f.unicode = true)
    {d : String} (hd : d ≠ "") :
    classes f (defaultPattern d).toList = [(f.fold (.gathered d.toList)).outside] := by
  have hbrackets (u v : ClassText) (c : Char) (rest : List Char)
      (h : u.step f c = .ok (.inl v)) :
      ({ start f with mode := .brackets u } : PatternText).classesFrom (c :: rest) =
        ({ start f with mode := .brackets v } : PatternText).classesFrom rest := by
    have hstep : ({ start f with mode := .brackets u } : PatternText).step c =
        .ok { start f with mode := .brackets v } := by
      rw [step_brackets (t := start f) hv rfl, show (start f).flags = f from rfl, h]
      rfl
    have hclass : ({ start f with mode := .brackets u } : PatternText).class? c = none := by
      simp [class?, start, h, Except.toOption]
    rw [classesFrom, hclass, hstep]
    rfl
  obtain ⟨v, hholds, hquote⟩ := exists_holds_default (t := start f) hbrackets hu d.toList
    [']', '+', '?']
  have hne : d.toList ≠ [] := fun h => hd (String.toList_inj.1 h)
  obtain ⟨height, -, hclose⟩ := hholds.step_close hu hne
  have hend : ({ start f with mode := .brackets v } : PatternText).step ']' = .ok ((start f).push
      { expr := f.ofClass (f.fold (.gathered d.toList)).outside, height := height }) := by
    rw [step_brackets (t := start f) hv rfl, show (start f).flags = f from rfl, hclose]
    rfl
  have hclass : ({ start f with mode := .brackets v } : PatternText).class? ']' =
      some (f.fold (.gathered d.toList)).outside := by
    simp [class?, start, hclose, Except.toOption]
  have hrepeat (i : Item) : ((start f).push i).classesFrom ['+', '?'] = [] := by
    rw [classesFrom, step_plus hv]
    show classesFrom _ ['?'] = []
    rw [classesFrom]
    split <;> rfl
  rw [toList_defaultPattern, classes, classesFrom, step_openBrackets hv]
  show classesFrom _ ('^' :: _) = _
  rw [hquote, classesFrom, hclass, hend]
  show _ :: classesFrom _ ['+', '?'] = _
  rw [hrepeat]

/-- The class of a default pattern leaves out the delimiter only, so it keeps its characters if the
delimiter has no other case forms. -/
theorem Parameter.keepsClasses_defaultPattern {p : Parameter} {d : String}
    (hp : p.pattern = defaultPattern d) (hd : d ≠ "")
    (hcase : ∀ c ∈ d.toList, Unicode.otherCases c = []) : p.KeepsClasses := by
  have hfold : (caseFlags false).fold (.gathered d.toList) = .gathered d.toList :=
    CharClass.folded_eq (otherForms_gathered hcase)
  rw [KeepsClasses, hp, classes_defaultPattern rfl rfl hd, classes_defaultPattern rfl rfl hd, hfold]
  exact .cons (CharClass.Subset.refl _) .nil

namespace Template

variable {o : Options} {text : String} {t t' : Template}

/-- If no class of a parameter loses a character when case is ignored, the template that ignores
case loses no match, and no pattern rejects what the validator of its parameter accepts. -/
theorem isMatch_of_ignoringCase (h : Template.compile o text = .ok t)
    (h' : Template.compile (o.apply (.caseSensitive false)) text = .ok t')
    (hcase : o.caseSensitive = true) (hkeeps : ∀ p ∈ t.keys, p.KeepsClasses) :
    (∀ path, t.isMatch path = true → t'.isMatch path = true) ∧
    ∀ p ∈ t.keys, ∀ w, p.Accepts true w → p.Accepts false w := by
  obtain ⟨hc, rfl, rfl⟩ := compiled_of_compile h
  obtain ⟨hc', ho', htext⟩ := compiled_of_compile h'
  have hts : ∀ p, .parameter p ∈ t.tokens → Enclosable p.pattern.toList ∧ p.KeepsClasses :=
    fun p hp => ⟨(hc.scanned hp).enclosable, hkeeps p (hc.mem_keys_iff.2 hp)⟩
  refine ⟨fun path => ?_, fun p hp w hw => ?_⟩
  · have hr : t.options.RelaxedTo t'.options := by
      rw [ho']
      exact ⟨fun _ => hcase, rfl, rfl, id, fun _ => id, fun _ => id⟩
    refine hc.isMatch_mono hc' htext hr ?_
    rw [Options.flags, Options.flags, hcase, ho']
    exact Token.walks_mono path.toList hts 1
  · obtain ⟨henc, hk⟩ := hts p (hc.mem_keys_iff.1 hp)
    exact hk.accepts henc hw

theorem isMatch_of_ignoringCase_of_word :
    ∃ t t', Template.compile { caseSensitive := true } "/:id/:word([a-z]+)" = .ok t ∧
      Template.compile {} "/:id/:word([a-z]+)" = .ok t' ∧
      (∀ p ∈ t.keys, p.KeepsClasses) ∧ t.isMatch "/7/abc" = true ∧ t'.isMatch "/7/abc" = true := by
  obtain ⟨t, ht, hm, hkeys⟩ := exists_of_compile { caseSensitive := true } "/:id/:word([a-z]+)"
    (p := fun t => t.isMatch "/7/abc" = true ∧
      t.keys.map Parameter.pattern = [defaultPattern "/", "[a-z]+"]) (by decide +kernel)
  have hword : List.Forall₂ (· ⊆ ·) (classes (caseFlags true) "[a-z]+".toList)
      (classes (caseFlags false) "[a-z]+".toList) := by
    have hleft : classes (caseFlags true) "[a-z]+".toList = [.range 'a' 'z'] := by decide +kernel
    have hright : classes (caseFlags false) "[a-z]+".toList =
        [(CharClass.range 'a' 'z').folded] := by decide +kernel
    rw [hleft, hright]
    exact .cons (CharClass.subset_folded _) .nil
  have hslash : ∀ c ∈ "/".toList, Unicode.otherCases c = [] := by
    rw [show "/".toList = ['/'] from rfl, List.forall_mem_singleton]
    decide
  have hkeeps : ∀ p ∈ t.keys, p.KeepsClasses := by
    intro p hp
    have hpattern := List.mem_map_of_mem (f := Parameter.pattern) hp
    rw [hkeys] at hpattern
    rcases List.mem_cons.1 hpattern with hpattern | hpattern
    · exact Parameter.keepsClasses_defaultPattern hpattern (by decide) hslash
    · rw [Parameter.KeepsClasses, List.mem_singleton.1 hpattern]
      exact hword
  obtain ⟨t', ht', -⟩ := exists_of_compile {} "/:id/:word([a-z]+)"
    (p := fun _ => True) (by decide +kernel)
  obtain ⟨hpaths, -⟩ := isMatch_of_ignoringCase ht ht' rfl hkeeps
  exact ⟨t, t', ht, ht', hkeeps, hm, hpaths _ hm⟩

/-- A negated class loses the case forms of what it leaves out, and the template loses a match. -/
theorem isMatch_lost_by_ignoringCase :
    ∃ t t', Template.compile { caseSensitive := true } "([^a])" = .ok t ∧
      Template.compile {} "([^a])" = .ok t' ∧ t.isMatch "A" = true ∧ t'.isMatch "A" = false := by
  obtain ⟨t, ht, hm⟩ := exists_of_compile { caseSensitive := true } "([^a])"
    (p := fun t => t.isMatch "A" = true) (by decide +kernel)
  obtain ⟨t', ht', hm'⟩ := exists_of_compile {} "([^a])"
    (p := fun t => t.isMatch "A" = false) (by decide +kernel)
  exact ⟨t, t', ht, ht', hm, hm'⟩

end Template

end RouteTemplate
