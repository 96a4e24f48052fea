/-!
The options of a template: how it is cut into tokens and what may follow a match. `validate_ok_iff`
says which options are valid.
-/

namespace RouteTemplate

structure Options where
  /-- Letter case has to agree. -/
  caseSensitive : Bool := false
  /-- No delimiter is tolerated behind a match. -/
  strict : Bool := false
  /-- A match goes to the end of the path or to an end marker; otherwise a delimiter may follow. -/
  matchEnd : Bool := true
  /-- What joins repeated values that have no prefix of their own. -/
  delimiter : String := "/"
  /-- Texts that end a match as the end of the path does. -/
  endsWith : Option (List String) := none
  /-- The characters that become the prefix of a parameter right behind them. -/
  delimiters : String := "./"
  deriving DecidableEq, Repr, Inhabited

inductive OptionsError
  | emptyDelimiter
  | emptyMarker (index : Nat)
  deriving DecidableEq, Repr

namespace OptionsError

def message : OptionsError → String
  | emptyDelimiter => "delimiter must not be empty"
  | emptyMarker index => "end marker at index " ++ toString index ++ " must not be empty"

end OptionsError

namespace Options

/-- The end markers, none by default. -/
def markers (o : Options) : List String := o.endsWith.getD []

def isDelimiter (o : Options) (c : Char) : Bool := o.delimiters.toList.contains c

/-- Neither the delimiter nor an end marker may be empty. -/
def validate (o : Options) : Except OptionsError Unit :=
  if o.delimiter = "" then .error .emptyDelimiter
  else match o.markers.findIdx? (· = "") with
    | some i => .error (.emptyMarker i)
    | none => .ok ()

theorem validate_ok_iff (o : Options) :
    o.validate = .ok () ↔ o.delimiter ≠ "" ∧ ∀ m ∈ o.markers, m ≠ "" := by
  unfold validate
  split
  next h => simp [h]
  next h =>
    cases hi : o.markers.findIdx? (· = "") with
    | none =>
      have := List.findIdx?_eq_none_iff.1 hi
      simp_all
    | some i =>
      obtain ⟨hi, hm, _⟩ := List.findIdx?_eq_some_iff_getElem.1 hi
      simp only [reduceCtorEq, false_iff, not_and]
      exact fun _ hall => hall _ (List.getElem_mem hi) (by simpa using hm)

/-- A change of one option. -/
inductive Setting
  | caseSensitive (value : Bool)
  | strict (value : Bool)
  | matchEnd (value : Bool)
  | delimiter (text : String)
  | endsWith (markers : List String)
  | delimiters (text : String)
  deriving DecidableEq, Repr

def apply (o : Options) : Setting → Options
  | .caseSensitive value => { o with caseSensitive := value }
  | .strict value => { o with strict := value }
  | .matchEnd value => { o with matchEnd := value }
  | .delimiter text => { o with delimiter := text }
  | .endsWith markers => { o with endsWith := some markers }
  | .delimiters text => { o with delimiters := text }

/-- The default options with some settings changed in turn, if they are valid. -/
def build (settings : List Setting) : Except OptionsError Options := do
  let o := settings.foldl apply {}
  o.validate
  return o

end Options

end RouteTemplate
