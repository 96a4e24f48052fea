import RouteTemplate.Regex
import RouteTemplate.Template.Error
import RouteTemplate.Template.Source

/-!
Extraction of parameters from paths. `lookup_insert` says how a later parameter takes the place of
an earlier one of its name.
-/

namespace RouteTemplate

/-- The values of parameters by name; no name occurs twice. -/
abbrev Params := List (String × String)

namespace Params

def insert (ps : Params) (name value : String) : Params :=
  (name, value) :: ps.filter fun p => p.1 != name

theorem lookup_insert (ps : Params) (name value other : String) :
    (ps.insert name value).lookup other = if other = name then some value else ps.lookup other := by
  unfold insert
  split
  next h => simp [h]
  next h =>
    have hb : (other == name) = false := by simpa using h
    simp only [List.lookup_cons, hb]
    induction ps with
    | nil => rfl
    | cons p ps ih =>
      obtain ⟨n, v⟩ := p
      by_cases hn : n = name
      · simpa [hn, List.lookup_cons, hb] using ih
      · cases ho : other == n <;> simp [hn, List.lookup_cons, ho, ih]

end Params

/-- A compiled template pattern with the parameters that its groups capture: key `i` is read from
group `i + 1`. -/
structure Extractor where
  regex : Regex
  keys : List Parameter

namespace Extractor

/-- Reads a pattern as a whole. -/
def compile (o : Options) (pattern : String) : Except PatternError Regex :=
  (Regex.compile o.caseSensitive pattern).mapError fun cause => ⟨none, pattern, cause⟩

def ofTokens (o : Options) (tokens : List Token) : Except PatternError Extractor := do
  let source := Source.ofTokens o tokens
  let regex ← compile o source.text
  return ⟨regex, source.keys⟩

def isMatch (x : Extractor) (path : String) : Bool := x.regex.isMatch path

/-- Binds a key to what its group captured. An optional one that was left out is empty. -/
def bind (decode : String → String) (m : Captures) (ps : Params) (key : Parameter × Nat) : Params :=
  match m.group? (key.2 + 1) with
  | some value => ps.insert key.1.name (decode value)
  | none => if key.1.isOptional then ps.insert key.1.name "" else ps

/-- The parameters of a path, with their values decoded. A path that does not match has none. -/
def extractWith (x : Extractor) (decode : String → String) (path : String) : Params :=
  match x.regex.find? path with
  | none => []
  | some m => x.keys.zipIdx.foldl (bind decode m) []

def extract (x : Extractor) (path : String) : Params := x.extractWith id path

end Extractor

end RouteTemplate
