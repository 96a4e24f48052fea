import RouteTemplate.Template.Extractor
import RouteTemplate.Template.Renderer
import RouteTemplate.Template.Scanner

/-!
Templates such as `/artist/:artistId/album/:albumId`: compiled once, they extract parameters from
paths and render parameters into paths. Two templates are the same if their texts and their options
are.
-/

namespace RouteTemplate

structure Template where
  text : String
  options : Options
  tokens : List Token
  extractor : Extractor
  renderer : Renderer

namespace Template

/-- Checks the options, then the pattern of each parameter by itself, then the whole. -/
def compile (o : Options) (text : String) : Except TemplateError Template := do
  o.validate.mapError .options
  let tokens := Token.ofTemplate o text
  let renderer ← (Renderer.ofTokens tokens).mapError .pattern
  let extractor ← (Extractor.ofTokens o tokens).mapError .pattern
  return ⟨text, o, tokens, extractor, renderer⟩

def keys (t : Template) : List Parameter := t.extractor.keys

/-- The names of the parameters in order; unnamed ones are numbered from 0. -/
def parameterNames (t : Template) : List String := t.keys.map Parameter.name

/-- The pattern that paths are matched with. -/
def pattern (t : Template) : String := t.extractor.regex.pattern

def isMatch (t : Template) (path : String) : Bool := t.extractor.isMatch path

def extract (t : Template) (path : String) : Params := t.extractor.extract path

/-- Like `extract`, with every value percent-decoded. -/
def extractDecoded (t : Template) (path : String) : Params :=
  t.extractor.extractWith Percent.decode path

/-- The path of some values, each encoded in the given way. -/
def expandWith (t : Template) (encode : String → String) (values : Values) :
    Except RenderError String :=
  t.renderer.renderWith encode values

/-- The path of some values, each percent-encoded. -/
def expand (t : Template) (values : Values) : Except RenderError String :=
  t.renderer.render values

def expandWith? (t : Template) (encode : String → String) (values : Values) : Option String :=
  (t.expandWith encode values).toOption

def expand? (t : Template) (values : Values) : Option String := (t.expand values).toOption

instance : BEq Template where
  beq s t := s.text == t.text && s.options == t.options

instance : ToString Template where
  toString t := t.text

theorem beq_iff (s t : Template) : (s == t) = true ↔ s.text = t.text ∧ s.options = t.options := by
  show (s.text == t.text && s.options == t.options) = true ↔ _
  simp

/-- How many different templates there are in a list. -/
def countDistinct (ts : List Template) : Nat := ts.eraseDups.length

end Template

end RouteTemplate
