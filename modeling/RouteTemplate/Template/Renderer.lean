import RouteTemplate.Percent
import RouteTemplate.Regex
import RouteTemplate.Template.Error
import RouteTemplate.Template.Token
import RouteTemplate.Value

/-!
Rendering of values into paths. Every token gives a piece of the path or an error, and the path is
made of the pieces in order, so `renderSteps_append` splits a rendering anywhere.
-/

namespace RouteTemplate

inductive RenderError
  | missingRequired (name : String)
  | emptyRequired (name : String)
  | repeatMismatch (name : String)
  | patternMismatch (name pattern value : String)
  deriving DecidableEq, Repr

namespace RenderError

def message : RenderError → String
  | missingRequired name => "missing value for required parameter '" ++ name ++ "'"
  | emptyRequired name => "empty list for required parameter '" ++ name ++ "'"
  | repeatMismatch name =>
    "parameter '" ++ name ++ "' does not repeat but a list was given"
  | patternMismatch name pattern value =>
    "value '" ++ value ++ "' for parameter '" ++ name ++ "' does not match '" ++ pattern ++ "'"

end RenderError

/-- A token that is ready to be rendered. The validator of a parameter matches the texts that its
pattern matches as a whole. -/
inductive Step
  | literal (text : String)
  | parameter (p : Parameter) (validator : Regex)

namespace Step

def validator (p : Parameter) : Except PatternError Regex :=
  (Regex.compile true ("^(?:" ++ p.pattern ++ ")$")).mapError fun cause =>
    ⟨some p.name, p.pattern, cause⟩

def ofToken : Token → Except PatternError Step
  | .literal text => .ok (.literal text)
  | .parameter p => .parameter p <$> validator p

/-- Encodes a value, which has to match then. -/
def segment (p : Parameter) (r : Regex) (encode : String → String) (value : String) :
    Except RenderError String :=
  if r.isMatch (encode value) then .ok (encode value)
  else .error (.patternMismatch p.name p.pattern (encode value))

/-- The part of the path that a token stands for. -/
def piece (encode : String → String) (values : Values) : Step → Except RenderError String
  | literal text => .ok text
  | parameter p r =>
    match values.lookup p.name with
    | none =>
      if p.isOptional then .ok (if p.leadStays then p.lead else "")
      else .error (.missingRequired p.name)
    | some (.single value) => do
      let s ← segment p r encode value
      return p.lead ++ s
    | some (.list items) =>
      if !p.isRepeating then .error (.repeatMismatch p.name)
      else if items.isEmpty then
        if p.isOptional then .ok "" else .error (.emptyRequired p.name)
      else do
        let segments ← items.mapM (segment p r encode)
        return p.lead ++ p.joiner.intercalate segments

end Step

structure Renderer where
  steps : List Step

namespace Renderer

def ofTokens (tokens : List Token) : Except PatternError Renderer :=
  Renderer.mk <$> tokens.mapM Step.ofToken

def renderSteps (encode : String → String) (values : Values) :
    List Step → Except RenderError String
  | [] => .ok ""
  | s :: rest => do
    let a ← s.piece encode values
    let b ← renderSteps encode values rest
    return a ++ b

theorem renderSteps_append (encode : String → String) (values : Values) (xs ys : List Step) :
    renderSteps encode values (xs ++ ys) = do
      let a ← renderSteps encode values xs
      let b ← renderSteps encode values ys
      return a ++ b := by
  induction xs with
  | nil =>
    cases h : renderSteps encode values ys <;>
      simp [renderSteps, h, bind, Except.bind, pure, Except.pure]
  | cons x xs ih =>
    simp only [List.cons_append, renderSteps, ih]
    cases x.piece encode values <;> cases renderSteps encode values xs <;>
      cases renderSteps encode values ys <;>
      simp [bind, Except.bind, pure, Except.pure, String.append_assoc]

def renderWith (r : Renderer) (encode : String → String) (values : Values) :
    Except RenderError String :=
  renderSteps encode values r.steps

def render (r : Renderer) (values : Values) : Except RenderError String :=
  r.renderWith Percent.encode values

end Renderer

end RouteTemplate
