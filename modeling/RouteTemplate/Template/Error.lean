import RouteTemplate.Options
import RouteTemplate.Regex.Error

/-!
Why a template cannot be built.
-/

namespace RouteTemplate

/-- A pattern that cannot be read: that of a parameter, or else a whole one. -/
structure PatternError where
  name : Option String
  pattern : String
  cause : Regex.Error
  deriving DecidableEq, Repr

namespace PatternError

/-- The wording up to where the cause would be told. -/
def message (e : PatternError) : String :=
  let place := match e.name with
    | some name => " for parameter '" ++ name ++ "'"
    | none => ""
  "invalid pattern" ++ place ++ " '" ++ e.pattern ++ "': "

end PatternError

inductive TemplateError
  | options (e : OptionsError)
  | pattern (e : PatternError)
  deriving DecidableEq, Repr

namespace TemplateError

def message : TemplateError → String
  | options e => e.message
  | pattern e => e.message

end TemplateError

end RouteTemplate
