/-!
Values bound to parameters.
-/

namespace RouteTemplate

inductive Value
  | single (text : String)
  | list (items : List String)
  deriving DecidableEq, Repr, Inhabited

/-- Values by parameter name; the first one counts. -/
abbrev Values := List (String × Value)

end RouteTemplate
