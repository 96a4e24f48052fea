/-!
JSON values, as far as options are stored in them: numbers carry nothing, and a text that is not
made of characters (half of a surrogate pair by itself) is there but has no content.
-/

namespace RouteTemplate

inductive Json
  | null
  | bool (b : Bool)
  | number
  | string (text : Option String)
  | array (items : List Json)
  | object (members : List (Option String × Json))
  deriving Inhabited

namespace Json

def bool? : Json → Option Bool
  | bool b => some b
  | _ => none

def string? : Json → Option String
  | string text => text
  | _ => none

def strings? : Json → Option (List String)
  | array items => items.mapM string?
  | _ => none

end Json

end RouteTemplate
