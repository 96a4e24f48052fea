import RouteTemplate.Template.Token

/-!
The pattern of a whole template. Literals are quoted, a parameter becomes a group that captures its
values, and the end of the pattern says what may follow. All of it is consumed: nothing comes behind
the end, so looking ahead would accept the same paths with the same captures.
-/

namespace RouteTemplate

/-- The pattern of a template, and the parameters in the order of their groups. -/
structure Source where
  text : String
  keys : List Parameter
  deriving DecidableEq, Repr

namespace Source

/-- What a group captures: one value, or values apart by the lead. -/
def captured (p : Parameter) : String :=
  if p.isRepeating then
    "(?:" ++ p.pattern ++ ")(?:" ++ Regex.quote p.lead ++ "(?:" ++ p.pattern ++ "))*"
  else p.pattern

/-- The pattern of a parameter. A lead that stays is outside of what may be left out. -/
def parameter (p : Parameter) : String :=
  let lead := Regex.quote p.lead
  let group := "(" ++ captured p ++ ")"
  if p.isOptional then
    if p.leadStays then lead ++ group ++ "?" else "(?:" ++ lead ++ group ++ ")?"
  else lead ++ group

def token : Token → String
  | .literal text => Regex.quote text
  | .parameter p => parameter p

/-- Whether a token is literal text that ends in a delimiter. -/
def endsDelimited (o : Options) : Option Token → Bool
  | some (.literal text) => text.toList.getLast?.any o.isDelimiter
  | _ => false

def markers (o : Options) : String :=
  "|".intercalate (o.markers.map Regex.quote ++ ["$"])

/-- What may follow the tokens: at the end, a delimiter unless matching is strict, and then the end
of the path or a marker; otherwise one of all these, unless the template itself ends in a
delimiter. -/
def terminator (o : Options) (delimited : Bool) : String :=
  if o.matchEnd then
    (if o.strict then "" else "(?:" ++ Regex.quote o.delimiter ++ ")?") ++
      (if o.markers.isEmpty then "$" else "(?:" ++ markers o ++ ")")
  else if delimited then ""
  else "(?:" ++ Regex.quote o.delimiter ++ "|" ++ markers o ++ ")"

def ofTokens (o : Options) (tokens : List Token) : Source :=
  { text := "^" ++ String.join (tokens.map token) ++
      terminator o (endsDelimited o tokens.getLast?)
    keys := tokens.filterMap Token.parameter? }

end Source

end RouteTemplate
