import RouteTemplate.Options
import RouteTemplate.Regex.Quote

/-!
The tokens of a template: literal text and parameters.
-/

namespace RouteTemplate

/-- How many values a parameter takes. -/
inductive Quantifier
  | one
  | zeroOrOne
  | zeroOrMore
  | oneOrMore
  deriving DecidableEq, Repr, Inhabited

namespace Quantifier

def ofModifier : Option Char → Quantifier
  | some '?' => zeroOrOne
  | some '*' => zeroOrMore
  | some '+' => oneOrMore
  | _ => one

/-- A text that is no modifier means one value. -/
def ofText (modifier : String) : Quantifier :=
  match modifier.toList with
  | [c] => ofModifier (some c)
  | _ => one

/-- How the quantifier is written behind a parameter. -/
def modifier : Quantifier → List Char
  | one => []
  | zeroOrOne => ['?']
  | zeroOrMore => ['*']
  | oneOrMore => ['+']

def isOptional : Quantifier → Bool
  | zeroOrOne | zeroOrMore => true
  | one | oneOrMore => false

def isRepeating : Quantifier → Bool
  | zeroOrMore | oneOrMore => true
  | one | zeroOrOne => false

end Quantifier

structure Parameter where
  /-- The declared name, or the number of an unnamed parameter. -/
  name : String
  /-- The delimiter right before the parameter, which belongs to it; may be empty. -/
  lead : String
  /-- What stands between repeated values. -/
  joiner : String
  quantifier : Quantifier
  /-- The lead has a meaning by itself and stays when the value is left out. -/
  leadStays : Bool
  /-- What a single value has to match. -/
  pattern : String
  deriving DecidableEq, Repr, Inhabited

namespace Parameter

def isOptional (p : Parameter) : Bool := p.quantifier.isOptional

def isRepeating (p : Parameter) : Bool := p.quantifier.isRepeating

end Parameter

inductive Token
  | literal (text : String)
  | parameter (p : Parameter)
  deriving DecidableEq, Repr, Inhabited

namespace Token

def parameter? : Token → Option Parameter
  | literal _ => none
  | parameter p => some p

end Token

/-- Any text without the characters of the delimiter, as short as possible. -/
def defaultPattern (delimiter : String) : String := "[^" ++ Regex.quote delimiter ++ "]+?"

end RouteTemplate
