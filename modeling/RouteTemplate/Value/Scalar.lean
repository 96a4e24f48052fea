import RouteTemplate.Number.Shortest
import RouteTemplate.Value

/-!
Scalars that can be bound to parameters, and the texts that they are bound as.
-/

namespace RouteTemplate

inductive Scalar
  | integer (n : Int)
  | binary (format : BinaryFormat) (b : Binary)
  | truth (b : Bool)
  | character (c : Char)
  | text (s : String)
  deriving DecidableEq, Repr

namespace Scalar

inductive Kind
  | integer
  | binary (format : BinaryFormat)
  | truth
  | character
  | text
  deriving DecidableEq, Repr

def integer? (text : String) : Option Int :=
  let digits? (ds : List Char) : Option Nat :=
    if ds.isEmpty || !ds.all Binary.isDigit then none else some (Binary.natOfDigits ds)
  match text.toList with
  | '-' :: ds => (digits? ds).map fun n => -(n : Int)
  | '+' :: ds => (digits? ds).map Int.ofNat
  | ds => (digits? ds).map Int.ofNat

/-- Reads a scalar of a kind. -/
def read? (kind : Kind) (s : String) : Option Scalar :=
  match kind with
  | .integer => (integer? s).map .integer
  | .binary f => (Binary.read? f s).map (.binary f)
  | .truth =>
    match s with
    | "true" => some (.truth true)
    | "false" => some (.truth false)
    | _ => none
  | .character =>
    match s.toList with
    | [c] => some (.character c)
    | _ => none
  | .text => some (.text s)

def render : Scalar → String
  | integer n => toString n
  | binary f b => b.render f
  | truth b => if b then "true" else "false"
  | character c => .singleton c
  | text s => s

end Scalar

namespace Value

def ofScalar (s : Scalar) : Value := single s.render

def ofScalars (l : List Scalar) : Value := list (l.map Scalar.render)

end Value

end RouteTemplate
