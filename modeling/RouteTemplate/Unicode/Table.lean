import RouteTemplate.CharClass

/-!
Tables of code points. A table is written as ranges in hexadecimal, such as `30-39 5F`, in
increasing order, and is found by any of its names.
-/

namespace RouteTemplate.Unicode

def hexDigit? (c : Char) : Option Nat :=
  if '0' ≤ c ∧ c ≤ '9' then some (c.toNat - 48)
  else if 'A' ≤ c ∧ c ≤ 'F' then some (c.toNat - 55)
  else if 'a' ≤ c ∧ c ≤ 'f' then some (c.toNat - 87)
  else none

/-- A table that has been read in part: the finished ranges, latest first, the lower end of the
current one if it is written out, and the digits of the current number. -/
structure RangeText where
  done : List (Nat × Nat) := []
  low : Option Nat := none
  number : Nat := 0
  digits : Bool := false

namespace RangeText

def close (t : RangeText) : RangeText :=
  if t.digits then { done := (t.low.getD t.number, t.number) :: t.done } else t

def step (t : RangeText) (c : Char) : RangeText :=
  match hexDigit? c with
  | some d => { t with number := 16 * t.number + d, digits := true }
  | none =>
    if c = '-' then { done := t.done, low := some t.number } else t.close

end RangeText

/-- The ranges that a text lists: numbers or `low-high` pairs in hexadecimal, apart by blanks. -/
def rangesOfText (text : String) : List (Nat × Nat) :=
  (text.foldl RangeText.step {}).close.done.reverse

/-- A table of code points under its names, which are in loose form: lower case, without spaces,
hyphens and underscores. -/
structure NamedTable where
  names : List String
  text : String

namespace NamedTable

def charClass (t : NamedTable) : CharClass := .ofRanges (rangesOfText t.text)

def find? (tables : List NamedTable) (name : String) : Option NamedTable :=
  tables.find? fun t => t.names.contains name

/-- The class of the table with this name; a name that no table has stands for no characters. -/
def charClassOf (tables : List NamedTable) (name : String) : CharClass :=
  match find? tables name with
  | some t => t.charClass
  | none => .empty

end NamedTable

end RouteTemplate.Unicode
