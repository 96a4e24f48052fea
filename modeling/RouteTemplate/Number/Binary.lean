/-!
Binary floating-point numbers, and the one that is nearest to a decimal. All arithmetic is on
natural numbers, so nothing is lost before the one rounding.
-/

namespace RouteTemplate

/-- A format of binary numbers: finite ones are `m * 2 ^ q` with `m < 2 ^ precision`, where `q` lies
between two bounds. -/
structure BinaryFormat where
  precision : Nat
  minExponent : Int
  maxExponent : Int
  deriving DecidableEq, Repr

namespace BinaryFormat

def single : BinaryFormat := ⟨24, -149, 104⟩

def double : BinaryFormat := ⟨53, -1074, 971⟩

end BinaryFormat

inductive Binary
  | nan
  | infinite (negative : Bool)
  | finite (negative : Bool) (mantissa : Nat) (exponent : Int)
  deriving DecidableEq, Repr

/-- A positive rational number. -/
structure Quotient where
  num : Nat
  den : Nat

namespace Quotient

/-- `n * base ^ e`. -/
def scaled (n base : Nat) (e : Int) : Quotient :=
  if 0 ≤ e then ⟨n * base.pow e.toNat, 1⟩ else ⟨n, base.pow (-e).toNat⟩

def divPow (r : Quotient) (base : Nat) (e : Int) : Quotient :=
  if 0 ≤ e then ⟨r.num, r.den * base.pow e.toNat⟩ else ⟨r.num * base.pow (-e).toNat, r.den⟩

def floor (r : Quotient) : Nat := r.num / r.den

/-- The nearest natural number; of two, the even one. -/
def round (r : Quotient) : Nat :=
  let n := r.num / r.den
  let rest := 2 * (r.num % r.den)
  if rest < r.den then n
  else if r.den < rest then n + 1
  else if n % 2 = 0 then n else n + 1

end Quotient

namespace Binary

/-- The number of a format that is nearest to a positive quotient; of two, the one with even
mantissa. -/
def ofQuotient (f : BinaryFormat) (negative : Bool) (r : Quotient) : Binary :=
  let guess := max f.minExponent ((r.num.log2 : Int) - r.den.log2 - f.precision)
  let q := if Nat.pow 2 f.precision ≤ (r.divPow 2 guess).floor then guess + 1 else guess
  let m := (r.divPow 2 q).round
  let (m, q) :=
    if m = Nat.pow 2 f.precision then (Nat.pow 2 (f.precision - 1), q + 1) else (m, q)
  if f.maxExponent < q then .infinite negative else .finite negative m q

/-- The number that is nearest to `n * 10 ^ e`. Far beyond the range of a format there is no need
to compute. -/
def ofDecimal (f : BinaryFormat) (negative : Bool) (n : Nat) (e : Int) : Binary :=
  let places : Int := (toString n).length + e
  if n = 0 ∨ places < -400 then .finite negative 0 f.minExponent
  else if 400 < places then .infinite negative
  else ofQuotient f negative (.scaled n 10 e)

def isDigit (c : Char) : Bool := '0' ≤ c ∧ c ≤ '9'

def natOfDigits (ds : List Char) : Nat := ds.foldl (fun n c => 10 * n + (c.toNat - 48)) 0

/-- The exponent behind the digits of a number. -/
def exponent? : List Char → Option Int
  | [] => some 0
  | c :: rest =>
    if c = 'e' ∨ c = 'E' then
      let (negative, ds) := match rest with
        | '-' :: ds => (true, ds)
        | '+' :: ds => (false, ds)
        | ds => (false, ds)
      if ds.isEmpty || !ds.all isDigit then none
      else some (if negative then -(natOfDigits ds : Int) else natOfDigits ds)
    else none

/-- A number without its sign: digits with a point anywhere among them and perhaps an exponent, or
one of the words for infinity and for no number. -/
def readUnsigned? (f : BinaryFormat) (negative : Bool) (cs : List Char) : Option Binary :=
  let word := String.ofList (cs.map Char.toLower)
  if word = "nan" then some .nan
  else if word = "inf" ∨ word = "infinity" then some (.infinite negative)
  else
    let whole := cs.takeWhile isDigit
    let (places, rest) := match cs.dropWhile isDigit with
      | '.' :: rest => (rest.takeWhile isDigit, rest.dropWhile isDigit)
      | rest => ([], rest)
    if whole.isEmpty && places.isEmpty then none
    else (exponent? rest).map fun e =>
      ofDecimal f negative (natOfDigits (whole ++ places)) (e - places.length)

def read? (f : BinaryFormat) (text : String) : Option Binary :=
  match text.toList with
  | '-' :: rest => readUnsigned? f true rest
  | '+' :: rest => readUnsigned? f false rest
  | cs => readUnsigned? f false cs

end Binary

end RouteTemplate
