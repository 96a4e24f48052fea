import RouteTemplate.Number.Binary

/-!
The shortest decimal text of a binary number: of all decimals that are read back as the number,
those with the fewest digits, and of these the nearest. It is written without an exponent.
-/

namespace RouteTemplate.Binary

/-- The positive reals that are nearest to a number, all over one denominator: the number itself and
the ends of the interval, which belong to it if `closed` holds. -/
structure Neighbourhood where
  low : Nat
  value : Nat
  high : Nat
  den : Nat
  closed : Bool

/-- The gap below a power of two is half as wide as the one above. -/
def neighbourhood (f : BinaryFormat) (m : Nat) (q : Int) : Neighbourhood :=
  let below := if m = Nat.pow 2 (f.precision - 1) ∧ f.minExponent < q then 1 else 2
  let unit := Quotient.scaled 1 2 (q - 2)
  ⟨(4 * m - below) * unit.num, 4 * m * unit.num, (4 * m + 2) * unit.num, unit.den, m % 2 == 0⟩

namespace Neighbourhood

/-- Whether `n * 10 ^ e` lies in the interval. -/
def contains (h : Neighbourhood) (n : Nat) (e : Int) : Bool :=
  let r := Quotient.scaled n 10 e
  let x := r.num * h.den
  let low := h.low * r.den
  let high := h.high * r.den
  if h.closed then low ≤ x && x ≤ high else low < x && x < high

/-- The multiple of `10 ^ e` in the interval that is nearest to the number, the larger of two. -/
def onGrid? (h : Neighbourhood) (e : Int) : Option Nat :=
  let r := (Quotient.mk h.value h.den).divPow 10 e
  let n := r.floor
  let nearest := if r.den ≤ 2 * (r.num % r.den) then [n + 1, n] else [n, n + 1]
  nearest.find? fun n => h.contains n e

/-- Tries ever finer grids. -/
def search (h : Neighbourhood) : Nat → Int → Nat × Int
  | 0, e => (0, e)
  | fuel + 1, e =>
    match h.onGrid? e with
    | some n => (n, e)
    | none => h.search fuel (e - 1)

end Neighbourhood

/-- An exponent at which the grid is coarser than the number. -/
def startExponent (m : Nat) (q : Int) : Int :=
  let bits : Int := m.log2 + q
  (if 0 ≤ bits then bits * 30103 / 100000 else -(-bits * 30102 / 100000)) + 2

/-- `n * 10 ^ e` without an exponent. -/
def positional (n : Nat) (e : Int) : String :=
  let ds := (toString n).toList
  if 0 ≤ e then .ofList (ds ++ List.replicate e.toNat '0')
  else
    let places := (-e).toNat
    let padded := List.replicate (places + 1 - ds.length) '0' ++ ds
    let whole := padded.take (padded.length - places)
    let fraction := (padded.drop (padded.length - places)).reverse.dropWhile (· == '0')
    if fraction.isEmpty then .ofList whole else .ofList (whole ++ '.' :: fraction.reverse)

/-- The shortest text of a number. -/
def render (f : BinaryFormat) : Binary → String
  | nan => "NaN"
  | infinite negative => if negative then "-inf" else "inf"
  | finite negative m q =>
    let (n, e) :=
      if m = 0 then (0, 0) else (neighbourhood f m q).search 40 (startExponent m q)
    (if negative then "-" else "") ++ positional n e

end RouteTemplate.Binary
