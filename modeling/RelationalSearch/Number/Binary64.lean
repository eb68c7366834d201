import RelationalSearch.Number.Nearest

/-!
# Floating-point numbers of double precision

A finite number is kept exactly, as `mantissa · 2 ^ exponent` with a sign; the
mantissa has 53 bits unless the number is so small that its exponent cannot
sink further. A decimal is read to the nearest such number
(`Binary64.ofDecimal`), a tie going to the even mantissa, and a number is
written with the fewest digits that read back as it (`Binary64.shortest`).
All arithmetic is on natural numbers, so every step can be computed by hand.
-/

namespace RelationalSearch

/-- A double-precision number. -/
inductive Binary64 where
  /-- A finite number, zero of either sign included. -/
  | finite (negative : Bool) (mantissa : Nat) (exponent : Int)
  /-- An infinity. -/
  | infinite (negative : Bool)
  /-- No number. -/
  | nan
  deriving DecidableEq, Repr, Inhabited

/-- A decimal: `digits · 10 ^ exponent`. -/
structure Decimal where
  digits : Nat
  exponent : Int
  deriving DecidableEq, Repr, Inhabited

namespace Decimal

/-- Numerator and denominator of a decimal. -/
def fraction (d : Decimal) : Nat × Nat :=
  if 0 ≤ d.exponent then (d.digits * tenTo d.exponent.toNat, 1)
  else (d.digits, tenTo (-d.exponent).toNat)

/-- The same decimal without zeros at the end; `fuel` bounds their number. -/
def dropZeros : (fuel : Nat) → Decimal → Decimal
  | 0, d => d
  | fuel + 1, d =>
    if d.digits != 0 && d.digits % 10 == 0 then dropZeros fuel ⟨d.digits / 10, d.exponent + 1⟩
    else d

end Decimal

namespace Binary64

/-- The smallest exponent of a double. -/
def leastExponent : Int := -1074

/-- The largest exponent of a finite double. -/
def greatestExponent : Int := 971

/-- The fraction `n / d`, measured in units of `2 ^ q`. -/
def inUnits (n d : Nat) (q : Int) : Nat × Nat :=
  if 0 ≤ q then (n, d * twoTo q.toNat) else (n * twoTo (-q).toNat, d)

/-! ### Reading a decimal -/

/-- The double nearest to a positive fraction. -/
def ofFraction (negative : Bool) (n d : Nat) : Binary64 :=
  if n == 0 then .finite negative 0 leastExponent
  else
    let low := max ((n.log2 : Int) - d.log2 - 53) leastExponent
    let scaled := inUnits n d low
    let q := if twoTo 53 ≤ scaled.1 / scaled.2 then low + 1 else low
    let parts := inUnits n d q
    let m := divNearest parts.1 parts.2
    let (m, q) := if m == twoTo 53 then (twoTo 52, q + 1) else (m, q)
    if greatestExponent < q then .infinite negative else .finite negative m q

/-- The double nearest to a decimal. Decimals far outside the range of doubles
are settled by the place of their first digit alone. -/
def ofDecimal (negative : Bool) (d : Decimal) : Binary64 :=
  let place := d.exponent + (Nat.toDigits 10 d.digits).length
  if d.digits == 0 || place < -400 then .finite negative 0 leastExponent
  else if 400 < place then .infinite negative
  else ofFraction negative d.fraction.1 d.fraction.2

/-! ### The shortest decimal -/

/-- Whether `n / d < 10 ^ e`. -/
def belowPower (n d : Nat) (e : Int) : Bool :=
  if 0 ≤ e then n < d * tenTo e.toNat else n * tenTo (-e).toNat < d

/-- The number of places before the point of a positive fraction: the least `e`
with `n / d < 10 ^ e`, searched near the estimate that the binary length gives. -/
def places (n d : Nat) : Int :=
  let estimate := Int.fdiv (((n.log2 : Int) - d.log2) * 30103) 100000
  ([estimate - 1, estimate, estimate + 1, estimate + 2].find? (belowPower n d)).getD (estimate + 3)

/-- The multiple of `10 ^ p` at or below `n / d`, as a count of `10 ^ p`. -/
def countBelow (n d : Nat) (p : Int) : Nat :=
  if 0 ≤ p then n / (d * tenTo p.toNat) else n * tenTo (-p).toNat / d

/-- Twice the distance between `n / d` and `k · 10 ^ p`, times a common factor,
for comparing two candidates on one grid. -/
def distance (n d k : Nat) (p : Int) : Nat :=
  let a := if 0 ≤ p then n else n * tenTo (-p).toNat
  let b := if 0 ≤ p then k * tenTo p.toNat * d else k * d
  (a - b) + (b - a)

/-- Whether the decimal `k · 10 ^ p` reads as the double `m · 2 ^ q`: it lies
between the midpoints to the two neighbours, a midpoint counting when the
mantissa is even. -/
def readsBack (m : Nat) (q : Int) (k : Nat) (p : Int) : Bool :=
  let lower := if m == twoTo 52 && leastExponent < q then 4 * m - 1 else 4 * m - 2
  let upper := 4 * m + 2
  let quarter := if 2 ≤ q then (twoTo (q - 2).toNat, 1) else (1, twoTo (2 - q).toNat)
  let number := (Decimal.mk k p).fraction
  let a := number.1 * quarter.2
  let scale := quarter.1 * number.2
  if m % 2 == 0 then lower * scale ≤ a && a ≤ upper * scale
  else lower * scale < a && a < upper * scale

/-- The decimal on the grid `10 ^ p` that is nearest to the double among those
that read back as it, if there is one; a tie goes to the even count. -/
def onGrid? (m : Nat) (q : Int) (p : Int) : Option Decimal :=
  let value := if 0 ≤ q then (m * twoTo q.toNat, 1) else (m, twoTo (-q).toNat)
  let k := countBelow value.1 value.2 p
  match readsBack m q k p, readsBack m q (k + 1) p with
  | true, true =>
    let below := distance value.1 value.2 k p
    let above := distance value.1 value.2 (k + 1) p
    some (if below < above || (below == above && k % 2 == 0) then ⟨k, p⟩ else ⟨k + 1, p⟩)
  | true, false => some ⟨k, p⟩
  | false, true => some ⟨k + 1, p⟩
  | false, false => none

/-- The decimal with the fewest digits that reads back as `m · 2 ^ q`; seventeen
digits always suffice. -/
def shortest (m : Nat) (q : Int) : Decimal :=
  if m == 0 then ⟨0, 0⟩
  else
    let value := if 0 ≤ q then (m * twoTo q.toNat, 1) else (m, twoTo (-q).toNat)
    let top := places value.1 value.2
    match (List.range 17).findSome? fun (i : Nat) => onGrid? m q (top - ((i : Int) + 1)) with
    | some d => d.dropZeros 20
    | none => ⟨m, q⟩

/-! ### Comparison with whole numbers -/

/-- Whether a double is exactly a whole number. -/
def equalsInt (x : Binary64) (n : Int) : Bool :=
  match x with
  | .finite negative m q =>
    let signed : Int := if negative then -m else m
    if 0 ≤ q then signed * Int.ofNat (twoTo q.toNat) == n
    else signed == n * Int.ofNat (twoTo (-q).toNat)
  | _ => false

/-- Equality of numbers: zeros of both signs are equal, and no number differs
from itself. -/
def equals : Binary64 → Binary64 → Bool
  | .finite s m q, .finite t n r => (m == 0 && n == 0) || (s == t && m == n && q == r)
  | .infinite s, .infinite t => s == t
  | _, _ => false

/-- Whether the number is neither an infinity nor no number. -/
def isFinite : Binary64 → Bool
  | .finite .. => true
  | _ => false

/-- The whole number that a double is, if it is one. -/
def toInt? : Binary64 → Option Int
  | .finite negative m q =>
    let size : Option Nat :=
      if 0 ≤ q then some (m * twoTo q.toNat)
      else if m % twoTo (-q).toNat == 0 then some (m / twoTo (-q).toNat) else none
    size.map fun (n : Nat) => if negative then -(n : Int) else n
  | _ => none

end Binary64

end RelationalSearch
