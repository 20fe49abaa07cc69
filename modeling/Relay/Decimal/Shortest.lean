/-!
# The shortest decimal of a binary number

A positive binary number `m · 2 ^ q` stands for all reals that round to it: an
interval around it whose ends belong to it exactly when `m` is even. Its
shortest decimal is a multiple of the largest power of ten that has a nonzero
multiple in the interval; among those the nearest to the number, and of two
equally near the one with the even factor.

## Main definitions

* `Decimal` — a natural factor times a power of ten.
* `Interval` — a binary number together with the ends of its interval.
* `Interval.shortest` — the shortest decimal in the interval.
* `Interval.ofBits` — the interval of a double of the given bits.
-/

namespace Relay

/-- The number `factor · 10 ^ exponent`. -/
structure Decimal where
  /-- The factor. -/
  factor : Nat
  /-- The power of ten. -/
  exponent : Int
  deriving DecidableEq

namespace Decimal

/-- A number and the ends of an interval around it, all in units of `2 ^ exponent`. -/
structure Interval where
  /-- The lower end. -/
  lower : Nat
  /-- The number itself. -/
  value : Nat
  /-- The upper end. -/
  upper : Nat
  /-- The unit, as a power of two. -/
  exponent : Int
  /-- The ends belong to the interval. -/
  closed : Bool

namespace Interval

/-- The common factor of the binary side when `2 ^ exponent` and `10 ^ k` are
brought to one denominator. -/
def binaryScale (i : Interval) (k : Int) : Nat := Nat.pow 2 i.exponent.toNat * Nat.pow 10 (-k).toNat

/-- The common factor of the decimal side when `2 ^ exponent` and `10 ^ k` are
brought to one denominator. -/
def decimalScale (i : Interval) (k : Int) : Nat :=
  Nat.pow 2 (-i.exponent).toNat * Nat.pow 10 k.toNat

/-- The decimal `factor · 10 ^ k` is positive and lies in the interval. -/
def admits (i : Interval) (k : Int) (factor : Nat) : Bool :=
  let point := factor * i.decimalScale k
  let low := i.lower * i.binaryScale k
  let high := i.upper * i.binaryScale k
  factor != 0 && (if i.closed then low ≤ point && point ≤ high else low < point && point < high)

/-- Of the two multiples of `10 ^ k` around the number, the nearest that lies in
the interval; of two equally near, the one with the even factor. -/
def nearest? (i : Interval) (k : Int) : Option Nat :=
  let value := i.value * i.binaryScale k
  let unit := i.decimalScale k
  let below := value / unit
  let rest := value - below * unit
  match i.admits k below, i.admits k (below + 1) with
  | false, false => none
  | true, false => some below
  | false, true => some (below + 1)
  | true, true =>
    if 2 * rest < unit then some below
    else if 2 * rest = unit then some (below + below % 2)
    else some (below + 1)

/-- The first power of ten, counted down from `k`, that has a multiple in the
interval, with the nearest one. -/
def search (i : Interval) : Nat → Int → Decimal
  | 0, k => ⟨i.value * i.binaryScale k / i.decimalScale k, k⟩
  | steps + 1, k =>
    match i.nearest? k with
    | some factor => ⟨factor, k⟩
    | none => search i steps (k - 1)

/-- A power of ten above the number. -/
def ceilingPower (i : Interval) : Int :=
  ((i.value.log2 + 1 : Nat) + i.exponent) * 30103 / 100000 + 1

/-- The shortest decimal in the interval. Seventeen digits always suffice for a
double, so the search may stop a few powers after that. -/
def shortest (i : Interval) : Decimal := i.search 24 i.ceilingPower

/-- The interval of the positive double with these exponent and fraction bits.
Below the least number of a binade the neighbours are half as far apart. -/
def ofBits (exponent fraction : Nat) : Interval :=
  if exponent = 0 then
    ⟨4 * fraction - 2, 4 * fraction, 4 * fraction + 2, -1076, fraction % 2 == 0⟩
  else
    let m := fraction + 0x10000000000000
    let lower := if fraction = 0 && exponent > 1 then 4 * m - 1 else 4 * m - 2
    ⟨lower, 4 * m, 4 * m + 2, (exponent : Int) - 1077, m % 2 == 0⟩

end Interval

/-- The shortest decimal of a finite double's magnitude; zero has the factor 0. -/
def ofFloat (x : Float) : Decimal :=
  let bits := x.toBits.toNat
  let exponent := bits / 0x10000000000000 % 0x800
  let fraction := bits % 0x10000000000000
  if exponent = 0 && fraction = 0 then ⟨0, 0⟩
  else (Interval.ofBits exponent fraction).shortest

/-- The double carries a minus sign. -/
def isNegative (x : Float) : Bool := x.toBits.toNat / 0x8000000000000000 == 1

end Decimal

end Relay
