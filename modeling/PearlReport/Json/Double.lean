import PearlReport.Text.Basic

/-! Binary fractions of 64 bits: the exact value that the bits name, the shortest decimal that reads
back as it, and the text made of that decimal. -/

namespace PearlReport.Json.Double

/-- A finite value is `mantissa * 2 ^ exponent`; `narrow` marks a power of two, where the gap below
is half the gap above. -/
structure Parts where
  negative : Bool
  mantissa : Nat
  exponent : Int
  narrow : Bool

def partsOf (bits : UInt64) : Parts :=
  let n : Nat := bits.toNat
  let fraction : Nat := n % 4503599627370496
  let biased : Nat := n / 4503599627370496 % 2048
  let negative := n / 9223372036854775808 % 2 == 1
  if biased == 0 then ⟨negative, fraction, -1074, false⟩
  else ⟨negative, 4503599627370496 + fraction, (biased : Int) - 1075, fraction == 0 && biased != 1⟩

structure Decimal where
  digits : Nat
  power : Int

/-- The interval of reals that round to the value, its ends included exactly when the mantissa is
even, as numerators over one denominator. -/
structure Interval where
  low : Nat
  value : Nat
  high : Nat
  denominator : Nat
  closed : Bool

def intervalOf (p : Parts) : Interval :=
  let up := Nat.pow 2 (p.exponent - 2).toNat
  let low := 4 * p.mantissa - (if p.narrow then 1 else 2)
  ⟨low * up, 4 * p.mantissa * up, (4 * p.mantissa + 2) * up, Nat.pow 2 (2 - p.exponent).toNat,
    p.mantissa % 2 == 0⟩

def Interval.inUnits (i : Interval) (power : Int) : Interval :=
  let up := Nat.pow 10 (-power).toNat
  ⟨i.low * up, i.value * up, i.high * up, i.denominator * Nat.pow 10 power.toNat, i.closed⟩

def Interval.holds (i : Interval) (d : Nat) : Bool :=
  let x := d * i.denominator
  if i.closed then i.low ≤ x && x ≤ i.high else i.low < x && x < i.high

/-- The neighbours of the value on the grid of `10 ^ power`; of two that lie in the interval the
nearer, of two equally near the even one. -/
def Interval.onGrid (i : Interval) (power : Int) : Option Decimal :=
  let u := i.inUnits power
  let below := u.value / u.denominator
  let gap := u.value % u.denominator
  let pick (d : Nat) : Option Decimal := some ⟨d, power⟩
  if u.holds below then
    if u.holds (below + 1) then
      if 2 * gap < u.denominator then pick below
      else if u.denominator < 2 * gap then pick (below + 1)
      else if below % 2 == 0 then pick below else pick (below + 1)
    else pick below
  else if u.holds (below + 1) then pick (below + 1)
  else none

def topPower (fuel : Nat) (numerator denominator : Nat) (k : Int) : Int :=
  match fuel with
  | 0 => k
  | fuel + 1 =>
    if denominator * Nat.pow 10 k.toNat ≤ numerator * Nat.pow 10 (-k).toNat then k
    else topPower fuel numerator denominator (k - 1)

def Interval.firstHit (i : Interval) (top : Int) : Nat → Nat → Decimal
  | 0, _ => ⟨0, 0⟩
  | fuel + 1, places =>
    match i.onGrid (top - places) with
    | some d => d
    | none => i.firstHit top fuel (places + 1)

def Decimal.stripped : Nat → Decimal → Decimal
  | 0, d => d
  | fuel + 1, d =>
    if d.digits % 10 == 0 then Decimal.stripped fuel ⟨d.digits / 10, d.power + 1⟩ else d

def shortest (p : Parts) : Decimal :=
  let i := intervalOf p
  (i.firstHit (topPower 640 i.value i.denominator 309) 18 0).stripped 20

def exponentText (e : Int) : List Char :=
  'e' :: (if e < 0 then '-' else '+') :: PearlReport.Decimal.digits e.natAbs

/-- Positional from 1e-5 up to below 1e16, always with a point; otherwise one digit before the point
and a signed exponent, the point only if a digit follows it. -/
def layOut (d : Decimal) : List Char :=
  let ds := PearlReport.Decimal.digits d.digits
  let point : Int := ds.length + d.power
  if 0 ≤ d.power ∧ point ≤ 16 then ds ++ List.replicate d.power.toNat '0' ++ ['.', '0']
  else if 0 < point ∧ point ≤ 16 then ds.take point.toNat ++ '.' :: ds.drop point.toNat
  else if -5 < point ∧ point ≤ 0 then '0' :: '.' :: (List.replicate (-point).toNat '0' ++ ds)
  else
    match ds with
    | [] => []
    | [c] => c :: exponentText (point - 1)
    | c :: more => c :: '.' :: (more ++ exponentText (point - 1))

def text (bits : UInt64) : List Char :=
  let p := partsOf bits
  let magnitude := if p.mantissa = 0 then ['0', '.', '0'] else layOut (shortest p)
  if p.negative then '-' :: magnitude else magnitude

end PearlReport.Json.Double
