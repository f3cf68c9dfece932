import ModelBench.Decimal.Binary64

/-!
# The fewest digits that read back

The decimal text of a binary number has the fewest digits that round to the number again, and among
those the ones nearest to it. A number of moderate size is written positionally with a digit after
the point; any other has one digit before the point and a signed exponent.
-/

namespace ModelBench

/-- `digits * 10 ^ exponent`. -/
structure Decimal where
  digits : Nat
  exponent : Int
  deriving DecidableEq, Repr

namespace Decimal

/-- Which exponents of ten are written without an exponent mark. -/
structure Layout where
  /-- The least one. -/
  least : Int
  /-- The greatest one. -/
  greatest : Int

/-- Numbers from a hundred thousandth to below ten million milliards are written positionally. -/
def standard : Layout := ⟨-5, 15⟩

/-- The greatest `k` with `10 ^ k ≤ num / den`, for positive numbers, searched upwards from `k`. -/
def log10From (num den : Nat) : (steps : Nat) → (k : Int) → Int
  | 0, k => k
  | steps + 1, k =>
    let next := k + 1
    let fits :=
      if 0 ≤ next then den * Nat.pow 10 next.toNat ≤ num
      else den ≤ num * Nat.pow 10 (-next).toNat
    if fits then log10From num den steps next else k

/-- The bounds of the numbers that round to `x`, over the denominator of `x` times four. -/
def neighbourhood (x : Binary64) : Nat × Nat :=
  let (n, _) := { x with significand := 1 }.ratio
  let below :=
    if x.significand = Nat.pow 2 52 ∧ Binary64.leastExponent < x.exponent then n else 2 * n
  (4 * x.significand * n - below, 4 * x.significand * n + 2 * n)

/-- The candidate of the grid `10 ^ k` that reads back as `x`, if there is one: of the grid points
on either side of `x`, the nearer one that rounds to it, and the even one in a tie. -/
def onGrid (x : Binary64) (k : Int) : Option Decimal :=
  let (num, den) := x.ratio
  let (low, high) := neighbourhood x
  -- all quantities over the denominator `4 * den * down`
  let (up, down) := if 0 ≤ k then (Nat.pow 10 k.toNat, 1) else (1, Nat.pow 10 (-k).toNat)
  let floor := num * down / (den * up)
  let inside (d : Nat) : Bool :=
    let point := 4 * d * up * den
    let (low, high) := (low * down, high * down)
    if x.significand % 2 = 0 then low ≤ point && point ≤ high else low < point && point < high
  let before := num * down - floor * up * den
  let after := (floor + 1) * up * den - num * down
  let nearFloor := before < after || (before == after && floor % 2 == 0)
  if inside floor && (nearFloor || !inside (floor + 1)) then some ⟨floor, k⟩
  else if inside (floor + 1) then some ⟨floor + 1, k⟩
  else none

/-- The first grid with a candidate, from `10 ^ k` downwards. -/
def searchGrid (x : Binary64) : (steps : Nat) → (k : Int) → Decimal
  | 0, k => (onGrid x k).getD ⟨0, 0⟩
  | steps + 1, k => (onGrid x k).getD (searchGrid x steps (k - 1))

/-- The decimal of fewest digits that reads back as a number other than zero. -/
def shortest (x : Binary64) : Decimal :=
  let (num, den) := x.ratio
  searchGrid x 20 (log10From num den 640 (-330))

/-- The digits and the exponent of the first one, without zeros at the end. -/
def normalize : (steps : Nat) → Decimal → Decimal
  | 0, d => d
  | steps + 1, d =>
    if d.digits ≠ 0 ∧ d.digits % 10 = 0 then normalize steps ⟨d.digits / 10, d.exponent + 1⟩ else d

/-- The text of a decimal. -/
def render (layout : Layout) (d : Decimal) : String :=
  let d := normalize 20 d
  let digits := Nat.toDigits 10 d.digits
  let lead : Int := d.exponent + digits.length - 1
  if lead < layout.least ∨ layout.greatest < lead then
    let fraction := if digits.length = 1 then [] else '.' :: digits.drop 1
    let sign := if lead < 0 then '-' else '+'
    String.ofList (digits.take 1 ++ fraction ++ 'e' :: sign :: Nat.toDigits 10 lead.natAbs)
  else if lead < 0 then
    String.ofList ('0' :: '.' :: List.replicate (lead.natAbs - 1) '0' ++ digits)
  else
    let whole := lead.toNat + 1
    let digits := digits ++ List.replicate (whole - digits.length) '0'
    let fraction := if digits.length ≤ whole then ['0'] else digits.drop whole
    String.ofList (digits.take whole ++ '.' :: fraction)

end Decimal

/-- The text of a binary number. -/
def Binary64.render (x : Binary64) : String :=
  let sign := if x.negative then "-" else ""
  if x.isZero then sign ++ "0.0" else sign ++ (Decimal.shortest x).render Decimal.standard

end ModelBench
