/-!
# Binary floating-point numbers of 64 bits

Timestamps are binary64 numbers. They are held exactly, as `± m · 2^e` with natural `m` and integer
`e`, so that every rounding is a step of integer arithmetic: a ratio is rounded to the nearest
number, and of two nearest ones to that with the even `m`.
-/

namespace ContainerLaunch

/-- A binary64 number. Of a finite one, `m < 2^53` and `-1074 ≤ e ≤ 971`, and `m` has 53 binary digits
unless `e = -1074`. -/
inductive Binary64 where
  | finite (negative : Bool) (m : Nat) (e : Int)
  | infinity (negative : Bool)
  | nan (negative : Bool)
  deriving DecidableEq, Repr, Inhabited

namespace Binary64

/-- The natural number nearest to `num / den`; halves go to the even one. -/
def roundDiv (num den : Nat) : Nat :=
  let q := num / den
  let r := num % den
  if 2 * r > den ∨ (2 * r = den ∧ q % 2 = 1) then q + 1 else q

/-- `num / den · 2^(-e)`, rounded to a natural number. -/
def mantissaAt (num den : Nat) (e : Int) : Nat :=
  if 0 ≤ e then roundDiv num (den * Nat.pow 2 e.toNat) else roundDiv (num * Nat.pow 2 (-e).toNat) den

/-- Whether `2^k ≤ num / den`. -/
def twoPowLe (k : Int) (num den : Nat) : Bool :=
  if 0 ≤ k then den * Nat.pow 2 k.toNat ≤ num else den ≤ num * Nat.pow 2 (-k).toNat

/-- The greatest `k` with `2^k ≤ num / den`, for positive `num` and `den`. -/
def ratioLog2 (num den : Nat) : Int :=
  let k : Int := (num.log2 : Int) - den.log2
  if twoPowLe k num den then k else k - 1

/-- The least exponent. -/
def minExponent : Int := -1074

/-- The greatest exponent of a finite number. -/
def maxExponent : Int := 971

/-- Zero with a sign. -/
def zero (negative : Bool) : Binary64 := .finite negative 0 minExponent

/-- The number nearest to `± num / den`, for positive `den`. -/
def ofRatio (negative : Bool) (num den : Nat) : Binary64 :=
  if num = 0 then zero negative
  else
    let e := max (ratioLog2 num den - 52) minExponent
    let m := mantissaAt num den e
    let (m, e) := if m = Nat.pow 2 53 then (Nat.pow 2 52, e + 1) else (m, e)
    if maxExponent < e then .infinity negative else .finite negative m e

/-- The number nearest to an integer, or `none` if that is out of range. -/
def ofInt? (n : Int) : Option Binary64 :=
  match ofRatio (n < 0) n.natAbs 1 with
  | .infinity _ => none
  | x => some x

/-- The sign: set for what is below zero, and for some zeros and not-a-numbers. -/
def isNegative : Binary64 → Bool
  | .finite s _ _ | .infinity s | .nan s => s

/-- Zero, with either sign. -/
def isZero : Binary64 → Bool
  | .finite _ m _ => m == 0
  | _ => false

/-- The value of a whole number. -/
def toInt? : Binary64 → Option Int
  | .finite s m e =>
    let sized (n : Nat) : Int := if s then -n else n
    if 0 ≤ e then some (sized (m * Nat.pow 2 e.toNat))
    else if m % Nat.pow 2 (-e).toNat = 0 then some (sized (m / Nat.pow 2 (-e).toNat))
    else none
  | _ => none

/-- The nearest number to a quotient. -/
def div (x y : Binary64) : Binary64 :=
  match x, y with
  | .nan s, _ => .nan s
  | _, .nan s => .nan s
  | .infinity _, .infinity _ => .nan true
  | .infinity s, y => .infinity (s != y.isNegative)
  | x, .infinity s => zero (x.isNegative != s)
  | .finite s m e, .finite s' m' e' =>
    if m' = 0 then if m = 0 then .nan true else .infinity (s != s')
    else
      let d := e - e'
      if 0 ≤ d then ofRatio (s != s') (m * Nat.pow 2 d.toNat) m'
      else ofRatio (s != s') m (m' * Nat.pow 2 (-d).toNat)

/-- The 64 bits of the interchange format, as a number. -/
def toBits : Binary64 → Nat
  | .finite s m e =>
    (if s then Nat.pow 2 63 else 0) +
      (if m < Nat.pow 2 52 then m else (e + 1075).toNat * Nat.pow 2 52 + (m - Nat.pow 2 52))
  | .infinity s => (if s then Nat.pow 2 63 else 0) + 2047 * Nat.pow 2 52
  | .nan s => (if s then Nat.pow 2 63 else 0) + 2047 * Nat.pow 2 52 + Nat.pow 2 51

/-- How many decimal digits a number has; zero has one. -/
def countDigits (n : Nat) : Nat := (Nat.toDigits 10 n).length

/-- The number nearest to `± n · 10^k`. Beyond the four-hundredth power of ten either way everything
is infinite or zero, so that the powers stay small. -/
def ofDecimal (negative : Bool) (n : Nat) (k : Int) : Binary64 :=
  if n = 0 then zero negative
  else
    let magnitude : Int := countDigits n + k
    if 400 < magnitude then .infinity negative
    else if magnitude < -400 then zero negative
    else if 0 ≤ k then ofRatio negative (n * Nat.pow 10 k.toNat) 1
    else ofRatio negative n (Nat.pow 10 (-k).toNat)

/-- One billion. -/
def billion : Binary64 := ofRatio false 1000000000 1

end Binary64

end ContainerLaunch
