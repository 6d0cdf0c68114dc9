import ContainerLaunch.Binary64.Basic
import ContainerLaunch.Text.Numeral
/-!
# Numbers and decimal text

`ofText?` reads a number from a text: blanks around it do not count, the decimal digits of any script
are digits, and single underscores may stand between digits. `toFixed` writes a number with a given
number of decimals, rounded from its exact value. `toShortest` writes the fewest digits that read
back.
-/

namespace ContainerLaunch.Binary64

open Text (spanDigits digitsValue takeSign)

/-! ## Reading -/

/-- An exponent part, and nothing after it. -/
def exponentPart? : List Char → Option Int
  | [] => some 0
  | c :: rest =>
    if c == 'e' || c == 'E' then
      let (negative, rest) := takeSign rest
      let (ds, rest) := spanDigits rest
      if ds.isEmpty || !rest.isEmpty then none
      else some (if negative then -(digitsValue ds : Int) else digitsValue ds)
    else none

/-- A number without sign: digits with an optional point among, before or after them, and an optional
exponent. -/
def unsigned? (negative : Bool) (s : List Char) : Option Binary64 :=
  let (whole, rest) := spanDigits s
  let (fraction, rest) := match rest with
    | '.' :: rest => spanDigits rest
    | rest => ([], rest)
  if whole.isEmpty && fraction.isEmpty then none
  else (exponentPart? rest).map fun k =>
    ofDecimal negative (digitsValue (whole ++ fraction)) (k - fraction.length)

/-- The number that a text stands for. -/
def ofText? (text : String) : Option Binary64 :=
  (Text.plainNumeral? text.toList).bind fun s =>
    let (negative, s) := takeSign s
    let word := String.ofList (s.map Char.toLower)
    if word = "inf" ∨ word = "infinity" then some (.infinity negative)
    else if word = "nan" then some (.nan negative)
    else unsigned? negative s

/-! ## Writing -/

/-- The digits of `n`, at least `width` of them. -/
def padDigits (width n : Nat) : List Char :=
  let ds := Nat.toDigits 10 n
  List.replicate (width - ds.length) '0' ++ ds

/-- `n / 10^places` in positional notation. -/
def withPoint (places n : Nat) : List Char :=
  let ds := padDigits (places + 1) n
  ds.take (ds.length - places) ++ '.' :: ds.drop (ds.length - places)

/-- The natural number nearest to `m · 2^e · 10^places`. -/
def scaledBy (places m : Nat) (e : Int) : Nat :=
  if 0 ≤ e then m * Nat.pow 2 e.toNat * Nat.pow 10 places
  else roundDiv (m * Nat.pow 10 places) (Nat.pow 2 (-e).toNat)

/-- The number with exactly `places > 0` decimals. -/
def toFixed (places : Nat) : Binary64 → String
  | .finite s m e =>
    (if s then "-" else "") ++ String.ofList (withPoint places (scaledBy places m e))
  | .infinity s => if s then "-inf" else "inf"
  | .nan _ => "nan"

/-- The `k` with `10^(k-1) ≤ num / den < 10^k`. -/
def ratioDigits (num den : Nat) : Int :=
  let k : Int := (countDigits num : Int) - countDigits den
  let reached := if 0 ≤ k then den * Nat.pow 10 k.toNat ≤ num else den ≤ num * Nat.pow 10 (-k).toNat
  if reached then k + 1 else k

/-- Of the two neighbours of `num / den` on the grid `10^k` the nearer one that reads back as `x`. -/
def neighbour? (x : Binary64) (num den : Nat) (k : Int) : Option Nat :=
  let (num, den) :=
    if 0 ≤ k then (num, den * Nat.pow 10 k.toNat) else (num * Nat.pow 10 (-k).toNat, den)
  let q := num / den
  let nearest := roundDiv num den
  let other := if nearest = q then q + 1 else q
  [nearest, other].find? fun n => ofDecimal false n k == x

/-- Digits `n` and an exponent `k` such that `n · 10^k` reads back as the positive finite number
`m · 2^e`, with as few digits as possible. -/
def shortestDigits (m : Nat) (e : Int) : Nat × Int :=
  let (num, den) := if 0 ≤ e then (m * Nat.pow 2 e.toNat, 1) else (m, Nat.pow 2 (-e).toNat)
  let top := ratioDigits num den
  ((List.range 17).findSome? fun i =>
    let k := top - (i + 1 : Nat)
    (neighbour? (.finite false m e) num den k).map (·, k)).getD (num, 0)

/-- Positional notation up to sixteen digits before the point and four zeros after it, and always with
a decimal; otherwise an exponent of at least two digits. -/
def layout (n : Nat) (k : Int) : List Char :=
  let ds := Text.dropTrailing '0' (Nat.toDigits 10 n)
  let point : Int := countDigits n + k
  if -4 < point ∧ point ≤ 16 then
    if point ≤ 0 then '0' :: '.' :: List.replicate (-point).toNat '0' ++ ds
    else
      let whole := ds.take point.toNat
      let fraction := ds.drop point.toNat
      whole ++ List.replicate (point.toNat - whole.length) '0' ++
        '.' :: (if fraction.isEmpty then ['0'] else fraction)
  else
    let fraction := ds.drop 1
    let exponent := point - 1
    ds.take 1 ++ (if fraction.isEmpty then [] else '.' :: fraction) ++
      'e' :: (if exponent < 0 then '-' else '+') :: padDigits 2 exponent.natAbs

/-- The number in the fewest digits that read back. -/
def toShortest : Binary64 → String
  | .finite s m e =>
    (if s then "-" else "") ++
      (if m = 0 then "0.0"
       else let (n, k) := shortestDigits m e; String.ofList (layout n k))
  | .infinity s => if s then "-inf" else "inf"
  | .nan _ => "nan"

end ContainerLaunch.Binary64
