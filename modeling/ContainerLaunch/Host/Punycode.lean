/-!
# Punycode

A label as ASCII: its ASCII characters in their order, then a number for each of the others. Taken in
the order of their code points, and those with the same one from left to right, a number tells how
many places a character comes after the one before it, where all places of one code point come before
those of the next. Numbers have as many digits as they need, and the weights of the digits adapt to
the numbers before.
-/

namespace ContainerLaunch.Host.Punycode

/-! ## Numbers -/

/-- The character of a digit below 36. -/
def digitChar (d : Nat) : Char := Char.ofNat (if d < 26 then 97 + d else 22 + d)

/-- The value of a digit; small letters and capitals are the same. -/
def digitValue? (c : Char) : Option Nat :=
  let n := c.toLower.toNat
  if 97 ≤ n && n ≤ 122 then some (n - 97)
  else if c.isDigit then some (n - 22)
  else none

/-- A digit at place `j` that is below the threshold is the last one. -/
def threshold (bias j : Nat) : Nat := min 26 (max 1 (36 * (j + 1) - bias))

theorem threshold_pos (bias j : Nat) : 0 < threshold bias j := by unfold threshold; omega

/-- A number from its digit at place `j` on. -/
def writeNumber (bias j n : Nat) : List Char :=
  let t := threshold bias j
  if n < t then [digitChar n]
  else digitChar (t + (n - t) % (36 - t)) :: writeNumber bias (j + 1) ((n - t) / (36 - t))
termination_by n
decreasing_by
  have := threshold_pos bias j
  exact Nat.lt_of_le_of_lt (Nat.div_le_self _ _) (by omega)

/-- Reads a number from its digit at place `j` on, where a digit counts `weight` times; the rest of the
text comes with it. -/
def readNumber (bias : Nat) : (j weight : Nat) → List Char → Option (Nat × List Char)
  | _, _, [] => none
  | j, weight, c :: rest =>
    match digitValue? c with
    | none => none
    | some d =>
      let t := threshold bias j
      if d < t then some (d * weight, rest)
      else (readNumber bias (j + 1) (weight * (36 - t)) rest).map fun p => (d * weight + p.1, p.2)

/-- Reading a number uses up some of the text. -/
theorem length_lt_of_readNumber {bias j weight : Nat} {s : List Char} {p : Nat × List Char}
    (h : readNumber bias j weight s = some p) : p.2.length < s.length := by
  induction s generalizing j weight p with
  | nil => simp [readNumber] at h
  | cons c rest ih =>
    unfold readNumber at h
    cases hd : digitValue? c with
    | none => simp [hd] at h
    | some d =>
      simp only [hd] at h
      split at h
      · cases h; simp
      · obtain ⟨q, hq, rfl⟩ := Option.map_eq_some_iff.1 h
        have := ih hq
        simp only [List.length_cons]
        omega

/-- Divides by 35 until at most 455 is left, and adds 36 each time. -/
def shrink (n sum : Nat) : Nat × Nat := if 455 < n then shrink (n / 35) (sum + 36) else (n, sum)
termination_by n
decreasing_by omega

/-- The bias after a number: the first one counts little, and the more characters there are the less
a number counts. -/
def adapt (number characters : Nat) (first : Bool) : Nat :=
  let n := if first then number / 700 else number / 2
  let (n, sum) := shrink (n + n / characters) 0
  sum + 36 * n / (n + 38)

/-! ## Writing -/

/-- Where writing stands: how many places have been passed since the last number, the bias, and how
many characters have been written. -/
structure Writer where
  passed : Nat
  bias : Nat
  written : Nat
  first : Bool := true
  numbers : List Char := []

/-- Passes a character when those with code point `n` are written. -/
def Writer.pass (n : Nat) (w : Writer) (c : Char) : Writer :=
  if c.toNat < n then { w with passed := w.passed + 1 }
  else if c.toNat = n then
    { passed := 0
      bias := adapt w.passed (w.written + 1) w.first
      written := w.written + 1
      first := false
      numbers := w.numbers ++ writeNumber w.bias 0 w.passed }
  else w

/-- Writes the characters with the code points of a list; `next` is the first one that has not been
passed. -/
def Writer.run (s : List Char) (w : Writer) (next : Nat) : List Nat → Writer
  | [] => w
  | n :: rest =>
    let w := s.foldl (pass n) { w with passed := w.passed + (n - next) * (w.written + 1) }
    run s { w with passed := w.passed + 1 } (n + 1) rest

/-- The code points beyond ASCII, in ascending order, each once. -/
def beyondAscii (s : List Char) : List Nat :=
  (((s.map Char.toNat).filter (128 ≤ ·)).mergeSort (· ≤ ·)).eraseDups

/-- A label as ASCII. -/
def encode (s : List Char) : List Char :=
  let plain := s.filter fun c => c.toNat < 128
  let w : Writer := { passed := 0, bias := 72, written := plain.length }
  plain ++ (if plain.isEmpty then [] else ['-']) ++ (w.run s 128 (beyondAscii s)).numbers

/-! ## Reading -/

/-- Reads the numbers and puts each character into its place. `n` is the code point and `i` the place
from which the next number counts. -/
def insertAll (bias n i : Nat) (first : Bool) (done s : List Char) : Option (List Char) :=
  if s.isEmpty then some done
  else
    match _h : readNumber bias 0 1 s with
    | none => none
    | some (number, rest) =>
      let places := done.length + 1
      let n := n + (i + number) / places
      let i := (i + number) % places
      if n.isValidChar then
        insertAll (adapt number places first) n (i + 1) false
          (done.take i ++ Char.ofNat n :: done.drop i) rest
      else none
termination_by s.length
decreasing_by exact length_lt_of_readNumber ‹_›

/-- The label that a text in ASCII stands for. -/
def decode (s : List Char) : Option (List Char) :=
  let numbers := (s.reverse.takeWhile (· != '-')).reverse
  insertAll 72 128 0 true ((s.take (s.length - numbers.length)).dropLast) numbers

end ContainerLaunch.Host.Punycode
