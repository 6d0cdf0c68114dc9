/-!
# Ranges of characters

Tables of code points, as the ranges that they fall into.
-/

namespace ContainerLaunch.Text

/-- Ranges of code points, both ends included. -/
abbrev Ranges := Array (Nat × Nat)

/-- Whether a code point falls into one of the ranges. -/
def Ranges.hasCode (ranges : Ranges) (n : Nat) : Bool := ranges.any fun r => r.1 ≤ n && n ≤ r.2

/-- Whether a character falls into one of the ranges. -/
def Ranges.has (ranges : Ranges) (c : Char) : Bool := ranges.hasCode c.toNat

end ContainerLaunch.Text
