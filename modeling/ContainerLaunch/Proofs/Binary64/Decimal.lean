import ContainerLaunch.Binary64.Decimal
import ContainerLaunch.Proofs.Binary64.Rounding
/-!
# Numbers with a fixed number of decimals

`Denotes places text q` reads a decimal text as an exact ratio. A number that is written with a fixed number of
decimals is rounded to the nearest of the numbers that can be written so (`exists_toFixed`).
-/

namespace ContainerLaunch.Binary64

open Text (digitsValue)

/-- The text is a number in digits with this many of them behind the point. -/
def Denotes (places : ℕ) (text : List Char) (q : ℚ) : Prop :=
  ∃ whole fraction, text = whole ++ '.' :: fraction ∧ whole ≠ [] ∧ fraction.length = places ∧
    (∀ c ∈ whole ++ fraction, c.isDigit = true) ∧ q = digitsValue (whole ++ fraction) / 10 ^ places

section
variable {width places n m : ℕ} {text : List Char} {q q' : ℚ}

theorem digitsValue_eq (ds : List Char) : digitsValue ds = Nat.ofDigitChars 10 ds 0 := rfl

theorem digitsValue_padDigits : digitsValue (padDigits width n) = n := by
  have hzeros (k : ℕ) : Nat.ofDigitChars 10 (List.replicate k '0') 0 = 0 := by
    induction k with
    | zero => rfl
    | succ k ih => rwa [List.replicate_succ, Nat.ofDigitChars_cons]
  unfold padDigits
  dsimp only
  rw [digitsValue_eq, Nat.ofDigitChars_append, hzeros, Nat.ofDigitChars_toDigits (by decide) (by decide)]

theorem isDigit_of_mem_padDigits {c : Char} (h : c ∈ padDigits width n) : c.isDigit = true := by
  rcases List.mem_append.1 h with h | h
  · rw [List.eq_of_mem_replicate h]
    rfl
  · exact Nat.isDigit_of_mem_toDigits (by decide) (by decide) h

theorem le_length_padDigits : width ≤ (padDigits width n).length := by
  unfold padDigits
  rw [List.length_append, List.length_replicate]
  omega

theorem denotes_withPoint (places n : ℕ) : Denotes places (withPoint places n) (n / 10 ^ places) := by
  have hlen : places + 1 ≤ (padDigits (places + 1) n).length := le_length_padDigits
  refine ⟨_, _, rfl, ?_, ?_, fun c hc => ?_, ?_⟩
  · intro hnil
    have := congrArg List.length hnil
    rw [List.length_take, List.length_nil] at this
    omega
  · rw [List.length_drop]
    omega
  · rw [List.take_append_drop] at hc
    exact isDigit_of_mem_padDigits hc
  · rw [List.take_append_drop, digitsValue_padDigits]

theorem Denotes.eq (h : Denotes places text q) (h' : Denotes places text q') : q = q' := by
  obtain ⟨whole, fraction, rfl, -, hlen, -, rfl⟩ := h
  obtain ⟨whole', fraction', heq, -, hlen', -, rfl⟩ := h'
  obtain ⟨hwhole, hfraction⟩ := List.append_inj' heq (by simp [hlen, hlen'])
  rw [hwhole, (List.cons.inj hfraction).2]

theorem nearest_scaledBy (places m : ℕ) (e : ℤ) : Nearest (m * 2 ^ e * 10 ^ places) (scaledBy places m e) := by
  unfold scaledBy
  split
  · next he =>
    lift e to ℕ using he
    exact_mod_cast Nearest.self (m * 2 ^ e * 10 ^ places)
  · next he =>
    obtain ⟨d, rfl⟩ : ∃ d : ℕ, e = -d := ⟨(-e).toNat, by omega⟩
    have h := nearest_roundDiv (m * 10 ^ places) (Nat.two_pow_pos d)
    push_cast at h
    rw [mul_div_right_comm, div_eq_mul_inv, ← zpow_natCast, ← zpow_neg] at h
    simpa using h

/-- A number that is not below zero is written as the nearest number with so many decimals. -/
theorem exists_toFixed (places m : ℕ) (e : ℤ) : ∃ k : ℕ, Nearest (m * 2 ^ e * 10 ^ places) k ∧
    Denotes places (toFixed places (.finite false m e)).toList (k / 10 ^ places) :=
  ⟨_, nearest_scaledBy places m e, by simpa [toFixed] using denotes_withPoint places _⟩

end

end ContainerLaunch.Binary64
