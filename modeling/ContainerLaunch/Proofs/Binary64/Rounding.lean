import ContainerLaunch.Binary64.Basic
import Mathlib.Algebra.Order.Field.Basic
import Mathlib.Algebra.Order.Field.Power
import Mathlib.Algebra.Order.Field.Rat
import Mathlib.Tactic.FieldSimp
import Mathlib.Tactic.Linarith
import Mathlib.Tactic.NormNum
import Mathlib.Tactic.Ring
/-!
# Rounding

`Nearest q a` says that `a` is `q` rounded to a whole number, `Rounds q x` that `x` is `q` rounded to 53 binary
digits; of two nearest numbers it is the even one. Rounding is monotone, moves a number by at most one part in
`2^53`, and leaves whole numbers of 53 binary digits alone. `ofRatio_eq` and `exists_div_eq` say that the binary64
operations round so, from the least normal number on.
-/

namespace ContainerLaunch.Binary64

/-! ## To a whole number -/

/-- A whole number nearest to a rational one; of two that are equally near, the even one. -/
structure Nearest (q : ℚ) (a : ℕ) : Prop where
  close : |q - a| ≤ 1 / 2
  even : |q - a| = 1 / 2 → Even a

namespace Nearest
variable {q q' : ℚ} {a a' b : ℕ}

theorem self (a : ℕ) : Nearest a a := ⟨by simp, by simp⟩

theorem mono (h : Nearest q a) (h' : Nearest q' a') (hq : q ≤ q') : a ≤ a' := by
  by_contra hlt
  have hlt : (a' : ℚ) + 1 ≤ a := by exact_mod_cast Nat.lt_of_not_le hlt
  obtain ⟨hlow, -⟩ := abs_le.1 h.close
  obtain ⟨-, hhigh⟩ := abs_le.1 h'.close
  -- There is no room: `q` and `q'` lie half way between `a'` and its successor `a`, and both would be even.
  have heq : (a : ℚ) = a' + 1 := by linarith
  have ha : Even a := h.even (by rw [abs_eq (by norm_num)]; right; linarith)
  have ha' : Even a' := h'.even (by rw [abs_eq (by norm_num)]; left; linarith)
  have heq : a = a' + 1 := by exact_mod_cast heq
  rw [Nat.even_iff] at ha ha'
  omega

theorem le_of_le (h : Nearest q a) (hb : (b : ℚ) ≤ q) : b ≤ a := (self b).mono h hb

theorem le_of_ge (h : Nearest q a) (hb : q ≤ b) : a ≤ b := h.mono (self b) hb

theorem eq_of_natCast (h : Nearest b a) : a = b :=
  Nat.le_antisymm (h.le_of_ge le_rfl) (h.le_of_le le_rfl)

/-- What is closer than a half is the nearest. -/
theorem eq_of_lt (h : Nearest q a) (hb : |q - b| < 1 / 2) : a = b := by
  obtain ⟨hlow, hhigh⟩ := abs_le.1 h.close
  obtain ⟨hlow', hhigh'⟩ := abs_lt.1 hb
  have hlt : (a : ℚ) < b + 1 := by linarith
  have hgt : (b : ℚ) < a + 1 := by linarith
  have hlt : a < b + 1 := by exact_mod_cast hlt
  have hgt : b < a + 1 := by exact_mod_cast hgt
  omega

end Nearest

/-! ## To 53 binary digits -/

/-- `q` lies in the binade of the numbers `m · 2^e` with 53 binary digits, and this is the one that is nearest. -/
structure RoundsAt (q : ℚ) (m : ℕ) (e : ℤ) : Prop where
  low : 2 ^ (52 + e) ≤ q
  high : q < 2 ^ (53 + e)
  nearest : Nearest (q / 2 ^ e) m

/-- A rational number is rounded to a number of 53 binary digits. -/
def Rounds (q x : ℚ) : Prop := ∃ m e, RoundsAt q m e ∧ x = m * 2 ^ e

section
variable {q q' x x' : ℚ} {m n : ℕ} {e : ℤ}

theorem two_zpow_pos (e : ℤ) : (0 : ℚ) < 2 ^ e := zpow_pos (by norm_num) e

theorem two_zpow_add (a e : ℤ) : (2 : ℚ) ^ (a + e) = 2 ^ a * 2 ^ e := zpow_add₀ (by norm_num) a e

namespace RoundsAt

theorem pos (h : RoundsAt q m e) : 0 < q := (two_zpow_pos _).trans_le h.low

theorem le_mantissa (h : RoundsAt q m e) : 2 ^ 52 ≤ m := by
  have hlow := h.low
  rw [two_zpow_add, ← le_div_iff₀ (two_zpow_pos e)] at hlow
  exact h.nearest.le_of_le (by exact_mod_cast hlow)

theorem mantissa_le (h : RoundsAt q m e) : m ≤ 2 ^ 53 := by
  have hhigh := h.high.le
  rw [two_zpow_add, ← div_le_iff₀ (two_zpow_pos e)] at hhigh
  exact h.nearest.le_of_ge (by exact_mod_cast hhigh)

theorem low_le (h : RoundsAt q m e) : 2 ^ (52 + e) ≤ (m : ℚ) * 2 ^ e := by
  rw [two_zpow_add]
  exact mul_le_mul_of_nonneg_right (by exact_mod_cast h.le_mantissa) (two_zpow_pos e).le

theorem le_high (h : RoundsAt q m e) : (m : ℚ) * 2 ^ e ≤ 2 ^ (53 + e) := by
  rw [two_zpow_add]
  exact mul_le_mul_of_nonneg_right (by exact_mod_cast h.mantissa_le) (two_zpow_pos e).le

/-- Rounding moves a number by at most half the distance between the numbers of its binade. -/
theorem error (h : RoundsAt q m e) : |m * 2 ^ e - q| ≤ 2 ^ e / 2 := by
  have he := two_zpow_pos e
  have hq : m * 2 ^ e - q = -(q / 2 ^ e - m) * 2 ^ e := by field_simp; ring
  rw [hq, abs_mul, abs_neg, abs_of_pos he]
  linarith [mul_le_mul_of_nonneg_right h.nearest.close he.le]

end RoundsAt

namespace Rounds

theorem pos (h : Rounds q x) : 0 < q := by
  obtain ⟨m, e, h, -⟩ := h
  exact h.pos

theorem mono (h : Rounds q x) (h' : Rounds q' x') (hq : q ≤ q') : x ≤ x' := by
  obtain ⟨m, e, h, rfl⟩ := h
  obtain ⟨m', e', h', rfl⟩ := h'
  rcases lt_trichotomy e e' with he | rfl | he
  · -- The powers of two between the binades keep the rounded numbers apart.
    calc (m : ℚ) * 2 ^ e ≤ 2 ^ (53 + e) := h.le_high
      _ ≤ 2 ^ (52 + e') := zpow_le_zpow_right₀ (by norm_num) (by omega)
      _ ≤ m' * 2 ^ e' := h'.low_le
  · have hm : m ≤ m' := h.nearest.mono h'.nearest (div_le_div_of_nonneg_right hq (two_zpow_pos e).le)
    exact mul_le_mul_of_nonneg_right (by exact_mod_cast hm) (two_zpow_pos e).le
  · have hlt : (2 : ℚ) ^ (53 + e') ≤ 2 ^ (52 + e) := zpow_le_zpow_right₀ (by norm_num) (by omega)
    linarith [h.low, h'.high]

theorem error (h : Rounds q x) : |x - q| ≤ q / 2 ^ 53 := by
  obtain ⟨m, e, h, rfl⟩ := h
  have hlow := h.low
  rw [two_zpow_add] at hlow
  refine h.error.trans ?_
  rw [le_div_iff₀ (by norm_num)]
  norm_num at hlow ⊢
  linarith

theorem half_le (h : Rounds q x) : q / 2 ≤ x := by
  obtain ⟨herror, -⟩ := abs_le.1 h.error
  have := h.pos
  norm_num at herror
  linarith

theorem le_double (h : Rounds q x) : x ≤ 2 * q := by
  obtain ⟨-, herror⟩ := abs_le.1 h.error
  have := h.pos
  norm_num at herror
  linarith

theorem eq_of_natCast (h : Rounds n x) (hn : n < 2 ^ 53) : x = n := by
  obtain ⟨m, e, h, rfl⟩ := h
  have he : e ≤ 0 := by
    have hlt : (2 : ℚ) ^ (52 + e) < 2 ^ (53 : ℤ) := h.low.trans_lt (by exact_mod_cast hn)
    have := (zpow_lt_zpow_iff_right₀ (by norm_num : (1 : ℚ) < 2)).1 hlt
    omega
  obtain ⟨d, rfl⟩ : ∃ d : ℕ, e = -d := ⟨(-e).toNat, by omega⟩
  have hnearest := h.nearest
  have hscaled : (n : ℚ) / 2 ^ (-d : ℤ) = (n * 2 ^ d : ℕ) := by simp
  rw [hscaled] at hnearest
  rw [hnearest.eq_of_natCast]
  simp

end Rounds

end

/-! ## How binary64 numbers are rounded -/

section
variable {num den : ℕ}

theorem nearest_roundDiv (num : ℕ) {den : ℕ} (hden : 0 < den) : Nearest (num / den) (roundDiv num den) := by
  have hd : (0 : ℚ) < den := by exact_mod_cast hden
  obtain ⟨ρ, hρ⟩ : ∃ ρ : ℚ, ρ = (num % den : ℕ) / den := ⟨_, rfl⟩
  have hq : (num : ℚ) / den = (num / den : ℕ) + ρ := by
    have hdiv : (num : ℚ) = den * (num / den : ℕ) + (num % den : ℕ) := by
      exact_mod_cast (Nat.div_add_mod num den).symm
    rw [hρ, div_eq_iff hd.ne', hdiv]
    field_simp
  have hhalf : ρ = 1 / 2 ↔ 2 * (num % den) = den := by
    rw [hρ, div_eq_div_iff hd.ne' (by norm_num), mul_comm, one_mul]
    exact_mod_cast Iff.rfl
  have hlt : ρ < 1 / 2 ↔ 2 * (num % den) < den := by
    rw [hρ, div_lt_div_iff₀ hd (by norm_num), mul_comm, one_mul]
    exact_mod_cast Iff.rfl
  have hpos : 0 ≤ ρ := by
    rw [hρ]
    positivity
  have hone : ρ < 1 := by
    rw [hρ, div_lt_one hd]
    exact_mod_cast Nat.mod_lt num hden
  unfold roundDiv
  dsimp only
  rw [hq]
  split
  · next hup =>
    have hge : 1 / 2 ≤ ρ := not_lt.1 fun h => by have := hlt.1 h; omega
    have habs : |((num / den : ℕ) : ℚ) + ρ - (num / den + 1 : ℕ)| = 1 - ρ := by
      rw [abs_of_nonpos] <;> push_cast <;> linarith
    refine ⟨by linarith, fun h => ?_⟩
    have := hhalf.1 (by linarith)
    rw [Nat.even_iff]
    omega
  · next hdown =>
    have hle : ρ ≤ 1 / 2 := by
      rw [le_iff_lt_or_eq, hhalf, hlt]
      omega
    have habs : |((num / den : ℕ) : ℚ) + ρ - (num / den : ℕ)| = ρ := by
      rw [add_sub_cancel_left, abs_of_nonneg hpos]
    refine ⟨by linarith, fun h => ?_⟩
    have := hhalf.1 (by linarith)
    rw [Nat.even_iff]
    omega

theorem nearest_mantissaAt (hden : 0 < den) (e : ℤ) : Nearest (num / den / 2 ^ e) (mantissaAt num den e) := by
  unfold mantissaAt
  split
  · next he =>
    lift e to ℕ using he
    have h := nearest_roundDiv num (Nat.mul_pos hden (Nat.two_pow_pos e))
    rw [Nat.cast_mul, ← div_div] at h
    exact_mod_cast h
  · next he =>
    obtain ⟨d, rfl⟩ : ∃ d : ℕ, e = -d := ⟨(-e).toNat, by omega⟩
    have h := nearest_roundDiv (num * 2 ^ d) hden
    rw [Nat.cast_mul, mul_div_right_comm] at h
    simpa using h

theorem twoPowLe_iff (hden : 0 < den) (k : ℤ) : twoPowLe k num den = true ↔ (2 : ℚ) ^ k ≤ num / den := by
  have hd : (0 : ℚ) < den := by exact_mod_cast hden
  unfold twoPowLe
  split
  · next hk =>
    lift k to ℕ using hk
    rw [decide_eq_true_iff, le_div_iff₀ hd, mul_comm]
    exact_mod_cast Iff.rfl
  · next hk =>
    obtain ⟨d, rfl⟩ : ∃ d : ℕ, k = -d := ⟨(-k).toNat, by omega⟩
    rw [decide_eq_true_iff, zpow_neg, inv_eq_one_div, div_le_div_iff₀ (by positivity) hd, one_mul]
    simp only [neg_neg, Int.toNat_natCast]
    exact_mod_cast Iff.rfl

theorem ratioLog2_le_and_lt (hnum : 0 < num) (hden : 0 < den) :
    (2 : ℚ) ^ ratioLog2 num den ≤ num / den ∧ (num : ℚ) / den < 2 ^ (ratioLog2 num den + 1) := by
  have hd : (0 : ℚ) < den := by exact_mod_cast hden
  have hlow {n : ℕ} (hn : 0 < n) : (2 : ℚ) ^ (n.log2 : ℤ) ≤ n := by exact_mod_cast Nat.log2_self_le hn.ne'
  have hhigh (n : ℕ) : (n : ℚ) < 2 ^ ((n.log2 : ℤ) + 1) := by exact_mod_cast Nat.lt_log2_self
  have hbelow : (2 : ℚ) ^ ((num.log2 : ℤ) - den.log2 - 1) ≤ num / den := by
    rw [le_div_iff₀ hd]
    calc (2 : ℚ) ^ ((num.log2 : ℤ) - den.log2 - 1) * den
        ≤ 2 ^ ((num.log2 : ℤ) - den.log2 - 1) * 2 ^ ((den.log2 : ℤ) + 1) :=
          mul_le_mul_of_nonneg_left (hhigh den).le (two_zpow_pos _).le
      _ = 2 ^ (num.log2 : ℤ) := by rw [← two_zpow_add]; congr 1; ring
      _ ≤ num := hlow hnum
  have habove : (num : ℚ) / den < 2 ^ ((num.log2 : ℤ) - den.log2 + 1) := by
    rw [div_lt_iff₀ hd]
    calc (num : ℚ) < 2 ^ ((num.log2 : ℤ) + 1) := hhigh num
      _ = 2 ^ ((num.log2 : ℤ) - den.log2 + 1) * 2 ^ (den.log2 : ℤ) := by rw [← two_zpow_add]; congr 1; ring
      _ ≤ 2 ^ ((num.log2 : ℤ) - den.log2 + 1) * den := mul_le_mul_of_nonneg_left (hlow hden) (two_zpow_pos _).le
  unfold ratioLog2
  dsimp only
  split
  · next h => exact ⟨(twoPowLe_iff hden _).1 h, habove⟩
  · next h =>
    rw [twoPowLe_iff hden, not_le] at h
    exact ⟨hbelow, by rwa [sub_add_cancel]⟩

/-- From the least normal number on, a ratio is rounded to 53 binary digits, unless that is out of range. -/
theorem ofRatio_eq (s : Bool) (hnum : 0 < num) (hden : 0 < den) (hq : (2 : ℚ) ^ (-1022 : ℤ) ≤ num / den) :
    ∃ (m : ℕ) (e : ℤ), 2 ^ 52 ≤ m ∧ m < 2 ^ 53 ∧ Rounds (num / den) (m * 2 ^ e) ∧
      ofRatio s num den = if maxExponent < e then .infinity s else .finite s m e := by
  obtain ⟨hlow, hhigh⟩ := ratioLog2_le_and_lt hnum hden
  obtain ⟨e, he⟩ : ∃ e, e = ratioLog2 num den - 52 := ⟨_, rfl⟩
  have hlog : ratioLog2 num den = 52 + e := by omega
  have hleast : -1022 < ratioLog2 num den + 1 := (zpow_lt_zpow_iff_right₀ (by norm_num)).1 (hq.trans_lt hhigh)
  rw [hlog] at hlow hhigh hleast
  have hrounds : RoundsAt (num / den) (mantissaAt num den e) e :=
    ⟨hlow, by rwa [show (53 : ℤ) + e = 52 + e + 1 by ring], nearest_mantissaAt hden e⟩
  have hexp : max (ratioLog2 num den - 52) minExponent = e := by
    rw [← he]
    exact max_eq_left (by unfold minExponent; omega)
  unfold ofRatio
  rw [if_neg hnum.ne']
  dsimp only
  rw [hexp]
  split
  · next hcarry =>
    refine ⟨2 ^ 52, e + 1, le_rfl, by norm_num, ⟨_, _, hrounds, ?_⟩, rfl⟩
    rw [hcarry, add_comm e, two_zpow_add]
    norm_num
    ring
  · next hcarry =>
    exact ⟨_, e, hrounds.le_mantissa, lt_of_le_of_ne hrounds.mantissa_le hcarry, ⟨_, _, hrounds, rfl⟩, rfl⟩

end

/-- Numbers are divided by rounding the ratio that they are in. -/
theorem exists_div_eq (s s' : Bool) (m : ℕ) {m' : ℕ} (e e' : ℤ) (hm' : 0 < m') :
    ∃ num den : ℕ, 0 < den ∧ (num : ℚ) / den = m * 2 ^ e / (m' * 2 ^ e') ∧
      div (.finite s m e) (.finite s' m' e') = ofRatio (s != s') num den := by
  have hratio : (m : ℚ) * 2 ^ e / (m' * 2 ^ e') = m * 2 ^ (e - e') / m' := by
    rw [zpow_sub₀ (by norm_num)]
    field_simp
  rw [hratio]
  unfold div
  dsimp only
  rw [if_neg hm'.ne']
  split
  · next hd =>
    obtain ⟨d, hd⟩ := Int.eq_ofNat_of_zero_le hd
    rw [hd]
    exact ⟨m * 2 ^ d, m', hm', by simp, rfl⟩
  · next hd =>
    obtain ⟨d, hd⟩ : ∃ d : ℕ, e - e' = -d := ⟨(-(e - e')).toNat, by omega⟩
    rw [hd]
    refine ⟨m, m' * 2 ^ d, by positivity, ?_, by simp⟩
    rw [zpow_neg, Nat.cast_mul]
    field_simp
    simp

/-! ## Seconds in nanoseconds -/

theorem exists_of_ofInt? {n : ℕ} {y : Binary64} (hn : 0 < n) (h : ofInt? n = some y) :
    ∃ (m : ℕ) (e : ℤ), y = .finite false m e ∧ m < 2 ^ 53 ∧ e ≤ maxExponent ∧ Rounds n (m * 2 ^ e) := by
  have hone : (1 : ℚ) ≤ n := by exact_mod_cast hn
  have hq : (2 : ℚ) ^ (-1022 : ℤ) ≤ n / (1 : ℕ) := by
    rw [Nat.cast_one, div_one]
    exact (zpow_le_one_of_nonpos₀ (by norm_num) (by norm_num)).trans hone
  obtain ⟨m, e, -, hm, hrounds, heq⟩ := ofRatio_eq false hn Nat.one_pos hq
  rw [Nat.cast_one, div_one] at hrounds
  have hnot : decide ((n : ℤ) < 0) = false := decide_eq_false (by omega)
  unfold ofInt? at h
  rw [hnot, Int.natAbs_natCast, heq] at h
  by_cases hover : maxExponent < e
  · rw [if_pos hover] at h
    cases h
  · rw [if_neg hover] at h
    cases h
    exact ⟨m, e, rfl, hm, not_lt.1 hover, hrounds⟩

theorem billion_eq : billion = .finite false (10 ^ 9 * 2 ^ 23) (-23) := by decide +kernel

/-- A billionth is never out of range. -/
theorem exists_div_billion {m : ℕ} {e : ℤ} (hm : m < 2 ^ 53) (he : e ≤ maxExponent)
    (hlow : 1 / 2 ≤ (m : ℚ) * 2 ^ e) :
    ∃ (m' : ℕ) (e' : ℤ), div (.finite false m e) billion = .finite false m' e' ∧
      Rounds (m * 2 ^ e / 10 ^ 9) (m' * 2 ^ e') := by
  obtain ⟨num, den, hden, hratio, hdiv⟩ :=
    exists_div_eq false false m e (-23) (by norm_num : 0 < 10 ^ 9 * 2 ^ 23)
  have hbillion : ((10 ^ 9 * 2 ^ 23 : ℕ) : ℚ) * 2 ^ (-23 : ℤ) = 10 ^ 9 := by norm_num
  rw [hbillion] at hratio
  have hsmall : (2 : ℚ) ^ (-1022 : ℤ) ≤ 1 / 2 / 10 ^ 9 :=
    calc (2 : ℚ) ^ (-1022 : ℤ) ≤ 2 ^ (-31 : ℤ) := zpow_le_zpow_right₀ (by norm_num) (by norm_num)
      _ ≤ 1 / 2 / 10 ^ 9 := by norm_num
  have hq : (2 : ℚ) ^ (-1022 : ℤ) ≤ num / den := by
    rw [hratio]
    exact hsmall.trans (div_le_div_of_nonneg_right hlow (by norm_num))
  have hnum : 0 < num := Nat.pos_of_ne_zero fun hz => by
    rw [hz, Nat.cast_zero, zero_div] at hq
    exact absurd hq (two_zpow_pos _).not_ge
  obtain ⟨m', e', hm', -, hrounds, heq⟩ := ofRatio_eq false hnum hden hq
  rw [hratio] at hrounds
  rw [billion_eq, hdiv]
  refine ⟨m', e', heq.trans (if_neg fun hover => ?_), hrounds⟩
  -- Beyond the range the quotient were no smaller than the greatest number.
  have htop : (m : ℚ) * 2 ^ e < 2 ^ (1024 : ℤ) :=
    calc (m : ℚ) * 2 ^ e < 2 ^ 53 * 2 ^ e := mul_lt_mul_of_pos_right (by exact_mod_cast hm) (two_zpow_pos e)
      _ ≤ 2 ^ 53 * 2 ^ (971 : ℤ) :=
        mul_le_mul_of_nonneg_left (zpow_le_zpow_right₀ (by norm_num) he) (by norm_num)
      _ = 2 ^ (1024 : ℤ) := by rw [← zpow_natCast, ← two_zpow_add]; norm_num
  have hbeyond : (2 : ℚ) ^ (1024 : ℤ) ≤ m' * 2 ^ e' :=
    calc (2 : ℚ) ^ (1024 : ℤ) = 2 ^ (52 : ℕ) * 2 ^ (972 : ℤ) := by rw [← zpow_natCast, ← two_zpow_add]; norm_num
      _ ≤ m' * 2 ^ e' := mul_le_mul (by exact_mod_cast hm') (zpow_le_zpow_right₀ (by norm_num) hover)
        (two_zpow_pos _).le (Nat.cast_nonneg _)
  have hdouble := hrounds.le_double
  have hlt := htop.trans_le hbeyond
  have hpos := (one_half_pos (α := ℚ)).trans_le hlow
  generalize (m : ℚ) * 2 ^ e = y at hdouble hlt hpos
  generalize (m' : ℚ) * 2 ^ e' = x at hdouble hlt
  linarith

end ContainerLaunch.Binary64
