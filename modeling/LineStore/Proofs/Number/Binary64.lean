import LineStore.Number.Binary64
import Mathlib.Algebra.Ring.Nat
import Mathlib.Data.Nat.Log
import Mathlib.Tactic.SplitIfs
/-!
# Whole numbers through binary floating point

A whole number that becomes a binary64 number is rounded to a multiple of a power of two, `truncate?_ofRatio`.
Up to `2 ^ 53` it stays as it is; from there on it may move, and within half a unit of `2 ^ 63` it moves out of
the range of 64-bit integers, `toInt64_ofRatio`.
-/
namespace LineStore.Number

private theorem twoTo_add (m n : Nat) : twoTo (m + n) = twoTo m * twoTo n := Nat.pow_add 2 m n

private theorem twoTo_pos (n : Nat) : 0 < twoTo n := Nat.two_pow_pos n

private theorem divRound_mul_right (num den : Nat) {c : Nat} (hc : 0 < c) :
    divRound (num * c) (den * c) = divRound num den := by
  have hbelow : ∀ a b : Nat, 2 * (a * c) < b * c ↔ 2 * a < b := fun a b => by
    rw [← Nat.mul_assoc, Nat.mul_lt_mul_right hc]
  have habove : ∀ a b : Nat, b * c < 2 * (a * c) ↔ b < 2 * a := fun a b => by
    rw [← Nat.mul_assoc, Nat.mul_lt_mul_right hc]
  simp only [divRound, Nat.mul_div_mul_right _ _ hc, Nat.mul_mod_mul_right, hbelow, habove]

private theorem divRound_one (n : Nat) : divRound n 1 = n := by
  simp [divRound, Nat.mod_one]

private theorem le_divRound (num den : Nat) : num / den ≤ divRound num den := by
  unfold divRound
  dsimp only
  split_ifs <;> omega

private theorem divRound_le (num den : Nat) : divRound num den ≤ num / den + 1 := by
  unfold divRound
  dsimp only
  split_ifs <;> omega

/-- The power of two between neighbours of 53 bits where a whole number lies. -/
def spacing (n : Nat) : Nat := twoTo (n.log2 - 52)

/-- A whole number as 53 bits hold it. -/
def rounded (n : Nat) : Nat := divRound n (spacing n) * spacing n

theorem rounded_of_lt {n : Nat} (h : n < 2 ^ 53) : rounded n = n := by
  have hlog : n.log2 - 52 = 0 := by
    rcases Nat.eq_zero_or_pos n with rfl | hpos
    · decide
    · have hlt : n.log2 < 53 := (Nat.log2_lt hpos.ne').mpr h
      omega
  have hspacing : spacing n = 1 := by
    rw [spacing, hlog]
    rfl
  rw [rounded, hspacing, divRound_one, Nat.mul_one]

section Rounded

variable {n : Nat} (hlow : 2 ^ 53 ≤ n)

include hlow

private theorem le_log2_of_large : 53 ≤ n.log2 := by
  have hpos : 0 < n := (Nat.two_pow_pos 53).trans_le hlow
  exact (Nat.le_log2 hpos.ne').mpr hlow

private theorem twoTo_le_div_spacing : 2 ^ 52 ≤ n / spacing n := by
  have hpos : 0 < n := (Nat.two_pow_pos 53).trans_le hlow
  have hlog := le_log2_of_large hlow
  have hspacing : 0 < spacing n := twoTo_pos _
  rw [Nat.le_div_iff_mul_le hspacing]
  have hpow : 2 ^ 52 * spacing n = 2 ^ n.log2 := by
    rw [spacing, twoTo, Nat.pow_eq, ← Nat.pow_add]
    congr 1
    omega
  rw [hpow]
  exact Nat.log2_self_le hpos.ne'

theorem le_rounded : 2 ^ 53 ≤ rounded n := by
  have hlog := le_log2_of_large hlow
  have htwo : 2 ≤ spacing n := by
    have hpow : 2 ^ 1 ≤ 2 ^ (n.log2 - 52) := Nat.pow_le_pow_right (by decide) (by omega)
    exact hpow
  calc 2 ^ 53 = 2 ^ 52 * 2 := by decide
    _ ≤ divRound n (spacing n) * spacing n :=
      Nat.mul_le_mul ((twoTo_le_div_spacing hlow).trans (le_divRound _ _)) htwo

private theorem rounded_lt_iff (hhigh : n < 2 ^ 63) : rounded n < 2 ^ 63 ↔ n < 2 ^ 63 - 512 := by
  -- Below `2 ^ 63` the spacing is at most 1024, so it takes the last half of a spacing to round up
  -- to it.
  have hpos : n ≠ 0 := by omega
  rcases Nat.lt_or_ge n.log2 62 with hlog | hlog
  · have hspacing : spacing n ≤ 2 ^ 9 := Nat.pow_le_pow_right (by decide) (by omega)
    have hn : n < 2 ^ 62 := Nat.lt_log2_self.trans_le (Nat.pow_le_pow_right (by decide) hlog)
    have hle : rounded n ≤ n + spacing n := by
      calc rounded n ≤ (n / spacing n + 1) * spacing n := Nat.mul_le_mul_right _ (divRound_le _ _)
        _ = n / spacing n * spacing n + spacing n := Nat.succ_mul _ _
        _ ≤ n + spacing n := Nat.add_le_add_right (Nat.div_mul_le_self _ _) _
    have h63 : 2 ^ 62 + 2 ^ 9 < 2 ^ 63 - 512 := by decide
    have hlt : 2 ^ 63 - 512 < 2 ^ 63 := by decide
    exact iff_of_true (by omega) (by omega)
  · have hlog62 : n.log2 = 62 := by
      have hlt : n.log2 < 63 := (Nat.log2_lt hpos).mpr hhigh
      omega
    have hspacing : spacing n = 1024 := by
      rw [spacing, hlog62]
      rfl
    rw [rounded, hspacing, divRound]
    split_ifs <;> omega

end Rounded

private theorem log2_mul_twoTo {n : Nat} (hn : n ≠ 0) (k : Nat) :
    (n * twoTo k).log2 = n.log2 + k := by
  have hpos := twoTo_pos k
  rw [Nat.log2_eq_iff (Nat.mul_ne_zero hn hpos.ne')]
  constructor
  · rw [Nat.pow_add]
    exact Nat.mul_le_mul_right _ (Nat.log2_self_le hn)
  · rw [Nat.add_right_comm, Nat.pow_add]
    exact (Nat.mul_lt_mul_right hpos).mpr Nat.lt_log2_self

private theorem roundRatio_carry (p : Precision) (hbits : 0 < p.bits) {num den e : Nat}
    (he : e = Nat.log2 (num * twoTo p.scale / den) + 1 - p.bits) (hfits : e + 1 ≤ p.maxExponent) :
    ∃ m' e', roundRatio p num den = some (m', e') ∧
      m' * twoTo e' = divRound (num * twoTo p.scale) (den * twoTo e) * twoTo e := by
  -- A mantissa that rounds up to one bit more is halved at the next exponent.
  rw [roundRatio]
  simp only [← he]
  generalize divRound (num * twoTo p.scale) (den * twoTo e) = m
  by_cases hcarry : m = twoTo p.bits
  · refine ⟨m / 2, e + 1, ?_, ?_⟩
    · simp only [if_pos hcarry]
      rw [if_neg (by omega)]
    · have hbit : twoTo p.bits = twoTo (p.bits - 1) * 2 := by
        have hsucc : p.bits = p.bits - 1 + 1 := by omega
        conv_lhs => rw [hsucc, twoTo_add]
        rfl
      have heven : m / 2 * 2 = m := by omega
      calc m / 2 * twoTo (e + 1) = m / 2 * (twoTo e * 2) := by rw [twoTo_add]; rfl
        _ = m / 2 * 2 * twoTo e := by rw [Nat.mul_comm (twoTo e), Nat.mul_assoc]
        _ = m * twoTo e := by rw [heven]
  · refine ⟨m, e, ?_, rfl⟩
    simp only [if_neg hcarry]
    rw [if_neg (by omega)]

private theorem divRound_units (n : Nat) {scale e : Nat} (hscale : 52 ≤ scale)
    (he : e = n.log2 + scale - 52) :
    divRound (n * twoTo scale) (1 * twoTo e) * twoTo e = rounded n * twoTo scale := by
  rw [Nat.one_mul]
  rcases Nat.le_total 52 n.log2 with hlarge | hsmall
  · have hunit : twoTo e = spacing n * twoTo scale := by
      rw [spacing, ← twoTo_add]
      congr 1
      omega
    rw [hunit, divRound_mul_right _ _ (twoTo_pos _), rounded, Nat.mul_assoc]
  · have hunit : twoTo scale = twoTo (52 - n.log2) * twoTo e := by
      rw [← twoTo_add]
      congr 1
      omega
    have hn53 : n < 2 ^ 53 := Nat.lt_log2_self.trans_le (Nat.pow_le_pow_right (by decide) (by omega))
    have hround := divRound_mul_right (n * twoTo (52 - n.log2)) 1 (twoTo_pos e)
    rw [Nat.one_mul, Nat.mul_assoc, ← hunit] at hround
    rw [hround, divRound_one, rounded_of_lt hn53, Nat.mul_assoc, ← hunit]

private theorem truncate?_ofRatio {n : Nat} (hlog : n.log2 ≤ 63) :
    (ofRatio false n 1).truncate? = some (rounded n : Int) := by
  by_cases hn : n = 0
  · subst hn
    decide +kernel
  · have hexponent : n.log2 + double.scale - 52 =
        Nat.log2 (n * twoTo double.scale / 1) + 1 - double.bits := by
      rw [Nat.div_one, log2_mul_twoTo hn]
      change n.log2 + double.scale - 52 = n.log2 + double.scale + 1 - 53
      omega
    have hfits : n.log2 + double.scale - 52 + 1 ≤ double.maxExponent := by
      change n.log2 + 1074 - 52 + 1 ≤ 2045
      omega
    obtain ⟨m, e, hround, hunits⟩ := roundRatio_carry double (by decide) hexponent hfits
    rw [divRound_units n (by decide) rfl] at hunits
    have hdiv : m * twoTo e / twoTo double.scale = rounded n := by
      rw [hunits, Nat.mul_div_cancel _ (twoTo_pos _)]
    rw [ofRatio, if_neg hn, hround]
    simp only [truncate?, magnitude, hdiv, Bool.false_eq_true, if_false]

/-- A whole number of at most 64 bits, through binary floating point. -/
theorem toInt64_ofRatio {n : Nat} (h : n ≤ 2 ^ 63) :
    (ofRatio false n 1).toInt64 = if n < 2 ^ 63 - 512 then (rounded n : Int) else -9223372036854775808 := by
  have hlog : n.log2 ≤ 63 := by
    rcases Nat.eq_zero_or_pos n with rfl | hpos
    · decide
    · have hlt : n.log2 < 64 := (Nat.log2_lt hpos.ne').mpr (h.trans_lt (by decide))
      omega
  have hfits : rounded n < 2 ^ 63 ↔ n < 2 ^ 63 - 512 := by
    rcases Nat.lt_or_ge n (2 ^ 53) with hsmall | hlarge
    · rw [rounded_of_lt hsmall]
      omega
    · rcases Nat.lt_or_eq_of_le h with hlt | rfl
      · exact rounded_lt_iff hlarge hlt
      · decide
  rw [toInt64, truncate?_ofRatio hlog]
  by_cases hn : n < 2 ^ 63 - 512
  · have hr := hfits.mpr hn
    rw [if_pos hn]
    exact if_pos (by omega)
  · have hr := mt hfits.mp hn
    rw [if_neg hn]
    exact if_neg (by omega)

end LineStore.Number
