import LineStore.Number.Int64
import Mathlib.Data.Nat.Digits.Defs
import Mathlib.Tactic.Ring
/-!
# What a signed 64-bit numeral denotes

A numeral is a sign or none and then at least one decimal digit.  Reading gives the number it denotes and
refuses all else, a number that does not fit into 64 bits included, `read?_eq_some_iff`.
-/
namespace LineStore.Int64

/-- The number that decimal digits denote, the first of them the highest. -/
def value (digits : Bytes) : Nat := Nat.ofDigits 10 (digits.reverse.map fun b => b.toNat - 0x30)

def IsDigits (s : Bytes) : Prop := s ≠ [] ∧ ∀ b ∈ s, Bytes.isDigit b = true

/-- Decimal numerals of 64 bits: zeros may lead, and a plus sign says nothing. -/
inductive Denotes : Bytes → Int → Prop where
  | plain {digits : Bytes} (hdigits : IsDigits digits) (hfits : (value digits : Int) ≤ maxValue) :
      Denotes digits (value digits)
  | plus {digits : Bytes} (hdigits : IsDigits digits) (hfits : (value digits : Int) ≤ maxValue) :
      Denotes (0x2b :: digits) (value digits)
  | minus {digits : Bytes} (hdigits : IsDigits digits) (hfits : minValue ≤ -(value digits : Int)) :
      Denotes (0x2d :: digits) (-(value digits : Int))

private theorem value_cons (b : UInt8) (digits : Bytes) :
    value (b :: digits) = (b.toNat - 0x30) * 10 ^ digits.length + value digits := by
  unfold value
  rw [List.reverse_cons, List.map_append, Nat.ofDigits_append, List.length_map, List.length_reverse]
  simp [Nat.ofDigits_singleton, Nat.add_comm, Nat.mul_comm]

private theorem ten_le_of_isLetter {b : UInt8} (h : Bytes.isLetter b = true) :
    10 ≤ (Bytes.lowerAscii b).toNat - 0x57 := by
  simp only [Bytes.isLetter, Bytes.isLower, Bool.or_eq_true, Bool.and_eq_true, decide_eq_true_eq,
    UInt8.le_iff_toNat_le, UInt8.reduceToNat] at h
  unfold Bytes.lowerAscii
  by_cases hupper : Bytes.isUpper b = true
  · have hrange := hupper
    simp only [Bytes.isUpper, Bool.and_eq_true, decide_eq_true_eq, UInt8.le_iff_toNat_le,
      UInt8.reduceToNat] at hrange
    have hsum : (b + 0x20).toNat = b.toNat + 0x20 := by
      rw [UInt8.toNat_add]
      exact Nat.mod_eq_of_lt (by simp only [UInt8.reduceToNat]; omega)
    rw [if_pos hupper, hsum]
    omega
  · rw [if_neg hupper]
    have hlower := h.resolve_left hupper
    omega

private def addDigit (acc : Option Nat) (b : UInt8) : Option Nat := do
  let n ← acc
  let d ← Bytes.digitValue? b
  if d < 10 then some (n * 10 + d) else none

private theorem addDigit_some (n : Nat) (b : UInt8) :
    addDigit (some n) b = if Bytes.isDigit b then some (n * 10 + (b.toNat - 0x30)) else none := by
  unfold addDigit Bytes.digitValue?
  by_cases hdigit : Bytes.isDigit b = true
  · have hlt : b.toNat - 0x30 < 10 := by
      simp only [Bytes.isDigit, Bool.and_eq_true, decide_eq_true_eq, UInt8.le_iff_toNat_le,
        UInt8.reduceToNat] at hdigit
      omega
    simp [hdigit, hlt]
  · by_cases hletter : Bytes.isLetter b = true
    · have hlarge : ¬ (Bytes.lowerAscii b).toNat - 0x57 < 10 := by
        have hten := ten_le_of_isLetter hletter
        omega
      simp [hdigit, hletter, hlarge]
    · simp [hdigit, hletter]

private theorem foldl_addDigit_none (s : Bytes) : s.foldl addDigit none = none := by
  induction s with
  | nil => rfl
  | cons b s ih => exact ih

private theorem foldl_addDigit (n : Nat) (s : Bytes) :
    s.foldl addDigit (some n) =
      if s.all Bytes.isDigit then some (n * 10 ^ s.length + value s) else none := by
  -- The run: the digits already read are multiplied up by those that follow, and one byte that is
  -- no digit spoils the whole.
  induction s generalizing n with
  | nil => simp [value]
  | cons b s ih =>
    rw [List.foldl_cons, addDigit_some, List.all_cons]
    cases hb : Bytes.isDigit b with
    | true =>
      rw [if_pos rfl, ih, Bool.true_and, value_cons, List.length_cons]
      congr 2
      ring
    | false => rw [if_neg Bool.false_ne_true, foldl_addDigit_none, Bool.false_and, if_neg Bool.false_ne_true]

theorem digits?_eq_some_iff {s : Bytes} {n : Nat} : digits? 10 s = some n ↔ IsDigits s ∧ value s = n := by
  have hrun : digits? 10 s = if s.isEmpty then none else s.foldl addDigit (some 0) := rfl
  rw [hrun, foldl_addDigit, Nat.zero_mul, Nat.zero_add, IsDigits, ← List.all_eq_true]
  cases s with
  | nil => simp
  | cons b s => by_cases hall : (b :: s).all Bytes.isDigit = true <;> simp [hall]

private theorem bounded_eq_ok_iff {negative : Bool} {m : Nat} {n : Int} :
    bounded negative m = .ok n ↔
      n = (if negative then -(m : Int) else m) ∧ minValue ≤ n ∧ n ≤ maxValue := by
  unfold bounded minValue maxValue
  cases negative with
  | true =>
    by_cases hm : m ≤ 9223372036854775808 <;> simp [hm] <;> omega
  | false =>
    by_cases hm : m ≤ 9223372036854775807 <;> simp [hm] <;> omega

private theorem read?_of_sign {s body : Bytes} {negative : Bool} (hsign : sign s = (negative, body))
    {n : Int} :
    read? s = some n ↔ IsDigits body ∧ n = (if negative then -(value body : Int) else value body) ∧
      minValue ≤ n ∧ n ≤ maxValue := by
  have hread : read? s = some n ↔ ∃ m, digits? 10 body = some m ∧ bounded negative m = .ok n := by
    unfold read? read
    rw [hsign]
    cases hdigits : digits? 10 body with
    | none => simp [hdigits, Except.toOption]
    | some m => cases hbounded : bounded negative m <;> simp [hdigits, hbounded, Except.toOption]
  rw [hread]
  constructor
  · rintro ⟨m, hm, hn⟩
    obtain ⟨hdigits, rfl⟩ := digits?_eq_some_iff.mp hm
    exact ⟨hdigits, bounded_eq_ok_iff.mp hn⟩
  · rintro ⟨hdigits, hn⟩
    exact ⟨value body, digits?_eq_some_iff.mpr ⟨hdigits, rfl⟩, bounded_eq_ok_iff.mpr hn⟩

private theorem sign_cases (s : Bytes) :
    (∃ body, s = 0x2d :: body) ∨ (∃ body, s = 0x2b :: body) ∨ sign s = (false, s) := by
  unfold sign
  split
  · exact .inl ⟨_, rfl⟩
  · exact .inr (.inl ⟨_, rfl⟩)
  · exact .inr (.inr rfl)

/-- A sign is no digit. -/
theorem sign_of_isDigits {s : Bytes} (h : IsDigits s) : sign s = (false, s) := by
  rcases sign_cases s with ⟨body, rfl⟩ | ⟨body, rfl⟩ | hsign
  · exact absurd (h.2 0x2d List.mem_cons_self) (by decide)
  · exact absurd (h.2 0x2b List.mem_cons_self) (by decide)
  · exact hsign

theorem read?_eq_some_iff {s : Bytes} {n : Int} : read? s = some n ↔ Denotes s n := by
  constructor
  · intro h
    rcases sign_cases s with ⟨body, rfl⟩ | ⟨body, rfl⟩ | hsign
    · obtain ⟨hdigits, rfl, hfits, -⟩ := (read?_of_sign rfl).mp h
      exact .minus hdigits hfits
    · obtain ⟨hdigits, rfl, -, hfits⟩ := (read?_of_sign rfl).mp h
      exact .plus hdigits hfits
    · obtain ⟨hdigits, rfl, -, hfits⟩ := (read?_of_sign hsign).mp h
      exact .plain hdigits hfits
  · intro h
    have hlow : ∀ digits, minValue ≤ (value digits : Int) := fun digits => by unfold minValue; omega
    have hhigh : ∀ digits, -(value digits : Int) ≤ maxValue := fun digits => by unfold maxValue; omega
    cases h with
    | plain hdigits hfits =>
      exact (read?_of_sign (sign_of_isDigits hdigits)).mpr ⟨hdigits, rfl, hlow s, hfits⟩
    | plus hdigits hfits => exact (read?_of_sign rfl).mpr ⟨hdigits, rfl, hlow _, hfits⟩
    | minus hdigits hfits => exact (read?_of_sign rfl).mpr ⟨hdigits, rfl, hfits, hhigh _⟩

end LineStore.Int64
