import LineStore.Proofs.Number.Binary64
import LineStore.Proofs.Table.Numeral
/-!
# Limiting the length of a text

The limit is compared with a text after a passage through binary floating point, but the text is cut at the
limit itself.  The two part near the ends of the range of 64-bit integers, `bound_eq`, and there a cut falls
outside the text, `apply_fails_iff`.
-/
namespace LineStore.Transform

/-- The limit that a numeral stands for. -/
def limitOf (numeral : Bytes) : Int :=
  match Int64.read numeral with
  | .ok n => n
  | .error f => f.nearest

theorem lengthLimit?_eq (spec : Bytes) : lengthLimit? spec = (numerals spec).getLast?.map limitOf := by
  rw [← lastNumeral?_eq]
  rfl

private theorem limitOf_of_sign {numeral digits : Bytes} {negative : Bool}
    (hdigits : Int64.IsDigits digits)
    (hsign : Int64.sign numeral = (negative, digits)) :
    limitOf numeral =
      if negative then max Int64.minValue (-(Int64.value digits : Int))
      else min Int64.maxValue (Int64.value digits : Int) := by
  have hread : Int64.digits? 10 digits = some (Int64.value digits) :=
    Int64.digits?_eq_some_iff.mpr ⟨hdigits, rfl⟩
  rw [limitOf, Int64.read, hsign]
  simp only [hread, Int64.bounded]
  unfold Int64.minValue Int64.maxValue
  cases negative with
  | true =>
    by_cases hfits : Int64.value digits ≤ 9223372036854775808
    · simp only [if_pos hfits, if_true]
      omega
    · simp only [if_neg hfits, if_true, Int64.Fault.nearest]
      omega
  | false =>
    by_cases hfits : Int64.value digits ≤ 9223372036854775807
    · simp only [if_pos hfits, Bool.false_eq_true, if_false]
      omega
    · simp only [if_neg hfits, Bool.false_eq_true, if_false, Int64.Fault.nearest]
      omega

/-- A numeral that is out of range counts as the nearest bound. -/
theorem limitOf_digits {digits : Bytes} (h : Int64.IsDigits digits) :
    limitOf digits = min Int64.maxValue (Int64.value digits : Int) :=
  limitOf_of_sign h (Int64.sign_of_isDigits h)

theorem limitOf_minus {digits : Bytes} (h : Int64.IsDigits digits) :
    limitOf (0x2d :: digits) = max Int64.minValue (-(Int64.value digits : Int)) :=
  have hsign : Int64.sign (0x2d :: digits) = (true, digits) := rfl
  limitOf_of_sign h hsign

private theorem limitOf_inRange {spec numeral : Bytes}
    (h : (numerals spec).getLast? = some numeral) :
    Int64.minValue ≤ limitOf numeral ∧ limitOf numeral ≤ Int64.maxValue := by
  rw [← lastNumeral?_eq] at h
  obtain ⟨digits, hdigits, rfl | rfl⟩ := lastNumeral?_cases h
  · rw [limitOf_digits hdigits]
    unfold Int64.minValue Int64.maxValue
    omega
  · rw [limitOf_minus hdigits]
    unfold Int64.minValue Int64.maxValue
    omega

private theorem bound_eq {n : Int} (hlow : Int64.minValue ≤ n) (hhigh : n ≤ Int64.maxValue) :
    bound n =
      if n.natAbs < 2 ^ 63 - 512 then (Number.rounded n.natAbs : Int) else Int64.minValue := by
  unfold Int64.minValue at hlow
  unfold Int64.maxValue at hhigh
  exact Number.toInt64_ofRatio (by omega)

theorem bound_of_le {n : Int} (h : n.natAbs ≤ 2 ^ 53) : bound n = n.natAbs := by
  have hrounded : Number.rounded n.natAbs = n.natAbs := by
    rcases Nat.lt_or_eq_of_le h with hlt | heq
    · exact Number.rounded_of_lt hlt
    · rw [heq]
      decide
  have hlow : Int64.minValue ≤ n := by
    unfold Int64.minValue
    omega
  have hhigh : n ≤ Int64.maxValue := by
    unfold Int64.maxValue
    omega
  rw [bound_eq hlow hhigh, if_pos (by omega), hrounded]

theorem slice_eq_ok {s : Bytes} {lo hi : Int} (hlo : 0 ≤ lo) (hle : lo ≤ hi) (hhi : hi ≤ s.length) :
    slice s lo hi = .ok ((s.take hi.toNat).drop lo.toNat) := if_pos ⟨hlo, hle, hhi⟩

private theorem tdiv_two_le (n : Int) : n.tdiv 2 ≤ max n 0 := by
  rcases le_total 0 n with hn | hn
  · rw [Int.tdiv_eq_ediv_of_nonneg hn]
    omega
  · have hneg : 0 ≤ (-n).tdiv 2 := Int.tdiv_nonneg (by omega) (by decide)
    rw [Int.neg_tdiv] at hneg
    omega

private theorem limit_eq_error_iff (n : Int) (s : Bytes) :
    (∃ e, limit n s = .error e) ↔ bound n < s.length ∧ (s.length : Int) < n := by
  rw [limit]
  by_cases hfits : (s.length : Int) ≤ bound n
  · simp only [if_pos hfits]
    refine iff_of_false ?_ (by omega)
    rintro ⟨e, he⟩
    cases he
  · simp only [if_neg hfits]
    by_cases hneg : n < 0
    · have htdiv := tdiv_two_le (bound n)
      generalize hk : max ((bound n).tdiv 2 - 1) 0 = k
      have hlow : 0 ≤ k := by omega
      have hhigh : k ≤ s.length := by omega
      have hleft := slice_eq_ok (le_refl 0) hlow hhigh
      have hright := slice_eq_ok (sub_nonneg.mpr hhigh) (by omega) (le_refl (s.length : Int))
      simp only [if_pos hneg, hleft, hright]
      refine iff_of_false ?_ (by omega)
      rintro ⟨e, he⟩
      cases he
    · simp only [if_neg hneg]
      by_cases hcut : n ≤ s.length
      · rw [slice_eq_ok (le_refl 0) (by omega) hcut]
        refine iff_of_false ?_ (by omega)
        rintro ⟨e, he⟩
        cases he
      · rw [slice, if_neg (by omega)]
        exact iff_of_true ⟨_, rfl⟩ (by omega)

private theorem cut_outside_iff {n : Int} (hlow : Int64.minValue ≤ n) (hhigh : n ≤ Int64.maxValue)
    {length : Nat}
    (hlength : length ≤ 2 ^ 53) :
    bound n < length ∧ (length : Int) < n ↔ 2 ^ 63 - 512 ≤ n := by
  -- For texts of any length that a memory can hold the cut falls outside for the limits next to `2
  -- ^ 63`.
  by_cases hlarge : 2 ^ 63 - 512 ≤ n
  · rw [bound_eq hlow hhigh, if_neg (by omega)]
    unfold Int64.minValue
    omega
  · refine iff_of_false ?_ hlarge
    rintro ⟨hbound, hcut⟩
    by_cases hsmall : n.natAbs ≤ 2 ^ 53
    · rw [bound_of_le hsmall] at hbound
      omega
    · have hrounded : 2 ^ 53 ≤ Number.rounded n.natAbs := Number.le_rounded (by omega)
      rw [bound_eq hlow hhigh, if_pos (by omega)] at hbound
      omega

/-- The text that reaches the length limit, and the transform that holds from then on. -/
def beforeLimit (zone : Option Time.Zone) (spec s : Bytes) : Bytes × Bytes :=
  let t := timeStep zone spec (if spec.any isChomp then chomp s else s)
  ((caseChange t.2.1).apply t.1, t.2.1)

theorem applyText_value (zone : Option Time.Zone) (spec s : Bytes) :
    (applyText zone spec s).1 =
      match lengthLimit? (beforeLimit zone spec s).2 with
      | none => .ok (beforeLimit zone spec s).1
      | some n => limit n (beforeLimit zone spec s).1 := by
  simp only [applyText, beforeLimit]
  cases lengthLimit? _ <;> rfl

theorem apply_text_value (zone : Option Time.Zone) (a : Attribute) (s : Bytes) :
    (apply zone a (.text s)).value = (applyText zone a.transform s).1.map Value.text := rfl

/-- A transform cuts outside a text exactly when the text is longer than what its limit is compared as and ends
before the limit.  Of texts up to `2 ^ 53` bytes this is so for the limits without a sign from `2 ^ 63 - 512`
on, however many digits they have. -/
theorem apply_fails_iff (zone : Option Time.Zone) (a : Attribute) (v : Value) :
    ((∃ e, (apply zone a v).value = .error e) ↔
      ∃ s numeral, v = .text s ∧ (numerals (beforeLimit zone a.transform s).2).getLast? = some numeral ∧
        bound (limitOf numeral) < (beforeLimit zone a.transform s).1.length ∧
        ((beforeLimit zone a.transform s).1.length : Int) < limitOf numeral) ∧
    ∀ s, v = .text s → (beforeLimit zone a.transform s).1.length ≤ 2 ^ 53 →
      ((∃ e, (apply zone a v).value = .error e) ↔
        ∃ digits, (numerals (beforeLimit zone a.transform s).2).getLast? = some digits ∧
          (∀ b ∈ digits, Bytes.isDigit b = true) ∧ 2 ^ 63 - 512 ≤ Int64.value digits) := by
  have hmain : (∃ e, (apply zone a v).value = .error e) ↔
      ∃ s numeral, v = .text s ∧ (numerals (beforeLimit zone a.transform s).2).getLast? = some numeral ∧
        bound (limitOf numeral) < (beforeLimit zone a.transform s).1.length ∧
        ((beforeLimit zone a.transform s).1.length : Int) < limitOf numeral := by
    cases v with
    | text s =>
      simp only [Value.text.injEq, exists_and_left, exists_eq_left', apply_text_value, applyText_value,
        lengthLimit?_eq]
      cases (numerals (beforeLimit zone a.transform s).2).getLast? with
      | none => simp [Except.map]
      | some numeral =>
        simp only [Option.map_some, Option.some.injEq, exists_eq_left', ← limit_eq_error_iff]
        cases limit (limitOf numeral) (beforeLimit zone a.transform s).1 <;> simp [Except.map]
    | _ => simp [apply]
  refine ⟨hmain, fun s hs hlength => ?_⟩
  rw [hmain, hs]
  constructor
  · rintro ⟨s', numeral, hs', hlast, hcut⟩
    cases hs'
    obtain ⟨hlow, hhigh⟩ := limitOf_inRange hlast
    have hlarge := (cut_outside_iff hlow hhigh hlength).mp hcut
    obtain ⟨digits, hdigits, rfl | rfl⟩ := lastNumeral?_cases ((lastNumeral?_eq _).trans hlast)
    · rw [limitOf_digits hdigits] at hlarge
      exact ⟨_, hlast, hdigits.2, by omega⟩
    · rw [limitOf_minus hdigits] at hlarge
      unfold Int64.minValue at hlarge
      omega
  · rintro ⟨digits, hlast, hdigits, hlarge⟩
    obtain ⟨hlow, hhigh⟩ := limitOf_inRange hlast
    have hne : digits ≠ [] := by
      rintro rfl
      exact absurd hlarge (by decide)
    refine ⟨s, digits, rfl, hlast, (cut_outside_iff hlow hhigh hlength).mpr ?_⟩
    rw [limitOf_digits ⟨hne, hdigits⟩]
    unfold Int64.maxValue
    omega

theorem apply_fails_iff_short_text :
    let a : Attribute := { key := utf8 "k", column := utf8 "k", transform := utf8 "c9223372036854775296" }
    (beforeLimit none a.transform (utf8 "x\n")).1.length ≤ 2 ^ 53 ∧
      ∃ e, (apply none a (.text (utf8 "x\n"))).value = .error e := by
  intro a
  have hlength : (beforeLimit none a.transform (utf8 "x\n")).1.length ≤ 2 ^ 53 := by decide +kernel
  obtain ⟨-, hshort⟩ := apply_fails_iff none a (.text (utf8 "x\n"))
  refine ⟨hlength, (hshort _ rfl hlength).mpr ⟨utf8 "9223372036854775296", ?_, ?_, ?_⟩⟩ <;> decide +kernel

/-- A limit that no text reaches, and still the text is not left as it is. -/
theorem apply_fails_large_limit :
    let a : Attribute := { key := utf8 "k", column := utf8 "k", transform := utf8 "9223372036854775807" }
    (apply none a (.text (utf8 "x"))).value = .error .cutOutOfRange := by
  intro a
  have hcut : (applyText none a.transform (utf8 "x")).1 = .error .cutOutOfRange := by decide +kernel
  rw [apply_text_value, hcut]
  rfl

end LineStore.Transform
