import LineStore.Proofs.Table.Limit
/-!
# What a length limit leaves of a text

Limits up to `2 ^ 53` pass through binary floating point unchanged, so a text is compared with the very limit it
is cut at.  A text that fits stays, a limit from the front keeps its first bytes, and a negative one takes its
middle out, `apply_limits`.
-/
namespace LineStore.Transform

/-- The integer that a numeral writes, however large. -/
def integerOf : Bytes → Int
  | 0x2d :: digits => -(Int64.value digits : Int)
  | digits => Int64.value digits

/-- How many bytes a limit that takes the middle out leaves at either end. -/
def margin (n : Int) : Nat := n.natAbs / 2 - 1

private theorem integerOf_digits {digits : Bytes} (h : Int64.IsDigits digits) :
    integerOf digits = Int64.value digits := by
  obtain ⟨hne, hall⟩ := h
  obtain ⟨b, rest, rfl⟩ := List.exists_cons_of_ne_nil hne
  have hminus : b ≠ 0x2d := by
    rintro rfl
    exact absurd (hall 0x2d List.mem_cons_self) (by decide)
  unfold integerOf
  split
  · rename_i heq
    exact absurd (List.cons.inj heq).1 hminus
  · rfl

private theorem limitOf_eq_integerOf {spec numeral : Bytes}
    (h : (numerals spec).getLast? = some numeral)
    (hsmall : (integerOf numeral).natAbs ≤ 2 ^ 53) : limitOf numeral = integerOf numeral := by
  rw [← lastNumeral?_eq] at h
  obtain ⟨digits, hdigits, rfl | rfl⟩ := lastNumeral?_cases h
  · rw [integerOf_digits hdigits] at hsmall ⊢
    rw [limitOf_digits hdigits, Int64.maxValue]
    omega
  · have hinteger : integerOf (0x2d :: digits) = -(Int64.value digits : Int) := rfl
    rw [hinteger] at hsmall ⊢
    rw [limitOf_minus hdigits, Int64.minValue]
    omega

section Small

variable {n : Int} (hsmall : n.natAbs ≤ 2 ^ 53) {s : Bytes}

include hsmall

private theorem limit_of_fits (hfits : s.length ≤ n.natAbs) : limit n s = .ok s := by
  rw [limit, bound_of_le hsmall]
  exact if_pos (by omega)

private theorem limit_front (hlong : n.natAbs < s.length) (hn : 0 ≤ n) :
    limit n s = .ok (s.take n.natAbs) := by
  rw [limit, bound_of_le hsmall]
  simp only [if_neg (show ¬ (s.length : Int) ≤ n.natAbs by omega), if_neg (Int.not_lt.mpr hn)]
  rw [slice_eq_ok (le_refl 0) hn (by omega), ← Int.toNat_of_nonneg hn]
  rfl

private theorem limit_middle (hlong : n.natAbs < s.length) (hn : n < 0) :
    limit n s = .ok (s.take (margin n) ++ utf8 ".." ++ s.drop (s.length - margin n)) := by
  have hmargin : max ((n.natAbs : Int).tdiv 2 - 1) 0 = (margin n : Int) := by
    rw [Int.tdiv_eq_ediv_of_nonneg (Int.natCast_nonneg _), margin]
    omega
  have hle : margin n ≤ s.length := by
    unfold margin
    omega
  have hleft : slice s 0 (margin n) = _ := slice_eq_ok (le_refl 0) (Int.natCast_nonneg _) (by omega)
  have hright : slice s (s.length - margin n) s.length = _ :=
    slice_eq_ok (by omega) (by omega) (le_refl _)
  have hstart : ((s.length : Int) - margin n).toNat = s.length - margin n := by omega
  rw [limit, bound_of_le hsmall]
  simp only [if_neg (show ¬ (s.length : Int) ≤ n.natAbs by omega), if_pos hn, hmargin, hleft, hright]
  rw [hstart, Int.toNat_natCast, Int.toNat_natCast, Int.toNat_zero, List.drop_zero, List.take_length]

private theorem limit_cases :
    (s.length ≤ n.natAbs ∧ limit n s = .ok s) ∨
    (n.natAbs < s.length ∧ 0 ≤ n ∧ limit n s = .ok (s.take n.natAbs)) ∨
    (n.natAbs < s.length ∧ n < 0 ∧ margin n + margin n ≤ s.length ∧
      limit n s = .ok (s.take (margin n) ++ utf8 ".." ++ s.drop (s.length - margin n))) := by
  rcases Nat.lt_or_ge n.natAbs s.length with hlong | hfits
  · rcases lt_or_ge n 0 with hn | hn
    · refine .inr (.inr ⟨hlong, hn, ?_, limit_middle hsmall hlong hn⟩)
      unfold margin
      omega
    · exact .inr (.inl ⟨hlong, hn, limit_front hsmall hlong hn⟩)
  · exact .inl ⟨hfits, limit_of_fits hsmall hfits⟩

end Small

private theorem length_middle {s : Bytes} {k : Nat} (h : k ≤ s.length) :
    (s.take k ++ utf8 ".." ++ s.drop (s.length - k)).length = 2 * k + 2 := by
  have hdots : (utf8 "..").length = 2 := by decide
  rw [List.length_append, List.length_append, List.length_take_of_le h, List.length_drop, hdots]
  omega

private theorem limit_of_middle {n : Int} (hsmall : n.natAbs ≤ 2 ^ 53) (hn : n < 0) {r : Bytes}
    (hlength : r.length = 2 * margin n + 2) (hdots : margin n = 0 → r = utf8 "..") :
    limit n r = .ok r := by
  -- Only a limit of one byte is less than the two dots it leaves, and these it leaves as they are.
  rcases Nat.lt_or_ge n.natAbs r.length with hlong | hfits
  · have hmargin : margin n = 0 := by
      unfold margin at hlength ⊢
      omega
    rw [limit_middle hsmall hlong hn, hmargin, hdots hmargin]
    rfl
  · exact limit_of_fits hsmall hfits

private theorem limit_bounds {n : Int} (hsmall : n.natAbs ≤ 2 ^ 53) {s r : Bytes}
    (h : limit n s = .ok r) :
    r.length ≤ s.length ∧ r.length ≤ max n.natAbs 2 ∧ limit n r = .ok r := by
  rcases limit_cases hsmall (s := s) with ⟨hfits, hlimit⟩ | ⟨hlong, hn, hlimit⟩ | ⟨hlong, hn, hapart, hlimit⟩
  · obtain rfl : s = r := Except.ok.inj (hlimit.symm.trans h)
    exact ⟨le_refl _, by omega, h⟩
  · obtain rfl : s.take n.natAbs = r := Except.ok.inj (hlimit.symm.trans h)
    have hlength : (s.take n.natAbs).length = n.natAbs := List.length_take_of_le (by omega)
    exact ⟨by omega, by omega, limit_of_fits hsmall (by omega)⟩
  · obtain rfl := Except.ok.inj (hlimit.symm.trans h)
    have hlength := length_middle (s := s) (k := margin n) (by omega)
    refine ⟨?_, ?_, limit_of_middle hsmall hn hlength fun hmargin => ?_⟩
    · rw [hlength]
      unfold margin
      omega
    · rw [hlength]
      unfold margin
      omega
    · rw [hmargin, List.take_zero, Nat.sub_zero, List.drop_length]
      rfl

/-- A text that reaches a limit of up to `2 ^ 53` stays if it fits; otherwise its first bytes are left, or, for a
negative limit, as many bytes of its start and of its end with two dots between them, which do not overlap.
What is left is no longer than the text, nor than the limit or two dots, and limiting it again changes
nothing. -/
theorem apply_limits (zone : Option Time.Zone) (a : Attribute) (s numeral : Bytes)
    (hlast : (numerals (beforeLimit zone a.transform s).2).getLast? = some numeral)
    (hsmall : (integerOf numeral).natAbs ≤ 2 ^ 53) :
    let n := integerOf numeral
    let t := (beforeLimit zone a.transform s).1
    let k := n.natAbs / 2 - 1
    ∃ r, (apply zone a (.text s)).value = .ok (.text r) ∧ limit n t = .ok r ∧
      (t.length ≤ n.natAbs → r = t) ∧
      (n.natAbs < t.length → 0 ≤ n → r = t.take n.natAbs) ∧
      (n.natAbs < t.length → n < 0 →
        r = t.take k ++ utf8 ".." ++ t.drop (t.length - k) ∧ k + k ≤ t.length) ∧
      r.length ≤ t.length ∧ r.length ≤ max n.natAbs 2 ∧ limit n r = .ok r := by
  intro n t k
  have hlimit : (apply zone a (.text s)).value = (limit n t).map Value.text := by
    rw [apply_text_value, applyText_value, lengthLimit?_eq, hlast, Option.map_some,
      limitOf_eq_integerOf hlast hsmall]
  obtain ⟨r, hr⟩ : ∃ r, limit n t = .ok r := by
    rcases limit_cases hsmall (s := t) with ⟨_, h⟩ | ⟨_, _, h⟩ | ⟨_, _, _, h⟩
    all_goals exact ⟨_, h⟩
  refine ⟨r, by rw [hlimit, hr]; rfl, hr, ?_, ?_, ?_, limit_bounds hsmall hr⟩
  · intro hfits
    exact Except.ok.inj (hr.symm.trans (limit_of_fits hsmall hfits))
  · intro hlong hn
    exact Except.ok.inj (hr.symm.trans (limit_front hsmall hlong hn))
  · intro hlong hn
    refine ⟨Except.ok.inj (hr.symm.trans (limit_middle hsmall hlong hn)), ?_⟩
    change n.natAbs / 2 - 1 + (n.natAbs / 2 - 1) ≤ t.length
    omega

/-- The last of two numbers takes the middle out of a text in upper case, and an odd one leaves a byte less. -/
theorem apply_limits_middle :
    let a : Attribute := { key := utf8 "k", column := utf8 "k", transform := utf8 "cu3,-7" }
    let s := utf8 "abcdefgh\n"
    (numerals (beforeLimit none a.transform s).2).getLast? = some (utf8 "-7") ∧
      (integerOf (utf8 "-7")).natAbs ≤ 2 ^ 53 ∧
      (apply none a (.text s)).value = .ok (.text (utf8 "AB..GH")) ∧
      limit (-7) (utf8 "AB..GH") = .ok (utf8 "AB..GH") := by
  intro a s
  have hlast : (numerals (beforeLimit none a.transform s).2).getLast? = some (utf8 "-7") := by decide +kernel
  have hsmall : (integerOf (utf8 "-7")).natAbs ≤ 2 ^ 53 := by decide
  have htext : (beforeLimit none a.transform s).1 = utf8 "ABCDEFGH" := by decide +kernel
  obtain ⟨r, hvalue, -, -, -, hmiddle, -, -, hagain⟩ := apply_limits none a s (utf8 "-7") hlast hsmall
  rw [htext] at hmiddle
  obtain ⟨rfl, -⟩ := hmiddle (by decide) (by decide)
  exact ⟨hlast, hsmall, hvalue, hagain⟩

end LineStore.Transform
