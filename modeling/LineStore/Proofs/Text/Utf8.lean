import LineStore.Text.Utf8
import Mathlib.Tactic.SplitIfs
/-!
# Places in mapped texts

When the characters of a text are mapped one by one, a byte below 0x80 in the result is the whole image of a
character.  So the text can be cut in front of that character, and both parts are mapped apart, `exists_cut`.
-/
namespace LineStore.Utf8

/-! ## Cutting between characters -/

private theorem runes_cons (b : UInt8) (s : Bytes) :
    ∃ r t, b :: s = r.bytes ++ t ∧ runes (b :: s) = r :: runes t := by
  generalize hs : b :: s = w
  fun_cases runes w with
  | case1 => cases hs
  | case3 b => exact ⟨⟨replacement, [b]⟩, [], rfl, rfl⟩
  | _ => exact ⟨_, _, rfl, rfl⟩

private theorem runes_flatMap_bytes {l m : List Rune} {s : Bytes} (h : runes s = l ++ m) :
    runes (m.flatMap Rune.bytes) = m := by
  induction l generalizing s with
  | nil =>
    rw [List.nil_append] at h
    rw [← h, flatMap_bytes_runes]
  | cons r l ih =>
    cases s with
    | nil => cases h
    | cons b s =>
      obtain ⟨r', t, -, hrunes⟩ := runes_cons b s
      rw [hrunes, List.cons_append] at h
      exact ih (List.cons.inj h).2

theorem runes_of_lt {b : UInt8} (hb : b < 0x80) (s : Bytes) : runes (b :: s) = ⟨b.toNat, [b]⟩ :: runes s := by
  rw [runes.eq_def]
  exact if_pos hb

private theorem runes_of_isTail {b : UInt8} (hb : isTail b = true) (s : Bytes) :
    runes (b :: s) = ⟨replacement, [b]⟩ :: runes s := by
  have hrange : 0x80 ≤ b ∧ b ≤ 0xbf := by simpa [isTail] using hb
  have hascii : ¬ b < 0x80 := UInt8.not_lt.mpr hrange.1
  have hlead : ∀ c : UInt8, 0xbf < c → ¬ c ≤ b := fun c hc =>
    UInt8.not_le.mpr (UInt8.lt_of_le_of_lt hrange.2 hc)
  have htwo : ¬ 0xc2 ≤ b := hlead 0xc2 (by decide)
  have hthree : ¬ 0xe0 ≤ b := hlead 0xe0 (by decide)
  have hfour : ¬ 0xf0 ≤ b := hlead 0xf0 (by decide)
  rw [runes.eq_def]
  rcases s with _ | ⟨c, _ | ⟨d, _ | ⟨e, s⟩⟩⟩ <;> simp [hascii, htwo, hthree, hfour]
  rfl

/-! ## Bytes of a character -/

theorem encode_of_lt {c : Nat} (h : c < 0x80) : encode c = [c.toUInt8] := by
  rw [encode, if_pos h]

private theorem encode_ne_nil (c : Nat) : encode c ≠ [] := by
  unfold encode
  split_ifs <;> exact List.cons_ne_nil _ _

private theorem le_toUInt8 {n : Nat} (hlow : 0x80 ≤ n) (hhigh : n < 0x100) : 0x80 ≤ n.toUInt8 := by
  rw [UInt8.le_iff_toNat_le]
  change 0x80 ≤ n % 0x100
  omega

private theorem le_of_mem_encode {c : Nat} (h : 0x80 ≤ c) {b : UInt8} (hb : b ∈ encode c) :
    0x80 ≤ b := by
  unfold encode at hb
  split_ifs at hb with hascii htwo hscalar hthree <;>
    simp only [List.mem_cons, List.not_mem_nil, or_false] at hb
  · omega
  · rcases hb with rfl | rfl <;> exact le_toUInt8 (by omega) (by omega)
  · rcases hb with rfl | rfl | rfl <;> decide
  · rcases hb with rfl | rfl | rfl <;> exact le_toUInt8 (by omega) (by omega)
  · have hc : c < 0x110000 := by
      simp [isScalar] at hscalar
      omega
    rcases hb with rfl | rfl | rfl | rfl <;> exact le_toUInt8 (by omega) (by omega)

private theorem encode_eq_of_mem {c : Nat} {b : UInt8} (hb : b < 0x80) (h : b ∈ encode c) :
    c < 0x80 ∧ encode c = [b] := by
  rcases Nat.lt_or_ge c 0x80 with hc | hc
  · rw [encode_of_lt hc, List.mem_singleton] at h
    exact ⟨hc, by rw [encode_of_lt hc, h]⟩
  · exact absurd (le_of_mem_encode hc h) (UInt8.not_le.mpr hb)

/-! ## Mapping -/

variable {f : Nat → Nat}

private theorem mapCodes_append (f : Nat → Nat) (s : Bytes) {t : Bytes}
    (h : ∀ b ∈ t.head?, isTail b = false) :
    mapCodes f (s ++ t) = mapCodes f s ++ mapCodes f t := by
  rw [mapCodes, runes_append s h, List.flatMap_append]
  rfl

private theorem mapCodes_eq_nil_iff {s : Bytes} : mapCodes f s = [] ↔ s = [] := by
  cases s with
  | nil => exact iff_of_true rfl rfl
  | cons b s =>
    obtain ⟨r, t, -, hrunes⟩ := runes_cons b s
    simp [mapCodes, hrunes, encode_ne_nil]

private theorem isTail_of_head (hf : 0x80 ≤ f replacement) {s : Bytes} {b : UInt8} (hb : b < 0x80)
    (h : (mapCodes f s).head? = some b) : ∀ c ∈ s.head?, isTail c = false := by
  intro c hc
  obtain ⟨t, rfl⟩ := List.head?_eq_some_iff.mp hc
  cases htail : isTail c with
  | false => rfl
  | true =>
    have hmem : b ∈ encode (f replacement) := by
      obtain ⟨a, rest, himage⟩ := List.exists_cons_of_ne_nil (encode_ne_nil (f replacement))
      rw [mapCodes, runes_of_isTail htail, List.flatMap_cons, himage] at h
      cases h
      exact himage ▸ List.mem_cons_self
    exact absurd (encode_eq_of_mem hb hmem).1 (Nat.not_lt.mpr hf)

private theorem exists_rune {rs : List Rune} {i : Nat} {b : UInt8} (hb : b < 0x80)
    (h : (rs.flatMap fun r => encode (f r.code))[i]? = some b) :
    ∃ l r m, rs = l ++ r :: m ∧ (l.flatMap fun r => encode (f r.code)).length = i ∧ encode (f r.code) = [b] := by
  induction rs generalizing i with
  | nil => simp at h
  | cons r rs ih =>
    rw [List.flatMap_cons, List.getElem?_append] at h
    split at h
    · rename_i hlt
      obtain ⟨-, himage⟩ := encode_eq_of_mem hb (List.mem_of_getElem? h)
      rw [himage, List.length_singleton] at hlt
      exact ⟨[], r, rs, rfl, by simp; omega, himage⟩
    · rename_i hle
      obtain ⟨l, r', m, rfl, hlen, himage⟩ := ih h
      exact ⟨r :: l, r', m, rfl, by rw [List.flatMap_cons, List.length_append, hlen]; omega, himage⟩

/-- A text can be cut where a byte below 0x80 stands in its image. -/
theorem exists_cut (hf : 0x80 ≤ f replacement) {s : Bytes} {i : Nat} {b : UInt8} (hb : b < 0x80)
    (h : (mapCodes f s)[i]? = some b) :
    ∃ x y, s = x ++ y ∧ mapCodes f s = mapCodes f x ++ mapCodes f y ∧ (mapCodes f x).length = i := by
  obtain ⟨l, r, m, hrunes, hlen, himage⟩ := exists_rune hb h
  have hs : s = l.flatMap Rune.bytes ++ (r :: m).flatMap Rune.bytes := by
    rw [← List.flatMap_append, ← hrunes, flatMap_bytes_runes]
  have hrest : runes ((r :: m).flatMap Rune.bytes) = r :: m := runes_flatMap_bytes hrunes
  generalize (r :: m).flatMap Rune.bytes = y at hs hrest
  generalize l.flatMap Rune.bytes = x at hs
  subst hs
  have hhead : (mapCodes f y).head? = some b := by
    rw [mapCodes, hrest, List.flatMap_cons, himage]
    rfl
  have hstart : ∀ c ∈ y.head?, isTail c = false := isTail_of_head hf hb hhead
  have hx : runes x = l := by
    rw [runes_append x hstart, hrest] at hrunes
    exact List.append_cancel_right hrunes
  exact ⟨x, y, rfl, mapCodes_append f x hstart, by rw [mapCodes, hx, hlen]⟩

/-- No two ends of a text that start with a character have one image. -/
theorem eq_of_suffix (hf : 0x80 ≤ f replacement) {s y z : Bytes} (hy : y <:+ s) (hz : z <:+ s) {b : UInt8}
    (hb : b < 0x80) (hhead : (mapCodes f y).head? = some b) (h : mapCodes f z = mapCodes f y) : z = y := by
  have hlonger : ∀ u v : Bytes, u <:+ s → v <:+ s → u.length ≤ v.length → (mapCodes f u).head? = some b →
      mapCodes f v = mapCodes f u → v = u := by
    intro u v hu hv hlen hhead himage
    obtain ⟨x, rfl⟩ := List.suffix_of_suffix_length_le hu hv hlen
    rw [mapCodes_append f x (isTail_of_head hf hb hhead), List.append_left_eq_self, mapCodes_eq_nil_iff] at himage
    rw [himage, List.nil_append]
  rcases Nat.le_total y.length z.length with hlen | hlen
  · exact hlonger y z hy hz hlen hhead h
  · exact (hlonger z y hz hy hlen (h ▸ hhead) h.symm).symm

end LineStore.Utf8
