import LineStore.Docs.Page
import LineStore.Proofs.Text.Bytes
import LineStore.Proofs.Text.Utf8
/-!
# Sections of documents

A heading is found in the lower-case text of a document, and the section is cut at that place of the document
itself.  The document has a place of its own where the heading starts; the cut is there exactly if what stands
in front is as long in lower case, and past the end if it is too much longer, `sections_sound`.
-/
namespace LineStore

namespace Page

open Bytes

/-- The headings that are looked for. -/
def headings : List String := ["short description", "quick examples"]

private theorem headings_head {heading : String} (h : heading ∈ headings) :
    ∃ b, b < 0x80 ∧ (utf8 heading).head? = some b := by
  have hall : ∀ heading ∈ headings, ((utf8 heading).head?.any (· < 0x80)) = true := by decide +kernel
  have hhead := hall heading h
  rw [Option.any_eq_true] at hhead
  obtain ⟨b, hb, hlt⟩ := hhead
  exact ⟨b, by simpa using hlt, hb⟩

private theorem lowerCode_replacement : 0x80 ≤ Case.lowerCode Utf8.replacement := by decide +kernel

private theorem length_lower_of_ascii {s : Bytes} (h : ∀ b ∈ s, b < 0x80) :
    (Case.lower s).length = s.length := by
  induction s with
  | nil => rfl
  | cons b s ih =>
    obtain ⟨hb, hs⟩ := List.forall_mem_cons.mp h
    have hcode : Case.lowerCode b.toNat < 0x80 := by
      have hlt : b.toNat < 0x80 := UInt8.lt_iff_toNat_lt.mp hb
      rw [Case.lowerCode, if_pos hlt]
      split <;> omega
    have hcons : Case.lower (b :: s) = Utf8.encode (Case.lowerCode b.toNat) ++ Case.lower s := by
      rw [Case.lower, Utf8.mapCodes, Utf8.runes_of_lt hb]
      rfl
    rw [hcons, Utf8.encode_of_lt hcode, List.singleton_append, List.length_cons, ih hs, List.length_cons]

private theorem section?_eq {heading : String} {md : Bytes} {i : Nat}
    (h : FirstAt (utf8 heading) (Case.lower md) i) : section? heading md =
      if i ≤ md.length then .ok (some (md.drop i)) else .error .pastEnd := by
  rw [section?, indexOf?_eq_some_iff.mpr h]

private theorem section?_eq_none_iff {heading : String} {md : Bytes} : section? heading md = .ok none ↔
      ∀ i, ¬ FirstAt (utf8 heading) (Case.lower md) i := by
  simp only [← indexOf?_eq_some_iff, ← Option.eq_none_iff_forall_ne_some, section?]
  cases indexOf? (utf8 heading) (Case.lower md) with
  | none => simp
  | some i =>
    dsimp only
    split <;> simp

private theorem section?_eq_error_iff {heading : String} {md : Bytes} :
    (∃ e, section? heading md = .error e) ↔ ∃ i, FirstAt (utf8 heading) (Case.lower md) i ∧ md.length < i := by
  simp only [← indexOf?_eq_some_iff, section?]
  cases indexOf? (utf8 heading) (Case.lower md) with
  | none => simp
  | some i =>
    dsimp only
    split <;> simp <;> omega

/-! ## The place in the document -/

/-- A document is cut in two, and its lower-case text is cut at a place; no other end of the document is what
stands there in lower case. -/
structure CutAt (md : Bytes) (i : Nat) (before rest : Bytes) : Prop where
  whole : md = before ++ rest
  lower : Case.lower md = Case.lower before ++ Case.lower rest
  place : (Case.lower before).length = i
  only : ∀ s, s <:+ md → Case.lower s = (Case.lower md).drop i → s = rest

private theorem exists_cutAt {heading : String} (hheading : heading ∈ headings) {md : Bytes}
    {i : Nat}
    (h : FirstAt (utf8 heading) (Case.lower md) i) : ∃ before rest, CutAt md i before rest := by
  obtain ⟨b, hb, hhead⟩ := headings_head hheading
  have hstart : ((Case.lower md).drop i).head? = some b := by
    obtain ⟨more, hmore⟩ := h.here
    rw [← hmore, List.head?_append, hhead]
    rfl
  obtain ⟨before, rest, hmd, hlower, hlen⟩ := Utf8.exists_cut lowerCode_replacement hb
    (List.head?_drop ▸ hstart : (Case.lower md)[i]? = some b)
  have hdrop : (Case.lower md).drop i = Case.lower rest :=
    (congrArg (List.drop i) hlower).trans (List.drop_left' hlen)
  refine ⟨before, rest, hmd, hlower, hlen, ?_⟩
  intro s hs himage
  rw [hdrop] at himage hstart
  exact Utf8.eq_of_suffix lowerCode_replacement ⟨before, hmd.symm⟩ hs hb hstart himage

private theorem section?_eq_some_iff {heading : String} {md before rest : Bytes} {i : Nat}
    (h : FirstAt (utf8 heading) (Case.lower md) i) (hcut : CutAt md i before rest) :
    (section? heading md = .ok (some rest)) ↔ before.length = i := by
  have hlength : md.length = before.length + rest.length := by rw [hcut.whole, List.length_append]
  rw [section?_eq h]
  constructor
  · intro hsection
    split at hsection
    · rename_i hle
      have hdrop : md.drop i = rest := by cases hsection; rfl
      have hcount := congrArg List.length hdrop
      rw [List.length_drop] at hcount
      omega
    · cases hsection
  · intro hplace
    rw [if_pos (by omega), hcut.whole, ← hplace, List.drop_left]

/-! ## What is read from a section -/

private theorem short_eq_error_iff {md : Bytes} :
    (∃ e, short md = .error e) ↔ ∃ e, section? "short description" md = .error e := by
  rw [short]
  cases section? "short description" md with
  | error e => exact iff_of_true ⟨e, rfl⟩ ⟨e, rfl⟩
  | ok o => exact iff_of_false (by rintro ⟨e, he⟩; cases he) (by rintro ⟨e, he⟩; cases he)

private theorem examples_eq_error_iff {md : Bytes} :
    (∃ e, examples md = .error e) ↔ ∃ e, section? "quick examples" md = .error e := by
  rw [examples]
  cases section? "quick examples" md with
  | error e => exact iff_of_true ⟨e, rfl⟩ ⟨e, rfl⟩
  | ok o =>
    refine iff_of_false ?_ (by rintro ⟨e, he⟩; cases he)
    rintro ⟨e, he⟩
    cases o with
    | none => cases he
    | some rest =>
      cases hblock : fenced? rest <;> simp [bind, Except.bind, pure, Except.pure, hblock] at he

/-- A section is missing exactly if the lower-case text has no such heading.  Otherwise the document has one
place where the heading starts.  The section starts there exactly if what stands in front takes as many bytes
in lower case, as ASCII does, and it is out of range exactly if the place in the lower-case text is past the end
of the document; only then the short description or the examples cannot be read. -/
theorem sections_sound (md : Bytes) :
    (∀ heading ∈ headings,
      (section? heading md = .ok none ↔ ∀ i, ¬ FirstAt (utf8 heading) (Case.lower md) i) ∧
      ∀ i, FirstAt (utf8 heading) (Case.lower md) i → ∃ before rest, CutAt md i before rest ∧
        (section? heading md = .ok (some rest) ↔ before.length = i) ∧
        (section? heading md = .error .pastEnd ↔ md.length < i) ∧
        ((∀ b ∈ before, b < 0x80) → before.length = i)) ∧
    ((∃ e, short md = .error e) ↔ ∃ i, FirstAt (utf8 "short description") (Case.lower md) i ∧ md.length < i) ∧
    ((∃ e, examples md = .error e) ↔ ∃ i, FirstAt (utf8 "quick examples") (Case.lower md) i ∧ md.length < i) := by
  refine ⟨?_, short_eq_error_iff.trans section?_eq_error_iff,
    examples_eq_error_iff.trans section?_eq_error_iff⟩
  intro heading hheading
  refine ⟨section?_eq_none_iff, ?_⟩
  intro i hi
  obtain ⟨before, rest, hcut⟩ := exists_cutAt hheading hi
  refine ⟨before, rest, hcut, section?_eq_some_iff hi hcut, ?_, ?_⟩
  · rw [section?_eq hi]
    split <;> simp <;> omega
  · intro hascii
    rw [← length_lower_of_ascii hascii, hcut.place]

/-- İ and the Kelvin sign are letters of the heading in lower case. -/
theorem sections_sound_other_spelling :
    "quick examples" ∈ headings ∧ section? "quick examples" (utf8 "# ls\nQu\u0130c\u212a Examples\n") =
      .ok (some (utf8 "Qu\u0130c\u212a Examples\n")) := by
  have hheading : "quick examples" ∈ headings := by decide
  have hmd : utf8 "# ls\nQu\u0130c\u212a Examples\n" = utf8 "# ls\n" ++ utf8 "Qu\u0130c\u212a Examples\n" := by
    decide +kernel
  have hfirst : FirstAt (utf8 "quick examples") (Case.lower (utf8 "# ls\nQu\u0130c\u212a Examples\n")) 5 :=
    indexOf?_eq_some_iff.mp (by decide +kernel)
  obtain ⟨before, rest, hcut, -, -, hascii⟩ := ((sections_sound _).1 _ hheading).2 5 hfirst
  have hrest : utf8 "Qu\u0130c\u212a Examples\n" = rest :=
    hcut.only _ ⟨utf8 "# ls\n", hmd.symm⟩ (by decide +kernel)
  have hbefore : utf8 "# ls\n" = before :=
    List.append_cancel_right (hmd.symm.trans (hrest ▸ hcut.whole))
  refine ⟨hheading, ?_⟩
  rw [hrest, section?_eq_some_iff hfirst hcut]
  exact hascii (by rw [← hbefore]; decide +kernel)

/-- Forty characters that take a byte more in lower case move the heading past the end.  Thirty that take a byte
less move the section in front of the heading, and the description in it is not found. -/
theorem sections_displaced :
    (∃ e, short (times (utf8 "\u023a") 40 ++ utf8 "\nShort description\n\nPrints lines.\n") = .error e) ∧
      let rest := utf8 "Short description\n\nPrints lines.\n"
      let md := utf8 "# Show\n" ++ times (utf8 "\u0130") 30 ++ utf8 "\n## " ++ rest
      FirstAt (utf8 "short description") (Case.lower md) 41 ∧ Case.lower rest = (Case.lower md).drop 41 ∧
        ¬ section? "short description" md = .ok (some rest) ∧ (short md).toOption = some (utf8 "Show.") := by
  refine ⟨?_, ?_⟩
  · exact short_eq_error_iff.mpr (section?_eq_error_iff.mpr
      ⟨121, indexOf?_eq_some_iff.mp (by decide +kernel), by decide +kernel⟩)
  · intro rest md
    have hfirst : FirstAt (utf8 "short description") (Case.lower md) 41 :=
      indexOf?_eq_some_iff.mp (by decide +kernel)
    refine ⟨hfirst, by decide +kernel, ?_, by decide +kernel⟩
    rw [section?_eq hfirst, if_pos (by decide +kernel)]
    intro h
    have hlen := congrArg (fun r => (r.toOption.getD none).map List.length) h
    revert hlen
    decide +kernel

end Page
end LineStore
