import LineStore.Text.Space
import Mathlib.Data.List.TakeWhile
/-!
# What trimming leaves

A text is white space, then what trimming leaves, then white space; what is left neither starts nor ends
with white space.  There is one way only to cut a text so, `trim_eq_iff`.
-/
namespace LineStore.Space

/-- What is left of `s` between white space at its ends. -/
def Trims (s t : Bytes) : Prop :=
  ∃ front middle back : List Rune, Utf8.runes s = front ++ middle ++ back ∧
    (∀ r ∈ front, isSpace r.code = true) ∧ (∀ r ∈ back, isSpace r.code = true) ∧
    (∀ r ∈ middle.head?, isSpace r.code = false) ∧ (∀ r ∈ middle.getLast?, isSpace r.code = false) ∧
    t = middle.flatMap Rune.bytes

private theorem dropWhile_of_head {α : Type} {p : α → Bool} {l : List α}
    (h : ∀ x ∈ l.head?, p x = false) :
    l.dropWhile p = l := by
  cases l with
  | nil => rfl
  | cons x l => rw [List.dropWhile_cons_of_neg (by simp [h x rfl])]

private theorem head_dropWhile {α : Type} (p : α → Bool) (l : List α) :
    ∀ x ∈ (l.dropWhile p).head?, p x = false := by
  intro x hx
  have h := List.head?_dropWhile_not p l
  rw [hx] at h
  exact h

theorem trim_eq_iff {s t : Bytes} : trim s = t ↔ Trims s t := by
  let p : Rune → Bool := fun r => isSpace r.code
  have htrim : trim s = (((Utf8.runes s).dropWhile p).reverse.dropWhile p).reverse.flatMap Rune.bytes := rfl
  rw [htrim]
  constructor
  · rintro rfl
    let rest := (Utf8.runes s).dropWhile p
    have hfront : Utf8.runes s = (Utf8.runes s).takeWhile p ++ rest := List.takeWhile_append_dropWhile.symm
    have hback : rest = (rest.reverse.dropWhile p).reverse ++ (rest.reverse.takeWhile p).reverse := by
      rw [← List.reverse_append, List.takeWhile_append_dropWhile, List.reverse_reverse]
    refine ⟨_, _, _, (hfront.trans (congrArg _ hback)).trans (List.append_assoc _ _ _).symm,
      fun _ => List.mem_takeWhile_imp (p := p),
      fun _ hr => List.mem_takeWhile_imp (p := p) (List.mem_reverse.mp hr),
      ?_, ?_, rfl⟩
    · -- What is left starts as the text does once its front is gone.
      intro r hr
      refine head_dropWhile p (Utf8.runes s) r ?_
      change rest.head? = some r
      rw [hback, List.head?_append, hr]
      rfl
    · rw [List.getLast?_reverse]
      exact head_dropWhile p rest.reverse
  · rintro ⟨front, middle, back, hs, hfront, hback, hhead, hlast, rfl⟩
    have hdrop : (Utf8.runes s).dropWhile p = middle ++ back ∨
        middle = [] ∧ (Utf8.runes s).dropWhile p = [] := by
      rw [hs, List.append_assoc, List.dropWhile_append_of_pos hfront]
      cases middle with
      | nil =>
        refine .inr ⟨rfl, ?_⟩
        rw [List.nil_append, List.dropWhile_eq_nil_iff]
        exact hback
      | cons r middle => exact .inl (dropWhile_of_head hhead)
    rcases hdrop with hdrop | ⟨rfl, hdrop⟩
    · rw [hdrop, List.reverse_append,
        List.dropWhile_append_of_pos fun r hr => hback r (List.mem_reverse.mp hr),
        dropWhile_of_head (by rw [List.head?_reverse]; exact hlast), List.reverse_reverse]
    · rw [hdrop]
      rfl

end LineStore.Space
