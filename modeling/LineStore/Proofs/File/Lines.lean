import LineStore.File.Lines
/-!
# What lines are

The lines of a text are the one way to write it as non-empty pieces that hold a newline at their end only,
and all of them but perhaps the last do, `splitLines_eq_iff`.  A reader finds them however its bytes are cut
into pieces, or passes its error on and gives no lines, `Reader.lines_eq`.
-/
namespace LineStore

/-- Lines of some text: none is empty, a newline stands nowhere but at the end of one, and it ends every one
but perhaps the last. -/
structure IsLines (ls : List Bytes) : Prop where
  ne_nil : ∀ l ∈ ls, l ≠ []
  newline_at_end : ∀ l ∈ ls, newline ∉ l.dropLast
  terminated : ∀ l ∈ ls.dropLast, l.getLast? = some newline

private theorem isLines_nil : IsLines [] := ⟨by simp, by simp, by simp⟩

private theorem isLines_cons {l : Bytes} {ls : List Bytes} :
    IsLines (l :: ls) ↔ (l ≠ [] ∧ newline ∉ l.dropLast) ∧ (ls ≠ [] → l.getLast? = some newline) ∧
      IsLines ls := by
  constructor
  · intro h
    have hfirst := (List.forall_mem_cons.mp h.ne_nil).1
    have hend := (List.forall_mem_cons.mp h.newline_at_end).1
    refine ⟨⟨hfirst, hend⟩, ?_, ?_⟩
    · intro hne
      exact h.terminated l (by simp [List.dropLast_cons_of_ne_nil hne])
    · refine ⟨(List.forall_mem_cons.mp h.ne_nil).2, (List.forall_mem_cons.mp h.newline_at_end).2, ?_⟩
      intro m hm
      have hne : ls ≠ [] := by rintro rfl; cases hm
      exact h.terminated m (by simp [List.dropLast_cons_of_ne_nil hne, hm])
  · rintro ⟨⟨hne, hend⟩, hlast, h⟩
    refine ⟨List.forall_mem_cons.mpr ⟨hne, h.ne_nil⟩,
      List.forall_mem_cons.mpr ⟨hend, h.newline_at_end⟩, ?_⟩
    intro m hm
    cases ls with
    | nil => cases hm
    | cons l' ls =>
      rw [List.dropLast_cons_of_ne_nil (List.cons_ne_nil l' ls), List.mem_cons] at hm
      rcases hm with rfl | hm
      · exact hlast (List.cons_ne_nil l' ls)
      · exact h.terminated m hm

private theorem splitLines_append {m : Bytes} (hm : newline ∉ m) (s : Bytes) :
    splitLines (m ++ newline :: s) = (m ++ [newline]) :: splitLines s := by
  induction m with
  | nil => simp [splitLines]
  | cons b m ih =>
    rw [List.mem_cons, not_or] at hm
    obtain ⟨hb, hm⟩ := hm
    rw [List.cons_append, splitLines, if_neg (Ne.symm hb), ih hm]
    rfl

private theorem splitLines_of_not_mem {m : Bytes} (hm : newline ∉ m) :
    splitLines m = if m.isEmpty then [] else [m] := by
  induction m with
  | nil => rfl
  | cons b m ih =>
    rw [List.mem_cons, not_or] at hm
    obtain ⟨hb, hm⟩ := hm
    rw [splitLines, if_neg (Ne.symm hb), ih hm]
    cases m <;> rfl

private theorem isLines_splitLines (s : Bytes) : IsLines (splitLines s) := by
  induction s with
  | nil => exact isLines_nil
  | cons b s ih =>
    rw [splitLines]
    by_cases hb : b = newline
    · rw [if_pos hb]
      exact isLines_cons.mpr ⟨⟨List.cons_ne_nil b [], List.not_mem_nil⟩, fun _ => by simp [hb], ih⟩
    · rw [if_neg hb]
      cases hs : splitLines s with
      | nil =>
        exact isLines_cons.mpr ⟨⟨List.cons_ne_nil b [], List.not_mem_nil⟩, fun h => absurd rfl h,
          isLines_nil⟩
      | cons l ls =>
        rw [hs] at ih
        obtain ⟨⟨hne, hend⟩, hlast, htail⟩ := isLines_cons.mp ih
        -- The first line grows in front, where no newline comes in and its end stays.
        refine isLines_cons.mpr ⟨⟨List.cons_ne_nil b l, ?_⟩, ?_, htail⟩
        · rw [List.dropLast_cons_of_ne_nil hne, List.mem_cons, not_or]
          exact ⟨Ne.symm hb, hend⟩
        · intro hls
          rw [List.getLast?_cons_of_ne_nil hne]
          exact hlast hls

theorem splitLines_flatten {ls : List Bytes} (h : IsLines ls) : splitLines ls.flatten = ls := by
  induction ls with
  | nil => rfl
  | cons l ls ih =>
    obtain ⟨⟨hne, hend⟩, hlast, htail⟩ := isLines_cons.mp h
    rw [List.flatten_cons]
    have hparts := List.dropLast_concat_getLast hne
    by_cases hnl : l.getLast hne = newline
    · rw [hnl] at hparts
      rw [← hparts, List.append_assoc, List.singleton_append, splitLines_append hend, ih htail]
    · -- Only the last line may lack its newline.
      have hls : ls = [] := by
        refine Decidable.byContradiction fun hls => hnl ?_
        have hterm := hlast hls
        rwa [List.getLast?_eq_some_getLast hne, Option.some.injEq] at hterm
      have hnot : newline ∉ l := by
        rw [← hparts, List.mem_append, List.mem_singleton, not_or]
        exact ⟨hend, Ne.symm hnl⟩
      rw [hls, List.flatten_nil, List.append_nil, splitLines_of_not_mem hnot]
      simp [hne]

/-- The lines of a text are determined by being lines that concatenate to it. -/
theorem splitLines_eq_iff {s : Bytes} {ls : List Bytes} :
    splitLines s = ls ↔ IsLines ls ∧ ls.flatten = s := by
  constructor
  · rintro rfl
    exact ⟨isLines_splitLines s, flatten_splitLines s⟩
  · rintro ⟨h, rfl⟩
    exact splitLines_flatten h

theorem splitLines_inj {a b : Bytes} : splitLines a = splitLines b ↔ a = b := by
  refine ⟨fun h => ?_, congrArg splitLines⟩
  rw [← flatten_splitLines a, h, flatten_splitLines]

namespace Reader

private theorem linesAfter_eq (fault : Option Bytes) (done ps : List Bytes) :
    linesAfter fault done ps =
      match fault with
      | some why => .error why
      | none => .ok (done ++ splitLines ps.flatten) := by
  -- The step and the run in one: behind the lines already read come those of the bytes still to
  -- come, and an error at their end is the result whatever was read before it.
  fun_induction linesAfter fault done ps with
  | case1 done ps line rest hnext ih =>
    obtain ⟨hflat, m, hm, rfl⟩ := nextLine_some hnext
    have hsplit : splitLines ps.flatten = (m ++ [newline]) :: splitLines rest.flatten := by
      rw [hflat, List.append_assoc, List.singleton_append, splitLines_append hm]
    rw [ih]
    cases fault with
    | some why => rfl
    | none => rw [hsplit, List.append_assoc, List.singleton_append]
  | case2 done ps line hnext why hfault => rw [hfault]
  | case3 done ps line hnext hfault =>
    obtain ⟨rfl, hnot⟩ := nextLine_none hnext
    rw [hfault, splitLines_of_not_mem hnot]
    cases ps.flatten <;> simp

theorem lines_eq (r : Reader) :
    r.lines = match r.fault with
      | some why => .error why
      | none => .ok (splitLines r.pieces.flatten) := by
  rw [lines, linesAfter_eq]
  rfl

end Reader

end LineStore
