import LineStore.Text.Bytes
/-!
# Lines

`splitLines` cuts a byte string after every newline and keeps the newlines, so the lines
concatenate to the text they came from.  A `Reader` gets its bytes in pieces and reads them line by line.
-/
namespace LineStore

def newline : UInt8 := 0x0a

def splitLines : Bytes → List Bytes
  | [] => []
  | b :: s =>
    if b = newline then [b] :: splitLines s
    else match splitLines s with
      | [] => [[b]]
      | l :: ls => (b :: l) :: ls

/-- What reading a file to its end gives. -/
inductive Reading where
  /-- The whole content. -/
  | content (data : Bytes)
  /-- The file could not be opened. -/
  | openFailed (reason : Bytes)
  /-- Reading stopped with an error after some bytes. -/
  | readFailed (got : Bytes) (reason : Bytes)
  deriving Repr, DecidableEq, Inhabited

@[simp] theorem flatten_splitLines (s : Bytes) : (splitLines s).flatten = s := by
  induction s with
  | nil => rfl
  | cons b s ih =>
    simp only [splitLines]
    split
    · simp [ih]
    · split <;> rename_i h <;> rw [h] at ih <;> simp_all

/-- A file or a stream that is being read: the pieces in which its bytes come, and the error they break off
with, if they do. -/
structure Reader where
  pieces : List Bytes
  fault : Option Bytes := none
  deriving Repr, DecidableEq, Inhabited

namespace Reader

/-- What reading to the end gives. -/
def reading (r : Reader) : Reading :=
  match r.fault with
  | none => .content r.pieces.flatten
  | some why => .readFailed r.pieces.flatten why

/-- The bytes up to the next newline, that included, and the pieces after it.  If no newline comes there
are none after it. -/
def nextLine : List Bytes → Bytes × Option (List Bytes)
  | [] => ([], none)
  | p :: ps =>
    match Bytes.cut? newline p with
    | some (line, rest) => (line ++ [newline], some (rest :: ps))
    | none =>
      let (line, rest) := nextLine ps
      (p ++ line, rest)

theorem nextLine_some {ps rest : List Bytes} {line : Bytes} (h : nextLine ps = (line, some rest)) :
    ps.flatten = line ++ rest.flatten ∧ ∃ m, newline ∉ m ∧ line = m ++ [newline] := by
  induction ps generalizing line with
  | nil => cases h
  | cons p ps ih =>
    rw [nextLine] at h
    cases hcut : Bytes.cut? newline p with
    | some cut =>
      obtain ⟨x, y⟩ := cut
      obtain ⟨rfl, hx⟩ := Bytes.cut?_eq_some hcut
      rw [hcut] at h
      cases h
      exact ⟨by simp, x, hx, rfl⟩
    | none =>
      cases hnext : nextLine ps with
      | mk line' rest' =>
        rw [hcut, hnext] at h
        cases h
        obtain ⟨hflat, m, hm, rfl⟩ := ih hnext
        refine ⟨by simp [hflat], p ++ m, ?_, by simp⟩
        exact fun hmem => (List.mem_append.mp hmem).elim (Bytes.cut?_eq_none hcut) hm

theorem nextLine_none {ps : List Bytes} {line : Bytes} (h : nextLine ps = (line, none)) :
    ps.flatten = line ∧ newline ∉ line := by
  induction ps generalizing line with
  | nil =>
    cases h
    exact ⟨rfl, List.not_mem_nil⟩
  | cons p ps ih =>
    rw [nextLine] at h
    cases hcut : Bytes.cut? newline p with
    | some cut =>
      rw [hcut] at h
      cases h
    | none =>
      cases hnext : nextLine ps with
      | mk line' rest' =>
        rw [hcut, hnext] at h
        cases h
        obtain ⟨hflat, hnot⟩ := ih hnext
        refine ⟨by rw [List.flatten_cons, hflat], ?_⟩
        exact fun hmem => (List.mem_append.mp hmem).elim (Bytes.cut?_eq_none hcut) hnot

/-- Reads line after line behind the lines already read.  An error drops them all. -/
def linesAfter (fault : Option Bytes) (done ps : List Bytes) : Except Bytes (List Bytes) :=
  match _h : nextLine ps with
  | (line, some rest) => linesAfter fault (done ++ [line]) rest
  | (line, none) =>
    match fault with
    | some why => .error why
    | none => .ok (if line.isEmpty then done else done ++ [line])
termination_by ps.flatten.length
decreasing_by
  obtain ⟨hflat, m, _, rfl⟩ := nextLine_some _h
  rw [hflat, List.length_append, List.length_append]
  simp

/-- The lines, if the bytes come to their end. -/
def lines (r : Reader) : Except Bytes (List Bytes) := linesAfter r.fault [] r.pieces

end Reader

end LineStore
