/-!
# Byte strings

File contents, names and messages are plain lists of bytes: nothing in the store requires them to
be valid UTF-8.  This module holds cutting, joining and searching, and decimal numerals.
-/
namespace LineStore

abbrev Bytes := List UInt8

/-- The UTF-8 bytes of a text literal. -/
def utf8 (s : String) : Bytes := s.toUTF8.data.toList

namespace Bytes

/-- Bytewise lexicographic order. -/
def le (a b : Bytes) : Bool := !decide (b < a)

/-- What follows `p` in `s`, if `s` starts with `p`. -/
def dropStart? : Bytes → Bytes → Option Bytes
  | [], s => some s
  | _ :: _, [] => none
  | p :: ps, b :: s => if p = b then dropStart? ps s else none

def startsWith (p s : Bytes) : Bool := (dropStart? p s).isSome

def endsWith (p s : Bytes) : Bool := startsWith p.reverse s.reverse

/-- `s` without the start `p`, or `s` itself when it does not start so. -/
def trimStart (p s : Bytes) : Bytes := (dropStart? p s).getD s

def trimEnd (p s : Bytes) : Bytes := (trimStart p.reverse s.reverse).reverse

/-- The least position at which `pat` occurs in `s`. -/
def indexOf? (pat : Bytes) : Bytes → Option Nat
  | [] => if pat.isEmpty then some 0 else none
  | b :: s => if startsWith pat (b :: s) then some 0 else (indexOf? pat s).map (· + 1)

def contains (pat s : Bytes) : Bool := (indexOf? pat s).isSome

/-- The parts of `s` before and after the first `sep`, if there is one. -/
def cut? (sep : UInt8) : Bytes → Option (Bytes × Bytes)
  | [] => none
  | b :: s => if b = sep then some ([], s) else (cut? sep s).map fun (x, y) => (b :: x, y)

theorem cut?_eq_some {sep : UInt8} {s x y : Bytes} (h : cut? sep s = some (x, y)) :
    s = x ++ sep :: y ∧ sep ∉ x := by
  induction s generalizing x with
  | nil => cases h
  | cons b s ih =>
    rw [cut?] at h
    by_cases hb : b = sep
    · rw [if_pos hb] at h
      cases h
      exact ⟨by rw [hb, List.nil_append], List.not_mem_nil⟩
    · rw [if_neg hb] at h
      obtain ⟨⟨x', y'⟩, hcut, hpair⟩ := Option.map_eq_some_iff.mp h
      cases hpair
      obtain ⟨rfl, hx'⟩ := ih hcut
      exact ⟨rfl, by simp [Ne.symm hb, hx']⟩

theorem cut?_eq_none {sep : UInt8} {s : Bytes} (h : cut? sep s = none) : sep ∉ s := by
  induction s with
  | nil => exact List.not_mem_nil
  | cons b s ih =>
    rw [cut?] at h
    by_cases hb : b = sep
    · rw [if_pos hb] at h
      cases h
    · rw [if_neg hb, Option.map_eq_none_iff] at h
      simp [Ne.symm hb, ih h]

/-- The parts before and after the first occurrence of `pat`. -/
def cutAt? (pat s : Bytes) : Option (Bytes × Bytes) :=
  (indexOf? pat s).map fun i => (s.take i, s.drop (i + pat.length))

/-- The pieces between separators; there is always at least one. -/
def splitOn (sep : UInt8) : Bytes → List Bytes
  | [] => [[]]
  | b :: s =>
    if b = sep then [] :: splitOn sep s
    else match splitOn sep s with
      | [] => [[b]]
      | p :: ps => (b :: p) :: ps

/-- `join sep [a, b, c]` is `a ++ sep ++ b ++ sep ++ c`. -/
def join (sep : Bytes) (parts : List Bytes) : Bytes := List.intercalate sep parts

def times (s : Bytes) (n : Nat) : Bytes := (List.replicate n s).flatten

def spaces (n : Nat) : Bytes := List.replicate n 0x20

private def replaceFuel (old new : Bytes) : Nat → Bytes → Bytes
  | 0, s => s
  | _ + 1, [] => []
  | n + 1, b :: s =>
    match dropStart? old (b :: s) with
    | some rest => new ++ replaceFuel old new n rest
    | none => b :: replaceFuel old new n s

/-- Every occurrence of the non-empty `old`, from the left, becomes `new`. -/
def replaceAll (old new s : Bytes) : Bytes :=
  if old.isEmpty then s else replaceFuel old new s.length s

private def splitAtFuel (sep : Bytes) : Nat → Bytes → List Bytes
  | 0, s => [s]
  | n + 1, s =>
    match cutAt? sep s with
    | some (a, rest) => a :: splitAtFuel sep n rest
    | none => [s]

/-- The pieces between occurrences of the non-empty `sep`. -/
def splitAtAll (sep s : Bytes) : List Bytes :=
  if sep.isEmpty then s.map ([·]) else splitAtFuel sep s.length s

private theorem cutAt?_singleton (sep : UInt8) (s : Bytes) : cutAt? [sep] s = cut? sep s := by
  induction s with
  | nil => rfl
  | cons b s ih =>
    have hstart : startsWith [sep] (b :: s) = decide (sep = b) := by
      by_cases hb : sep = b <;> simp [startsWith, dropStart?, hb]
    rw [cutAt?] at ih ⊢
    rw [indexOf?, hstart, cut?]
    by_cases hb : b = sep
    · simp [hb]
    · simp [hb, Ne.symm hb, ← ih, Function.comp_def]

private theorem splitOn_of_cut? {sep : UInt8} {s x y : Bytes} (h : cut? sep s = some (x, y)) :
    splitOn sep s = x :: splitOn sep y := by
  obtain ⟨rfl, hx⟩ := cut?_eq_some h
  clear h
  induction x with
  | nil => simp [splitOn]
  | cons b x ih =>
    rw [List.mem_cons, not_or] at hx
    rw [List.cons_append, splitOn, if_neg (Ne.symm hx.1), ih hx.2]

theorem splitOn_of_not_mem {sep : UInt8} {s : Bytes} (h : sep ∉ s) : splitOn sep s = [s] := by
  induction s with
  | nil => rfl
  | cons b s ih =>
    rw [List.mem_cons, not_or] at h
    rw [splitOn, if_neg (Ne.symm h.1), ih h.2]

private theorem splitAtFuel_singleton (sep : UInt8) {n : Nat} {s : Bytes} (h : s.length ≤ n) :
    splitAtFuel [sep] n s = splitOn sep s := by
  induction n generalizing s with
  | zero =>
    have hnil : s = [] := List.length_eq_zero_iff.mp (Nat.le_zero.mp h)
    rw [hnil]
    rfl
  | succ n ih =>
    rw [splitAtFuel, cutAt?_singleton]
    cases hcut : cut? sep s with
    | none => exact (splitOn_of_not_mem (cut?_eq_none hcut)).symm
    | some xy =>
      have hlen := congrArg List.length (cut?_eq_some hcut).1
      simp only [List.length_append, List.length_cons] at hlen
      rw [splitOn_of_cut? hcut]
      exact congrArg (xy.1 :: ·) (ih (by omega))

/-- A separator of one byte is found as a byte is. -/
theorem splitAtAll_singleton (sep : UInt8) (s : Bytes) : splitAtAll [sep] s = splitOn sep s := by
  rw [splitAtAll]
  exact splitAtFuel_singleton sep (Nat.le_refl _)

def isDigit (b : UInt8) : Bool := 0x30 ≤ b && b ≤ 0x39

def isUpper (b : UInt8) : Bool := 0x41 ≤ b && b ≤ 0x5a

def isLower (b : UInt8) : Bool := 0x61 ≤ b && b ≤ 0x7a

def isLetter (b : UInt8) : Bool := isUpper b || isLower b

def lowerAscii (b : UInt8) : UInt8 := if isUpper b then b + 0x20 else b

/-- The value of a digit in a base up to 36, whichever case its letter has. -/
def digitValue? (b : UInt8) : Option Nat :=
  if isDigit b then some (b.toNat - 0x30)
  else if isLetter b then some ((lowerAscii b).toNat - 0x57)
  else none

def digitOf (n : Nat) : UInt8 := if n < 10 then (0x30 + n).toUInt8 else (0x57 + n).toUInt8

private def digitsFuel (base : Nat) : Nat → Nat → Bytes → Bytes
  | 0, _, acc => acc
  | k + 1, n, acc =>
    let acc := digitOf (n % base) :: acc
    if n / base = 0 then acc else digitsFuel base k (n / base) acc

/-- The numeral of `n` in `base` (2 to 36), lower case, without leading zeros. -/
def ofNatBase (base n : Nat) : Bytes := digitsFuel base (n + 1) n []

def ofNat (n : Nat) : Bytes := ofNatBase 10 n

def ofInt (n : Int) : Bytes :=
  if n < 0 then 0x2d :: ofNat n.natAbs else ofNat n.natAbs

/-- Pads on the left with `b` up to `width` bytes. -/
def padLeft (b : UInt8) (width : Nat) (s : Bytes) : Bytes :=
  List.replicate (width - s.length) b ++ s

/-- Pads on the right with blanks up to `width` bytes. -/
def padRight (width : Nat) (s : Bytes) : Bytes := s ++ spaces (width - s.length)

def hex (s : Bytes) : Bytes := s.flatMap fun b => padLeft 0x30 2 (ofNatBase 16 b.toNat)

end Bytes
end LineStore
