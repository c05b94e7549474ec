import LineStore.Text.CaseData
import LineStore.Text.Utf8
/-!
# Case

Case mapping sends one character to one character; a byte that is no character becomes U+FFFD.  The
length in bytes may change.
-/
namespace LineStore.Case

def lowerCode (c : Nat) : Nat :=
  if c < 0x80 then (if 0x41 ≤ c ∧ c ≤ 0x5a then c + 32 else c)
  else (CodeTable.image? CaseData.lower c).getD c

def upperCode (c : Nat) : Nat :=
  if c < 0x80 then (if 0x61 ≤ c ∧ c ≤ 0x7a then c - 32 else c)
  else (CodeTable.image? CaseData.upper c).getD c

/-- The representative of all characters that differ in case only. -/
def foldCode (c : Nat) : Nat :=
  if c < 0x80 then (if 0x41 ≤ c ∧ c ≤ 0x5a then c + 32 else c)
  else (CodeTable.image? CaseData.folding c).getD c

/-- All characters equal to `c` up to case. -/
def orbit (c : Nat) : List Nat :=
  let f := foldCode c
  f :: CodeTable.preimages CaseData.folding f

def lower (s : Bytes) : Bytes := Utf8.mapCodes lowerCode s

def upper (s : Bytes) : Bytes := Utf8.mapCodes upperCode s

/-- The characters of `s` up to case. -/
def fold (s : Bytes) : List Nat := (Utf8.codes s).map foldCode

def equal (a b : Bytes) : Bool := fold a == fold b

end LineStore.Case
