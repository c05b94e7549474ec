import LineStore.Text.Bytes
/-!
# Characters of a byte string

`runes` cuts any byte string into characters.  A byte that does not start a well-formed sequence is
a character of its own that stands for U+FFFD, so the pieces always concatenate to the input.
-/
namespace LineStore

/-- A code point together with the bytes it was read from. -/
structure Rune where
  code : Nat
  bytes : Bytes
  deriving Repr, DecidableEq, Inhabited

/-- Was the rune read from a byte that is no character? -/
def Rune.isInvalid (r : Rune) : Bool := r.code == 0xfffd && r.bytes.length == 1

namespace Utf8

/-- The code point that stands for a byte which is no character. -/
def replacement : Nat := 0xfffd

def isScalar (c : Nat) : Bool := c < 0xd800 || (0xe000 ≤ c && c < 0x110000)

/-- The bytes of a code point; those of U+FFFD if it has none. -/
def encode (c : Nat) : Bytes :=
  if c < 0x80 then [c.toUInt8]
  else if c < 0x800 then [(0xc0 + c / 64).toUInt8, (0x80 + c % 64).toUInt8]
  else if !isScalar c then [0xef, 0xbf, 0xbd]
  else if c < 0x10000 then
    [(0xe0 + c / 4096).toUInt8, (0x80 + c / 64 % 64).toUInt8, (0x80 + c % 64).toUInt8]
  else
    [(0xf0 + c / 262144).toUInt8, (0x80 + c / 4096 % 64).toUInt8,
      (0x80 + c / 64 % 64).toUInt8, (0x80 + c % 64).toUInt8]

def isTail (b : UInt8) : Bool := 0x80 ≤ b && b ≤ 0xbf

private def low (b : UInt8) : Nat := b.toNat % 64

private def second3 (b c : UInt8) : Bool :=
  isTail c && (b != 0xe0 || 0xa0 ≤ c) && (b != 0xed || c ≤ 0x9f)

private def second4 (b c : UInt8) : Bool :=
  isTail c && (b != 0xf0 || 0x90 ≤ c) && (b != 0xf4 || c ≤ 0x8f)

def runes : Bytes → List Rune
  | [] => []
  | b :: r1 =>
    if b < 0x80 then ⟨b.toNat, [b]⟩ :: runes r1
    else match r1 with
      | [] => [⟨replacement, [b]⟩]
      | c :: r2 =>
        if 0xc2 ≤ b && b ≤ 0xdf && isTail c then
          ⟨(b.toNat - 0xc0) * 64 + low c, [b, c]⟩ :: runes r2
        else match r2 with
          | [] => ⟨replacement, [b]⟩ :: runes (c :: [])
          | d :: r3 =>
            if 0xe0 ≤ b && b ≤ 0xef && second3 b c && isTail d then
              ⟨(b.toNat - 0xe0) * 4096 + low c * 64 + low d, [b, c, d]⟩ :: runes r3
            else match r3 with
              | [] => ⟨replacement, [b]⟩ :: runes (c :: d :: [])
              | e :: r4 =>
                if 0xf0 ≤ b && b ≤ 0xf4 && second4 b c && isTail d && isTail e then
                  ⟨(b.toNat - 0xf0) * 262144 + low c * 4096 + low d * 64 + low e, [b, c, d, e]⟩
                    :: runes r4
                else ⟨replacement, [b]⟩ :: runes (c :: d :: e :: r4)

def isValid (s : Bytes) : Bool := (runes s).all fun r => !r.isInvalid

/-- Replaces every code point by the bytes of another; a byte that is no character counts as
U+FFFD. -/
def mapCodes (f : Nat → Nat) (s : Bytes) : Bytes := (runes s).flatMap fun r => encode (f r.code)

def codes (s : Bytes) : List Nat := (runes s).map (·.code)

def ofCodes (cs : List Nat) : Bytes := cs.flatMap encode

theorem flatMap_bytes_runes (s : Bytes) : (runes s).flatMap Rune.bytes = s := by
  fun_induction runes s <;> simp_all

/-- No character reaches across a byte that starts one, so a text can be cut there. -/
theorem runes_append (s : Bytes) {t : Bytes} (h : ∀ b ∈ t.head?, isTail b = false) :
    runes (s ++ t) = runes s ++ runes t := by
  fun_induction runes s with
  | case1 => rfl
  | case2 b s hb ih =>
    rw [List.cons_append, runes.eq_def]
    dsimp only
    rw [if_pos hb, ih, List.cons_append]
  | case3 b hb =>
    rw [List.cons_append, List.nil_append, runes.eq_def]
    dsimp only
    rw [if_neg hb]
    cases t with
    | nil => rfl
    | cons c t =>
      have hc : isTail c = false := h c rfl
      rcases t with _ | ⟨d, _ | ⟨e, t⟩⟩ <;> simp [second3, second4, hc]
  | case4 b hb c s hc ih =>
    rw [List.cons_append, List.cons_append, runes.eq_def]
    dsimp only
    rw [if_neg hb, if_pos hc, ih, List.cons_append]
  | case5 b hb c hc ih =>
    rw [List.cons_append, List.cons_append, List.nil_append, runes.eq_def]
    dsimp only
    rw [if_neg hb, if_neg hc, List.cons_append, ← ih]
    cases t with
    | nil => rfl
    | cons d t =>
      have hd : isTail d = false := h d rfl
      cases t <;> simp [hd]
  | case6 b hb c hc d s hd ih =>
    rw [List.cons_append, List.cons_append, List.cons_append, runes.eq_def]
    dsimp only
    rw [if_neg hb, if_neg hc, if_pos hd, ih, List.cons_append]
  | case7 b hb c hc d hd ih =>
    rw [List.cons_append, List.cons_append, List.cons_append, List.nil_append, runes.eq_def]
    dsimp only
    rw [if_neg hb, if_neg hc, if_neg hd, List.cons_append, ← ih]
    cases t with
    | nil => rfl
    | cons e t =>
      have he : isTail e = false := h e rfl
      simp [he]
  | case8 b hb c hc d hd e s he ih =>
    rw [List.cons_append, List.cons_append, List.cons_append, List.cons_append, runes.eq_def]
    dsimp only
    rw [if_neg hb, if_neg hc, if_neg hd, if_pos he, ih, List.cons_append]
  | case9 b hb c hc d hd e s he ih =>
    rw [List.cons_append, List.cons_append, List.cons_append, List.cons_append, runes.eq_def]
    dsimp only
    rw [if_neg hb, if_neg hc, if_neg hd, if_neg he, List.cons_append, ← ih]
    rfl

end Utf8
end LineStore
