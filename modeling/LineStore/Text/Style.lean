import LineStore.Text.Color
/-!
# How text is shown

Escape sequences set the style of the text after them, one parameter at a time: colors, underlines and
effects such as bold.  `Style.read` follows them and `Style.sequence` writes the sequence that sets a
style from none.
-/
namespace LineStore

/-- A number of an escape sequence.  An absent one counts as zero; a colon after it binds it to the
next. -/
structure Parameter where
  value : Nat
  bound : Bool := false
  deriving Repr, DecidableEq, Inhabited

namespace Parameter

/-- The value that stands for an absent parameter. -/
def absent : Nat := 0x7fffffff

/-- Numbers are read into words of 64 bits, and a word that reads as absent starts again. -/
def word (digits : Bytes) : Nat :=
  digits.foldl (fun w d => ((if w = absent then 0 else w) * 10 + (d.toNat - 0x30)) % 18446744073709551616)
    absent

/-- Only the low 31 bits of a word are its value; the others bind it as a colon does. -/
def ofDigits (digits : Bytes) (colon : Bool) : Parameter :=
  let w := word digits
  { value := if w % 0x80000000 = absent then 0 else w % 0x80000000
    bound := colon || 0x80000000 ≤ w }

private def readLoop : Bytes → Bytes → List Parameter
  | digits, [] => [ofDigits digits.reverse false]
  | digits, b :: bs =>
    if b = 0x3a ∨ b = 0x3b then ofDigits digits.reverse (b = 0x3a) :: readLoop [] bs
    else readLoop (b :: digits) bs

/-- The parameters of a sequence, of which 31 are kept. -/
def read (s : Bytes) : List Parameter := if s.isEmpty then [] else (readLoop [] s).take 31

end Parameter

inductive Effect where
  | bold | faint | italic | slowBlink | rapidBlink | reverse | conceal | strikethrough
  deriving Repr, DecidableEq, Inhabited

namespace Effect

/-- In the order in which they are written. -/
def all : List Effect :=
  [bold, faint, italic, slowBlink, rapidBlink, reverse, conceal, strikethrough]

/-- The parameter that turns an effect on. -/
def code : Effect → Nat
  | bold => 1
  | faint => 2
  | italic => 3
  | slowBlink => 5
  | rapidBlink => 6
  | reverse => 7
  | conceal => 8
  | strikethrough => 9

def ofCode? (n : Nat) : Option Effect := all.find? fun e => e.code = n

/-- The effects that a parameter turns off. -/
def endedBy (n : Nat) : List Effect :=
  match n with
  | 22 => [bold, faint]
  | 23 => [italic]
  | 25 => [slowBlink, rapidBlink]
  | 27 => [reverse]
  | 28 => [conceal]
  | 29 => [strikethrough]
  | _ => []

end Effect

structure Style where
  text : Option Color := none
  ground : Option Color := none
  underlineColor : Option Color := none
  effects : List Effect := []
  /-- From one to five: single, double, curly, dotted and dashed; zero is no underline. -/
  underline : Nat := 0
  deriving Repr, DecidableEq, Inhabited

namespace Style

def isPlain (s : Style) : Bool := s == {}

/-- Blanks of the style show nothing. -/
def hidesBlanks (s : Style) : Bool :=
  !s.effects.contains .reverse && s.ground.isNone && s.underline == 0

-- The parts of a color given by its numbers, and how many parameters were read. Without colons
-- three numbers follow the kind at once; with colons a color space may stand between, and a fourth
-- number and two for the tolerance may follow.
private def parts? (ps : List Parameter) : Option (List Nat × Nat) :=
  let boundTo (n : Nat) : Bool := n < ps.length && (ps.take n).all Parameter.bound
  let values (start count : Nat) : List Nat := ((ps.drop start).take count).map Parameter.value
  let isBound (i : Nat) : Bool := (ps.getD i default).bound
  if boundTo 8 then some (values 3 4, 9)
  else if boundTo 7 then some (values 3 4, 8)
  else if boundTo 6 then some (values 3 4, 7)
  else if boundTo 5 && !isBound 5 then some (values 3 3, 6)
  else if (ps.getD 1 default).value != 2 then none
  else if (boundTo 4 && !isBound 4) || (ps.take 5).all (!·.bound) then some (values 2 3, 5)
  else none

private def highByte (n : Nat) : Nat := if n < 256 then n else n / 256

private def inkLight (black ink : Nat) : Nat :=
  highByte ((65535 - ink % 256 * 257) * (65535 - black % 256 * 257) / 65535)

private def readColor? (ps : List Parameter) : Option (Option Color × Nat) :=
  match (ps[1]?).map Parameter.value with
  | some 0 => some (none, 2)
  | some 1 => some (some (.rgb 0 0 0), 2)
  | some 2 =>
    if ps.length < 5 then none
    else match parts? ps with
      | some (r :: g :: b :: _, n) => some (some (.rgb (r % 256) (g % 256) (b % 256)), n)
      | _ => none
  | some 3 =>
    if ps.length < 5 then none
    else match parts? ps with
      | some (c :: m :: y :: _, n) => some (some (.rgb (inkLight 0 c) (inkLight 0 m) (inkLight 0 y)), n)
      | _ => none
  | some 4 =>
    match parts? ps with
    | some ([c, m, y, k], n) => some (some (.rgb (inkLight k c) (inkLight k m) (inkLight k y)), n)
    | _ => none
  | some 5 =>
    match ps with
    | a :: b :: c :: _ =>
      if a.bound == b.bound && !c.bound then some (some (.indexed (c.value % 256)), 3) else none
    | _ => none
  | some 6 =>
    match parts? ps with
    | some ([r, g, b, _], n) => some (some (.rgb (r % 256) (g % 256) (b % 256)), n)
    | _ => none
  | _ => none

private def step (s : Style) (p : Parameter) (rest : List Parameter) : Style × Nat :=
  let n := p.value
  let colored (set : Option Color → Style) : Style × Nat :=
    match readColor? (p :: rest) with
    | some (c, used) => (set c, used - 1)
    | none => (s, 0)
  if n = 0 then ({}, 0)
  else if n = 4 then
    match rest with
    | q :: _ =>
      if !p.bound then ({ s with underline := 1 }, 0)
      else if q.value ≤ 5 then ({ s with underline := q.value }, 1)
      else (s, 0)
    | [] => ({ s with underline := 1 }, 0)
  else if n = 24 then ({ s with underline := 0 }, 0)
  else if n = 38 then colored fun c => { s with text := c }
  else if n = 48 then colored fun c => { s with ground := c }
  else if n = 58 then colored fun c => { s with underlineColor := c }
  else if n = 39 then ({ s with text := none }, 0)
  else if n = 49 then ({ s with ground := none }, 0)
  else if n = 59 then ({ s with underlineColor := none }, 0)
  else if 30 ≤ n ∧ n ≤ 37 then ({ s with text := some (.basic (n - 30)) }, 0)
  else if 40 ≤ n ∧ n ≤ 47 then ({ s with ground := some (.basic (n - 40)) }, 0)
  else if 90 ≤ n ∧ n ≤ 97 then ({ s with text := some (.basic (n - 82)) }, 0)
  else if 100 ≤ n ∧ n ≤ 107 then ({ s with ground := some (.basic (n - 92)) }, 0)
  else match Effect.ofCode? n with
    | some e => ({ s with effects := if s.effects.contains e then s.effects else e :: s.effects }, 0)
    | none => ({ s with effects := s.effects.filter (!(Effect.endedBy n).contains ·) }, 0)

private def readLoop : Nat → Style → List Parameter → Style
  | _, s, [] => s
  | skip + 1, s, _ :: ps => readLoop skip s ps
  | 0, s, p :: ps =>
    let (s, used) := step s p ps
    readLoop used s ps

/-- The style after a sequence; one without parameters ends every style. -/
def read (s : Style) (ps : List Parameter) : Style := if ps.isEmpty then {} else readLoop 0 s ps

private def underlineParameters : Nat → List Bytes
  | 0 => []
  | 1 => [utf8 "4"]
  | n => [utf8 "4:" ++ Bytes.ofNat n]

/-- The sequence that ends every style. -/
def plainSequence : Bytes := [0x1b, 0x5b, 0x6d]

/-- The sequence that sets a style. -/
def sequence (s : Style) : Bytes :=
  let effects := (Effect.all.filter s.effects.contains).map fun e => Bytes.ofNat e.code
  let colors := (s.text.map (Color.parameters .text)).toList ++
    (s.ground.map (Color.parameters .ground)).toList ++
    (s.underlineColor.map (Color.parameters .underline)).toList
  [0x1b, 0x5b] ++ Bytes.join [0x3b] (effects ++ underlineParameters s.underline ++ colors) ++ [0x6d]

end Style

/-- What text on a terminal leads to. -/
structure Link where
  params : Bytes := []
  target : Bytes := []
  deriving Repr, DecidableEq, Inhabited

namespace Link

def isNone (l : Link) : Bool := l == {}

/-- The sequence that starts a link; with no target it ends one. -/
def sequence (l : Link) : Bytes := utf8 "\x1b]8;" ++ l.params ++ [0x3b] ++ l.target ++ [0x07]

end Link
end LineStore
