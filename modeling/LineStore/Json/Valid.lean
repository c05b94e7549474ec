import LineStore.Text.Bytes
/-!
# Well-formed documents

The strict grammar of JSON over bytes.  Each reader returns what follows the construct it accepts.
-/
namespace LineStore.Json

private def dropBlank (s : Bytes) : Bytes :=
  s.dropWhile fun b => b == 0x20 || b == 0x09 || b == 0x0a || b == 0x0d

private def isHexDigit (b : UInt8) : Bool :=
  Bytes.isDigit b || (0x61 ≤ b && b ≤ 0x66) || (0x41 ≤ b && b ≤ 0x46)

private def isSimpleEscape (b : UInt8) : Bool :=
  [0x22, 0x5c, 0x2f, 0x62, 0x66, 0x6e, 0x72, 0x74].contains b

private def validText? : Bytes → Option Bytes
  | [] => none
  | 0x5c :: 0x75 :: a :: b :: c :: d :: s =>
    if [a, b, c, d].all isHexDigit then validText? s else none
  | 0x5c :: e :: s => if isSimpleEscape e then validText? s else none
  | b :: s => if b < 0x20 || b == 0x5c then none else if b == 0x22 then some s else validText? s

private def dropDigits (s : Bytes) : Bytes := s.dropWhile Bytes.isDigit

private def digits? (s : Bytes) : Option Bytes :=
  if s.head?.any Bytes.isDigit then some (dropDigits s) else none

private def fraction? (s : Bytes) : Option Bytes :=
  match s with
  | 0x2e :: s => digits? s
  | s => some s

private def exponent? (s : Bytes) : Option Bytes :=
  match s with
  | b :: s =>
    if b == 0x65 || b == 0x45 then
      digits? (if s.head?.any fun c => c == 0x2b || c == 0x2d then s.drop 1 else s)
    else some (b :: s)
  | [] => some []

private def validNumber? (s : Bytes) : Option Bytes := do
  let s := Bytes.trimStart [0x2d] s
  let s ← match s with
    | 0x30 :: s => some s
    | s => digits? s
  exponent? (← fraction? s)

mutual
private def validValue? : Nat → Bytes → Option Bytes
  | 0, _ => none
  | fuel + 1, s =>
    match dropBlank s with
    | 0x22 :: s => validText? s
    | 0x7b :: s =>
      match dropBlank s with
      | 0x7d :: s => some s
      | s => validFields? fuel s
    | 0x5b :: s =>
      match dropBlank s with
      | 0x5d :: s => some s
      | s => validItems? fuel s
    | s =>
      (Bytes.dropStart? (utf8 "true") s).or ((Bytes.dropStart? (utf8 "false") s).or
        ((Bytes.dropStart? (utf8 "null") s).or (validNumber? s)))

private def validItems? : Nat → Bytes → Option Bytes
  | 0, _ => none
  | fuel + 1, s => do
    let s ← validValue? fuel s
    match dropBlank s with
    | 0x2c :: s => validItems? fuel s
    | 0x5d :: s => some s
    | _ => none

private def validFields? : Nat → Bytes → Option Bytes
  | 0, _ => none
  | fuel + 1, s =>
    match dropBlank s with
    | 0x22 :: s => do
      match dropBlank (← validText? s) with
      | 0x3a :: s =>
        match dropBlank (← validValue? fuel s) with
        | 0x2c :: s => validFields? fuel s
        | 0x7d :: s => some s
        | _ => none
      | _ => none
    | _ => none
end

/-- Is the text one JSON value, with nothing but white space around it? -/
def isValid (s : Bytes) : Bool :=
  match validValue? (2 * s.length + 2) s with
  | some rest => (dropBlank rest).isEmpty
  | none => false

end LineStore.Json
