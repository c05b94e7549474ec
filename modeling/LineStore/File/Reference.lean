import LineStore.Number.Int64
/-!
# References to files

A settings file is named by a reference: a scheme, an authority, a path, a query and a fragment, of which
all but the path may be missing.  Only references without a host lead to a file here.
-/
namespace LineStore.Reference

/-- Is every percent sign followed by two hexadecimal digits? -/
def isEscapeOk : Bytes → Bool
  | [] => true
  | 0x25 :: a :: b :: rest => (Int64.digits? 16 [a, b]).isSome && isEscapeOk rest
  | 0x25 :: _ => false
  | _ :: rest => isEscapeOk rest

private def isSchemeByte (b : UInt8) : Bool :=
  Bytes.isLetter b || Bytes.isDigit b || b == 0x2b || b == 0x2d || b == 0x2e

/-- Splits off a scheme and its colon.  A reference that begins with a colon has no sense. -/
def scheme? (s : Bytes) : Option (Bytes × Bytes) :=
  match s.span isSchemeByte with
  | ([], 0x3a :: _) => none
  | (name, 0x3a :: rest) =>
    if name.head?.any Bytes.isLetter then some (name, rest) else some ([], s)
  | _ => some ([], s)

private def isHostless (authority : Bytes) : Bool :=
  authority.isEmpty || authority.getLast? == some 0x40

/-- The path of a reference without a host. -/
def path? (s : Bytes) : Option Bytes := do
  let main := s.takeWhile (· != 0x23)
  let fragment := s.drop (main.length + 1)
  if main.any (fun b => b < 0x20 || b == 0x7f) || !isEscapeOk fragment then none
  else
    let (scheme, rest) ← scheme? main
    let rest := rest.takeWhile (· != 0x3f)
    let rooted := rest.head? == some 0x2f
    if !rooted && !scheme.isEmpty then none
    else if !rooted && (rest.takeWhile (· != 0x2f)).contains 0x3a then none
    else
      let hasAuthority := Bytes.startsWith [0x2f, 0x2f] rest &&
        (!scheme.isEmpty || !Bytes.startsWith [0x2f, 0x2f, 0x2f] rest)
      let authority := if hasAuthority then (rest.drop 2).takeWhile (· != 0x2f) else []
      let path := if hasAuthority then rest.drop (2 + authority.length) else rest
      if path.isEmpty || !isHostless authority || !isEscapeOk path then none else some path

end LineStore.Reference
