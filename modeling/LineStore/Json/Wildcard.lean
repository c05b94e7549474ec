import LineStore.Text.Utf8
/-!
# Wildcards

A pattern is a text in which `*` stands for any text and `?` for any one character; a backslash takes the
next character as it is.  Matching keeps all places of the pattern that the text read so far can lead to.
-/
namespace LineStore.Wildcard

inductive Item where
  | anyText
  | anyOne
  | code (c : Nat)
  /-- A backslash with nothing after it, which nothing matches. -/
  | never
  deriving Repr, DecidableEq, Inhabited

private def readCodes : List Nat → List Item
  | [] => []
  | [0x5c] => [.never]
  | 0x5c :: c :: cs => .code c :: readCodes cs
  | c :: cs => (if c = 0x2a then .anyText else if c = 0x3f then .anyOne else .code c) :: readCodes cs

def read (pattern : Bytes) : List Item := readCodes (Utf8.codes pattern)

/-- The places from which a pattern may go on: stars may be skipped. -/
def places : List Item → List (List Item)
  | .anyText :: rest => (.anyText :: rest) :: places rest
  | items => [items]

/-- The places after one more character. -/
def after (c : Nat) : List Item → List (List Item)
  | .anyText :: rest => places (.anyText :: rest)
  | .anyOne :: rest => places rest
  | .code c' :: rest => if c' = c then places rest else []
  | _ => []

private def distinct (ps : List (List Item)) : List (List Item) :=
  ps.foldl (fun kept p => if kept.any (·.length == p.length) then kept else p :: kept) []

private def run (current : List (List Item)) : List Nat → Bool
  | [] => current.any List.isEmpty
  | c :: cs => run (distinct (current.flatMap (after c))) cs

/-- Does a text match a pattern? -/
def accepts (pattern s : Bytes) : Bool := run (places (read pattern)) (Utf8.codes s)

end LineStore.Wildcard
