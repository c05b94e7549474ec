import LineStore.Cache.Basic
import LineStore.Number.Int64
import LineStore.Text.Quoted
import LineStore.Text.Space
/-!
# Selecting lines

`N`, `FIRST-LAST` and `FIRST:COUNT` choose lines of a file, counted from one; an empty text chooses all
of them.  Numbers are 64-bit.
-/
namespace LineStore

inductive Selection where
  | all
  | span (first last : Int)
  deriving Repr, DecidableEq, Inhabited

namespace Selection

def first : Selection → Int
  | all => 0
  | span a _ => a

def last : Selection → Int
  | all => 0
  | span _ b => b

inductive Error where
  | invalid (spec : Bytes)
  | lastBeforeFirst (spec : Bytes)
  | noFile (name : Bytes)
  | outOfRange (line : Int)
  deriving Repr, DecidableEq, Inhabited

def Error.message : Error → Bytes
  | invalid spec => utf8 "invalid line spec " ++ Quoted.quote spec
  | lastBeforeFirst spec =>
    utf8 "invalid line spec " ++ Quoted.quote spec ++ utf8 ": last before first"
  | noFile name => LoadError.notFoundText ++ utf8 ": " ++ name
  | outOfRange n => utf8 "line " ++ Bytes.ofInt n ++ utf8 " out of range"

/-- A positive 64-bit numeral, white space around it ignored. -/
def positive? (s : Bytes) : Option Int :=
  match Int64.read? (Space.trim s) with
  | some n => if n < 1 then none else some n
  | none => none

/-- The last of `count` lines from `first` on.  A count that leads past the largest number is cut down
first; the sum may still wrap around before one is taken off it. -/
def countedLast (first count : Int) : Int :=
  let room := Int64.wrap (Int64.maxValue - first)
  let count := if room < count then Int64.wrap (room + 1) else count
  Int64.wrap (Int64.wrap (first + count) - 1)

def parse (spec : Bytes) : Except Error Selection :=
  if spec.isEmpty then .ok .all
  else match Bytes.cut? 0x2d spec with
  | some (a, b) =>
    match positive? a, positive? b with
    | some a, some b => if b < a then .error (.lastBeforeFirst spec) else .ok (.span a b)
    | _, _ => .error (.invalid spec)
  | none =>
    match Bytes.cut? 0x3a spec with
    | some (a, b) =>
      match positive? a, positive? b with
      | some a, some n => .ok (.span a (countedLast a n))
      | _, _ => .error (.invalid spec)
    | none =>
      match positive? spec with
      | some n => .ok (.span n n)
      | none => .error (.invalid spec)

end Selection

/-- The chosen lines and the number of the first of them. -/
def Cache.select (w : World) (c : Cache) (key : Bytes) (s : Selection) (reload : Bool) :
    Outcome (Except Selection.Error (List Bytes × Int)) :=
  (c.ensure w key reload).andThen fun path c =>
    match path with
    | none => ⟨.error (.noFile key), c, []⟩
    | some _ =>
      match s with
      | .all => (c.lines w key false).map fun ls => .ok (ls.getD [], 1)
      | .span a b =>
        if a = b then
          (c.line w key a false).map fun
            | some l => .ok ([l], a)
            | none => .error (.outOfRange a)
        else
          (c.lineRange w key a b false).map fun
            | some ls => .ok (ls, a)
            | none => .error (.outOfRange a)

end LineStore
