import LineStore.Number.Format
/-!
# Values

What a cell of a table can hold: the values of a JSON document, and whole or single-precision numbers
that a caller may put there.
-/
namespace LineStore

/-- Which width a whole number was given in. -/
inductive IntKind where
  | word | signed64 | unsigned64
  deriving Repr, DecidableEq, Inhabited

inductive Value where
  | null
  | bool (b : Bool)
  | number (x : Number)
  | integer (kind : IntKind) (n : Int)
  | single (x : Number)
  | text (s : Bytes)
  | list (items : List Value)
  | object (fields : List (Bytes × Value))
  deriving Repr, Inhabited

namespace Value

def isNull : Value → Bool
  | null => true
  | _ => false

/-- The binary64 value of anything numeric. -/
def toNumber? : Value → Option Number
  | number x => some x
  | single x => some x
  | integer _ n => some (Number.ofInt n)
  | _ => none

def text? : Value → Option Bytes
  | text s => some s
  | _ => none

/-- Fields in the order of their names. -/
def sortFields (fields : List (Bytes × α)) : List (Bytes × α) :=
  fields.mergeSort fun p q => Bytes.le p.1 q.1

def boolText (b : Bool) : Bytes := if b then utf8 "true" else utf8 "false"

mutual
/-- Everyday text: lists as `[a b]`, objects as `map[k:v ...]` in the order of their names. -/
def display : Value → Bytes
  | null => utf8 "<nil>"
  | bool b => boolText b
  | number x => x.write Number.general
  | integer _ n => Bytes.ofInt n
  | single x => x.write Number.generalSingle
  | text s => s
  | list items => [0x5b] ++ Bytes.join [0x20] (displayItems items) ++ [0x5d]
  | object fields =>
    utf8 "map[" ++ Bytes.join [0x20]
      ((sortFields (displayFields fields)).map fun (k, v) => k ++ [0x3a] ++ v) ++ [0x5d]

def displayItems : List Value → List Bytes
  | [] => []
  | v :: vs => display v :: displayItems vs

def displayFields : List (Bytes × Value) → List (Bytes × Bytes)
  | [] => []
  | (k, v) :: fs => (k, display v) :: displayFields fs
end

end Value
end LineStore
