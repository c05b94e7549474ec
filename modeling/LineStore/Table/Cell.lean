import LineStore.Data.Value
import LineStore.Json.Printer
/-!
# Text of a cell

What a text table shows for a value: numbers as whole numbers, lists and objects as JSON, and a stand-in
for what is missing or zero.
-/
namespace LineStore.Value

/-- Missing, false, zero, or an empty text. -/
def isZero : Value → Bool
  | null => true
  | bool b => !b
  | number x | single x => x.isZero
  | integer _ n => n == 0
  | text s => s.isEmpty
  | list _ | object _ => false

def cellText (standIn : Bytes) (v : Value) : Bytes :=
  if v.isZero then standIn
  else match v with
    | text s => s
    | integer .word n | integer .signed64 n => Bytes.ofInt n
    | number x => x.fixed 0
    | bool b => boolText b
    | v => match Json.print v with
      | .ok s => s
      | .error _ => v.display

end LineStore.Value
