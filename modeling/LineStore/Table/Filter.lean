import LineStore.Data.Value
import LineStore.Log.Record
import LineStore.Number.Read
import LineStore.Pattern.Parser
import LineStore.Pattern.Program
import LineStore.Text.Case
import LineStore.Text.Space
/-!
# Filters

A filter is a key, an operator with an optional `!` before it, and a target: `line>3`, `text!@TODO`.
Clauses are separated by commas; one without operator or without key is reported and skipped.
-/
namespace LineStore

structure Filter where
  key : Bytes
  negate : Bool := false
  /-- One of `= ^ ~ < > @ /` in filters that were read from a text. -/
  operand : Bytes
  target : Bytes
  deriving Repr, DecidableEq, Inhabited

namespace Filter

def isOperator (b : UInt8) : Bool :=
  b == 0x3d || b == 0x5e || b == 0x7e || b == 0x3c || b == 0x3e || b == 0x40 || b == 0x2f

/-- Cuts a clause at its first operator: what is before it, whether it is negated, and the rest
from the operator on. -/
def cutOperator? : Bytes → Option (Bytes × Bool × UInt8 × Bytes)
  | [] => none
  | b :: s =>
    if isOperator b then some ([], false, b, s)
    else
      let later := (cutOperator? s).map fun (k, n, op, t) => (b :: k, n, op, t)
      match s with
      | op :: t => if b = 0x21 ∧ isOperator op then some ([], true, op, t) else later
      | [] => later

/-- The filter of one clause. -/
def parse? (clause : Bytes) : Option Filter :=
  if clause.any (· == 0x0a) then none
  else match cutOperator? clause with
    | some (key, negate, op, target) =>
      if key.isEmpty then none else some { key, negate, operand := [op], target }
    | none => none

structure Built where
  filters : List Filter
  log : List Log.Record
  deriving Repr, DecidableEq

/-- Reads the clauses of a text, separated by `delimiter`. -/
def build (delimiter spec : Bytes) : Built :=
  if spec.isEmpty then ⟨[], []⟩
  else
    let clauses := Bytes.splitAtAll delimiter spec
    ⟨clauses.filterMap parse?, (clauses.filter (parse? · |>.isNone)).map fun c =>
      .error (utf8 "invalid filter: " ++ c)⟩

/-- What a test says, and what it reports. -/
structure Verdict where
  accepted : Bool
  log : List Log.Record := []
  deriving Repr, DecidableEq

namespace Verdict

def of (holds negate : Bool) : Verdict := ⟨holds == !negate, []⟩

def refuse (message : Bytes) : Verdict := ⟨false, [.error message]⟩

end Verdict

/-- Tests a text. -/
def checkText (f : Filter) (s : Bytes) : Verdict :=
  match f.operand with
  | [0x3d] => .of (s == f.target) f.negate
  | [0x7e] => .of (Case.equal s f.target) f.negate
  | [0x5e] => .of (Bytes.startsWith f.target s) f.negate
  | [0x3e] => .of (decide (f.target < s)) f.negate
  | [0x3c] => .of (decide (s < f.target)) f.negate
  | [0x40] => .of (Bytes.contains f.target s) f.negate
  | [0x2f] =>
    match Pattern.parse? f.target with
    | some p => .of (p.isMatch s) f.negate
    | none => .refuse (utf8 "invalid regex: " ++ f.target)
  | op => .refuse (utf8 "unsupported filtering operand: " ++ op)

/-- Tests a number: by value for `=`, `>` and `<`, else by its plain text. -/
def checkNumber (f : Filter) (x : Number) : Verdict :=
  if f.operand = [0x3d] ∨ f.operand = [0x3e] ∨ f.operand = [0x3c] then
    match Number.readInRange? (Space.trim f.target) with
    | none => .refuse (utf8 "invalid numeric target: " ++ f.target)
    | some t =>
      if f.operand = [0x3d] then .of (x.eq t) f.negate
      else if f.operand = [0x3e] then .of (t.lt x) f.negate
      else .of (x.lt t) f.negate
  else checkText f x.plain

/-- The name of a value's kind, as reports show it. -/
def kindName : Value → Bytes
  | .null => utf8 "<nil>"
  | .bool _ => utf8 "bool"
  | .number _ => utf8 "float64"
  | .single _ => utf8 "float32"
  | .integer .word _ => utf8 "int"
  | .integer .signed64 _ => utf8 "int64"
  | .integer .unsigned64 _ => utf8 "uint64"
  | .text _ => utf8 "string"
  | .list _ => utf8 "[]interface \x7b\x7d"
  | .object _ => utf8 "map[string]interface \x7b\x7d"

/-- Is the target an item of a list or the name of a field? -/
def checkContains (f : Filter) (v : Value) : Verdict :=
  match v with
  | .list items => .of (items.any fun i => i.display == f.target) f.negate
  | .object fields => .of (fields.any fun p => p.1 == f.target) f.negate
  | v => .refuse (utf8 "unsupported type for contains filtering: " ++ kindName v)

/-- Tests the value of a cell; a missing one fails, and lists and objects know only `@`. -/
def checkValue (f : Filter) (v : Value) : Verdict :=
  match v with
  | .null => ⟨false, []⟩
  | .text s => checkText f s
  | .bool b => checkText f (Value.boolText b)
  | .number x => checkNumber f x
  | v => if f.operand = [0x40] then checkContains f v else ⟨true, []⟩

end Filter
end LineStore
