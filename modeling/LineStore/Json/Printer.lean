import LineStore.Data.Value
import LineStore.Text.Utf8
/-!
# JSON text of values

Objects are written in the order of their names, records in the order of their fields.  The two line
separators are escaped, and in values angle brackets and ampersands too, so that the text is safe inside
HTML.  A byte that is no character becomes the replacement character.
-/
namespace LineStore.Json

private def unicodeEscape (c : Nat) : Bytes :=
  utf8 "\\u" ++ Bytes.padLeft 0x30 4 (Bytes.ofNatBase 16 c)

private def isMarkup (c : Nat) : Bool := c == 0x3c || c == 0x3e || c == 0x26

private def escapeRune (forMarkup : Bool) (invalid : Bytes) (r : Rune) : Bytes :=
  if r.isInvalid then invalid
  else if r.code = 0x22 ∨ r.code = 0x5c then 0x5c :: r.bytes
  else if r.code = 0x08 then utf8 "\\b"
  else if r.code = 0x0c then utf8 "\\f"
  else if r.code = 0x0a then utf8 "\\n"
  else if r.code = 0x0d then utf8 "\\r"
  else if r.code = 0x09 then utf8 "\\t"
  else if r.code < 0x20 ∨ (forMarkup ∧ isMarkup r.code) ∨ r.code = 0x2028 ∨ r.code = 0x2029 then
    unicodeEscape r.code
  else r.bytes

private def quoteWith (forMarkup : Bool) (invalid : Bytes) (s : Bytes) : Bytes :=
  [0x22] ++ (Utf8.runes s).flatMap (escapeRune forMarkup invalid) ++ [0x22]

def quote (s : Bytes) : Bytes := quoteWith true (Utf8.encode Utf8.replacement) s

/-- The same, with the replacement character escaped. -/
def quoteEscaped (s : Bytes) : Bytes := quoteWith true (unicodeEscape Utf8.replacement) s

/-- A number that JSON cannot write. -/
inductive PrintError where
  | unsupported (x : Number)
  deriving Repr, DecidableEq, Inhabited

def PrintError.message : PrintError → Bytes
  | unsupported x => utf8 "json: unsupported value: " ++ x.write Number.general

private def number (style : Number.Style) (x : Number) : Except PrintError Bytes :=
  if x.isFinite then .ok (x.write style) else .error (.unsupported x)

mutual
def print : Value → Except PrintError Bytes
  | .null => .ok (utf8 "null")
  | .bool b => .ok (Value.boolText b)
  | .number x => number Number.json x
  | .integer _ n => .ok (Bytes.ofInt n)
  | .single x => number Number.jsonSingle x
  | .text s => .ok (quote s)
  | .list items => do
    let parts ← printItems items
    return [0x5b] ++ Bytes.join [0x2c] parts ++ [0x5d]
  | .object fields => do
    -- The first failure in the order of the names is the one reported.
    let parts ← (Value.sortFields (printFields fields)).mapM fun (k, v) =>
      v.map fun v => quote k ++ [0x3a] ++ v
    return [0x7b] ++ Bytes.join [0x2c] parts ++ [0x7d]

def printItems : List Value → Except PrintError (List Bytes)
  | [] => .ok []
  | v :: vs => do
    let s ← print v
    let rest ← printItems vs
    return s :: rest

def printFields : List (Bytes × Value) → List (Bytes × Except PrintError Bytes)
  | [] => []
  | (k, v) :: fs => (k, print v) :: printFields fs
end

/-- A field of a record. -/
inductive Cell where
  | null
  | whole (n : Int)
  | text (s : Bytes)
  deriving Repr, DecidableEq, Inhabited

private def cellText : Cell → Bytes
  | .null => utf8 "null"
  | .whole n => Bytes.ofInt n
  | .text s => quoteWith false (Utf8.encode Utf8.replacement) s

private def recordText (fields : List (String × Cell)) : Bytes :=
  [0x7b] ++ Bytes.join [0x2c] (fields.map fun (k, v) =>
    quoteWith false (Utf8.encode Utf8.replacement) (utf8 k) ++ [0x3a] ++ cellText v) ++ [0x7d]

/-- A list of records, on a line. -/
def recordsText (records : List (List (String × Cell))) : Bytes :=
  [0x5b] ++ Bytes.join [0x2c] (records.map recordText) ++ [0x5d, 0x0a]

end LineStore.Json
