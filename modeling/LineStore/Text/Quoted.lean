import LineStore.Text.PrintData
import LineStore.Text.Utf8
/-!
# Quoted text

A byte string between double quotes: printable characters stand for themselves, all others are
escaped, and a byte that is no character is written `\xhh`.
-/
namespace LineStore.Quoted

def isPrintable (c : Nat) : Bool :=
  if c < 0x80 then 0x20 ≤ c && c ≤ 0x7e else CodeTable.contains PrintData.printable c

private def hexPadded (width n : Nat) : Bytes := Bytes.padLeft 0x30 width (Bytes.ofNatBase 16 n)

def escape (r : Rune) : Bytes :=
  if r.isInvalid then
    utf8 "\\x" ++ Bytes.hex r.bytes
  else if r.code = 0x22 ∨ r.code = 0x5c then 0x5c :: r.bytes
  else if isPrintable r.code then r.bytes
  else if r.code = 0x07 then utf8 "\\a"
  else if r.code = 0x08 then utf8 "\\b"
  else if r.code = 0x0c then utf8 "\\f"
  else if r.code = 0x0a then utf8 "\\n"
  else if r.code = 0x0d then utf8 "\\r"
  else if r.code = 0x09 then utf8 "\\t"
  else if r.code = 0x0b then utf8 "\\v"
  else if r.code < 0x80 then utf8 "\\x" ++ hexPadded 2 r.code
  else if r.code < 0x10000 then utf8 "\\u" ++ hexPadded 4 r.code
  else utf8 "\\U" ++ hexPadded 8 r.code

def quote (s : Bytes) : Bytes := [0x22] ++ (Utf8.runes s).flatMap escape ++ [0x22]

end LineStore.Quoted
