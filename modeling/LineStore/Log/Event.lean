import LineStore.Log.Record
/-!
# What an operation does to the outside

Operations are functions; what they would look at, open, log and print is kept beside their result, in
order.
-/
namespace LineStore

inductive Event where
  /-- The metadata of a path was asked for. -/
  | stat (path : Bytes)
  /-- A file was opened and read to its end. -/
  | opened (path : Bytes)
  | logged (record : Log.Record)
  /-- Text for the person at the terminal. -/
  | warned (text : Bytes)
  /-- Output. -/
  | printed (text : Bytes)
  deriving Repr, DecidableEq, Inhabited

namespace Event

/-- The records among some events. -/
def records (t : List Event) : List Log.Record := t.filterMap fun
  | logged r => some r
  | _ => none

/-- All output, put together. -/
def output (t : List Event) : Bytes := t.flatMap fun
  | printed s => s
  | _ => []

/-- All text for the person at the terminal, without the log. -/
def warnings (t : List Event) : Bytes := t.flatMap fun
  | warned s => s
  | _ => []

/-- The paths asked for. -/
def paths (t : List Event) : List Bytes := t.filterMap fun
  | stat p | opened p => some p
  | _ => none

end Event
end LineStore
