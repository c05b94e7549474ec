import LineStore.Cli.Flag
import LineStore.Text.Space
/-!
# Arguments

Flags and other arguments may be mixed.  `--` ends the flags, and so does a command's name; an empty
argument ends everything.
-/
namespace LineStore.Cli

/-- What is wrong with some arguments. -/
inductive UsageError where
  | unknownFlag (name : Bytes)
  /-- The last argument is a flag that takes a value. -/
  | noValue (arg : Bytes)
  | badValue (name value : Bytes) (why : Reason)
  deriving Repr, DecidableEq, Inhabited

def UsageError.message : UsageError → Bytes
  | unknownFlag name => utf8 "flag provided but not defined: -" ++ name
  | noValue arg => utf8 "flag needs an argument: " ++ arg
  | badValue name value why =>
    utf8 "invalid value " ++ Quoted.quote value ++ utf8 " for flag -" ++ name ++ utf8 ": " ++
      why.message

/-- The settings of flags and the other arguments. -/
structure Arguments where
  settings : Settings := .empty
  others : List Bytes := []
  deriving Repr, DecidableEq, Inhabited

/-- Does an argument with this second byte name a flag?  The byte is taken for a character. -/
def startsName (b : UInt8) : Bool :=
  Bytes.isLetter b || b == 0x2d || b == 0xaa || b == 0xb5 || b == 0xba ||
    (0xc0 ≤ b && b != 0xd7 && b != 0xf7)

/-- What one argument is. -/
inductive Word where
  /-- Nothing after it counts. -/
  | stop
  /-- It ends the flags and is left out. -/
  | endOfFlags
  /-- A single dash. -/
  | dash
  /-- It and everything after it is no flag. -/
  | rest
  | other (s : Bytes)
  | flag (name value : Bytes)
  deriving Repr, DecidableEq, Inhabited

def Word.of (isCommand : Bytes → Bool) (arg : Bytes) : Word :=
  match Space.trim arg with
  | [] => .stop
  | [0x2d, 0x2d] => .endOfFlags
  | [0x2d] => .dash
  | 0x2d :: b :: s =>
    if !startsName b then .rest
    else
      let body := if b = 0x2d then s else b :: s
      match Bytes.cut? 0x3d body with
      | some (name, value) => .flag name value
      | none => .flag body []
  | s => if isCommand s then .rest else .other s

/-- Reads arguments in turn.  An empty value is taken from the next argument, or means yes. -/
def parseFrom (flags : List Flag) (isCommand : Bytes → Bool) :
    Arguments → List Bytes → Except UsageError Arguments
  | a, [] => .ok a
  | a, arg :: rest =>
    match Word.of isCommand arg with
    | .stop => .ok a
    | .endOfFlags => .ok { a with others := a.others ++ rest }
    | .dash => .ok { a with others := a.others ++ [[0x2d]] }
    | .rest => .ok { a with others := a.others ++ arg :: rest }
    | .other s => parseFrom flags isCommand { a with others := a.others ++ [s] } rest
    | .flag name value =>
      match flags.find? (·.answersTo name) with
      | none => .error (.unknownFlag name)
      | some f =>
        if f.isSwitch then
          let value := if value.isEmpty then utf8 "true" else value
          match f.set a.settings name value with
          | .error why => .error (.badValue name value why)
          | .ok settings => parseFrom flags isCommand { a with settings } rest
        else if value.isEmpty then
          match rest with
          | [] => .error (.noValue (Space.trim arg))
          | value :: rest =>
            match f.set a.settings name value with
            | .error why => .error (.badValue name value why)
            | .ok settings => parseFrom flags isCommand { a with settings } rest
        else
          match f.set a.settings name value with
          | .error why => .error (.badValue name value why)
          | .ok settings => parseFrom flags isCommand { a with settings } rest

def parse (flags : List Flag) (isCommand : Bytes → Bool) (args : List Bytes) :
    Except UsageError Arguments :=
  parseFrom flags isCommand {} args

end LineStore.Cli
