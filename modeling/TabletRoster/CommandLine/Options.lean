namespace TabletRoster.CommandLine

inductive Fault where
  | unknownArgument
  | invalidValue
  | valueValidation
  | argumentConflict
  | missingRequiredArgument
  | tooManyValues
  | displayHelp
  deriving DecidableEq, Repr

def Fault.message : Fault → String
  | .unknownArgument => "unexpected argument"
  | .invalidValue => "a value is required"
  | .valueValidation => "a value is not of its type"
  | .argumentConflict => "an argument is given twice"
  | .missingRequiredArgument => "a required argument is missing"
  | .tooManyValues => "a value is given where none is taken"
  | .displayHelp => "arguments are --name VALUE"

abbrev Parsing := Except Fault

structure Flag where
  long : String
  short : Option Char
  check : String → Parsing Unit

def anyText (_ : String) : Parsing Unit := .ok ()

def nonempty (value : String) : Parsing Unit :=
  if value.isEmpty then .error .invalidValue else .ok ()

def readable {α : Type} (read : String → Option α) (value : String) : Parsing Unit :=
  if (read value).isSome then .ok () else .error .valueValidation

/-- The values of the options that are settled, and the option that waits to be. -/
structure Progress where
  settled : List (String × String)
  waiting : Option (Flag × Option String)

namespace Progress

def start : Progress := ⟨[], none⟩

def give (progress : Progress) (flag : Flag) (value : String) : Parsing Progress := do
  if (progress.settled.lookup flag.long).isSome then throw .argumentConflict
  flag.check value
  return { progress with settled := (flag.long, value) :: progress.settled }

def settle (progress : Progress) : Parsing Progress :=
  match progress.waiting with
  | none => .ok progress
  | some (_, none) => .error .invalidValue
  | some (flag, some value) => { progress with waiting := none }.give flag value

def begin (progress : Progress) (flag : Flag) (value : Option String) : Parsing Progress := do
  let progress ← progress.settle
  match value with
  | some value => progress.give flag value
  | none => return { progress with waiting := some (flag, none) }

def help (progress : Progress) : Parsing Progress := do
  let _ ← progress.settle
  throw .displayHelp

def long (flags : List Flag) (progress : Progress) (text : List Char) : Parsing Progress :=
  let name := String.ofList (text.takeWhile (· ≠ '='))
  let value := match text.dropWhile (· ≠ '=') with
    | [] => none
    | _ :: value => some (String.ofList value)
  if name = "help" then (if value.isSome then .error .tooManyValues else progress.help)
  else match flags.find? (·.long == name) with
    | some flag => progress.begin flag value
    | none => .error .unknownArgument

def short (flags : List Flag) (progress : Progress) (letter : Char) (text : List Char) :
    Parsing Progress :=
  if letter = 'h' then progress.help
  else match flags.find? (·.short == some letter) with
    | some flag => progress.begin flag (match text with
        | [] => none
        | '=' :: value => some (String.ofList value)
        | value => some (String.ofList value))
    | none => .error .unknownArgument

def plain (progress : Progress) (value : String) : Parsing Progress :=
  match progress.waiting with
  | some (flag, none) => .ok { progress with waiting := some (flag, some value) }
  | _ => .error .unknownArgument

def take (flags : List Flag) (progress : Progress) (argument : String) : Parsing Progress :=
  match argument.toList with
  | '-' :: '-' :: text => progress.long flags text
  | '-' :: letter :: text => progress.short flags letter text
  | _ => progress.plain argument

end Progress

/-- Goes through the arguments. Behind `--` only values without an option could stand, and no
command takes any. -/
def run (flags : List Flag) (progress : Progress) : List String → Parsing Progress
  | [] => progress.settle
  | argument :: rest => do
    if argument = "--" then
      if rest.isEmpty then progress.settle else throw .unknownArgument
    else run flags (← progress.take flags argument) rest

def parse (flags : List Flag) (arguments : List String) : Parsing (List (String × String)) := do
  return (← run flags .start arguments).settled

end TabletRoster.CommandLine
