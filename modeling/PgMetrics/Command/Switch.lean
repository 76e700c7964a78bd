namespace PgMetrics

/-- Why arguments are refused, or not acted upon. -/
inductive UsageError where
  | unknownCommand
  | unknownArgument
  /-- A value is missing, or none of those that are possible. -/
  | invalidValue
  /-- A value cannot be read as a number or a length of time. -/
  | unreadableValue
  | missingArgument
  /-- A switch is given twice. -/
  | conflict
  /-- A switch that takes no value has one. -/
  | tooManyValues
  | help
  deriving DecidableEq, Repr

structure Switch (α : Type) where
  long : String
  short : Option Char := none
  takesValue : Bool := true
  /-- Whether it may be given more than once. -/
  repeats : Bool := false
  /-- The variable that may set it. -/
  variableName : Option String := none
  /-- Takes in a value; that of a switch without one is `true`. -/
  accept : String → α → Except UsageError α

namespace Switch

variable {α : Type}

/-- A switch that asks for help in place of anything else. -/
def help : Switch α :=
  { long := "help", short := some 'h', takesValue := false, accept := fun _ _ => .error .help }

/-- What has been read of the arguments. -/
structure Progress (α : Type) where
  values : α
  given : List String := []
  /-- The last switch with a value, which has not been taken in yet. -/
  pending : Option (Switch α × Option String) := none

/-- Takes in a value of a switch. -/
def take (s : Switch α) (value : String) (p : Progress α) : Except UsageError (Progress α) :=
  if !s.repeats && p.given.contains s.long then .error .conflict
  else (s.accept value p.values).map fun values => { p with values, given := s.long :: p.given }

/-- Takes in the value that is pending. It is looked at only now that the next switch or the end of the arguments
shows that it is complete, so an unknown argument right behind a bad value is what is reported. -/
def settle (p : Progress α) : Except UsageError (Progress α) :=
  match p.pending with
  | none => .ok p
  | some (_, none) => .error .invalidValue
  | some (s, some value) => s.take value { p with pending := none }

/-- A switch among the arguments, perhaps with a value attached to it. -/
def use (s : Switch α) (attached : Option String) (p : Progress α) : Except UsageError (Progress α) :=
  match s.takesValue, attached with
  | false, some _ => .error .tooManyValues
  | false, none => settle p >>= s.take "true"
  | true, some value => settle p >>= s.take value
  | true, none => (settle p).map fun p => { p with pending := some (s, none) }

/-- Switches by their letters in one argument. What follows the letter of a switch with a value is that. -/
def useLetters (switches : List (Switch α)) : List Char → Progress α → Except UsageError (Progress α)
  | [], p => .ok p
  | c :: cs, p =>
    match switches.find? (·.short == some c) with
    | none => .error .unknownArgument
    | some s =>
      if s.takesValue then
        match cs with
        | [] => s.use none p
        | '=' :: value => s.use (some (String.ofList value)) p
        | value => s.use (some (String.ofList value)) p
      else s.use none p >>= useLetters switches cs

/-- A switch by its name, with its value behind an equals sign if it has one there. -/
def useName (switches : List (Switch α)) (cs : List Char) (p : Progress α) :
    Except UsageError (Progress α) :=
  match switches.find? (·.long == String.ofList (cs.takeWhile (· != '='))) with
  | none => .error .unknownArgument
  | some s =>
    match cs.dropWhile (· != '=') with
    | [] => s.use none p
    | _ :: value => s.use (some (String.ofList value)) p

/-- An argument that stands by itself. -/
def usePlain (plain : Option (Switch α)) (argument : String) (p : Progress α) :
    Except UsageError (Progress α) :=
  match plain with
  | none => .error .unknownArgument
  | some s =>
    if p.given.contains s.long then .error .unknownArgument else settle p >>= s.take argument

/-- Whether the argument before was a switch that still waits for its value. -/
def Progress.waiting (p : Progress α) : Option (Switch α) :=
  match p.pending with
  | some (s, none) => some s
  | _ => none

/-- One argument that is not behind `--`. -/
def useArgument (switches : List (Switch α)) (plain : Option (Switch α)) (argument : String)
    (p : Progress α) : Except UsageError (Progress α) :=
  match argument.toList with
  | '-' :: '-' :: cs => useName switches cs p
  | '-' :: c :: cs => useLetters switches (c :: cs) p
  | _ =>
    match p.waiting with
    | some s => .ok { p with pending := some (s, some argument) }
    | none => usePlain plain argument p

/-- Argument after argument; behind `--` there are no switches. -/
def readFrom (switches : List (Switch α)) (plain : Option (Switch α)) (ended : Bool) :
    List String → Progress α → Except UsageError (Progress α)
  | [], p => settle p
  | argument :: arguments, p =>
    if ended then usePlain plain argument p >>= readFrom switches plain true arguments
    else if argument = "--" then readFrom switches plain true arguments p
    else useArgument switches plain argument p >>= readFrom switches plain false arguments

/-- Takes in the variables of switches that have not been given. -/
def readVariables (lookup : String → Option String) :
    List (Switch α) → Progress α → Except UsageError (Progress α)
  | [], p => .ok p
  | s :: switches, p =>
    match if p.given.contains s.long then none else s.variableName.bind lookup with
    | none => readVariables lookup switches p
    | some value => s.take value p >>= readVariables lookup switches

/-- The values of arguments and variables, and the switches that have been given. -/
def read (switches : List (Switch α)) (plain : Option (Switch α)) (lookup : String → Option String)
    (arguments : List String) (start : α) : Except UsageError (Progress α) :=
  readFrom (help :: switches) plain false arguments { values := start } >>=
    readVariables lookup switches

end Switch

end PgMetrics
