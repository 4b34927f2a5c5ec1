import Roster.Path

/-!
# Arguments

What the program is asked for on its command line: one of four commands, each with an operand and
options, and the path of a configuration file in front of the command or behind it. Arguments are read
from left to right, and the first one that cannot be understood, asks for help or asks for the version
settles the matter.
-/

namespace Roster.Cli

/-- A command. -/
inductive Command where
  /-- Print what a cache file says; the name is given if it is not that of the file. -/
  | inspect (file : Path) (name : Option String) (asJson : Bool)
  /-- List the managers with cache files. -/
  | list (asJson : Bool)
  /-- Prepare a manager as a client would, and print what it offers. -/
  | prepare (name : String) (asJson : Bool)
  /-- Check the name of a manager or of a protocol. -/
  | checkName (name : String) (isProtocol : Bool)
  deriving DecidableEq, Repr

/-- A command with the path of the configuration file, if it is given. -/
structure Task where
  /-- The path of the configuration file. -/
  config : Option Path
  /-- The command. -/
  command : Command
  deriving DecidableEq, Repr

/-- Why arguments ask for no command. -/
inductive Halt where
  /-- Help is asked for. -/
  | help
  /-- The version is asked for. -/
  | version
  /-- An argument is not known. -/
  | unknownArgument (argument : String)
  /-- An option is given twice. -/
  | repeated (option : String)
  /-- An option has no value, or an empty one where that cannot be. -/
  | missingValue (option : String)
  /-- A flag has a value. -/
  | needlessValue (option : String)
  /-- There is no command. -/
  | missingCommand
  /-- A command has no operand. -/
  | missingOperand
  deriving DecidableEq, Repr

/-- What may be given where. -/
structure Grammar where
  /-- The options without a value. -/
  flags : List String
  /-- The options with a value, and whether it may be empty. -/
  valued : List (String × Bool)
  /-- Whether there is an operand, and whether it may be empty. -/
  operand : Option Bool
  /-- Whether the version may be asked for. -/
  hasVersion : Bool := false
  deriving Repr

/-- What is given. -/
structure Given where
  /-- The flags. -/
  flags : List String := []
  /-- The options with their values. -/
  values : List (String × String) := []
  /-- The operand. -/
  operand : Option String := none
  deriving Repr

namespace Given

/-- Adds a flag. -/
def addFlag (g : Given) (flag : String) : Except Halt Given :=
  if flag ∈ g.flags then .error (.repeated flag) else .ok { g with flags := flag :: g.flags }

/-- Adds an option with its value. -/
def addValue (g : Given) (option : String) (mayBeEmpty : Bool) (value : String) :
    Except Halt Given :=
  if value = "" ∧ mayBeEmpty = false then .error (.missingValue option)
  else if (g.values.lookup option).isSome then .error (.repeated option)
  else .ok { g with values := (option, value) :: g.values }

/-- Adds an operand. -/
def addOperand (grammar : Grammar) (g : Given) (operand : String) : Except Halt Given :=
  match grammar.operand, g.operand with
  | some mayBeEmpty, none =>
    if operand = "" ∧ mayBeEmpty = false then .error .missingOperand
    else .ok { g with operand := some operand }
  | _, _ => .error (.unknownArgument operand)

end Given

/-! ## Reading -/

/-- An argument, before its place is known. -/
inductive Shape where
  /-- The sign behind which no options follow. -/
  | ending
  /-- An option by its name, and a value behind an equals sign. -/
  | long (name : String) (value : Option String)
  /-- Options by letters. -/
  | short (letters : List Char)
  /-- Anything else. -/
  | word
  deriving DecidableEq, Repr

/-- The shape of an argument. -/
def Shape.of (argument : String) : Shape :=
  match argument.toList with
  | ['-', '-'] => .ending
  | '-' :: '-' :: rest =>
    let name := rest.takeWhile (· ≠ '=')
    let value := rest.drop (name.length + 1)
    .long (String.ofList name)
      (if name.length < rest.length then some (String.ofList value) else none)
  | '-' :: c :: rest => .short (c :: rest)
  | _ => .word

/-- What a group of letters asks for. -/
def readLetters (grammar : Grammar) (argument : String) : List Char → Halt
  | 'h' :: _ => .help
  | 'V' :: _ => if grammar.hasVersion then .version else .unknownArgument argument
  | _ => .unknownArgument argument

/-- Reads an option without a value. -/
def readFlag (grammar : Grammar) (given : Given) (argument name : String) (hasValue : Bool) :
    Except Halt Given :=
  if name ∈ grammar.flags then
    if hasValue then .error (.needlessValue name) else given.addFlag name
  else if name = "help" ∨ (name = "version" ∧ grammar.hasVersion) then
    if hasValue then .error (.needlessValue name)
    else .error (if name = "help" then .help else .version)
  else .error (.unknownArgument argument)

/-- Reads arguments, and gives what is left from the first operand on if there may be none. -/
def readArguments (grammar : Grammar) : Given → List String → Except Halt (Given × List String)
  | given, [] => .ok (given, [])
  | given, argument :: rest =>
    match Shape.of argument with
    | .ending =>
      match rest.foldlM (Given.addOperand grammar) given with
      | .error halt => .error halt
      | .ok given => .ok (given, [])
    | .short letters => .error (readLetters grammar argument letters)
    | .word =>
      if grammar.operand = none then .ok (given, argument :: rest)
      else
        match given.addOperand grammar argument with
        | .error halt => .error halt
        | .ok given => readArguments grammar given rest
    | .long name value =>
      match grammar.valued.lookup name with
      | none =>
        match readFlag grammar given argument name value.isSome with
        | .error halt => .error halt
        | .ok given => readArguments grammar given rest
      | some mayBeEmpty =>
        match value with
        | some value =>
          match given.addValue name mayBeEmpty value with
          | .error halt => .error halt
          | .ok given => readArguments grammar given rest
        | none =>
          match rest with
          | [] => .error (.missingValue name)
          | value :: rest =>
            if Shape.of value ≠ .word then .error (.missingValue name)
            else
              match given.addValue name mayBeEmpty value with
              | .error halt => .error halt
              | .ok given => readArguments grammar given rest

/-! ## Commands -/

/-- What may be given in front of the command. -/
def topGrammar : Grammar := ⟨[], [("config", false)], none, true⟩

/-- The commands by name, each with what may be given behind it and what it makes of that. -/
def commands : List (String × Grammar × (Given → String → Command)) := [
  ("inspect", ⟨["json"], [("config", false), ("name", true)], some false, false⟩,
    fun g file => .inspect file (g.values.lookup "name") ("json" ∈ g.flags)),
  ("list", ⟨["json"], [("config", false)], none, false⟩, fun g _ => .list ("json" ∈ g.flags)),
  ("show", ⟨["json"], [("config", false)], some true, false⟩,
    fun g name => .prepare name ("json" ∈ g.flags)),
  ("check-name", ⟨["protocol"], [("config", false)], some true, false⟩,
    fun g name => .checkName name ("protocol" ∈ g.flags))]

/-- What the help command says to its operands: at most one, the name of a command. -/
def readHelp (operands : List String) : Halt :=
  match operands with
  | [] => .help
  | [name] =>
    if name = "help" ∨ (commands.lookup name).isSome then .help else .unknownArgument name
  | name :: _ => .unknownArgument name

/-- What the arguments ask for. The path of a configuration file behind the command counts for more
than one in front of it. -/
def Task.ofArguments (arguments : List String) : Except Halt Task := do
  match ← readArguments topGrammar {} arguments with
  | (_, []) => .error .missingCommand
  | (top, name :: rest) =>
    if name = "help" then .error (readHelp rest)
    else
      match commands.lookup name with
      | none => .error (.unknownArgument name)
      | some (grammar, make) =>
        let (given, more) ← readArguments grammar {} rest
        if let argument :: _ := more then .error (.unknownArgument argument)
        let config := (given.values.lookup "config").or (top.values.lookup "config")
        match given.operand with
        | some operand => return ⟨config, make given operand⟩
        | none =>
          if grammar.operand.isSome then .error .missingOperand else return ⟨config, make given ""⟩

end Roster.Cli
