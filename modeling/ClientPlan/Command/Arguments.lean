/-!
# Arguments of a command line

A command line is a sequence of words, some of which are options.  A long option may have its value
after an equals sign, short options may stand together behind one hyphen, and after two hyphens
nothing is an option any more.
-/

set_option autoImplicit false

namespace ClientPlan

/-- An option that a command knows. -/
structure Switch where
  /-- The long name, with its hyphens. -/
  long : String
  /-- The letter of the short name. -/
  short : Option Char := none
  /-- Whether a value follows. -/
  takesValue : Bool := false
deriving DecidableEq, Repr

/-- Why a command line cannot be understood. -/
inductive UsageError where
  | unknownOption (name : String)
  | missingValue (name : String)
  | unexpectedValue (name : String)
  | missingCommand
  | unknownCommand (name : String)
  | missingArgument (name : String)
  | extraArgument (text : String)
deriving DecidableEq, Repr

/-- The message of a usage error. -/
def UsageError.message : UsageError → String
  | unknownOption name => "No such option: " ++ name
  | missingValue name => "Option '" ++ name ++ "' requires an argument."
  | unexpectedValue name => "Option '" ++ name ++ "' does not take a value."
  | missingCommand => "Missing command."
  | unknownCommand name => "No such command '" ++ name ++ "'."
  | missingArgument name => "Missing argument '" ++ name ++ "'."
  | extraArgument text => "Got unexpected extra argument (" ++ text ++ ")"

/-- The options and the other words of a command line. -/
structure Arguments where
  /-- The long names of the options in order, with their values; an option without a value has the empty
  text. -/
  options : List (String × String) := []
  /-- The words that belong to no option. -/
  words : List String := []
deriving DecidableEq, Repr

namespace Arguments

/-- Whether an option is given. -/
def has (a : Arguments) (long : String) : Bool := a.options.any fun o => o.1 == long

/-- The last value of an option. -/
def value? (a : Arguments) (long : String) : Option String := a.options.reverse.lookup long

/-- What one word says: the options in it, and the option whose value is the next word. -/
structure Reading where
  /-- The options with their values. -/
  options : List (String × String) := []
  /-- The option that still wants its value. -/
  pending : Option Switch := none

/-- Reads the letters behind a single hyphen. -/
def readLetters (switches : List Switch) : List Char → Except UsageError Reading
  | [] => .ok {}
  | c :: r =>
    match switches.find? fun s => s.short == some c with
    | none => .error (.unknownOption (String.ofList ['-', c]))
    | some s =>
      if !s.takesValue then do
        let rest ← readLetters switches r
        return { rest with options := (s.long, "") :: rest.options }
      else if r.isEmpty then .ok { pending := some s }
      else .ok { options := [(s.long, String.ofList r)] }

/-- Reads a word that starts with a hyphen. -/
def readOption (switches : List Switch) (word : String) : Except UsageError Reading :=
  let name := String.ofList (word.toList.takeWhile (· != '='))
  let value : Option String :=
    if word.toList.contains '=' then some (String.ofList ((word.toList.dropWhile (· != '=')).drop 1))
    else none
  match switches.find? fun s => s.long == name with
  | some s =>
    match s.takesValue, value with
    | true, some v => .ok { options := [(s.long, v)] }
    | true, none => .ok { pending := some s }
    | false, none => .ok { options := [(s.long, "")] }
    | false, some _ => .error (.unexpectedValue s.long)
  | none =>
    if word.startsWith "--" then .error (.unknownOption name)
    else readLetters switches (word.toList.drop 1)

/-- Whether a word is an option: a hyphen that is not alone. -/
def isOption (word : String) : Bool := word.startsWith "-" && word != "-"

/-- More options in front. -/
def withOptions (options : List (String × String)) (a : Arguments) : Arguments :=
  { a with options := options ++ a.options }

/-- Reads words.  `mixed` says whether options may follow words that are none. -/
def read (switches : List Switch) (mixed : Bool) : List String → Except UsageError Arguments
  | [] => .ok {}
  | word :: rest =>
    if word == "--" then .ok { words := rest }
    else if isOption word then do
      let reading ← readOption switches word
      match reading.pending with
      | none => return .withOptions reading.options (← read switches mixed rest)
      | some s =>
        match rest with
        | [] => .error (.missingValue s.long)
        | v :: rest =>
          return .withOptions (reading.options ++ [(s.long, v)]) (← read switches mixed rest)
    else if mixed then do
      let a ← read switches mixed rest
      return { a with words := word :: a.words }
    else .ok { words := word :: rest }

end Arguments

end ClientPlan
