import LiquidityClient.Text.Decimal

/-!
# Command line arguments

A grammar of commands, their options and their arguments, and its reader `CommandRule.read`. Options
start with two dashes, or with one if they have a letter; an option takes its value from behind an
equals sign or from the next argument, unless that looks like an option. Behind `--` nothing is an
option. An option counts from the innermost command at which it is given, and may be given once at
each.
-/

namespace LiquidityClient.Cli

/-- What values an option or an argument takes. -/
inductive ValueKind where
  | text
  /-- A text that is not empty. -/
  | path
  | int32
  | int64
  /-- One of some words. -/
  | word (words : List String)

/-- Is the text a value of this kind? -/
def ValueKind.accepts : ValueKind → String → Bool
  | .text, _ => true
  | .path, value => !value.isEmpty
  | .int32, value => (Decimal.readInt32 value).toOption.isSome
  | .int64, value => (Decimal.readInt64 value).toOption.isSome
  | .word words, value => words.contains value

/-- An option. -/
structure OptionRule where
  name : String
  letter : Option Char := none
  /-- The values it takes; a flag takes none. -/
  value : Option ValueKind := some .text
  required : Bool := false

/-- A command : it takes options and arguments, or stands for a group of commands. -/
inductive CommandRule where
  | command (options : List OptionRule) (arguments : List ValueKind)
  | group (commands : List (String × CommandRule))

/-- Why no command is run. -/
inductive Stop where
  | help
  | version
  /-- The arguments fit no command. -/
  | usage (reason : String)
  deriving DecidableEq, Repr

/-- What was read : the names of the commands from the outermost on, the options with the innermost
first, and the arguments. -/
structure Arguments where
  commands : List String := []
  options : List (String × String) := []
  values : List String := []
  deriving DecidableEq, Repr

namespace CommandRule

/-- The options of the command itself. -/
def options : CommandRule → List OptionRule
  | .command options _ => options
  | .group _ => []

/-- The kinds of the command's arguments. -/
def arguments : CommandRule → List ValueKind
  | .command _ arguments => arguments
  | .group _ => []

/-- The command of this name in a group. -/
def find? (name : String) : CommandRule → Option CommandRule
  | .command _ _ => none
  | .group commands => commands.lookup name

/-- Is the rule a group? -/
def isGroup : CommandRule → Bool
  | .command _ _ => false
  | .group _ => true

/-- Why asking for help on a command stops : the command has to exist. -/
def helpOn : CommandRule → List String → Stop
  | _, [] => .help
  | rule, name :: rest =>
    match rule.find? name with
    | some inner => helpOn inner rest
    | none => .usage ("unrecognized subcommand: " ++ name)

/-- Does the text look like an option? -/
def isDashed (text : String) : Bool :=
  text.toList.head? = some '-' && text ≠ "-"

/-- The name of a long option, and the value behind an equals sign, if there is one. -/
def splitValue (cs : List Char) : String × Option String :=
  match cs.dropWhile (· ≠ '=') with
  | [] => (String.ofList cs, none)
  | _ :: value => (String.ofList (cs.takeWhile (· ≠ '=')), some (String.ofList value))

/-- The value that follows the letter of an option, if there is one. -/
def behindLetter : List Char → Option String
  | [] => none
  | '=' :: value => some (String.ofList value)
  | value => some (String.ofList value)

/-- What has been read at one command. -/
structure Level where
  isRoot : Bool
  options : List (String × String) := []
  values : List String := []

/-- The level with one more option. -/
def Level.addOption (level : Level) (rule : OptionRule) (value : String) : Except Stop Level :=
  if (level.options.lookup rule.name).isSome then .error (.usage ("given twice: " ++ rule.name))
  else if ((rule.value.map fun kind => kind.accepts value).getD true) then
    .ok { level with options := level.options ++ [(rule.name, value)] }
  else .error (.usage ("invalid value for " ++ rule.name ++ ": " ++ value))

/-- The level with one more argument, whose kind the command tells. -/
def Level.addValue (level : Level) (rule : CommandRule) (value : String) : Except Stop Level :=
  match rule.arguments[level.values.length]? with
  | none => .error (.usage ("unexpected argument: " ++ value))
  | some kind =>
    if kind.accepts value then .ok { level with values := level.values ++ [value] }
    else .error (.usage ("invalid value: " ++ value))

/-- The arguments at the end of a command line; what is required has to be there. -/
def finish (rule : CommandRule) (level : Level) : Except Stop Arguments :=
  if rule.isGroup then .error (.usage "a subcommand is required")
  else
    match rule.options.find? fun o => o.required ∧ (level.options.lookup o.name).isNone with
    | some missing => .error (.usage ("missing: " ++ missing.name))
    | none =>
      if level.values.length < rule.arguments.length then .error (.usage "missing argument")
      else .ok { options := level.options, values := level.values }

/-- The option that an argument starts, with the value that stands in the argument; `shared` are the
options of all commands. -/
def optionOf (rule : CommandRule) (shared : List OptionRule) (isRoot : Bool) (text : String) :
    Except Stop (OptionRule × Option String) :=
  match text.toList with
  | '-' :: '-' :: cs =>
    let (name, value) := splitValue cs
    if name = "help" ∧ value = none then .error .help
    else if name = "version" ∧ isRoot ∧ value = none then .error .version
    else
      match (rule.options ++ shared).find? fun o => o.name = name with
      | some found => .ok (found, value)
      | none => .error (.usage ("unexpected option: " ++ text))
  | '-' :: letter :: cs =>
    if letter = 'h' then .error .help
    else if letter = 'V' ∧ isRoot then .error .version
    else
      match (rule.options ++ shared).find? fun o => o.letter = some letter with
      | some found => .ok (found, behindLetter cs)
      | none => .error (.usage ("unexpected option: " ++ text))
  | _ => .error (.usage ("unexpected argument: " ++ text))

/-- Reads the rest of a command line. -/
def readFrom (shared : List OptionRule) (rule : CommandRule) (level : Level) :
    List String → Except Stop Arguments
  | [] => rule.finish level
  | text :: rest =>
    if text = "--" then do
      let level ← rest.foldlM (fun level value => level.addValue rule value) level
      rule.finish level
    else if isDashed text then
      match rule.optionOf shared level.isRoot text with
      | .error stop => .error stop
      | .ok (option, attached) =>
        match option.value, attached, rest with
        | none, some _, _ => .error (.usage ("unexpected value for " ++ option.name))
        | none, none, rest => do readFrom shared rule (← level.addOption option "") rest
        | some _, some value, rest => do readFrom shared rule (← level.addOption option value) rest
        | some _, none, value :: rest =>
          if isDashed value then .error (.usage ("missing value for " ++ option.name))
          else do readFrom shared rule (← level.addOption option value) rest
        | some _, none, [] => .error (.usage ("missing value for " ++ option.name))
    else if rule.isGroup then
      match rule.find? text with
      | some inner => do
        let found ← readFrom shared inner { isRoot := false } rest
        return {
          commands := text :: found.commands
          options := found.options ++ level.options
          values := found.values }
      | none =>
        if text = "help" then .error (rule.helpOn rest)
        else .error (.usage ("unrecognized subcommand: " ++ text))
    else do readFrom shared rule (← level.addValue rule text) rest

/-- Reads a command line; `shared` are the options of all commands. -/
def read (rule : CommandRule) (shared : List OptionRule) (line : List String) :
    Except Stop Arguments :=
  rule.readFrom shared { isRoot := true } line

end CommandRule

namespace Arguments

/-- Is the flag given? -/
def has (arguments : Arguments) (name : String) : Bool :=
  (arguments.options.lookup name).isSome

/-- The value of an option, or the default. -/
def option (arguments : Arguments) (name default : String) : String :=
  (arguments.options.lookup name).getD default

/-- The argument at a position. -/
def value (arguments : Arguments) (position : Nat) : String :=
  (arguments.values[position]?).getD ""

end Arguments

end LiquidityClient.Cli
