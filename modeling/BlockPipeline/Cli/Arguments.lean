/-!
# Command-line arguments

A command line is read level by level: the options of the program, a command, and the options
and operands of the command. An option is written with two dashes and its name, or with one
dash and a letter; its value follows as the next argument or, behind an equals sign or the
letter, in the same one. Flags have no value and their letters may be joined. Behind two bare
dashes everything is an operand.

An option may be given once at each level, and a value that looks like an option is none.
Anything against these rules is a usage error; which rule it was does not matter to the
caller. The line is read from left to right and the first thing that stops the reading
counts: a value that its option does not take, in front of a request for help, is an error.
A value that is an argument of its own is looked at only when the next option or operand
comes, or the line ends, so that a command comes before it.
-/

namespace BlockPipeline.Cli

/-- An unsigned number of 64 bits: digits, with a plus sign in front allowed. -/
def number? (text : String) : Option UInt64 :=
  let digits := match text.toList with
    | '+' :: rest => rest
    | all => all
  if digits.isEmpty || !digits.all Char.isDigit then none
  else
    let n := digits.foldl (fun n c => n * 10 + (c.toNat - '0'.toNat)) 0
    if n < UInt64.size then some (.ofNat n) else none

/-- Which values an option takes. -/
inductive ValueRule where
  /-- None: the option is a flag. -/
  | flag
  | text
  | number
  | oneOf (names : List String)
deriving DecidableEq

/-- Whether a text is a value of the kind. -/
def ValueRule.accepts : ValueRule → String → Bool
  | .flag, _ => false
  | .text, _ => true
  | .number, value => (number? value).isSome
  | .oneOf names, value => names.contains value

/-- An option of a level. -/
structure OptionRule where
  name : String
  letter : Option Char := none
  value : ValueRule := .text
deriving DecidableEq

def OptionRule.takesValue (o : OptionRule) : Bool := o.value ≠ .flag

/-- What may be given at a level. -/
structure LevelRule where
  options : List OptionRule
  /-- The commands that end the level. -/
  commands : List String := []
  /-- How many operands may be given. -/
  operands : Nat := 0

/-- Why reading stops without a result. -/
inductive Stop where
  | usage
  | help
  | version
deriving DecidableEq

/-- What was given at a level. -/
structure Given where
  options : List (String × String) := []
  operands : List String := []
  /-- The option that was given last, where its value was not looked at yet. -/
  unsettled : Option (OptionRule × String) := none

namespace Given

def value? (g : Given) (name : String) : Option String := g.options.lookup name

def has (g : Given) (name : String) : Bool := (g.value? name).isSome

/-- Notes an option; it must not be there yet. -/
def add (g : Given) (name value : String) : Except Stop Given :=
  if g.has name then .error .usage else .ok { g with options := (name, value) :: g.options }

/-- Notes an option with a value that it takes. -/
def addValue (g : Given) (o : OptionRule) (value : String) : Except Stop Given :=
  if o.value.accepts value then g.add o.name value else .error .usage

/-- Looks at the value that was not looked at yet. -/
def settle (g : Given) : Except Stop Given :=
  match g.unsettled with
  | none => .ok g
  | some (o, value) => ({ g with unsettled := none } : Given).addValue o value

/-- Notes an operand, if there may be one more. -/
def addOperand (g : Given) (rule : LevelRule) (operand : String) : Except Stop Given :=
  if g.operands.length < rule.operands then .ok { g with operands := g.operands ++ [operand] }
  else .error .usage

end Given

/-- One argument by its form. -/
inductive Argument where
  /-- Two bare dashes. -/
  | separator
  /-- `--name` or `--name=value`. -/
  | long (name : List Char) (value : Option String)
  /-- `-` and letters. -/
  | short (letters : List Char)
  | word (text : String)

/-- The form of an argument. A single dash is a word. -/
def Argument.ofText (text : String) : Argument :=
  match text.toList with
  | ['-', '-'] => .separator
  | '-' :: '-' :: rest =>
    match rest.dropWhile (· ≠ '=') with
    | '=' :: value => .long (rest.takeWhile (· ≠ '=')) (some (String.ofList value))
    | _ => .long rest none
  | '-' :: c :: rest => .short (c :: rest)
  | _ => .word text

/-- Whether an argument can be the value of the option in front of it. -/
def Argument.isValue : Argument → Bool
  | .word _ => true
  | _ => false

namespace LevelRule

/-- What a letter that is no option of the level asks for: help, or the version where there are
commands. -/
def stopOfLetter (rule : LevelRule) (c : Char) : Stop :=
  if c = 'h' then .help
  else if c = 'V' ∧ !rule.commands.isEmpty then .version
  else .usage

/-- What a name that is no option of the level asks for. -/
def stopOfName (rule : LevelRule) (name : String) : Stop :=
  if name == "help" then .help
  else if name == "version" && !rule.commands.isEmpty then .version
  else .usage

/-- Reads joined letters. The answer has the option whose value is still to come, if any. -/
def letters (rule : LevelRule) (g : Given) : List Char → Except Stop (Given × Option OptionRule)
  | [] => .ok (g, none)
  | c :: rest =>
    match rule.options.find? (·.letter = some c) with
    | none => .error (rule.stopOfLetter c)
    | some o =>
      if o.takesValue then
        match rest with
        | [] => .ok (g, some o)
        | '=' :: value => do return (← g.addValue o (String.ofList value), none)
        | value => do return (← g.addValue o (String.ofList value), none)
      else do rule.letters (← g.add o.name "") rest

/-- Reads a long option. Flags, help and the version are never given a value. -/
def long (rule : LevelRule) (g : Given) (name : List Char) (value : Option String) :
    Except Stop (Given × Option OptionRule) := do
  let name := String.ofList name
  match rule.options.find? (·.name == name), value with
  | some o, some value => return (← g.addValue o value, none)
  | some o, none => if o.takesValue then return (g, some o) else return (← g.add name "", none)
  | none, some _ => throw .usage
  | none, none => throw (rule.stopOfName name)

/-- Where the reading of a level ended: at the end of the line, or at a command with the
arguments behind it. -/
structure LevelResult where
  given : Given
  command : Option (String × List String) := none

/-- Reads a level. `pending` is the option that waits for its value, and behind the separator
every argument is an operand. -/
def read (rule : LevelRule) (g : Given) (pending : Option OptionRule) (separated : Bool) :
    List String → Except Stop LevelResult
  | [] => if pending.isSome then .error .usage else do return { given := ← g.settle }
  | text :: rest =>
    if separated then do
      rule.read (← (← g.settle).addOperand rule text) none true rest
    else
      let argument := Argument.ofText text
      match pending with
      | some o =>
        if argument.isValue then rule.read { g with unsettled := some (o, text) } none false rest
        else .error .usage
      | none =>
        match argument with
        | .separator => rule.read g none true rest
        | .long name value => do
          let (g, pending) ← rule.long (← g.settle) name value
          rule.read g pending false rest
        | .short letters => do
          let (g, pending) ← rule.letters (← g.settle) letters
          rule.read g pending false rest
        | .word word =>
          if rule.commands.contains word then .ok { given := g, command := some (word, rest) }
          else do
            rule.read (← (← g.settle).addOperand rule word) none false rest

end LevelRule

end BlockPipeline.Cli
