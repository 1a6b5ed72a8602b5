import BlockPipeline.Cli.Arguments
import BlockPipeline.Spec.Basic

/-!
# Commands

What a command line asks for. Three options belong to the program as a whole and may stand in
front of the command or behind it; behind it they count for more. The address of the services
may also come from the environment, which counts least.
-/

namespace BlockPipeline.Cli

/-- Where the listing of the registry comes from. -/
inductive ListingSource where
  | nowhere
  | file (path : String)
  | remote
deriving DecidableEq

/-- How a draft is to be compiled. -/
structure CompileOptions where
  name : Option String
  seed : UInt64
  mode : RunMode
  /-- The file for the result; the output without one. -/
  out : Option String

inductive Command where
  /-- Prints the quick-start pipeline as a draft. -/
  | template (listing : ListingSource)
  | compile (draft : String) (listing : ListingSource) (options : CompileOptions)
  | check (draft : String) (listing : ListingSource)
  | run (spec : String)
  | explain (spec : String) (focus : Option String)
  | runs

/-- A command with the options of the program. -/
structure Invocation where
  api : Option String
  /-- In seconds. -/
  timeout : Option UInt64
  /-- Whether to log more; what is logged is no part of a report. -/
  verbose : Bool
  command : Command

/-- The options of the program, at every level. -/
def programOptions : List OptionRule :=
  [⟨"api", none, .text⟩, ⟨"timeout", none, .number⟩, ⟨"verbose", some 'v', .flag⟩]

def listingOption : OptionRule := ⟨"registry", none, .text⟩

def remoteFlag : OptionRule := ⟨"remote", none, .flag⟩

def runModes : List RunMode := [.sync, .async]

def modeOption : OptionRule := ⟨"mode", none, .oneOf (runModes.map RunMode.text)⟩

/-- The options of a command, and how many operands it takes. -/
def commandRules : List (String × List OptionRule × Nat) :=
  [("template", [listingOption], 0),
   ("compile",
     [listingOption, remoteFlag, ⟨"name", none, .text⟩, ⟨"seed", none, .number⟩, modeOption,
      ⟨"out", some 'o', .text⟩], 1),
   ("check", [listingOption, remoteFlag], 1),
   ("run", [], 1),
   ("explain", [⟨"focus", none, .text⟩], 1),
   ("runs", [], 0)]

def programRule : LevelRule :=
  { options := programOptions, commands := commandRules.map Prod.fst ++ ["help"] }

/-- A value in a usable form, or a usage error. -/
def orUsage {α : Type} (value : Option α) : Except Stop α :=
  match value with
  | some a => .ok a
  | none => .error .usage

/-- The reading of an option's value, where the option is given. -/
def parsed {α : Type} (g : Given) (name : String) (read : String → Option α) :
    Except Stop (Option α) :=
  match g.value? name with
  | none => .ok none
  | some text => (orUsage (read text)).map some

def mode? (text : String) : Option RunMode := runModes.find? fun mode => mode.text == text

/-- The listing that is asked for; a file and the service exclude one another. -/
def listing (g : Given) : Except Stop ListingSource :=
  match g.value? "registry", g.has "remote" with
  | some _, true => .error .usage
  | some path, false => .ok (.file path)
  | none, true => .ok .remote
  | none, false => .ok .nowhere

/-- A command from what was given for it. -/
def Command.ofGiven (name : String) (g : Given) : Except Stop Command := do
  match name with
  | "template" => return .template (← listing g)
  | "compile" =>
    let seed ← parsed g "seed" number?
    let mode ← parsed g "mode" mode?
    let draft ← orUsage g.operands.head?
    return .compile draft (← listing g)
      { name := g.value? "name"
        seed := seed.getD 0
        mode := mode.getD .sync
        out := g.value? "out" }
  | "check" => return .check (← orUsage g.operands.head?) (← listing g)
  | "run" => return .run (← orUsage g.operands.head?)
  | "explain" => return .explain (← orUsage g.operands.head?) (g.value? "focus")
  | "runs" => return .runs
  | _ => throw .usage

/-- What the command `help` comes to: help, on all commands or on the one that is named. -/
def helpStop (rest : List String) : Stop :=
  match rest with
  | [] => .help
  | [name] => if programRule.commands.contains name then .help else .usage
  | _ => .usage

/-- Reads a command line; the environment may name the services. -/
def Invocation.ofArguments (arguments : List String) (environment : Option String) :
    Except Stop Invocation := do
  let outer ← programRule.read {} none false arguments
  let (name, rest) ← orUsage outer.command
  if name == "help" then throw (helpStop rest)
  let (_, options, operands) ← orUsage (commandRules.find? (·.1 == name))
  let inner ← LevelRule.read
    { options := programOptions ++ options, operands := operands } {} none false rest
  let general ← outer.given.settle
  let innerTimeout ← parsed inner.given "timeout" number?
  let outerTimeout ← parsed general "timeout" number?
  let command ← Command.ofGiven name inner.given
  return {
    api := inner.given.value? "api" <|> general.value? "api" <|> environment
    timeout := innerTimeout <|> outerTimeout
    verbose := inner.given.has "verbose" || general.has "verbose"
    command := command }

end BlockPipeline.Cli
