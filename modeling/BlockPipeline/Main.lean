import BlockPipeline.Cli.Program
import Std.Time.DateTime.Timestamp

/-!
# The command-line program

The outer layer of the program: it gathers the world that a command needs (the arguments, the
files it names, a stamp), lets the command be carried out, and brings the report to the
streams and the disk. There is no network behind it, so that a request whose address is in
order fails on its way.
-/

namespace BlockPipeline.Cli

/-- Eight hexadecimal digits for a number of 32 bits. -/
def drawnSuffix (n : Nat) : String :=
  let digits := Nat.toDigits 16 n
  String.ofList (List.replicate (8 - digits.length) '0' ++ digits)

/-- A length of time in the largest unit in which it is at least one. -/
def durationText (nanoseconds : Nat) : String :=
  let inUnit (unit digits : Nat) (name : String) : String :=
    let fraction := (Instant.padded digits (nanoseconds % unit)).toList.reverse.dropWhile (· = '0')
    let shown := if fraction.isEmpty then "" else "." ++ String.ofList fraction.reverse
    toString (nanoseconds / unit) ++ shown ++ name
  if nanoseconds < 1000 then toString nanoseconds ++ "ns"
  else if nanoseconds < 1000000 then inUnit 1000 3 "µs"
  else if nanoseconds < 1000000000 then inUnit 1000000 6 "ms"
  else inUnit 1000000000 9 "s"

/-- Why a file could not be read or written, with the number that the system has for it. -/
def fileFault : IO.Error → String
  | .noFileOrDirectory _ _ _ => "No such file or directory (os error 2)"
  | .permissionDenied _ code details | .inappropriateType _ code details
  | .alreadyExists _ code details | .invalidArgument _ code details
  | .resourceExhausted _ code details | .noSuchThing _ code details
  | .otherError code details => details ++ " (os error " ++ toString code ++ ")"
  | .userError _ => "stream did not contain valid UTF-8"
  | e => toString e

/-- What comes of an access to a file. -/
def attempt {α : Type} (access : IO α) : IO (Except String α) := do
  match ← access.toBaseIO with
  | .ok a => return .ok a
  | .error e => return .error (fileFault e)

/-- Reads files. -/
def readFiles (paths : List String) : IO (String → Except String String) := do
  let contents ← paths.mapM fun (path : String) => return (path, ← attempt (IO.FS.readFile path))
  return fun path => (contents.lookup path).getD (.error "not read")

/-- A stamp of this moment. -/
def currentStamp : IO Stamp := do
  let time ← Std.Time.Timestamp.now
  let seconds := time.val.second.val
  let suffix ← IO.rand 0 4294967295
  let moment := Instant.ofParts? (seconds / 86400) (seconds % 86400).toNat time.val.nano.val.toNat
  return ⟨"pipe_" ++ drawnSuffix suffix, moment.getD default⟩

/-- A delivery without a network. -/
def disconnected : Delivery := fun r =>
  .error (.transport ("error sending request for url (" ++ r.url ++ ")"))

/-- Writes what a report has written. The answer says which file could not be written. -/
def store (r : Report) : IO (String → Option String) := do
  let faults ← r.written.mapM fun (path, content) => do
    match ← attempt (IO.FS.writeFile path content) with
    | .ok () => return (path, none)
    | .error reason => return (path, some reason)
  return fun path => (faults.lookup path).join

/-- Carries out a command. It is a function of the world: once it is known whether the file
can be written, it is carried out again in the world with that knowledge. -/
def Invocation.carryOut (i : Invocation) : IO Report := do
  let world : World :=
    { read := ← readFiles i.inputs
      writeFault := fun _ => none
      deliver := disconnected
      stamp := ← currentStamp
      elapsed := "" }
  let start ← IO.monoNanosNow
  let hopeful := i.perform world
  let writeFault ← store hopeful
  let stop ← IO.monoNanosNow
  return i.perform { world with writeFault := writeFault, elapsed := durationText (stop - start) }

end BlockPipeline.Cli

open BlockPipeline.Cli in
def main (arguments : List String) : IO UInt32 := do
  let setting ← IO.getEnv BlockPipeline.ServiceConfig.baseVariable
  let report ← match Invocation.ofArguments arguments setting with
    | .ok i => i.carryOut
    | .error stop => pure stop.report
  IO.print report.output
  IO.eprint report.errors
  return .ofNat report.code
