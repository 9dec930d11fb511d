import Templating.Command.Execution
import Templating.Document.Content

/-!
# The program

Connects commands with the files, the standard streams and the environment of a computer.
-/

namespace Templating.Program

/-- What the operating system says of an error, for the file with a name. -/
def systemError (name : String) : IO.Error → SystemError
  | .noFileOrDirectory _ n reason | .permissionDenied _ n reason | .invalidArgument _ n reason
  | .inappropriateType _ n reason | .resourceExhausted _ n reason | .otherError n reason
  | .hardwareFault n reason | .unsupportedOperation n reason | .resourceBusy n reason
  | .timeExpired n reason | .interrupted _ n reason | .noSuchThing _ n reason =>
    ⟨n.toNat, reason, name⟩
  | e => ⟨5, toString e, name⟩

/-- The numbers of the errors that say that there is no such file: none under the name, one that is
no directory on the way there, a closed one, or links in a circle. -/
def absenceNumbers : List Nat := [2, 20, 9, 40]

/-- Whether the computer finds the way to a file. -/
def isReached (name : String) : IO Bool := do
  try
    let _ ← IO.FS.realPath name
    return true
  catch _ => return false

/-- Whether there is a file with a name on the computer. One that is found counts even if it is not
given out. -/
def fileExists (name : String) : IO (Except SystemError Bool) := do
  try
    let _ ← IO.FS.Handle.mk name .read
    return .ok true
  catch e =>
    let e := systemError name e
    if absenceNumbers.contains e.number then return .ok false
    return if ← isReached name then .ok true else .error e

/-- Reads a file of the computer. -/
def readFile (name : String) : IO (Except SystemError (List UInt8)) := do
  try
    return .ok (← IO.FS.readBinFile name).toList
  catch e => return .error (systemError name e)

/-- The bytes of the standard input. -/
partial def readInput (input : IO.FS.Stream) (soFar : List UInt8) : IO (List UInt8) := do
  let bytes ← input.read 65536
  if bytes.isEmpty then return soFar else readInput input (soFar ++ bytes.toList)

/-- The computer as a place to run commands on. -/
def host : Host IO where
  fileExists := fileExists
  readFile := readFile
  readInput := do readInput (← IO.getStdin) []

/-- Carries out a command and gives the exit code. -/
def run (c : Command) : IO UInt32 := do
  let debug := ((← IO.getEnv "STACHE_DEBUG").getD "") != ""
  let ending := Command.ending debug (← c.run Document.value host)
  IO.print ending.output
  IO.eprint ending.messages
  match ending.code with
  | .ok code => return code.toUInt32
  | .error f =>
    IO.eprintln f.message
    return 1

end Templating.Program

/-- Runs the command that the arguments name. -/
def main (args : List String) : IO UInt32 := do
  match Templating.Command.ofArguments args with
  | .ok c => Templating.Program.run c
  | .error stop =>
    if stop = .version then IO.print Templating.Command.versionLine
    return stop.code.toUInt32
