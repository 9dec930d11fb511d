import Templating.Command.Arguments
import Templating.DataFile
import Templating.FileTree
import Templating.Node.Printer
import Templating.Token.Report
import Templating.Workspace

/-!
# Carrying out commands

A command reads its files, the template first, and then works on what it has read. Templates may
come from the standard input, under the name of a lone hyphen. Where files come from is left open,
so a command runs on the files of a computer and on a tree of files in memory alike, and so is what
reads documents.

What a command prints appears only if it succeeds. Failures that the user can mend end it with a
message and the exit code 2; others are passed on.
-/

namespace Templating

/-- What a command gets its bytes from. Files have canonical names. -/
structure Host (m : Type → Type) where
  /-- Whether there is something under a name, as far as that can be found out. -/
  fileExists : String → m (Except SystemError Bool)
  /-- The bytes of the file with a name. -/
  readFile : String → m (Except SystemError (List UInt8))
  readInput : m (List UInt8)

/-- A tree of files and the bytes of the standard input. -/
def FileTree.host (t : FileTree) (input : List UInt8) : Host Id where
  fileExists name := (t.find name).map (·.isSome)
  readFile := t.read
  readInput := input

namespace Host

variable {m : Type → Type} [Monad m] (host : Host m)

/-- Reads a file in one of the ways that data files are read. The file is blamed if it is not there
or not given out, but not if that cannot be found out. -/
def load {α : Type} (decode : (path : String) → List UInt8 → Except Failure α) (name : String) :
    ExceptT Failure m α := do
  let path := FileName.canonical name
  match ← (host.fileExists path : m _) with
  | .error e => throw (.system e)
  | .ok false => throw (.file path .notFound)
  | .ok true =>
    match ← (host.readFile path : m _) with
    | .error e => throw (.file path (.unreadable e))
    | .ok bytes => ExceptT.mk (pure (decode path bytes))

/-- Reads a file in one of the ways that data files are read, if there is a name. -/
def loadNamed {α : Type} (absent : α)
    (decode : (path : String) → List UInt8 → Except Failure α) (name : String) :
    ExceptT Failure m α :=
  if name = "" then return absent else host.load decode name

/-- Reads a template. -/
def template (name : String) : ExceptT Failure m String := do
  if name = "-" then ExceptT.mk (do return Text.ofBytes (← host.readInput))
  else host.load (fun _ => Text.ofBytes) name

end Host

namespace Command

variable {m : Type → Type} [Monad m]

/-- The registry of the program: the builtin helpers. -/
def registry : Registry where
  helpers := Helper.builtins

/-- What a command does once its files are read. -/
def work (reader : Document.Reader) (host : Host m) : Command → ExceptT Failure m (Run String)
  | .render template data partials => do
    let source ← host.template template
    let data ← host.loadNamed (.mapping []) (DataFile.data reader) data
    let partials ← host.loadNamed [] (DataFile.partials reader) partials
    return renderTemplate source registry data [] (partials.map fun (n, text) => (n, .text text))
  | .tokens template => do
    let source ← host.template template
    return (Report.toJson ∘ Report.ofTokens) <$> scanTemplate source
  | .print template => do
    let source ← host.template template
    return do
      let tree ← parseTemplate source
      Run.ofExcept (tree.print)

/-- Carries out a command. -/
def run (reader : Document.Reader) (host : Host m) (c : Command) : m (Run String) := do
  match ← (c.work reader host).run with
  | .ok r => return r
  | .error f => return Run.fail f

/-- What the program leaves: its output, its messages, and the exit code or the failure that it
passes on. -/
structure Ending where
  output : String
  messages : String
  code : Except Failure Nat

/-- The line for an event. -/
def eventLine (e : Event) : String :=
  "[DEBUG] " ++ e.message ++ "\n"

/-- The line for a failure. -/
def failureLine (f : Failure) : String :=
  let cs := f.message.toList.reverse.dropWhile Text.isBlank
  String.ofList cs.reverse ++ "\n"

/-- How the program ends after a run. Events are shown on demand. -/
def ending (debug : Bool) (r : Run String) : Ending :=
  let events := if debug then String.join (r.events.map eventLine) else ""
  match r.outcome with
  | .ok text => { output := text, messages := events, code := .ok 0 }
  | .error f =>
    if f.isUserError then
      { output := "", messages := events ++ failureLine f, code := .ok 2 }
    else { output := "", messages := events, code := .error f }

/-- What the program answers when it is asked for its version. -/
def versionLine : String := "stache 0.1.0\n"

/-- The exit code when arguments name no command. -/
def Stop.code : Stop → Nat
  | help | version => 0
  | misuse => 2

end Command

end Templating
