import Templating.GrammarError

/-!
# Failures

Everything that can go wrong when templates are read, rendered or fed with data, one constructor a
cause, and the wording of each in `Failure.message`. Failures that the author of a template or of a
data file can mend are told apart from failures of the program around it (`Failure.isUserError`).
-/

namespace Templating

/-- What an operating system refuses: the number of the error, what it is, and the name of the file
that was asked for. -/
structure SystemError where
  number : Nat
  reason : String
  name : String
deriving DecidableEq, Repr

/-- The error in words. -/
def SystemError.message (e : SystemError) : String :=
  s!"[Errno {e.number}] {e.reason}: {Text.quotedString e.name}"

/-- Why a file cannot serve as a template, as data or as a table of partials. -/
inductive FileProblem where
  /-- There is no such file. -/
  | notFound
  /-- The file is there, but its bytes are not given out. -/
  | unreadable (error : SystemError)
  /-- The text is no document. -/
  | invalidDocument
  /-- The document of a table of partials is no mapping. -/
  | noMapping (typeName : String)
  /-- A partial is no text. -/
  | partialNotText (name : String)
deriving DecidableEq, Repr

/-- The problem in words, for the file at `path`. -/
def FileProblem.message (path : String) : FileProblem → String
  | notFound => s!"File not found: {path}"
  | unreadable error => s!"Failed to read {path}: {error.message}"
  | invalidDocument => s!"Invalid YAML/JSON in {path}"
  | noMapping typeName => s!"Partials file {path} must contain a mapping, got {typeName}"
  | partialNotText name => s!"Partial '{name}' in {path} must be a string"

/-- A part of a date that no calendar has, or of a time that no clock shows. -/
inductive DateProblem where
  | year (given : Nat)
  | month
  | day
  | hour
  | minute
  | second
deriving DecidableEq, Repr

/-- The problem in words. -/
def DateProblem.message : DateProblem → String
  | year given => s!"year {given} is out of range"
  | month => "month must be in 1..12"
  | day => "day is out of range for month"
  | hour => "hour must be in 0..23"
  | minute => "minute must be in 0..59"
  | second => "second must be in 0..59"

/-- Why bytes are no UTF-8. -/
inductive Utf8Problem where
  /-- A byte begins no character. -/
  | invalidStart
  /-- A character breaks off before a byte that cannot continue it. -/
  | invalidContinuation
  /-- The bytes end inside a character. -/
  | unexpectedEnd
deriving DecidableEq, Repr

/-- The problem in words. -/
def Utf8Problem.message : Utf8Problem → String
  | invalidStart => "invalid start byte"
  | invalidContinuation => "invalid continuation byte"
  | unexpectedEnd => "unexpected end of data"

/-- What went wrong. -/
inductive Failure where
  /-- A template is no template. -/
  | grammar (error : GrammarError)
  /-- A template includes a partial that no table has. -/
  | unknownPartial (name : String)
  /-- A file cannot be used. -/
  | file (path : String) (problem : FileProblem)
  /-- Whether there is a file cannot be found out. -/
  | system (error : SystemError)
  /-- A helper blames its user. -/
  | user (message : String)
  /-- A helper or a value fails when it is called. -/
  | raised (message : String)
  /-- A tree holds a node of a foreign kind. -/
  | unknownNode (kind : String)
  /-- A value is called that cannot be. -/
  | notCallable (typeName : String)
  /-- The entry of a helper cannot be called. -/
  | helperNotCallable (typeName : String)
  /-- A value is iterated that cannot be. -/
  | notIterable (typeName : String)
  /-- The length of a value is asked for that has none. -/
  | noLength (typeName : String)
  /-- The length of a value is asked for that is too great for a machine. -/
  | lengthLimit
  /-- The entry of a partial is a byte string. -/
  | bytesPartial
  /-- The entry of a partial is another row of things than a text. -/
  | noPartial (typeName : String)
  /-- Pieces are joined of which one is no text. -/
  | joinOfOther (index : Nat) (typeName : String)
  /-- The method that joins texts is called without any. -/
  | joinOfNothing
  /-- A helper is called with too few arguments. -/
  | missingArguments (function : String) (names : List String)
  /-- A helper is called with too many arguments. -/
  | excessArguments (function : String) (least most given : Nat)
  /-- A mapping has a key that cannot be one. -/
  | unfitKey (typeName : String)
  /-- A text is no integer in the base. -/
  | invalidInteger (base : Nat) (text : String)
  /-- An integer has too many digits to be read, or, where their number is not given, to be
  written. -/
  | digitLimit (given : Option Nat)
  /-- A text is no floating-point number. -/
  | invalidFloat (text : String)
  /-- A date or a time of a day does not exist. -/
  | invalidDate (problem : DateProblem)
  /-- A number is read where there is no character at all. -/
  | emptyNumber
  /-- An escape names no code point. -/
  | codePointRange
  /-- An infinity is asked for as a fraction. -/
  | ratioOfInfinity
  /-- What is no number is asked for as a fraction. -/
  | ratioOfNan
  /-- A name is looked up where it must be and is not. -/
  | missingKey (text : String)
  /-- Bytes are no UTF-8: the offending bytes, or how many, and where they begin. -/
  | undecodable (bytes : List UInt8) (start : Nat) (problem : Utf8Problem)
  /-- Partials include each other too deeply. -/
  | nestingLimit
deriving DecidableEq, Repr

/-- The most digits that an integer may have to be read or written. -/
def digitLimit : Nat := 4300

namespace Failure

/-- Names as a sentence lists them. -/
def listed (names : List String) : String :=
  let quoted := names.map fun name => "'" ++ name ++ "'"
  match quoted with
  | [] => ""
  | [a] => a
  | [a, b] => a ++ " and " ++ b
  | more => ", ".intercalate more.dropLast ++ ", and " ++ more.getLast?.getD ""

/-- The failure in words. -/
def message : Failure → String
  | grammar error => error.message
  | unknownPartial name => s!"Partial '{name}' is not registered"
  | file path problem => problem.message path
  | system error => error.message
  | user message | raised message => message
  | unknownNode kind => s!"Unknown node kind: {kind}"
  | notCallable typeName => s!"'{typeName}' object is not callable"
  | helperNotCallable typeName => s!"Helper must be callable, got {typeName}"
  | notIterable typeName => s!"'{typeName}' object is not iterable"
  | noLength typeName => s!"object of type '{typeName}' has no len()"
  | lengthLimit => "Python int too large to convert to C ssize_t"
  | bytesPartial => "startswith first arg must be bytes or a tuple of bytes, not str"
  | noPartial typeName => s!"'{typeName}' object has no attribute 'startswith'"
  | joinOfOther index typeName =>
    s!"sequence item {index}: expected str instance, {typeName} found"
  | joinOfNothing => "str.join() takes exactly one argument (0 given)"
  | missingArguments function names =>
    let count := names.length
    let noun := if count = 1 then "argument" else "arguments"
    s!"{function}() missing {count} required positional {noun}: {listed names}"
  | excessArguments function least most given =>
    let taken := if least = most then s!"{most}" else s!"from {least} to {most}"
    s!"{function}() takes {taken} positional arguments but {given} were given"
  | unfitKey typeName => s!"unhashable type: '{typeName}'"
  | invalidInteger base text =>
    let shown := String.ofList ((Text.quoted text.toList).take 200)
    s!"invalid literal for int() with base {base}: {shown}"
  | .digitLimit given =>
    let count := match given with
      | some n => s!": value has {n} digits"
      | none => ""
    s!"Exceeds the limit ({Templating.digitLimit} digits) for integer string conversion{count}; " ++
      "use sys.set_int_max_str_digits() to increase the limit"
  | invalidFloat text => s!"could not convert string to float: {Text.quotedString text}"
  | invalidDate problem => problem.message
  | emptyNumber => "string index out of range"
  | codePointRange => "chr() arg not in range(0x110000)"
  | ratioOfInfinity => "cannot convert Infinity to integer ratio"
  | ratioOfNan => "cannot convert NaN to integer ratio"
  | missingKey text => Text.quotedString text
  | undecodable bytes start problem =>
    let place := match bytes with
      | [b] =>
        let shown := String.ofList (Text.hex 2 b.toNat)
        s!"byte 0x{shown} in position {start}"
      | _ =>
        let last := start + bytes.length - 1
        s!"bytes in position {start}-{last}"
    s!"'utf-8' codec can't decode {place}: {problem.message}"
  | nestingLimit => "maximum recursion depth exceeded"

/-- Whether the failure is one that the author of a template or of a data file can mend. -/
def isUserError : Failure → Bool
  | grammar _ | unknownPartial _ | file _ _ | user _ => true
  | _ => false

end Failure

end Templating
