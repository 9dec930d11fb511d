import Templating.Text.Digit

/-!
# Arguments of the command line

The first operand names a command, and what follows belongs to it. An argument that begins with a
hyphen is an option, unless it is a lone hyphen, a negative number or has a blank. Long options may
be shortened as long as they stay unique, and take a value after an equals sign or from the next
operand; short ones without a value may stand together. Two lone hyphens end the options. Options
are carried out from left to right, so a request for help counts only if nothing before it is
wrong; a surplus argument is noticed last.
-/

namespace Templating

/-- What the program is asked to do. An empty name of a file stands for none. -/
inductive Command where
  /-- Render a template with data and a table of partials. -/
  | render (template data partials : String)
  /-- Report the tokens of a template. -/
  | tokens (template : String)
  /-- Print a template in its canonical form. -/
  | print (template : String)
deriving DecidableEq, Repr

namespace Command

/-- Why arguments name no command. -/
inductive Stop where
  | help
  | version
  /-- The arguments are wrong. -/
  | misuse
deriving DecidableEq, Repr

/-- The files that an option can name. -/
inductive Field where
  | data
  | partials
deriving DecidableEq, Repr

/-- What an option does. -/
inductive Effect where
  /-- It ends the reading of the arguments. -/
  | stop (reason : Stop)
  /-- It names a file by its value. -/
  | name (field : Field)
deriving DecidableEq, Repr

/-- Options by their spellings. -/
abbrev Options := List (String × Effect)

/-- An argument, told apart by its look. -/
inductive Word where
  | operand (text : String)
  /-- The two hyphens that end the options. -/
  | separator
  /-- An option, perhaps with a value in the same argument. The value follows either an equals sign
  or, in a cluster of letters, the first letter. -/
  | option (inCluster : Bool) (effect : Effect) (value : Option String)
  /-- An option that there is not. -/
  | stranger
deriving DecidableEq, Repr

/-- Whether the text after a hyphen is a number, perhaps with a point. A line feed after it does
not count. -/
def isNumber (cs : List Char) : Bool :=
  let isDigit (c : Char) : Bool := (Text.decimalValue? c).isSome
  let isNatural (cs : List Char) : Bool :=
    let digits := if cs.getLast? = some '\n' then cs.dropLast else cs
    !digits.isEmpty && digits.all isDigit
  isNatural cs ||
    match cs.dropWhile isDigit with
    | '.' :: fraction => isNatural fraction
    | _ => false

/-- The words that an argument beginning with a hyphen may be a shortening of. -/
def Options.matching (options : Options) (arg : List Char) : List Word :=
  if arg.take 2 = ['-', '-'] then
    let name := arg.takeWhile (· ≠ '=')
    let value :=
      if arg.contains '=' then some (String.ofList (arg.drop (name.length + 1))) else none
    (options.filter fun entry => name.isPrefixOf entry.1.toList).map fun entry =>
      .option false entry.2 value
  else
    (options.filter fun entry => entry.1.toList = arg.take 2).map fun entry =>
      .option true entry.2 (some (String.ofList (arg.drop 2)))

/-- The word that an argument is, before the options end. -/
def Options.word (options : Options) (arg : String) : Except Stop Word :=
  let cs := arg.toList
  let name := cs.takeWhile (· ≠ '=')
  let value := String.ofList (cs.drop (name.length + 1))
  if cs.head? ≠ some '-' ∨ cs.length = 1 then .ok (.operand arg)
  else
    match options.lookup arg, options.lookup (String.ofList name), options.matching cs with
    | some effect, _, _ => .ok (.option false effect none)
    | none, some effect, _ => .ok (.option false effect (some value))
    | none, none, [word] => .ok word
    | none, none, _ :: _ => .error .misuse
    | none, none, [] =>
      .ok (if isNumber (cs.drop 1) || cs.contains ' ' then .operand arg else .stranger)

/-- The words that arguments are. -/
def Options.words (options : Options) : List String → Except Stop (List Word)
  | [] => .ok []
  | arg :: args =>
    if arg = "--" then .ok (.separator :: args.map .operand)
    else do
      let word ← options.word arg
      return word :: (← options.words args)

/-- Whether letters may follow the letter of an option without a value. They stand for further
options up to the first that is none; neither a hyphen nor an equals sign may follow. -/
def Options.mayFollow (options : Options) : List Char → Bool
  | [] => true
  | c :: cs =>
    c != '-' && c != '=' &&
      ((options.lookup (String.ofList ['-', c])).isNone || options.mayFollow cs)

/-- What an option comes to that takes no value. -/
def Options.stopBy (options : Options) (inCluster : Bool) (reason : Stop) (value : Option String) :
    Stop :=
  if value.all fun v => inCluster && options.mayFollow v.toList then reason else .misuse

/-- The name of a command, the arguments after it, and whether one was surplus before it. -/
def commandName (options : Options) :
    (surplus : Bool) → List (Word × String) → Except Stop (String × List String × Bool)
  | surplus, (.operand name, _) :: rest => .ok (name, rest.map (·.2), surplus)
  | _, (.stranger, _) :: rest => commandName options true rest
  | _, (.option inCluster (.stop reason) value, _) :: _ =>
    .error (options.stopBy inCluster reason value)
  | _, _ => .error .misuse

/-- What has been read of the arguments of a command. -/
structure Draft where
  template : Option String := none
  data : String := ""
  partials : String := ""
  surplus : Bool := false

/-- The draft with the value of an option. -/
def Draft.put (d : Draft) (field : Field) (value : String) : Draft :=
  match field with
  | .data => { d with data := value }
  | .partials => { d with partials := value }

/-- Reads the words after the name of a command. The two hyphens may stand before or after the
operand. -/
def Draft.read (options : Options) : Draft → List Word → Except Stop Draft
  | d, [] => .ok d
  | d, .separator :: .operand t :: rest =>
    if d.template.isNone then Draft.read options { d with template := some t } rest
    else Draft.read options { d with surplus := true } rest
  | d, .operand t :: .separator :: rest =>
    if d.template.isNone then Draft.read options { d with template := some t } rest
    else Draft.read options { d with surplus := true } rest
  | d, .operand t :: rest =>
    if d.template.isNone then Draft.read options { d with template := some t } rest
    else Draft.read options { d with surplus := true } rest
  | d, .option _ (.name field) (some value) :: rest => Draft.read options (d.put field value) rest
  | d, .option _ (.name field) none :: .operand value :: rest =>
    Draft.read options (d.put field value) rest
  | _, .option _ (.name _) none :: _ => .error .misuse
  | _, .option inCluster (.stop reason) value :: _ => .error (options.stopBy inCluster reason value)
  | d, .separator :: rest | d, .stranger :: rest =>
    Draft.read options { d with surplus := true } rest

/-- The options before the name of a command. -/
def programOptions : Options :=
  [("-h", .stop .help), ("--help", .stop .help), ("-v", .stop .version),
    ("--version", .stop .version)]

/-- The options of commands that have none of their own. -/
def plainOptions : Options :=
  [("-h", .stop .help), ("--help", .stop .help)]

/-- The options of the command that renders. -/
def renderOptions : Options :=
  plainOptions ++ [("--data", .name .data), ("--partials", .name .partials)]

/-- The options of a command, and the command that its arguments make. -/
def kind? (name : String) : Option (Options × (String → Draft → Command)) :=
  if name = "render" then some (renderOptions, fun t d => .render t d.data d.partials)
  else if name = "tokens" then some (plainOptions, fun t _ => .tokens t)
  else if name = "print" then some (plainOptions, fun t _ => .print t)
  else none

/-- The command that the arguments name. -/
def ofArguments (args : List String) : Except Stop Command := do
  let words ← programOptions.words args
  let (name, rest, surplus) ← commandName programOptions false (words.zip args)
  match kind? name with
  | none => throw .misuse
  | some (options, make) =>
    let draft ← Draft.read options {} (← options.words rest)
    match draft.template with
    | some template =>
      if surplus || draft.surplus then throw .misuse else return make template draft
    | none => throw .misuse

example : (ofArguments ["render", "--da=d", "t"]).toOption = some (.render "t" "d" "") := by
  decide +kernel

example : (ofArguments ["render", "t", "--", "u"]).toOption = none := by decide +kernel

end Command

end Templating
