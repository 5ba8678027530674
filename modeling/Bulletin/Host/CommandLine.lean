import Bulletin.Host.Settings
import Bulletin.Host.Streams
import Bulletin.Host.Variables

/-!
# Command lines

What the program takes its arguments apart with. The arguments of a command are switches, the values
of those that take one, and words. A switch has a long name and may have a letter. Several letters
can share an argument, and a value can follow its letter, or its long name after an equals sign, in
the same argument. After a double dash there are only words. A page of help wins over whatever else
is asked, as long as the switches are well formed. Files that a command line names have to be there,
but for the settings.
-/

namespace Bulletin

namespace Host

/-! ### Switches -/

structure Switch (α : Type) where
  id : α
  name : String
  letter? : Option Char := none
  takesValue : Bool := false

/-- A switch that occurs, with its value; the value is empty for one that takes none. -/
abbrev Occurrence (α : Type) := α × String

abbrev Reading (α : Type) := List (Occurrence α) × Option α

namespace Switch

variable {α : Type}

/-- The name of a long argument and the value after its equals sign. -/
def splitValue : List Char → List Char × Option (List Char)
  | [] => ([], none)
  | c :: rest =>
    if c = '=' then ([], some rest)
    else
      let (name, value) := splitValue rest
      (c :: name, value)

/-- Reads the letters of an argument; none if a letter is no switch. -/
def readLetters (table : List (Switch α)) : List Char → Option (Reading α)
  | [] => some ([], none)
  | c :: rest =>
    match table.find? fun s => s.letter? == some c with
    | none => none
    | some s =>
      if s.takesValue then
        if rest.isEmpty then some ([], some s.id)
        else some ([(s.id, String.ofList rest)], none)
      else (readLetters table rest).map fun (found, open?) => ((s.id, "") :: found, open?)

/-- Reads an argument that starts with a dash; none if it is malformed. -/
def readArgument (table : List (Switch α)) (argument : String) : Option (Reading α) :=
  let (name, value?) := splitValue argument.toList
  match table.find? fun s => s.name == String.ofList name with
  | some s =>
    match s.takesValue, value? with
    | true, some value => some ([(s.id, String.ofList value)], none)
    | true, none => some ([], some s.id)
    | false, some _ => none
    | false, none => some ([(s.id, "")], none)
  | none =>
    if ['-', '-'].isPrefixOf argument.toList then none
    else readLetters table (argument.toList.drop 1)

def isSwitch (argument : String) : Bool :=
  argument.toList.head? == some '-' && 1 < argument.length

/-- Switches and words in their order; none if a switch is malformed. If words do not mix with
switches, the first word ends the switches. -/
def readAll (table : List (Switch α)) (mixed : Bool) :
    List String → Option (List (Occurrence α) × List String)
  | [] => some ([], [])
  | argument :: rest =>
    if argument = "--" then some ([], rest)
    else if isSwitch argument then
      match readArgument table argument, rest with
      | none, _ => none
      | some (found, none), rest =>
        (readAll table mixed rest).map fun (more, words) => (found ++ more, words)
      | some (_, some _), [] => none
      | some (found, some s), value :: rest =>
        (readAll table mixed rest).map fun (more, words) => (found ++ (s, value) :: more, words)
    else if mixed then
      (readAll table mixed rest).map fun (found, words) => (found, argument :: words)
    else some ([], argument :: rest)

def lastValue? [BEq α] (id : α) (found : List (Occurrence α)) : Option String :=
  (found.reverse.find? (·.1 == id)).map (·.2)

def count [BEq α] (id : α) (found : List (Occurrence α)) : Nat := found.countP (·.1 == id)

end Switch

/-! ### Paths -/

def splitParts : List Char → List Char × List (List Char)
  | [] => ([], [])
  | c :: rest =>
    let (first, others) := splitParts rest
    if c = '/' then ([], first :: others) else (c :: first, others)

def pathParts (path : String) : List String :=
  let (first, others) := splitParts path.toList
  ((first :: others).map String.ofList).filter fun part => part != "" && part != "."

/-- A path as it is shown. -/
def tidyPath (path : String) : String :=
  let tidy := "/".intercalate (pathParts path)
  if path.toList.head? == some '/' then "/" ++ tidy
  else if tidy = "" then "."
  else tidy

/-! ### Requests -/

/-- What the arguments of a command ask for. A template is a path, or a dash for standard input. -/
inductive CommandRequest where
  | page
  | misused
  | eval (expression : String) (asJson : Bool) (context : ContextSwitches)
  | render (template : String) (structured : Bool) (context : ContextSwitches)
  deriving DecidableEq, Repr

/-- What a command line asks for, before any file is looked at. -/
inductive Request where
  | page
  | version
  | misused
  | call (switches : GlobalSwitches) (request : CommandRequest)
  deriving DecidableEq, Repr

inductive GlobalSwitch where
  | settings
  | verbose
  | quiet
  | version
  | help
  deriving DecidableEq, Repr

inductive CommandSwitch where
  | context
  | fromEnvironment
  | json
  | structured
  | help
  deriving DecidableEq, Repr

def GlobalSwitch.table : List (Switch GlobalSwitch) :=
  [⟨.settings, "--config", some 'c', true⟩, ⟨.verbose, "--verbose", some 'v', false⟩,
    ⟨.quiet, "--quiet", some 'q', false⟩, ⟨.version, "--version", none, false⟩,
    ⟨.help, "--help", none, false⟩]

namespace CommandSwitch

def shared : List (Switch CommandSwitch) :=
  [⟨.context, "--context", none, true⟩, ⟨.fromEnvironment, "--from-env", none, false⟩,
    ⟨.help, "--help", none, false⟩]

def evalTable : List (Switch CommandSwitch) := ⟨.json, "--json", none, false⟩ :: shared

def renderTable : List (Switch CommandSwitch) :=
  ⟨.structured, "--structured", none, false⟩ :: shared

def contextOf (found : List (Occurrence CommandSwitch)) : ContextSwitches :=
  ⟨(Switch.lastValue? .context found).map tidyPath, found.any (·.1 == .fromEnvironment)⟩

end CommandSwitch

namespace CommandRequest

def ofReading (ofWords : List (Occurrence CommandSwitch) → List String → CommandRequest) :
    Option (List (Occurrence CommandSwitch) × List String) → CommandRequest
  | none => .misused
  | some (found, words) => if found.any (·.1 == .help) then .page else ofWords found words

/-- Evaluating takes exactly one expression. -/
def evalWords (found : List (Occurrence CommandSwitch)) : List String → CommandRequest
  | [expression] => .eval expression (found.any (·.1 == .json)) (CommandSwitch.contextOf found)
  | _ => .misused

/-- Rendering takes one template at most, or else standard input. -/
def renderWords (found : List (Occurrence CommandSwitch)) : List String → CommandRequest
  | [] => .render "-" (found.any (·.1 == .structured)) (CommandSwitch.contextOf found)
  | [template] =>
    .render template (found.any (·.1 == .structured)) (CommandSwitch.contextOf found)
  | _ => .misused

/-- What a command and its arguments ask for; none if there is no such command. -/
def ofCommand? (command : String) (arguments : List String) : Option CommandRequest :=
  if command = "eval" then
    some (ofReading evalWords (Switch.readAll CommandSwitch.evalTable true arguments))
  else if command = "render" then
    some (ofReading renderWords (Switch.readAll CommandSwitch.renderTable true arguments))
  else none

def paths : CommandRequest → List String
  | .eval _ _ context => context.path?.toList
  | .render template _ context => template :: context.path?.toList
  | _ => []

end CommandRequest

namespace Request

def ofFound (found : List (Occurrence GlobalSwitch)) : GlobalSwitches :=
  ⟨(Switch.lastValue? .settings found).map tidyPath, Switch.count .verbose found,
    found.any (·.1 == .quiet)⟩

def paths : Request → List String
  | .call switches request => switches.settingsPath?.toList ++ request.paths
  | _ => []

def readsInput : Request → Bool
  | .call _ (.render template _ _) => template == "-"
  | _ => false

/-- The page that the first switch for one asks for. -/
def page? (found : List (Occurrence GlobalSwitch)) : Option Request :=
  found.findSome? fun (id, _) =>
    match id with
    | .help => some .page
    | .version => some .version
    | _ => none

/-- A page that is asked for in place of a command; all else in its place is a fault. -/
def ofMisplaced (words : List String) : Request :=
  match Switch.readAll GlobalSwitch.table false words with
  | none => .misused
  | some (found, _) => (page? found).getD .misused

def ofArguments (arguments : List String) : Request :=
  match Switch.readAll GlobalSwitch.table false arguments with
  | none => .misused
  | some (found, words) =>
    match page? found, words with
    | some asked, _ => asked
    | none, [] => .call (ofFound found) .page
    | none, command :: rest =>
      match CommandRequest.ofCommand? command rest with
      | some request => .call (ofFound found) request
      | none => ofMisplaced (command :: rest)

end Request

/-! ### From requests to invocations -/

def usage : String := "Usage: notifycard [OPTIONS] COMMAND [ARGS]...\n"

def refusal : Refusal := ⟨2, usage, by decide⟩

section

variable (input : List UInt8) (entry : String → PathEntry)

/-- A template that can be opened, by its name in messages. -/
def openTemplate? (template : String) : Option TemplateFile :=
  if template = "-" then some ⟨"<stdin>", input⟩
  else
    match entry template with
    | .file octets => some ⟨template, octets⟩
    | _ => none

/-- The context file that switches name is there, if they name one. -/
def hasContext (switches : ContextSwitches) : Bool :=
  switches.path?.all fun path =>
    match entry path with
    | .file _ => true
    | _ => false

def CommandRequest.task : CommandRequest → Task
  | .page => .page
  | .misused => .refused refusal
  | .eval expression asJson context =>
    if hasContext entry context then .eval expression asJson context else .refused refusal
  | .render template structured context =>
    match openTemplate? input entry template, hasContext entry context with
    | some file, true => .render file structured context
    | _, _ => .refused refusal

def Request.invocation : Request → Invocation
  | .page => .page
  | .version => .version
  | .misused => .refused refusal
  | .call switches request => .task switches (request.task input entry)

def readCommandLine (arguments : List String) : Invocation :=
  (Request.ofArguments arguments).invocation input entry

end

def libraries : Libraries where
  readDocument := readDocument
  settings := settingsLibrary
  completeVariables := completeVariables
  echo := echo
  console := console

end Host

end Bulletin
