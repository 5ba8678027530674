import Bulletin.Session

/-!
# Commands

A run takes what is around a process, that is its variables and its files, and what is asked for,
and gives an exit code, what goes to the two streams, and a journal. There are two commands, one
that evaluates an expression and one that renders a template. The variables are completed from a
file and the settings are loaded before the command's arguments count, and nothing is printed before
all of the answer is there.

Five things are left to libraries and stand here as parameters: reading documents, loading settings,
reading the file of variables, and what reaches either stream of a text that is sent to it. Taking a
command line apart is left to another one, so a run starts from what that makes of the arguments: a
page of help, a refusal, or a task.
-/

namespace Bulletin

/-! ### What is asked for -/

/-- What the switches before a command say. -/
structure GlobalSwitches where
  settingsPath? : Option String
  verbose : Nat
  quiet : Bool
  deriving DecidableEq, Repr

structure ContextSwitches where
  path? : Option String
  fromEnvironment : Bool
  deriving DecidableEq, Repr

/-- A template that has been opened, by its name in messages. -/
structure TemplateFile where
  name : String
  octets : List UInt8
  deriving DecidableEq, Repr

/-- How a run ends whose command line is at fault, and what is said of it. -/
structure Refusal where
  exitCode : Nat
  diagnostics : String
  failed : exitCode ≠ 0
  deriving DecidableEq, Repr

inductive Task where
  | page
  /-- The arguments of the command are at fault. -/
  | refused (refusal : Refusal)
  | eval (expression : String) (asJson : Bool) (context : ContextSwitches)
  | render (template : TemplateFile) (structured : Bool) (context : ContextSwitches)
  deriving DecidableEq, Repr

inductive Invocation where
  | page
  | version
  /-- The switches before the command are at fault. -/
  | refused (refusal : Refusal)
  | task (switches : GlobalSwitches) (task : Task)
  deriving DecidableEq, Repr

/-! ### What is around a process -/

/-- What a path leads to. -/
inductive PathEntry where
  | missing
  | folder
  | file (octets : List UInt8)

structure Surroundings where
  environment : Variables
  entry : String → PathEntry
  /-- The path of the project's settings, where no other is given. -/
  projectSettings : String
  userSettings : String
  /-- The path of the file that completes the variables. -/
  variablesFile : String

/-- What the program leaves to libraries. -/
structure Libraries where
  readDocument : DocumentReader
  settings : SettingsLibrary
  /-- The variables of a process, completed from a file of variables; none if that breaks off. -/
  completeVariables : Variables → PathEntry → Option Variables
  /-- What reaches a stream that is no terminal of a text printed to it. -/
  echo : String → String
  /-- What the diagnostic stream shows of a message. -/
  console : String → String

/-! ### How a run ends -/

/-- What goes to the standard output. Pages of help are kept by a library. -/
inductive Output where
  | text (s : String)
  | page

structure Outcome where
  exitCode : Nat
  output : Output := .text ""
  diagnostics : String := ""
  journal? : Option Journal := none

namespace Outcome

def showPage : Outcome := { exitCode := 0, output := .page }

def refused (r : Refusal) : Outcome := { exitCode := r.exitCode, diagnostics := r.diagnostics }

/-- A run that breaks off before anything can be told. -/
def broken : Outcome := { exitCode := 1 }

variable (libraries : Libraries)

def print (s : String) : Outcome := { exitCode := 0, output := .text (libraries.echo s) }

def fail (f : Failure) : Outcome :=
  { exitCode := f.exitCode, diagnostics := libraries.console f.message ++ "\n" }

def ofAnswer (journal : Journal) (answer : Answer) : Outcome :=
  let outcome := match answer.text with
    | .ok text => print libraries text
    | .error f => fail libraries f
  { outcome with journal? := some { journal with events := answer.events } }

def ofSettingsError (e : SettingsError) : Outcome :=
  match e.report? with
  | some report => { exitCode := 1, diagnostics := libraries.echo (report.text ++ "\n") }
  | none => broken

end Outcome

/-! ### Running -/

def verbosityLevels : List (String × Severity) :=
  [("error", .error), ("warning", .warning), ("info", .info), ("debug", .debug)]

/-- The least severity that is logged: what switches say counts more than the settings. -/
def logThreshold (switches : GlobalSwitches) (verbosity : String) : Severity :=
  if switches.quiet then .error
  else
    match switches.verbose with
    | 0 => (verbosityLevels.lookup verbosity).getD .warning
    | 1 => .info
    | _ => .debug

def TemplateFile.unreadable (template : TemplateFile) (e : Utf8Error) : Report :=
  .general ("Template " ++ template.name ++ " is not valid UTF-8: " ++ e.reason)

namespace Surroundings

def fileAt (s : Surroundings) (path : String) : SourceFile :=
  ⟨path, match s.entry path with
    | .missing => .error ("[Errno 2] No such file or directory: " ++ quoted path)
    | .folder => .error ("[Errno 21] Is a directory: " ++ quoted path)
    | .file octets => (readText octets).mapError (·.message)⟩

/-- A settings file. There need not be one. -/
def settingsAt (s : Surroundings) (path : String) : Option SourceFile :=
  match s.entry path with
  | .missing => none
  | _ => some (s.fileAt path)

variable (libraries : Libraries) (s : Surroundings)

/-- The settings, with the project's file at another path if one is given. -/
def settings (environment : Variables) (path? : Option String) : Except SettingsError Settings :=
  Settings.load libraries.settings libraries.readDocument environment
    (s.settingsAt (path?.getD s.projectSettings)) (s.settingsAt s.userSettings)

def context (environment : Variables) (switches : ContextSwitches) : Except Failure Context := do
  let given ← match switches.path? with
    | none => .ok []
    | some path =>
      (Context.scopesInFile libraries.readDocument (s.fileAt path)).mapError (·.failure)
  let environ := if switches.fromEnvironment then some environment.toValues else none
  (Context.assemble environ given).mapError (·.failure)

/-- The answer to an expression in the context that switches ask for. -/
def evaluate (settings : Settings) (environment : Variables) (expression : String) (asJson : Bool)
    (switches : ContextSwitches) : Answer :=
  match s.context libraries environment switches with
  | .error f => .fail f
  | .ok context => Session.evaluate ⟨settings, environment, context⟩ expression asJson

/-- The answer to a template in the context that switches ask for. The template has to be a text
before the context is built. -/
def render (settings : Settings) (environment : Variables) (template : TemplateFile)
    (structured : Bool) (switches : ContextSwitches) : Answer :=
  match readText template.octets with
  | .error e => .fail (.reported (template.unreadable e))
  | .ok text =>
    match s.context libraries environment switches with
    | .error f => .fail f
    | .ok context =>
      let session : Session := ⟨settings, environment, context⟩
      if structured then session.renderDocument libraries.readDocument text
      else session.renderText text

def perform (switches : GlobalSwitches) (environment : Variables) (settings : Settings)
    (task : Task) : Outcome :=
  let sink := LogSink.ofVariables environment false
    (some (logThreshold switches settings.verbosity).rank)
  match task with
  | .page => .showPage
  | .refused refusal => .refused refusal
  | .eval expression asJson contextSwitches =>
    .ofAnswer libraries ⟨sink, [("command", .str "eval")], []⟩
      (s.evaluate libraries settings environment expression asJson contextSwitches)
  | .render template structured contextSwitches =>
    .ofAnswer libraries ⟨sink, [("command", .str "render"), ("template", .str template.name)], []⟩
      (s.render libraries settings environment template structured contextSwitches)

def run : Invocation → Outcome
  | .page => .showPage
  | .version => .print libraries "notifycard, version 0.1.0\n"
  | .refused refusal => .refused refusal
  | .task switches task =>
    match libraries.completeVariables s.environment (s.entry s.variablesFile) with
    | none => .broken
    | some environment =>
      match s.settings libraries environment switches.settingsPath? with
      | .error e => .ofSettingsError libraries e
      | .ok settings => s.perform libraries switches environment settings task

end Surroundings

end Bulletin
