import Bulletin.Settings

/-!
# Sessions

A session is all that a command works with: the settings, the variables of the process, and the
context. Its answers are texts to be printed whole, or failures, and each answer comes with the
events worth logging. A sink lets through what is at least as severe as its threshold. What is not
said explicitly about a sink is taken from the environment. How an event is written is left to a
library; a journal holds what is handed to it.
-/

namespace Bulletin

/-! ### Logging -/

inductive Severity where
  | debug
  | info
  | warning
  | error
  | critical
  deriving DecidableEq, Repr

namespace Severity

def all : List Severity := [.debug, .info, .warning, .error, .critical]

def rank : Severity → Int
  | .debug => 10
  | .info => 20
  | .warning => 30
  | .error => 40
  | .critical => 50

def name : Severity → String
  | .debug => "debug"
  | .info => "info"
  | .warning => "warning"
  | .error => "error"
  | .critical => "critical"

def ofName? (s : String) : Option Severity := all.find? fun severity => severity.name == s

end Severity

/-- The names of thresholds, in upper case. -/
def thresholdNames : List (String × Int) :=
  [("NOTSET", 0), ("DEBUG", 10), ("INFO", 20), ("WARN", 30), ("WARNING", 30), ("ERROR", 40),
    ("CRITICAL", 50), ("FATAL", 50)]

def standardThreshold : Int := Severity.warning.rank

structure LogSink where
  threshold : Int
  asJson : Bool

namespace LogSink

def thresholdIn (environment : Variables) : Int :=
  (((environment.lookup "NOTIFYCARD_LOG_LEVEL").bind fun name =>
    thresholdNames.lookup (upperString name))).getD standardThreshold

def wantsJson (environment : Variables) : Bool :=
  match environment.lookup "NOTIFYCARD_LOG_FORMAT" with
  | some format => lowerString format == "json"
  | none => false

/-- The sink for an environment. A threshold that is given counts, and JSON can be forced. -/
def ofVariables (environment : Variables) (forceJson : Bool) (threshold : Option Int) : LogSink :=
  ⟨threshold.getD (thresholdIn environment), forceJson || wantsJson environment⟩

def admits (sink : LogSink) (severity : Severity) : Bool := sink.threshold ≤ severity.rank

end LogSink

/-- Named values that belong to an event or to what is under way. -/
abbrev LogValues := List (String × Value)

structure LogEvent where
  severity : Severity
  logger : String
  event : String
  values : LogValues := []

namespace LogEvent

def expressionFailed (limit : Int) (expression : String) (e : SyntaxError) : LogEvent :=
  let report := e.report limit expression
  ⟨.debug, "notifycard.expressions.evaluator", "expression_failed",
    [("expression", .str expression), ("error_type", .str report.className),
      ("position", .int report.position)]⟩

def expressionEvaluated (v : Value) : LogEvent :=
  ⟨.debug, "notifycard.cli.commands.evaluate", "expression_evaluated",
    [("result_type", .str v.kindName)]⟩

def templateRendered (placeholders : Nat) : LogEvent :=
  ⟨.debug, "notifycard.expressions.template", "template_rendered",
    [("placeholders", .int placeholders)]⟩

def templateWritten (structured : Bool) : LogEvent :=
  ⟨.debug, "notifycard.cli.commands.render", "template_written",
    [("structured", .bool structured)]⟩

def unexpectedError : LogEvent :=
  ⟨.error, "notifycard.cli.common", "unexpected_command_error", []⟩

end LogEvent

/-- The events of a command in their order, with the values bound while it is under way. -/
structure Journal where
  sink : LogSink
  bound : LogValues := []
  events : List LogEvent := []

def Journal.admitted (journal : Journal) : List LogEvent :=
  journal.events.filter fun e => journal.sink.admits e.severity

/-! ### Answers -/

structure Session where
  settings : Settings
  environment : Variables
  context : Context

structure Answer where
  text : Except Failure String
  events : List LogEvent := []

def Answer.fail (f : Failure) (events : List LogEvent := []) : Answer :=
  ⟨.error f, match f with
    | .unexpected _ => events ++ [.unexpectedError]
    | _ => events⟩

/-- The events of rendering texts one after the other, up to the first that fails. A text without
placeholders is no event. -/
def Renderer.events (r : Renderer) : List String → List LogEvent
  | [] => []
  | text :: rest =>
    match r.render text with
    | .error (.placeholder expression e) => [.expressionFailed r.evaluator.maxDepth expression e]
    | .error (.tooMany _ _ _) => []
    | .ok _ =>
      let count := (Template.ofText text).pieces.length
      (if count = 0 then [] else [.templateRendered count]) ++ r.events rest

namespace Session

def evaluator (s : Session) : Evaluator :=
  ⟨s.context, s.environment.toValues, s.settings.maxDepth⟩

def renderer (s : Session) : Renderer := ⟨s.evaluator, s.settings.maxPlaceholders⟩

/-- The value of an expression, as JSON or as a template shows it, on a line of its own. -/
def evaluate (s : Session) (expression : String) (asJson : Bool) : Answer :=
  match s.evaluator.eval expression with
  | .ok v =>
    ⟨.ok ((if asJson then v.prettyJson else v.rendered) ++ "\n"), [.expressionEvaluated v]⟩
  | .error e =>
    .fail (.reported (e.report s.settings.maxDepth expression))
      [.expressionFailed s.settings.maxDepth expression e]

def renderText (s : Session) (text : String) : Answer :=
  let events := s.renderer.events [text]
  match s.renderer.render text with
  | .ok result => ⟨.ok result, events ++ [.templateWritten false]⟩
  | .error e => .fail (.reported (e.report s.settings.maxDepth)) events

/-- The failure of a template that is to be a document and is none. -/
def documentFailure : DocumentFault → Failure
  | .malformed account =>
    .reported (.config ("Template is not valid YAML/JSON: " ++ account) none .null)
  | .broken account => .unexpected account

/-- The document in a text with every string in it rendered, as JSON on lines of its own. -/
def renderDocument (s : Session) (read : DocumentReader) (text : String) : Answer :=
  match read text with
  | .error fault => .fail (documentFailure fault)
  | .ok document =>
    let events := s.renderer.events document.strings
    match s.renderer.renderValue document with
    | .ok result => ⟨.ok (result.prettyJson ++ "\n"), events ++ [.templateWritten true]⟩
    | .error e => .fail (.reported (e.report s.settings.maxDepth)) events

end Session

end Bulletin
