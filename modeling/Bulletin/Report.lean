import Bulletin.Template

/-!
# Reports of failures

What is told of a failure: its class, its message, and what the message is about. Reports form a
family with a general class at its root. A command fails with a report, with a failure that nobody
foresaw, or because the user interrupts it.

A context can be given by a file that holds a mapping of scopes. It is checked as a whole, and then
each scope in it takes the place of the one that the environment may have filled. What reads the
text of a file as a document is no part of the program: it stands here as a parameter, and its
account of a text that is malformed goes into the report.
-/

namespace Bulletin

inductive Report where
  /-- A failure with nothing but a message. -/
  | general (message : String)
  /-- Configuration or context data that is malformed. -/
  | config (message : String) (field : Option String) (value : Value)
  /-- A failure of an expression. -/
  | badExpression (message : String) (expression : Option String)
  /-- An expression that is malformed at a position. -/
  | malformed (problem expression : String) (position : Int)
  /-- Tokens that form no expression. -/
  | parse (problem expression : String) (position : Int)
  /-- A character that starts no token. -/
  | stray (character expression : String) (position : Int)
  /-- Nesting deeper than a limit. -/
  | tooDeep (limit : Int) (expression : String) (position : Int)
  /-- A template that cannot be rendered as a whole. -/
  | badTemplate (message template : String)
  /-- More placeholders than a limit. -/
  | templateLimit (limit found : Int) (template : String)

namespace Report

/-- The classes that a report belongs to, its own first. -/
def classes : Report → List String
  | .general _ => ["NotifyCardError"]
  | .config _ _ _ => ["ConfigError", "NotifyCardError"]
  | .badExpression _ _ => ["ExpressionError", "NotifyCardError"]
  | .malformed _ _ _ => ["ExpressionSyntaxError", "ExpressionError", "NotifyCardError"]
  | .parse _ _ _ => ["ParseError", "ExpressionSyntaxError", "ExpressionError", "NotifyCardError"]
  | .stray _ _ _ => ["LexError", "ExpressionSyntaxError", "ExpressionError", "NotifyCardError"]
  | .tooDeep _ _ _ =>
    ["NestingDepthError", "ParseError", "ExpressionSyntaxError", "ExpressionError",
      "NotifyCardError"]
  | .badTemplate _ _ => ["TemplateError", "ExpressionError", "NotifyCardError"]
  | .templateLimit _ _ _ =>
    ["TemplateLimitError", "TemplateError", "ExpressionError", "NotifyCardError"]

def className (r : Report) : String := r.classes.headD "NotifyCardError"

def limitProblem (limit found : Int) : String :=
  "Template contains " ++ String.ofList (intText found) ++ " placeholders, more than the limit of "
    ++ String.ofList (intText limit)

def message : Report → String
  | .general message => message
  | .config message _ _ => message
  | .badExpression message _ => message
  | .malformed problem expression position => locate problem expression position
  | .parse problem expression position => locate problem expression position
  | .stray character expression position =>
    locate (strayProblem character position) expression position
  | .tooDeep limit expression position => locate (depthProblem limit) expression position
  | .badTemplate message _ => message
  | .templateLimit limit found _ => limitProblem limit found

def expression? : Report → Option String
  | .badExpression _ expression => expression
  | .malformed _ expression _ => some expression
  | .parse _ expression _ => some expression
  | .stray _ expression _ => some expression
  | .tooDeep _ expression _ => some expression
  | _ => none

/-- The position of a syntax error; zero for other reports. -/
def position : Report → Int
  | .malformed _ _ position => position
  | .parse _ _ position => position
  | .stray _ _ position => position
  | .tooDeep _ _ position => position
  | _ => 0

/-- The lines below the message: the field and the value that configuration failed on. -/
def details : Report → List String
  | .config _ field value =>
    (match field with
      | some name => if name = "" then [] else ["Field: " ++ name]
      | none => [])
      ++ (match value with
        | .null => []
        | v => ["Value: " ++ v.display])
  | _ => []

def layOut (message : String) (details : List String) (suggestion : Option String) : String :=
  "\n".intercalate
    (("Error: " ++ message) :: details.map ("  " ++ ·)
      ++ (match suggestion with
        | some text => if text = "" then [] else ["Suggestion: " ++ text]
        | none => []))

def text (r : Report) : String := layOut r.message r.details none

end Report

def SyntaxError.report (limit : Int) (expression : String) (e : SyntaxError) : Report :=
  match e.fault with
  | .strayCharacter c => .stray (String.singleton c) expression e.position
  | .tooDeep => .tooDeep limit expression e.position
  | fault => .parse (fault.problem limit e.position) expression e.position

/-- A character that starts no lexeme and nesting beyond the limit have classes of their own. -/
theorem SyntaxError.className_report (limit : Int) (expression : String) (e : SyntaxError) :
    (e.report limit expression).className =
      match e.fault with
      | .strayCharacter _ => "LexError"
      | .tooDeep => "NestingDepthError"
      | _ => "ParseError" := by
  obtain ⟨fault, position⟩ := e
  cases fault <;> rfl

/-- The report of a template that is not rendered. A template with too many placeholders is told
by its first two hundred characters. -/
def RenderError.report (limit : Int) : RenderError → Report
  | .tooMany most found template =>
    .templateLimit most found (String.ofList (template.toList.take 200))
  | .placeholder expression e => e.report limit expression

def ContextError.report (e : ContextError) : Report := .config e.message e.field? e.value

/-- What is told of data that is no context. Keys without a common order, and names given for scopes
that are none, end the call before anything can be told. -/
def ContextError.report? (e : ContextError) : Option Report :=
  match e with
  | .unorderedKeys => none
  | .foreignName _ => none
  | .unknownScopes _ _ | .notMapping _ _ => some e.report

/-! ### Failures of a command -/

inductive Failure where
  | reported (report : Report)
  | unexpected (message : String)
  | interrupted

namespace Failure

def exitCode : Failure → Nat
  | .reported _ => 1
  | .unexpected _ => 1
  | .interrupted => 130

def message : Failure → String
  | .reported report => report.text
  | .unexpected message => "Error: " ++ message
  | .interrupted => "\nInterrupted by user."

end Failure

def ContextError.failure (e : ContextError) : Failure :=
  match e.report? with
  | some report => .reported report
  | none => .unexpected e.message

/-! ### Documents in files -/

/-- Why a reader gives no document for a text: the text is malformed, or reading it breaks off. -/
inductive DocumentFault where
  | malformed (account : String)
  | broken (account : String)

/-- What reads a text as a document. -/
abbrev DocumentReader := String → Except DocumentFault Value

/-- A file with its text, or with what is said of a file that cannot be read. -/
structure SourceFile where
  path : String
  text : Except String String

def SourceFile.document (read : DocumentReader) (file : SourceFile) : Except DocumentFault Value :=
  match file.text with
  | .ok text => read text
  | .error account => .error (.broken account)

inductive ContextFileError where
  | malformed (path account : String)
  | broken (account : String)
  | notMapping (path kind : String)
  | bad (e : ContextError)

namespace ContextFileError

def failure : ContextFileError → Failure
  | .malformed path account =>
    .reported (.config ("Invalid YAML/JSON in context file " ++ path ++ ": " ++ account) none .null)
  | .broken account => .unexpected account
  | .notMapping path kind =>
    .reported (.config ("Context file " ++ path ++ " must contain a mapping of scopes") none
      (.str kind))
  | .bad e => e.failure

end ContextFileError

namespace Context

/-- The entry of a mapping by the text that is its key. -/
def textEntry? : Value × Value → Option (String × Value)
  | (.str name, value) => some (name, value)
  | _ => none

/-- The scopes that a document gives by name, if they make a context. -/
def scopesOfDocument (entries : List (Value × Value)) :
    Except ContextError (List (String × Value)) :=
  (ofEntries entries).map fun _ => entries.filterMap textEntry?

/-- The scopes in a context file, by name. A file that holds null gives none. -/
def scopesInFile (read : DocumentReader) (file : SourceFile) :
    Except ContextFileError (List (String × Value)) :=
  match file.document read with
  | .error (.malformed account) => .error (.malformed file.path account)
  | .error (.broken account) => .error (.broken account)
  | .ok .null => .ok []
  | .ok (.mapping _ entries) => (scopesOfDocument entries).mapError .bad
  | .ok value => .error (.notMapping file.path value.kindName)

/-- The context that an environment makes, or an empty one. -/
def seeded : Option Environ → Except ContextError Context
  | none => .ok .empty
  | some environ => ofEnviron environ fun _ => .null

/-- The context that an environment makes, if it is to be used, with the given scopes in place of
its own. -/
def assemble (environ : Option Environ) (scopes : List (String × Value)) :
    Except ContextError Context :=
  match seeded environ with
  | .error e => .error e
  | .ok context => context.replace scopes

end Context

end Bulletin
