import Bulletin.Command
import Bulletin.Host.Documents

/-!
# A reader of files of variables

The reader that the program completes its variables with. A file of variables has one assignment a
line: a name, an equals sign and a value. A value between quotes may go on over several lines and
has escapes; any other value ends before a comment or at the end of its line. A statement that is
malformed is skipped up to the end of the line where it fails. A value may refer to other variables,
those of the process first and then those above it.
-/

namespace Bulletin

namespace Host

namespace VariablesFile

def isInlineBlank (c : Char) : Bool := isBlank c && c != '\n' && c != '\r'

def skipInline (text : List Char) : List Char := text.dropWhile isInlineBlank

/-- The rest of the line, without and after its end. -/
def skipLine (text : List Char) : List Char := (text.dropWhile (· != '\n')).tail

/-- A text up to its closing quote, as it is written. No quote closes it after a backslash, unless
that belongs to another backslash before it. -/
def readQuoted? (quote : Char) : List Char → Option (List Char × List Char)
  | [] => none
  | '\\' :: c :: rest =>
    (readQuoted? quote rest).map fun (body, rest') => ('\\' :: c :: body, rest')
  | c :: rest =>
    if c = quote then some ([], rest)
    else (readQuoted? quote rest).map fun (body, rest') => (c :: body, rest')

def singleEscape? (c : Char) : Option Char :=
  if c = '\\' || c = '\'' then some c else none

def doubleEscape? (c : Char) : Option Char :=
  if c = '\\' || c = '\'' || c = '"' then some c
  else if c = 'a' then some '\x07'
  else if c = 'b' then some '\x08'
  else if c = 'f' then some '\x0c'
  else if c = 'n' then some '\n'
  else if c = 'r' then some '\r'
  else if c = 't' then some '\t'
  else if c = 'v' then some '\x0b'
  else none

/-- A text with its escapes replaced. A backslash that starts none stays. -/
def unescape (escape? : Char → Option Char) : List Char → List Char
  | '\\' :: c :: rest =>
    match escape? c with
    | some d => d :: unescape escape? rest
    | none => '\\' :: unescape escape? (c :: rest)
  | c :: rest => c :: unescape escape? rest
  | [] => []

/-- A text up to a number sign that follows a blank. -/
def cutComment (afterBlank : Bool) : List Char → List Char
  | [] => []
  | c :: rest =>
    if c = '#' && afterBlank then [] else c :: cutComment (isBlank c) rest

/-- The value after an equals sign; none for a quote that is not closed. -/
def readValue? (text : List Char) : Option (List Char × List Char) :=
  match skipInline text with
  | '\'' :: rest =>
    (readQuoted? '\'' rest).map fun (body, rest') => (unescape singleEscape? body, rest')
  | '"' :: rest =>
    (readQuoted? '"' rest).map fun (body, rest') => (unescape doubleEscape? body, rest')
  | _ =>
    some (trim (cutComment false (text.takeWhile (· != '\n'))), text.dropWhile (· != '\n'))

def isNameChar (c : Char) : Bool := c != '=' && c != '#' && !isBlank c

/-- The name at the start of a statement, none before a comment. The whole is none if there is
neither. -/
def readName? : List Char → Option (Option (List Char) × List Char)
  | [] => none
  | c :: rest =>
    if c = '#' then some (none, c :: rest)
    else if c = '\'' then
      let name := rest.takeWhile (· != '\'')
      match rest.drop name.length with
      | _ :: rest' => if name.isEmpty then none else some (some name, rest')
      | [] => none
    else
      let name := (c :: rest).takeWhile isNameChar
      if name.isEmpty then none else some (some name, (c :: rest).drop name.length)

/-- A text without a leading `export`, if blanks follow it. -/
def skipExport (text : List Char) : List Char :=
  let word := "export".toList
  let after := text.drop word.length
  if word.isPrefixOf text && after.head?.any isInlineBlank then skipInline after else text

/-- What follows the end of a line, if nothing but a comment is left on it. -/
def endLine? (text : List Char) : Option (List Char) :=
  let after := skipInline text
  match (if after.head? == some '#' then after.dropWhile (· != '\n') else after) with
  | [] => some []
  | c :: rest' => if c = '\n' then some rest' else none

abbrev Assignment := List Char × Option (List Char)

/-- What one statement gives: an assignment, nothing, or no more statements. -/
inductive Statement where
  | assignment (a : Assignment) (rest : List Char)
  | nothing (rest : List Char)
  | finish

def closeStatement (name : Option (List Char)) (value : Option (List Char)) (text : List Char) :
    Statement :=
  match endLine? text, name with
  | none, _ => .nothing (skipLine text)
  | some rest, some name => .assignment (name, value) rest
  | some rest, none => .nothing rest

def readStatement (text : List Char) : Statement :=
  match skipExport (text.dropWhile isBlank) with
  | [] => if (text.dropWhile isBlank).isEmpty then .finish else .nothing []
  | c :: rest =>
    match readName? (c :: rest) with
    | none => .nothing (skipLine (c :: rest))
    | some (name, afterName) =>
      match skipInline afterName with
      | '=' :: afterSign =>
        match readValue? afterSign with
        | none => .nothing (skipLine afterSign)
        | some (value, rest') => closeStatement name (some value) rest'
      | rest' => closeStatement name none rest'

/-- Reads statements. Every one but the last takes a character, so as many steps as there are
characters suffice. -/
def readStatements : Nat → List Char → List Assignment
  | 0, _ => []
  | steps + 1, text =>
    match readStatement text with
    | .assignment a rest => a :: readStatements steps rest
    | .nothing rest => readStatements steps rest
    | .finish => []

/-- The name and the default of a reference, after its opening brace, and what follows it. -/
def readReference? (text : List Char) : Option (List Char × List Char × List Char) :=
  let name := text.takeWhile fun c => c != '\x7d' && c != ':'
  match text.drop name.length with
  | ':' :: '-' :: rest =>
    let default := rest.takeWhile (· != '\x7d')
    match rest.drop default.length with
    | _ :: rest' => some (name, default, rest')
    | [] => none
  | '\x7d' :: rest => some (name, [], rest)
  | _ => none

/-- A value with its references replaced. Every step takes a character of the text, so as many
steps as there are characters suffice. -/
def expand (value? : String → Option String) : Nat → List Char → List Char
  | 0, _ => []
  | _, [] => []
  | steps + 1, '$' :: '\x7b' :: rest =>
    match readReference? rest with
    | some (name, default, rest') =>
      ((value? (String.ofList name)).getD (String.ofList default)).toList
        ++ expand value? steps rest'
    | none => '$' :: expand value? steps ('\x7b' :: rest)
  | steps + 1, c :: rest => c :: expand value? steps rest

/-- What a reference to a name stands for: a variable of the process, or else the value of an
assignment above, which is empty if the assignment has none. -/
def referent? (environment : Variables) (above : List (String × Option String)) (name : String) :
    Option String :=
  (environment.lookup name) <|> (above.lookup name).map (·.getD "")

/-- The values that a file of variables assigns. Of assignments to one name the last counts, in
the place of the first. -/
def assigned (environment : Variables) (text : String) : List (String × Option String) :=
  (readStatements (text.length + 1) (dropByteOrderMark text.toList)).foldl
    (fun above (name, value) =>
      putText (String.ofList name)
        (value.map fun v =>
          String.ofList (expand (referent? environment above) (v.length + 1) v)) above) []

end VariablesFile

/-- A process can have a variable with this name and value. The name ends at the first equals sign,
and either ends at the first zero. -/
def isPossible (name value : String) : Bool :=
  !name.toList.contains '=' && !name.toList.contains '\x00' && !value.toList.contains '\x00'

/-- The variables with one more, unless there is one of that name; none if the variable to be added
is impossible. -/
def addMissing? (environment : Variables) (name value : String) : Option Variables :=
  if (environment.lookup name).isSome then some environment
  else if isPossible name value then some (environment ++ [(name, value)])
  else none

/-- The process has a variable by which no file of variables counts. -/
def ignoresFile (environment : Variables) : Bool :=
  (environment.lookup "PYTHON_DOTENV_DISABLED").any fun value =>
    ["1", "T", "TRUE", "Y", "YES"].contains (upperString value)

/-- The variables of a process with those that a file assigns and the process does not have; none
if one of these is impossible. -/
def withFile? (environment : Variables) (text : String) : Option Variables :=
  (VariablesFile.assigned environment text).foldlM
    (fun all (name, value) =>
      match value with
      | some v => addMissing? all name v
      | none => some all) environment

/-- The variables of a process, completed from a file if there is one and it counts. -/
def completeVariables (environment : Variables) (entry : PathEntry) : Option Variables :=
  if ignoresFile environment then some environment
  else
    match entry with
    | .file octets => (readText octets).toOption.bind (withFile? environment)
    | _ => some environment

end Host

end Bulletin
