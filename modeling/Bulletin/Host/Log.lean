import Bulletin.Session

/-!
# Log lines

What a journal's events are written as, either JSON or plain lines. A record is an object: the event
with its severity and its logger, the event's own values, and the values bound by what is under way.
An event's own values count more than bound ones, and the severity and the logger more than either.
A message can leave places for arguments: `%s` for the text of one, `%r` for its text as inside a
list, `%d` and `%i` for a whole number, and `%%` for a percent sign.
-/

namespace Bulletin

namespace Host

/-! ### Messages with arguments -/

/-- A number without its fraction. -/
def wholePart? : Value → Option Int
  | .bool b => some (if b then 1 else 0)
  | .int n => some n
  | .double (.finite negative units _) => some (Double.signed negative (units / unitsPerOne))
  | _ => none

/-- Fills the places of a message in order; none if arguments and places do not match. -/
def fillMessage? : List Char → List Value → Option (List Char)
  | [], [] => some []
  | [], _ :: _ => none
  | '%' :: '%' :: rest, args => (fillMessage? rest args).map ('%' :: ·)
  | '%' :: c :: rest, arg :: args =>
    let text? :=
      if c = 's' then some arg.display.toList
      else if c = 'r' then some arg.inner.toList
      else if c = 'd' || c = 'i' then (wholePart? arg).map intText
      else none
    text?.bind fun text => (fillMessage? rest args).map (text ++ ·)
  | '%' :: _, _ => none
  | c :: rest, args => (fillMessage? rest args).map (c :: ·)

/-- A message with its arguments in place. One without arguments is taken as it is. -/
def formatMessage? (message : String) (args : List Value) : Option String :=
  if args.isEmpty then some message else (fillMessage? message.toList args).map String.ofList

/-! ### Records -/

def logKey : Value → String
  | .null => "null"
  | .bool b => if b then "true" else "false"
  | v => v.display

mutual

/-- A value in a record. What has no form in JSON is written as messages show it. -/
def logged : Value → Json
  | .null => .null
  | .undefined => .str (Value.inner .undefined)
  | .bool b => .bool b
  | .int n => .int n
  | .double x => .double x
  | .str s => .str s
  | .list _ items => .array (loggedItems items)
  | .mapping _ entries => .object (loggedEntries [] entries)
  | .date _ text => .str (Value.dateInside text)

def loggedItems : List Value → List Json
  | [] => []
  | v :: rest => logged v :: loggedItems rest

/-- The members `done`, and after them the entries that follow. Of two keys with one text, the
later value takes the earlier place. -/
def loggedEntries (done : List (String × Json)) : List (Value × Value) → List (String × Json)
  | [] => done
  | (k, v) :: rest => loggedEntries (putText (logKey k) (logged v) done) rest

end

abbrev LogRecord := List (String × Json)

inductive LogLine where
  | record (members : LogRecord)
  | plain (text : String)

def LogLine.text : LogLine → String
  | .record members => (Json.object members).compact
  | .plain text => text

/-- The values of `first`, and those of `second` under other names. -/
def mergeValues (first second : LogValues) : LogValues :=
  first ++ second.filter fun (name, _) => (first.lookup name).isNone

/-- All values that go with an event. The time is no part of a record. -/
def valuesOf (e : LogEvent) (bound : LogValues) : LogValues :=
  let all := mergeValues (putText "event" (.str e.event) e.values) bound
  let told := putText "logger" (.str e.logger) (putText "level" (.str e.severity.name) all)
  told.filter fun (name, _) => name != "timestamp"

def recordOf (e : LogEvent) (bound : LogValues) : LogRecord :=
  (valuesOf e bound).map fun (name, value) => (name, logged value)

def plainLine (e : LogEvent) (bound : LogValues) : String :=
  " ".intercalate
    (("[" ++ e.severity.name ++ "]") :: e.event ::
      (mergeValues e.values bound).map fun (name, value) => name ++ "=" ++ value.display)

/-- What is written for the events that a journal's sink lets through. -/
def logLines (journal : Journal) : List LogLine :=
  journal.admitted.map fun e =>
    if journal.sink.asJson then .record (recordOf e journal.bound)
    else .plain (plainLine e journal.bound)

/-- The values bound once others are bound as well, which replace those of the same names. -/
def bind (bound values : LogValues) : LogValues :=
  values.foldl (fun bound (name, value) => putText name value bound) bound

end Host

end Bulletin
