import Bulletin.Report

/-!
# A reader of documents

The reader that the program runs with. It knows the documents that are JSON. A file may start with a
byte-order mark, a file with nothing in it holds null, and some characters may not stand in a file.
-/

namespace Bulletin

namespace Json

mutual

/-- A document as a value. Its arrays and objects become the objects numbered from `next` on;
the second result is the first number left. -/
def toValueFrom (next : Nat) : Json → Value × Nat
  | .null => (.null, next)
  | .bool b => (.bool b, next)
  | .int n => (.int n, next)
  | .double x => (.double x, next)
  | .str s => (.str s, next)
  | .array items =>
    let (values, next') := itemsFrom (next + 1) items
    (.list (.object next) values, next')
  | .object members =>
    let (entries, next') := entriesFrom (next + 1) members
    (.mapping (.object next) entries, next')

def itemsFrom (next : Nat) : List Json → List Value × Nat
  | [] => ([], next)
  | item :: rest =>
    let (value, next') := toValueFrom next item
    let (values, next'') := itemsFrom next' rest
    (value :: values, next'')

def entriesFrom (next : Nat) : List (String × Json) → List (Value × Value) × Nat
  | [] => ([], next)
  | (key, document) :: rest =>
    let (value, next') := toValueFrom next document
    let (entries, next'') := entriesFrom next' rest
    ((.str key, value) :: entries, next'')

end

/-- A document as a value whose arrays and objects are all different objects. -/
def toValue (document : Json) : Value := (toValueFrom 0 document).1

end Json

namespace Host

/-- The dialect of files: tabs are no blanks, and an exponent has a point before it and a sign. -/
def fileDialect : Json.Dialect := ⟨false, false, false⟩

/-- Control characters other than tabs and line ends, and the last two code points of the basic
plane, may not stand in a file. -/
def isFileChar (c : Char) : Bool :=
  let n := c.toNat
  c = '\t' || c = '\n' || c = '\r' || n = 0x85
    || (0x20 ≤ n && !(0x7F ≤ n && n ≤ 0x9F) && n != 0xFFFE && n != 0xFFFF)

/-- A text without the byte-order mark that it may start with. -/
def dropByteOrderMark : List Char → List Char
  | c :: rest => if c.toNat = 0xFEFF then rest else c :: rest
  | [] => []

def malformedAccount : String := "the text is no document"

def readDocument : DocumentReader := fun text =>
  let body := dropByteOrderMark text.toList
  if body.all fileDialect.isSpace then .ok .null
  else
    match if body.all isFileChar then Json.read? fileDialect body else none with
    | some document => .ok document.toValue
    | none => .error (.malformed malformedAccount)

end Host

end Bulletin
