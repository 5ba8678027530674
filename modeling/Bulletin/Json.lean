import Bulletin.Value.Basic

/-!
# JSON documents

A document is a tree of its own: it has no undefined, no dates and no identities, the keys of its
objects are texts, and integers stand beside doubles. One writer has two layouts, which differ in
the blanks between the tokens and in nothing else; it writes integers of any length. A text is read
as one document with nothing but blanks around it. When a key of an object occurs again, the later
value takes the earlier place.
-/

namespace Bulletin

inductive Json where
  | null
  | bool (b : Bool)
  | int (n : Int)
  | double (x : Double)
  | str (s : String)
  | array (items : List Json)
  | object (members : List (String × Json))

/-! ### Writing -/

namespace Json

/-- The blanks of a layout: before an item or a closing bracket at a depth, and after a colon. -/
structure Spacing where
  beforeItem : Nat → List Char
  afterColon : List Char

def Spacing.compact : Spacing := ⟨fun _ => [], []⟩

/-- Every item on a line of its own, two spaces deeper than what holds it. -/
def Spacing.indented : Spacing :=
  ⟨fun depth => '\n' :: List.replicate (2 * depth) ' ', [' ']⟩

/-- A character inside a JSON string. Quotes, backslashes and control characters are escaped. -/
def escapeChar (c : Char) : List Char :=
  if c = '"' || c = '\\' then ['\\', c]
  else if c = '\n' then ['\\', 'n']
  else if c = '\r' then ['\\', 'r']
  else if c = '\t' then ['\\', 't']
  else if c = '\x08' then ['\\', 'b']
  else if c = '\x0c' then ['\\', 'f']
  else if c.toNat < 0x20 then '\\' :: 'u' :: hexText 4 c.toNat
  else [c]

def writeString (s : String) : List Char := '"' :: (s.toList.flatMap escapeChar ++ ['"'])

mutual

/-- The text of a document that stands at a depth. -/
def write (spacing : Spacing) (depth : Nat) : Json → List Char
  | .null => ['n', 'u', 'l', 'l']
  | .bool b => if b then ['t', 'r', 'u', 'e'] else ['f', 'a', 'l', 's', 'e']
  | .int n => intText n
  | .double x => x.fullText
  | .str s => writeString s
  | .array [] => ['[', ']']
  | .array (item :: rest) =>
    '[' :: (spacing.beforeItem (depth + 1) ++ write spacing (depth + 1) item
      ++ writeItems spacing depth rest ++ spacing.beforeItem depth ++ [']'])
  | .object [] => ['\x7b', '\x7d']
  | .object ((key, value) :: rest) =>
    '\x7b' :: (spacing.beforeItem (depth + 1) ++ writeString key ++ ':' :: (spacing.afterColon
      ++ write spacing (depth + 1) value ++ writeMembers spacing depth rest
      ++ spacing.beforeItem depth ++ ['\x7d']))

/-- The items after the first of an array that stands at a depth. -/
def writeItems (spacing : Spacing) (depth : Nat) : List Json → List Char
  | [] => []
  | item :: rest =>
    ',' :: (spacing.beforeItem (depth + 1) ++ write spacing (depth + 1) item
      ++ writeItems spacing depth rest)

/-- The members after the first of an object that stands at a depth. -/
def writeMembers (spacing : Spacing) (depth : Nat) : List (String × Json) → List Char
  | [] => []
  | (key, value) :: rest =>
    ',' :: (spacing.beforeItem (depth + 1) ++ writeString key ++ ':' :: (spacing.afterColon
      ++ write spacing (depth + 1) value ++ writeMembers spacing depth rest))

end

def compact (document : Json) : String := String.ofList (write .compact 0 document)

def indented (document : Json) : String := String.ofList (write .indented 0 document)

end Json

/-! ### Reading -/

namespace Json

/-- What may differ from one kind of text to another. -/
structure Dialect where
  /-- Tabs are blanks. -/
  tabs : Bool
  /-- There are words for the doubles that are not finite. -/
  nonFinite : Bool
  /-- A numeral may have an exponent without a point before it and without a sign. -/
  bareExponents : Bool

namespace Dialect

def isSpace (d : Dialect) (c : Char) : Bool :=
  c = ' ' || c = '\n' || c = '\r' || (c = '\t' && d.tabs)

def skipSpace (d : Dialect) (text : List Char) : List Char := text.dropWhile d.isSpace

def words (d : Dialect) : List (String × Json) :=
  [("null", .null), ("true", .bool true), ("false", .bool false)]
    ++ if d.nonFinite then
      [("NaN", .double .nan), ("Infinity", .double (.infinite false)),
        ("-Infinity", .double (.infinite true))]
    else []

end Dialect

def readHex4? (text : List Char) : Option (Nat × List Char) :=
  if text.length < 4 then none
  else (radixValue? 16 (text.take 4)).map fun n => (n, text.drop 4)

def simpleEscape? (c : Char) : Option Char :=
  if c = '"' || c = '\\' || c = '/' then some c
  else if c = 'n' then some '\n'
  else if c = 'r' then some '\r'
  else if c = 't' then some '\t'
  else if c = 'b' then some '\x08'
  else if c = 'f' then some '\x0c'
  else none

/-- The second half of a surrogate pair, after the first. -/
def readLowSurrogate? : List Char → Option (Nat × List Char)
  | '\\' :: 'u' :: rest =>
    (readHex4? rest).bind fun (n, rest') =>
      if 0xDC00 ≤ n && n ≤ 0xDFFF then some (n - 0xDC00, rest') else none
  | _ => none

/-- The character of a hexadecimal escape, after its `u`. -/
def readCodeUnit? (text : List Char) : Option (Char × List Char) :=
  (readHex4? text).bind fun (n, rest) =>
    if 0xD800 ≤ n && n ≤ 0xDBFF then
      (readLowSurrogate? rest).map fun (low, rest') =>
        (Char.ofNat (0x10000 + (n - 0xD800) * 0x400 + low), rest')
    else if 0xDC00 ≤ n && n ≤ 0xDFFF then none
    else some (Char.ofNat n, rest)

/-- The next character of a string, and what follows it; none at a closing quote, at a bare
control character and at a malformed escape. -/
def readChar? : List Char → Option (Char × List Char)
  | [] => none
  | '\\' :: 'u' :: rest => readCodeUnit? rest
  | '\\' :: c :: rest => (simpleEscape? c).map (·, rest)
  | c :: rest => if c = '"' || c = '\\' || c.toNat < 0x20 then none else some (c, rest)

/-- The characters of a string up to its closing quote, and what follows that. Every step
consumes a character, so as many steps as there are characters suffice. -/
def readChars? : Nat → List Char → Option (List Char × List Char)
  | 0, _ => none
  | _ + 1, '"' :: rest => some ([], rest)
  | steps + 1, text =>
    (readChar? text).bind fun (c, rest) =>
      (readChars? steps rest).map fun (cs, rest') => (c :: cs, rest')

def readString? : List Char → Option (String × List Char)
  | '"' :: rest =>
    (readChars? (rest.length + 1) rest).map fun (cs, rest') => (String.ofList cs, rest')
  | _ => none

def isNumeralChar (c : Char) : Bool :=
  c.isDigit || c = '-' || c = '+' || c = '.' || c = 'e' || c = 'E'

/-- A numeral has no zero before another digit, no plus in front, and a digit on either side of a
point. -/
def wellFormedNumeral (numeral : List Char) : Bool :=
  let body := if numeral.head? == some '-' then numeral.tail else numeral
  let (whole, afterWhole) := takeDigits body
  let (fraction, _) := Decimal.takeFraction afterWhole
  !whole.isEmpty && (whole.length == 1 || whole.head? != some '0')
    && (afterWhole.head? != some '.' || !fraction.isEmpty)

/-- An exponent in a numeral has a point before it and a sign. -/
def hasFullExponent (numeral : List Char) : Bool :=
  let (coefficient, exponent) := numeral.span fun c => c != 'e' && c != 'E'
  exponent.isEmpty
    || (coefficient.contains '.' && exponent.tail.head?.any fun c => c = '+' || c = '-')

/-- What a numeral stands for: an integer without a point or an exponent, or else a double. Where
an exponent has to be a full one and is not, the numeral is a text. -/
def readNumeral? (d : Dialect) (numeral : List Char) : Option Json :=
  if wellFormedNumeral numeral then
    (Decimal.read? numeral).map fun decimal =>
      if numeral.all fun c => c.isDigit || c = '-' then
        .int (Double.signed decimal.negative decimal.coefficient)
      else if d.bareExponents || hasFullExponent numeral then .double decimal.toDouble
      else .str (String.ofList numeral)
  else none

/-- What a word at the start of a text stands for, and what follows it. -/
def readWord? (d : Dialect) (text : List Char) : Option (Json × List Char) :=
  (d.words.find? fun (word, _) => word.toList.isPrefixOf text).map fun (word, document) =>
    (document, text.drop word.length)

mutual

/-- Reads a document, which may not start with blanks. The first argument bounds the depth of
nested calls; of two nested calls one consumes a character, so twice the length of the text
suffices. -/
def readValue? (d : Dialect) : Nat → List Char → Option (Json × List Char)
  | 0, _ => none
  | _ + 1, [] => none
  | steps + 1, c :: rest =>
    if c = '[' then readItems? d steps true [] (d.skipSpace rest)
    else if c = '\x7b' then readMembers? d steps true [] (d.skipSpace rest)
    else if c = '"' then (readString? (c :: rest)).map fun (s, rest') => (.str s, rest')
    else
      match readWord? d (c :: rest) with
      | some found => some found
      | none =>
        (readNumeral? d ((c :: rest).takeWhile isNumeralChar)).map fun number =>
          (number, (c :: rest).dropWhile isNumeralChar)

/-- Reads the items of an array from an item or the closing bracket on; `first` is true before
the first item. -/
def readItems? (d : Dialect) : Nat → Bool → List Json → List Char → Option (Json × List Char)
  | 0, _, _, _ => none
  | steps + 1, first, done, text =>
    if text.head? == some ']' && first then some (.array [], text.tail)
    else
      (readValue? d steps text).bind fun (item, rest) =>
        match d.skipSpace rest with
        | ',' :: rest' => readItems? d steps false (item :: done) (d.skipSpace rest')
        | ']' :: rest' => some (.array (item :: done).reverse, rest')
        | _ => none

/-- Reads the members of an object from a key or the closing brace on; `first` is true before the
first member. -/
def readMembers? (d : Dialect) :
    Nat → Bool → List (String × Json) → List Char → Option (Json × List Char)
  | 0, _, _, _ => none
  | steps + 1, first, done, text =>
    if text.head? == some '\x7d' && first then some (.object [], text.tail)
    else
      (readString? text).bind fun (key, afterKey) =>
        match d.skipSpace afterKey with
        | ':' :: afterColon =>
          (readValue? d steps (d.skipSpace afterColon)).bind fun (value, rest) =>
            match d.skipSpace rest with
            | ',' :: rest' =>
              readMembers? d steps false (putText key value done) (d.skipSpace rest')
            | '\x7d' :: rest' => some (.object (putText key value done), rest')
            | _ => none
        | _ => none

end

def read? (d : Dialect) (text : List Char) : Option Json :=
  (readValue? d (2 * text.length + 1) (d.skipSpace text)).bind fun (document, rest) =>
    if (d.skipSpace rest).isEmpty then some document else none

end Json

end Bulletin
