import Bulletin.Json

/-!
# Values as numbers, as text and as JSON

Every value counts as a number and as a text. What has no numeric meaning counts as NaN, so
neither conversion fails. Strict equality holds within one kind only: numbers exactly, texts that
are plain numerals by number, lists, mappings and dates by identity. Loose equality also compares
across kinds, by number or by natural text. A value is brought into a canonical form before it is
written as JSON: no undefined, no number without a numeral, whole numbers as integers, and texts for
keys.
-/

namespace Bulletin

/-! ### Values as numbers and as text -/

/-- The double that a text denotes: blanks around it do not matter, an empty text is zero, and a
text that is no numeral is NaN. -/
def readDouble (text : List Char) : Double :=
  let body := trim text
  if body.isEmpty then .zero false
  else
    match Decimal.read? body with
    | some numeral => numeral.toDouble
    | none =>
      let name := String.ofList body
      if name = "Infinity" || name = "+Infinity" then .infinite false
      else if name = "-Infinity" then .infinite true
      else
        match readRadix? body with
        | some n => .ofInt n
        | none => .nan

theorem readDouble_of_read? {text : List Char} {numeral : Decimal}
    (visible : ∀ c ∈ text, isBlank c = false) (read : Decimal.read? text = some numeral) :
    readDouble text = numeral.toDouble := by
  have nonempty : text.isEmpty = false := by
    cases text with
    | nil => cases read
    | cons c rest => rfl
  simp only [readDouble, trim, trimBy_eq_self visible, nonempty, Bool.false_eq_true, if_false, read]

def plainNumeral? (s : String) : Option Decimal := Decimal.readPlain? s.toList

namespace Value

/-- A value as a number. Null, undefined, structured values and dates are NaN. -/
def toNumber : Value → Double
  | .bool b => if b then .one else .zero false
  | .int n => .ofInt n
  | .double x => x
  | .str s => readDouble s.toList
  | _ => .nan

def isNumericLike : Value → Bool
  | .int _ => true
  | .double _ => true
  | .str s => (plainNumeral? s).isSome
  | _ => false

/-- A text that is a plain numeral becomes its number; anything else stays as it is. -/
def coerceNumeral (v : Value) : Value :=
  match v with
  | .str s =>
    match plainNumeral? s with
    | some numeral => .double numeral.toDouble
    | none => v
  | _ => v

mutual

/-- The text of a value in concatenation and loose comparison. The items of a list are joined by
commas, with nothing for null and undefined. -/
def naturalText : Value → String
  | .undefined => "undefined"
  | .null => "null"
  | .bool b => if b then "true" else "false"
  | .int n => String.ofList (Double.ofInt n).plainText
  | .double x => String.ofList x.plainText
  | .str s => s
  | .list _ items => ",".intercalate (naturalItems items)
  | .mapping _ _ => "[object Object]"
  | .date _ text => text

def naturalItems : List Value → List String
  | [] => []
  | v :: rest => (if v.isNil then "" else naturalText v) :: naturalItems rest

end

end Value

/-! ### Equality -/

namespace Value

def numberEq : Value → Value → Bool
  | .int m, .int n => m == n
  | .int m, .double y => y.eqInt m
  | .double x, .int n => x.eqInt n
  | .double x, .double y => x.eq y
  | _, _ => false

/-- The same kind and the same value, or the same object. -/
def identical : Value → Value → Bool
  | .null, .null => true
  | .undefined, .undefined => true
  | .bool a, .bool b => a == b
  | .str a, .str b => a == b
  | .list a _, .list b _ => a == b
  | .mapping a _, .mapping b _ => a == b
  | .date a _, .date b _ => a == b
  | a, b => numberEq a b

def strictEq : Value → Value → Bool
  | .str a, .str b =>
    match plainNumeral? a, plainNumeral? b with
    | some x, some y => x.toDouble.eq y.toDouble
    | _, _ => a == b
  | a, b => identical a b

def isBool : Value → Bool
  | .bool _ => true
  | _ => false

/-- Equality across kinds. Null and undefined are equal. A boolean on either side, or two
numeric-like values, compare as numbers; all else by identity or by natural text. -/
def looseEq (a b : Value) : Bool :=
  if a.isNil && b.isNil then true
  else if a.isBool || b.isBool then a.toNumber.eq b.toNumber
  else if a.isNumericLike && b.isNumericLike then a.toNumber.eq b.toNumber
  else identical a b || naturalText a == naturalText b

end Value

/-! ### Arithmetic -/

namespace Value

def isText : Value → Bool
  | .str _ => true
  | _ => false

/-- Joins the natural texts if either operand is a text, and adds the numbers otherwise. -/
def add (a b : Value) : Value :=
  if a.isText || b.isText then .str (naturalText a ++ naturalText b)
  else .double (a.toNumber.add b.toNumber)

def sub (a b : Value) : Value := .double (a.toNumber.sub b.toNumber)

def mul (a b : Value) : Value := .double (a.toNumber.mul b.toNumber)

def div (a b : Value) : Value := .double (a.toNumber.div b.toNumber)

def rem (a b : Value) : Value := .double (a.toNumber.rem b.toNumber)

end Value

/-! ### Values as JSON -/

namespace Value

/-- A double as JSON can hold it. A whole one below `10 ^ 21` becomes an integer; one without a
numeral becomes its name, if names are asked for, and null otherwise. -/
def canonicalDouble (spelled : Bool) (x : Double) : Value :=
  if x.isFinite then
    match x.toSmallInt? with
    | some n => .int n
    | none => .double x
  else if spelled then .str (String.ofList x.plainText)
  else .null

mutual

def canonical (spelled : Bool) : Value → Value
  | .null => .null
  | .undefined => .null
  | .bool b => .bool b
  | .int n => .int n
  | .double x => canonicalDouble spelled x
  | .str s => .str s
  | .list identity items => .list identity (canonicalItems spelled items)
  | .mapping identity entries => .mapping identity (canonicalEntries spelled [] entries)
  | .date identity text => .date identity text

def canonicalItems (spelled : Bool) : List Value → List Value
  | [] => []
  | v :: rest => canonical spelled v :: canonicalItems spelled rest

/-- The entries `done`, and after them those that follow, without the undefined ones. Of two keys
with one text, the later value takes the earlier place. -/
def canonicalEntries (spelled : Bool) (done : List (Value × Value)) :
    List (Value × Value) → List (Value × Value)
  | [] => done
  | (k, v) :: rest =>
    canonicalEntries spelled
      (if v.isUndefined then done
      else putEntry sameText (.str k.display) (canonical spelled v) done) rest

end

mutual

/-- The document of a value in canonical form. A date is written as its text. -/
def toJson : Value → Json
  | .null => .null
  | .undefined => .null
  | .bool b => .bool b
  | .int n => .int n
  | .double x => if x.isFinite then .double x else .null
  | .str s => .str s
  | .list _ items => .array (toJsonItems items)
  | .mapping _ entries => .object (toJsonMembers entries)
  | .date _ text => .str text

def toJsonItems : List Value → List Json
  | [] => []
  | v :: rest => toJson v :: toJsonItems rest

def toJsonMembers : List (Value × Value) → List (String × Json)
  | [] => []
  | (k, v) :: rest => (k.display, toJson v) :: toJsonMembers rest

end

/-- The text of a value in a rendered template: nothing for null and undefined, compact JSON for
lists and mappings, and the natural text for all else. -/
def rendered (v : Value) : String :=
  if v.isNil then ""
  else if v.isStructured then (canonical false v).toJson.compact
  else naturalText v

def prettyJson (v : Value) : String := (canonical true v).toJson.indented

end Value

end Bulletin
