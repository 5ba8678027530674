import Bulletin.Host.Documents
import Bulletin.Settings

/-!
# A library for settings

The library that the program loads settings with. A variable gives a setting by its name, whatever
the case of its letters. A section has a variable for the whole of it, which holds an object as
JSON, and variables for its members; these lie over the object. A document is laid over another
entry by entry: two mappings of one key are merged, and anything else that lies above hides what is
below. A whole number may also be given as a double without a fraction, as a boolean, or as a
numeral in a text.
-/

namespace Bulletin

namespace Host

/-! ### Whole numbers in texts -/

namespace Numeral

/-- A numeral from its first digit on that is no zero. One zero stays if there is no such digit or
if a point comes first. Underscores between the zeros do not matter, and a minus may follow the
zeros. -/
def dropZeros? : List Char → Option (List Char)
  | '0' :: rest =>
    let zeros := rest.takeWhile fun c => c = '0' || c = '_'
    let last := zeros.getLast?.getD '0'
    match rest.drop zeros.length with
    | [] => some [last]
    | '.' :: fraction => some (last :: '.' :: fraction)
    | c :: others => if c = '-' || c.isDigit then some (c :: others) else none
  | c :: rest => if c.isDigit then some (c :: rest) else none
  | [] => none

/-- A numeral without a point that only zeros follow. There has to be one of them at least. -/
def dropPoint (text : List Char) : List Char :=
  let whole := text.takeWhile (· != '.')
  let fraction := text.drop (whole.length + 1)
  if !fraction.isEmpty && fraction.all (· == '0') then whole else text

/-- A text without its underscores; none unless each of them has other characters on both sides.
After nothing and after an underscore, neither another one nor the end may follow: `alone` says
that this is so. -/
def dropUnderscores? (alone : Bool) : List Char → Option (List Char)
  | [] => if alone then none else some []
  | c :: rest =>
    if c = '_' then if alone then none else dropUnderscores? true rest
    else (dropUnderscores? false rest).map (c :: ·)

/-- The number that digits denote. A zero may only stand alone. -/
def natural? (digits : List Char) : Option Nat :=
  if digits = ['0'] then some 0
  else if digits.all Char.isDigit && digits.head?.any (· != '0') then some (digitsValue digits)
  else none

def whole? (text : List Char) : Option Int :=
  let (negative, unsigned) := Decimal.takeSign (trimBy isWhiteSpace text)
  match (dropZeros? unsigned).bind fun numeral => dropUnderscores? true (dropPoint numeral) with
  | some ('-' :: digits) => if negative then none else (natural? digits).map (Double.signed true ·)
  | some digits => (natural? digits).map (Double.signed negative ·)
  | none => none

end Numeral

/-! ### Values of settings -/

def wholeNumber : Value → Except String Int
  | .bool b => .ok (if b then 1 else 0)
  | .int n => .ok n
  | .double x =>
    if x.isFinite then
      match x.toInt? with
      | some n =>
        if n.natAbs < 0x8000000000000000 then .ok n
        else .error "Unable to parse input string as an integer, exceeded maximum size"
      | none => .error "Input should be a valid integer, got a number with a fractional part"
    else .error "Input should be a finite number"
  | .str s =>
    match Numeral.whole? s.toList with
    | some n => .ok n
    | none => .error "Input should be a valid integer, unable to parse string as an integer"
  | _ => .error "Input should be a valid integer"

/-- An integer from a bound on, and up to another one if there is one. -/
def bounded (low : Int) (high? : Option Int) (n : Int) : Except String Int :=
  if n < low then
    .error ("Input should be greater than or equal to " ++ String.ofList (intText low))
  else
    match high?.filter (· < n) with
    | some high =>
      .error ("Input should be less than or equal to " ++ String.ofList (intText high))
    | none => .ok n

def integer (low : Int) (high? : Option Int) (value : Value) : Except String Int :=
  wholeNumber value >>= bounded low high?

def optionalInteger (low : Int) : Value → Except String (Option Int)
  | .null => .ok none
  | value => (integer low none value).map some

def listNames : List String → String
  | [] => ""
  | [name] => quoted name
  | [name, last] => quoted name ++ " or " ++ quoted last
  | name :: rest => quoted name ++ ", " ++ listNames rest

def oneOf (names : List String) : Value → Except String String
  | .str s => if names.contains s then .ok s else .error ("Input should be " ++ listNames names)
  | _ => .error ("Input should be " ++ listNames names)

/-! ### Documents over each other -/

/-- No entry has the key. A key that is no text is never met. -/
def isBeside (entries : List (Value × Value)) : Value → Bool
  | .str name => (Value.lookup name entries).isNone
  | _ => true

/-- The entries of a mapping whose keys another one does not have. -/
def entriesBeside (low high : List (Value × Value)) : List (Value × Value) :=
  high.filter fun entry => isBeside low entry.1

mutual

/-- The value `low` with another laid over it. -/
def overlay : Value → Value → Value
  | .mapping _ low, .mapping identity high =>
    .mapping identity (overlayEntries high low ++ entriesBeside low high)
  | _, high => high

/-- The entries that follow, each with what the entries `high` lay over it. -/
def overlayEntries (high : List (Value × Value)) : List (Value × Value) → List (Value × Value)
  | [] => []
  | (.str name, below) :: rest =>
    (.str name, match Value.lookup name high with
      | some above => overlay below above
      | none => below) :: overlayEntries high rest
  | entry :: rest => entry :: overlayEntries high rest

end

def merge (low high : Mapping) : Mapping :=
  ⟨high.identity, overlayEntries high.entries low.entries
    ++ entriesBeside low.entries high.entries⟩

/-! ### Documents in variables -/

/-- The dialect of variables: there are words for the doubles that are not finite. -/
def variableDialect : Json.Dialect := ⟨true, true, true⟩

/-- The variables with names in lower case. Of names that fall together the last one counts, in
the place of the first. -/
def lowered (environment : Variables) : Variables :=
  environment.foldl (fun done (name, value) => putText (lowerString name) value done) []

/-- The first part of a name between delimiters, and the others. As many characters as `skip` says
still belong to a delimiter. -/
def splitName (delimiter : List Char) (skip : Nat) : List Char → List Char × List (List Char)
  | [] => ([], [])
  | c :: rest =>
    match skip with
    | more + 1 => splitName delimiter more rest
    | 0 =>
      if delimiter.isPrefixOf (c :: rest) then
        let (first, others) := splitName delimiter (delimiter.length - 1) rest
        ([], first :: others)
      else
        let (first, others) := splitName delimiter 0 rest
        (c :: first, others)

/-- Puts a text under a path of names. Nothing is put below what is no mapping. -/
def putNested (value key : String) : List String → List (Value × Value) → List (Value × Value)
  | [], entries => putEntry Value.sameText (.str key) (.str value) entries
  | next :: rest, entries =>
    match Value.lookup key entries with
    | none =>
      putEntry Value.sameText (.str key) (.mapping (.object 0) (putNested value next rest []))
        entries
    | some (.mapping identity inner) =>
      putEntry Value.sameText (.str key) (.mapping identity (putNested value next rest inner))
        entries
    | some _ => entries

/-- What the names of the variables for a section's members begin with, in lower case. -/
def memberStart (scheme : VariableScheme) (s : SettingSection) : List Char :=
  (lowerString scheme.mark ++ s.name ++ scheme.delimiter).toList

/-- The entries of a section from the variables for them, whose names are in lower case. -/
def nestedEntries (scheme : VariableScheme) (s : SettingSection) (environment : Variables) :
    List (Value × Value) :=
  let start := memberStart scheme s
  environment.foldl
    (fun entries (name, value) =>
      if start.isPrefixOf name.toList then
        let (first, others) :=
          splitName scheme.delimiter.toList 0 (name.toList.drop start.length)
        putNested value (String.ofList first) (others.map String.ofList) entries
      else entries) []

/-- The entries with the section's setting under its own name, whatever the case of its letters. -/
def alignName (s : SettingSection) (entries : List (Value × Value)) : List (Value × Value) :=
  entries.foldl
    (fun done (key, value) =>
      let key' := match key with
        | .str name => .str (if lowerString name = s.member then s.member else name)
        | _ => key
      putEntry Value.sameText key' value done) []

/-- What the variables, with names in lower case, give for a section. -/
def sectionValue? (scheme : VariableScheme) (s : SettingSection) (environment : Variables) :
    Except String (Option Value) :=
  let nested := nestedEntries scheme s environment
  match environment.lookup (lowerString scheme.mark ++ s.name) with
  | none => .ok (if nested.isEmpty then none else some (.mapping (.object 0) nested))
  | some text =>
    match (Json.read? variableDialect text.toList).map Json.toValue with
    | none => .error ("error parsing value for field \"" ++ s.name ++ "\"")
    | some .null => .ok none
    | some (.mapping identity entries) =>
      let merged := merge ⟨identity, entries⟩ ⟨.object 0, nested⟩
      .ok (some (.mapping identity (alignName s merged.entries)))
    | some value => .ok (some value)

def entryFor (name : String) (value? : Option Value) : List (Value × Value) :=
  (value?.map fun value => (Value.str name, value)).toList

def documentOfVariables (scheme : VariableScheme) (environment : Variables) :
    Except String Mapping := do
  let low := lowered environment
  let expressions ← sectionValue? scheme .expressions low
  let templates ← sectionValue? scheme .templates low
  let verbosity := (low.lookup (lowerString scheme.mark ++ "verbosity")).map Value.str
  return ⟨.object 0, entryFor SettingSection.expressions.name expressions
    ++ entryFor SettingSection.templates.name templates ++ entryFor "verbosity" verbosity⟩

def settingsLibrary : SettingsLibrary where
  document := documentOfVariables
  merge := merge
  integer := integer
  optionalInteger := optionalInteger
  oneOf := oneOf
  noSection className := "Input should be a valid dictionary or instance of " ++ className

end Host

end Bulletin
