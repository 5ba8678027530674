import Bulletin.Value.Basic

/-!
# Contexts

A context gives every scope a mapping, so nothing downstream meets a missing scope. Contexts are
built from data that may be partial or malformed, and from a process environment; an operation that
fails leaves the context as it was. A dotted path names a place in a context, or a variable of the
host environment. Each step is a checked look-up, so a path that leads nowhere is undefined. In the
scope of environment variables a name that is not found as written is tried in upper and in lower
case.
-/

namespace Bulletin

/-! ### Making contexts -/

structure Context where
  scope : Scope → Mapping

abbrev Environ := List (String × Value)

/-- The variables of a process, by name and in order. -/
abbrev Variables := List (String × String)

def Variables.toValues (environment : Variables) : List (String × Value) :=
  environment.map fun (name, value) => (name, .str value)

inductive ContextError where
  /-- Keys that name no scope, in increasing order. -/
  | unknownScopes (first : Value) (rest : List Value)
  /-- Keys that name no scope, and have no common order to report them in. -/
  | unorderedKeys
  /-- A scope whose data is neither null nor a mapping. -/
  | notMapping (scope : Scope) (value : Value)
  /-- A name given for a scope that is none. -/
  | foreignName (name : String)

inductive KeyKind where
  | text
  | number
  | date
  | other
  deriving DecidableEq

namespace Value

def keyKind : Value → KeyKind
  | .str _ => .text
  | .bool _ => .number
  | .int _ => .number
  | .double _ => .number
  | .date _ _ => .date
  | _ => .other

/-- A boolean as the integer it counts as; any other value as it is. -/
def boolAsInt : Value → Value
  | .bool b => .int (if b then 1 else 0)
  | v => v

def numberLt (a b : Value) : Bool :=
  match a.boolAsInt, b.boolAsInt with
  | .int m, .int n => m < n
  | .int m, .double y => !y.isNaN && !y.ltInt m && !y.eqInt m
  | .double x, .int n => x.ltInt n
  | .double x, .double y => x.lt y
  | _, _ => false

/-- Order of two keys of one kind: texts and dates by code points, numbers by value. -/
def keyLe (a b : Value) : Bool :=
  match a, b with
  | .str s, .str t => !(t < s)
  | .date _ s, .date _ t => !(t < s)
  | a, b => !numberLt b a

end Value

namespace ContextError

def scopeNames : String := ", ".intercalate (Scope.all.map Scope.name)

def message : ContextError → String
  | .unknownScopes first rest =>
    "Unknown context scope(s): " ++ ", ".intercalate ((first :: rest).map Value.display)
      ++ ". Expected a subset of: " ++ scopeNames
  | .unorderedKeys => "Unknown context scopes of several kinds"
  | .notMapping scope value =>
    "Context scope '" ++ scope.name ++ "' must be a mapping, got " ++ value.kindName
  | .foreignName name => "Unknown context scope: " ++ name

def field? : ContextError → Option String
  | .unknownScopes first _ => some first.display
  | .unorderedKeys => none
  | .notMapping scope _ => some scope.name
  | .foreignName name => some name

/-- The data that an error is about; null if it is about a name alone. -/
def value : ContextError → Value
  | .notMapping _ value => value
  | _ => .null

end ContextError

namespace Context

def empty : Context := ⟨Mapping.emptyScope⟩

def mappingFor? (scope : Scope) : Value → Option Mapping
  | .null => some (.emptyScope scope)
  | .mapping identity entries => some ⟨identity, entries⟩
  | _ => none

/-- The first scope, in the fixed order, whose data is malformed. -/
def firstMalformed? (data : Scope → Value) : Option (Scope × Value) :=
  (Scope.all.find? fun scope => (mappingFor? scope (data scope)).isNone).map fun scope =>
    (scope, data scope)

def ofScopes (data : Scope → Value) : Except ContextError Context :=
  match firstMalformed? data with
  | some (scope, value) => .error (.notMapping scope value)
  | none => .ok ⟨fun scope => (mappingFor? scope (data scope)).getD (.emptyScope scope)⟩

def isScopeKey : Value → Bool
  | .str name => (Scope.ofName? name).isSome
  | _ => false

/-- The error for keys that name no scope, if there are any. -/
def unknownKeys? : List Value → Option ContextError
  | [] => none
  -- A key alone is compared with no other, so it is told whatever its kind.
  | [key] => some (.unknownScopes key [])
  | key :: rest =>
    if key.keyKind != .other && rest.all (·.keyKind == key.keyKind) then
      match (key :: rest).mergeSort Value.keyLe with
      | [] => none
      | first :: others => some (.unknownScopes first others)
    else some .unorderedKeys

/-- A context from a mapping of scope names to data. Missing scopes and null ones are empty. -/
def ofEntries (entries : List (Value × Value)) : Except ContextError Context :=
  match unknownKeys? ((entries.map (·.1)).filter (!isScopeKey ·)) with
  | some e => .error e
  | none => ofScopes fun scope => (Value.lookup scope.name entries).getD .null

/-- The name under which a variable appears among the platform's metadata, if it does: what
follows `GITHUB_`, in lower case. -/
def platformName? (name : String) : Option String :=
  let mark := "GITHUB_".toList
  let text := name.toList
  if mark.isPrefixOf text && mark.length < text.length then
    some (lowerString (String.ofList (text.drop mark.length)))
  else none

def platformEntries (environ : Environ) : List (String × Value) :=
  environ.foldl
    (fun entries (name, value) =>
      -- Of two variables with one such name, the later value takes the earlier place.
      match platformName? name with
      | some key => putText key value entries
      | none => entries) []

def scopeMapping (scope : Scope) (entries : List (String × Value)) : Mapping :=
  ⟨.scope scope, entries.map fun entry => (.str entry.1, entry.2)⟩

/-- The scopes that an environment fills: all its variables, and the platform's metadata. -/
def environScopes (environ : Environ) : Scope → Value
  | .envs => (scopeMapping .envs environ).toValue
  | .github => (scopeMapping .github (platformEntries environ)).toValue
  | _ => .null

/-- A context from an environment, with data for the scopes that `others` names. -/
def ofEnviron (environ : Environ) (others : Scope → Value) : Except ContextError Context :=
  ofScopes fun scope =>
    match scope with
    | .envs | .github => environScopes environ scope
    | _ => others scope

/-- The data given for a scope by name, or the mapping that the context has. -/
def replacement (context : Context) (given : List (String × Value)) (scope : Scope) : Value :=
  (given.lookup scope.name).getD (context.scope scope).toValue

/-- The context with other data for the named scopes. -/
def replace (context : Context) (given : List (String × Value)) : Except ContextError Context :=
  match given.find? fun entry => (Scope.ofName? entry.1).isNone with
  | some (name, _) => .error (.foreignName name)
  | none => ofScopes (context.replacement given)

/-- The scopes of a context by name, in the fixed order. -/
def toEntries (context : Context) : List (Value × Value) :=
  Scope.all.map fun scope => (.str scope.name, (context.scope scope).toValue)

end Context

/-! ### Paths -/

def splitPath : List Char → List Char × List (List Char)
  | [] => ([], [])
  | c :: rest =>
    let (first, others) := splitPath rest
    if c = '.' then ([], first :: others) else (c :: first, others)

/-- A path is its segments with points between them. -/
theorem splitPath_append (path : List Char) :
    (splitPath path).1 ++ (splitPath path).2.flatMap ('.' :: ·) = path := by
  induction path with
  | nil => simp [splitPath]
  | cons c rest ih =>
    simp only [splitPath]
    by_cases h : c = '.'
    · simpa [h] using ih
    · simpa [h] using ih

def pathSegments (path : String) : String × List String :=
  let (first, others) := splitPath path.toList
  (String.ofList first, others.map String.ofList)

/-- The position in a list that a segment names: decimal digits and nothing else, however many. -/
def indexOf? (segment : String) : Option Nat :=
  let digits := segment.toList
  if !digits.isEmpty && digits.all Char.isDigit then some (digitsValue digits) else none

namespace Value

/-- The child of a value under a segment as it is written. -/
def child (container : Value) (segment : String) : Value :=
  match container with
  | .mapping _ entries => (lookup segment entries).getD .undefined
  | .list _ items => ((indexOf? segment).bind (items[·]?)).getD .undefined
  | _ => .undefined

/-- The child under a segment as it is written, or else in upper case, or else in lower case. The
first one that is not null or undefined counts; if there is none, the last one. -/
def childAnyCase (container : Value) (segment : String) : Value :=
  let exact := container.child segment
  let upper := container.child (upperString segment)
  if !exact.isNil then exact
  else if !upper.isNil then upper
  else container.child (lowerString segment)

/-- Follows segments by one kind of step. There is no way past null and undefined. -/
def descend (step : Value → String → Value) (start : Value) : List String → Value
  | [] => start
  | segment :: rest =>
    if start.isNil then .undefined else descend step (step start segment) rest

@[simp]
theorem descend_undefined (step : Value → String → Value) (segments : List String) :
    descend step .undefined segments = .undefined := by
  cases segments <;> rfl

end Value

namespace Context

/-- A variable that is there and not null. -/
def presentVariable? (environ : Environ) (name : String) : Option Value :=
  match environ.lookup name with
  | some .null => none
  | found => found

/-- A variable of the host environment, by its name as written, in upper or in lower case. -/
def hostVariable (environ : Environ) (name : String) : Value :=
  ((presentVariable? environ name <|> presentVariable? environ (upperString name))
    <|> presentVariable? environ (lowerString name)).getD .undefined

def isHostRoot (root : String) : Bool := root == "appEnv" || root == "processEnv"

def stepIn : Scope → Value → String → Value
  | .envs => Value.childAnyCase
  | _ => Value.child

def resolve (context : Context) (environ : Environ) (path : String) : Value :=
  let (root, rest) := pathSegments path
  if isHostRoot root then
    if rest.isEmpty then .undefined else hostVariable environ (".".intercalate rest)
  else
    match Scope.ofName? root with
    | some scope => Value.descend (stepIn scope) (context.scope scope).toValue rest
    | none =>
      -- Any other first segment is a variable, and no path leads past one that is not there.
      let start := (context.scope .envs).toValue.childAnyCase root
      if start.isUndefined then .undefined else Value.descend (stepIn .envs) start rest

end Context

/-! ### Operations -/

/-- What a context is made from: nothing at all, a context, or data for scopes by their names. -/
inductive ContextSource where
  | nothing
  | made (context : Context)
  | scopes (entries : List (Value × Value))

namespace ContextSource

/-- The source that a value is; none if it is neither null nor a mapping. -/
def ofValue? : Value → Option ContextSource
  | .null => some .nothing
  | .mapping _ entries => some (.scopes entries)
  | _ => none

def data? (scope : Scope) : ContextSource → Option Value
  | .nothing => none
  | .made context => some (context.scope scope).toValue
  | .scopes entries => Value.lookup scope.name entries

def normalize : ContextSource → Except ContextError Context
  | .nothing => .ok .empty
  | .made context => .ok context
  | .scopes entries => Context.ofEntries entries

end ContextSource

inductive ContextOperation where
  | normalize (source : ContextSource)
  /-- The scopes that the environment does not fill get the data in `others`. -/
  | fromEnviron (environ : Environ) (others : Scope → Value)
  | replace (given : List (String × Value))

namespace ContextOperation

def result (context : Context) : ContextOperation → Except ContextError Context
  | .normalize source => source.normalize
  | .fromEnviron environ others => Context.ofEnviron environ others
  | .replace given => context.replace given

def next (context : Context) (operation : ContextOperation) : Context :=
  match operation.result context with
  | .ok context' => context'
  | .error _ => context

def run (operations : List ContextOperation) : Context := operations.foldl next .empty

end ContextOperation

end Bulletin
