import Bulletin.Number.Decimal
import Bulletin.Text.Basic

/-!
# Values

The data that expressions compute with: what JSON can hold, a marker for "no value here", and
dates, which are opaque. Integers are exact and of any size; the numbers of expressions are
doubles. Lists, mappings and dates carry an identity, by which two that look alike are told
apart. A mapping keeps its entries in insertion order, and its keys may be values of any kind.
The six scopes are the named places in which the data of a workflow run is kept.
-/

namespace Bulletin

/-! ### Scopes -/

/-- A named place for data: environment variables, workflow variables, platform metadata, the
matrix combination, the job, and the outputs of earlier steps. -/
inductive Scope where
  | envs
  | vars
  | github
  | matrix
  | job
  | steps
  deriving DecidableEq, Repr

namespace Scope

/-- All scopes, in the order in which they are checked and listed. -/
def all : List Scope := [.envs, .vars, .github, .matrix, .job, .steps]

def name : Scope → String
  | .envs => "envs"
  | .vars => "vars"
  | .github => "github"
  | .matrix => "matrix"
  | .job => "job"
  | .steps => "steps"

def ofName? (s : String) : Option Scope := all.find? fun scope => scope.name == s

theorem mem_all (scope : Scope) : scope ∈ all := by cases scope <;> decide

theorem ofName?_name (scope : Scope) : ofName? scope.name = some scope := by
  cases scope <;> decide

theorem ofName?_eq_some_iff {s : String} {scope : Scope} :
    ofName? s = some scope ↔ s = scope.name := by
  constructor
  · intro h
    have found := List.find?_some h
    exact (beq_iff_eq.mp found).symm
  · rintro rfl
    exact ofName?_name scope

end Scope

/-! ### Values -/

/-- Which object a list, a mapping or a date is: the one made for a scope, or the object with
a given number. -/
inductive Identity where
  | scope (scope : Scope)
  | object (number : Nat)
  deriving DecidableEq, Repr

inductive Value where
  | null
  | undefined
  | bool (b : Bool)
  | int (n : Int)
  | double (x : Double)
  | str (s : String)
  | list (identity : Identity) (items : List Value)
  | mapping (identity : Identity) (entries : List (Value × Value))
  | date (identity : Identity) (text : String)
  deriving Inhabited

structure Mapping where
  identity : Identity
  entries : List (Value × Value)

/-- Puts an entry into an association list. A key that is there already keeps its place. -/
def putEntry (same : κ → κ → Bool) (key : κ) (value : α) : List (κ × α) → List (κ × α)
  | [] => [(key, value)]
  | (k, v) :: rest =>
    if same k key then (k, value) :: rest else (k, v) :: putEntry same key value rest

def putText (key : String) (value : α) (entries : List (String × α)) : List (String × α) :=
  putEntry (· == ·) key value entries

@[simp]
theorem lookup_putText_self (key : String) (value : α) (entries : List (String × α)) :
    (putText key value entries).lookup key = some value := by
  induction entries with
  | nil => simp [putText, putEntry]
  | cons entry rest ih =>
    obtain ⟨k, v⟩ := entry
    simp only [putText, putEntry] at ih ⊢
    by_cases h : k = key
    · simp [h]
    · have hk : (key == k) = false := by simpa using fun e => h e.symm
      simp [h, List.lookup_cons, hk, ih]

theorem lookup_putText_of_ne {key other : String} (h : other ≠ key) (value : α)
    (entries : List (String × α)) :
    (putText key value entries).lookup other = entries.lookup other := by
  have hb : (other == key) = false := by simpa using h
  induction entries with
  | nil => simp [putText, putEntry, List.lookup_cons, hb]
  | cons entry rest ih =>
    obtain ⟨k, v⟩ := entry
    simp only [putText, putEntry] at ih ⊢
    by_cases hk : k = key
    · simp [hk, List.lookup_cons, hb]
    · simp [hk, List.lookup_cons, ih]

theorem map_fst_putText (key : String) (value : α) (entries : List (String × α)) :
    (putText key value entries).map (·.1) =
      if key ∈ entries.map (·.1) then entries.map (·.1) else entries.map (·.1) ++ [key] := by
  induction entries with
  | nil => simp [putText, putEntry]
  | cons entry rest ih =>
    obtain ⟨k, v⟩ := entry
    simp only [putText, putEntry] at ih ⊢
    by_cases hk : k = key
    · simp [hk]
    · have hk' : ¬ key = k := fun e => hk e.symm
      simp only [hk, beq_iff_eq, if_false, List.map_cons, ih, List.mem_cons, hk', false_or]
      split <;> simp

theorem putText_of_not_mem {key : String} {entries : List (String × α)}
    (h : key ∉ entries.map Prod.fst) (value : α) :
    putText key value entries = entries ++ [(key, value)] := by
  induction entries with
  | nil => rfl
  | cons entry entries ih =>
    obtain ⟨k, v⟩ := entry
    obtain ⟨hne, hrest⟩ := not_or.mp (mt List.mem_cons.mpr h)
    have differ : (k == key) = false := by simpa using fun heq => hne heq.symm
    have rest := ih hrest
    simp only [putText, putEntry, differ, Bool.false_eq_true, if_false, List.cons_append] at rest ⊢
    rw [rest]

theorem nodup_putText {key : String} {value : α} {entries : List (String × α)}
    (h : (entries.map Prod.fst).Nodup) : ((putText key value entries).map Prod.fst).Nodup := by
  rw [map_fst_putText]
  split
  · exact h
  · next new =>
    refine List.nodup_append.mpr ⟨h, List.pairwise_singleton _ key, ?_⟩
    rintro k hk _ hkey rfl
    exact new (List.mem_singleton.mp hkey ▸ hk)

theorem forall_putText {p : α → Prop} {key : String} {value : α} {entries : List (String × α)}
    (hvalue : p value) (h : ∀ entry ∈ entries, p entry.2) :
    ∀ entry ∈ putText key value entries, p entry.2 := by
  induction entries with
  | nil => simpa [putText, putEntry] using hvalue
  | cons first rest ih =>
    obtain ⟨hfirst, hrest⟩ := List.forall_mem_cons.mp h
    simp only [putText, putEntry] at ih ⊢
    split
    · exact List.forall_mem_cons.mpr ⟨hvalue, hrest⟩
    · exact List.forall_mem_cons.mpr ⟨hfirst, ih hrest⟩

theorem lookup_eq_some_iff_mem {entries : List (String × α)}
    (distinct : (entries.map Prod.fst).Nodup) {name : String} {a : α} :
    entries.lookup name = some a ↔ (name, a) ∈ entries := by
  induction entries with
  | nil => simp
  | cons entry entries ih =>
    obtain ⟨k, b⟩ := entry
    obtain ⟨new, distinct⟩ := List.nodup_cons.mp distinct
    by_cases hk : name = k
    · subst hk
      have absent : (name, a) ∉ entries := fun h => new (List.mem_map.mpr ⟨_, h, rfl⟩)
      simp [absent, eq_comm]
    · have differs : (name == k) = false := by simpa using hk
      simp [List.lookup_cons, differs, ih distinct, hk]

namespace Value

def isNil : Value → Bool
  | .null => true
  | .undefined => true
  | _ => false

def isUndefined : Value → Bool
  | .undefined => true
  | _ => false

theorem isUndefined_iff {v : Value} : v.isUndefined ↔ v = .undefined := by
  cases v <;> simp [isUndefined]

def isNumber : Value → Bool
  | .int _ => true
  | .double _ => true
  | _ => false

def isStructured : Value → Bool
  | .list _ _ => true
  | .mapping _ _ => true
  | _ => false

def kindName : Value → String
  | .null => "NoneType"
  | .undefined => "_Undefined"
  | .bool _ => "bool"
  | .int _ => "int"
  | .double _ => "float"
  | .str _ => "str"
  | .list _ _ => "list"
  | .mapping _ _ => "dict"
  | .date _ _ => "date"

/-- Everything counts as true but false, null, undefined, the empty text, zero and NaN. -/
def truthy : Value → Bool
  | .null => false
  | .undefined => false
  | .bool b => b
  | .int n => n != 0
  | .double x => !(x.isZero || x.isNaN)
  | .str s => s != ""
  | _ => true

def sameText : Value → Value → Bool
  | .str a, .str b => a == b
  | _, _ => false

/-- The entry of a text key. A key that is not a text is never met. -/
def lookup (key : String) (entries : List (Value × Value)) : Option Value :=
  (entries.find? fun entry => entry.1.sameText (.str key)).map (·.2)

end Value

namespace Mapping

def toValue (m : Mapping) : Value := .mapping m.identity m.entries

/-- The mapping that stands for a scope nothing was given for. -/
def emptyScope (scope : Scope) : Mapping := ⟨.scope scope, []⟩

end Mapping

/-! ### Values in messages -/

/-- A part of a date without the zeros in front. -/
def datePart (text : String) : String :=
  String.ofList (decimalDigits (digitsValue text.toList))

namespace Value

/-- A date inside a list or a mapping, from its text `YYYY-MM-DD`. -/
def dateInside (text : String) : String :=
  "datetime.date(" ++ ", ".intercalate ((text.splitOn "-").map datePart) ++ ")"

mutual

/-- The text of a value inside a list or a mapping. -/
def inner : Value → String
  | .null => "None"
  | .undefined => "UNDEFINED"
  | .bool b => if b then "True" else "False"
  | .int n => String.ofList (intText n)
  | .double x => String.ofList x.fullText
  | .str s => quoted s
  | .list _ items => "[" ++ ", ".intercalate (innerItems items) ++ "]"
  | .mapping _ entries => "\x7b" ++ ", ".intercalate (innerEntries entries) ++ "\x7d"
  | .date _ text => dateInside text

def innerItems : List Value → List String
  | [] => []
  | v :: rest => inner v :: innerItems rest

def innerEntries : List (Value × Value) → List String
  | [] => []
  | (k, v) :: rest => (inner k ++ ": " ++ inner v) :: innerEntries rest

end

def display : Value → String
  | .str s => s
  | .date _ text => text
  | v => inner v

end Value

end Bulletin
