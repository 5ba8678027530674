import Bulletin.Report

/-!
# Settings

What a user can set: how deep expressions may nest, how many placeholders a template may hold, and
how much is logged. Settings come from the environment, the project's file and the user's file, in
order of falling weight, and what none of them gives is standard. The files are read before anything
is checked, the project's file first, and a setting is checked only after all layers are merged, so
a value that is hidden by another does no harm. The settings are checked in a fixed order, and the
first that fails is the error.

How variables make a document, how one document is laid over another and which values stand for an
integer is settled by a library. What it does is a parameter.
-/

namespace Bulletin

/-- How variables are named that give settings: what all names begin with, and what stands between a
section and its member. -/
structure VariableScheme where
  mark : String
  delimiter : String

/-- What settings are loaded with. Each error is a text of the library. -/
structure SettingsLibrary where
  /-- The document that variables give. -/
  document : VariableScheme → Variables → Except String Mapping
  /-- The first document with the second laid over it. -/
  merge : Mapping → Mapping → Mapping
  /-- The integer that a value stands for, from a bound on and up to another, if there is one. -/
  integer : Int → Option Int → Value → Except String Int
  /-- The integer that a value stands for, from a bound on, or none for null. -/
  optionalInteger : Int → Value → Except String (Option Int)
  /-- The one of several texts that a value is. -/
  oneOf : List String → Value → Except String String
  /-- What is said of a value in the place of a section, by the name of the section's class. -/
  noSection : String → String

/-- The parts of a settings document that are mappings themselves. -/
inductive SettingSection where
  | expressions
  | templates
  deriving DecidableEq, Repr

namespace SettingSection

def name : SettingSection → String
  | .expressions => "expressions"
  | .templates => "templates"

def member : SettingSection → String
  | .expressions => "max_depth"
  | .templates => "max_placeholders"

def className : SettingSection → String
  | .expressions => "ExpressionConfig"
  | .templates => "TemplateConfig"

def memberPath (s : SettingSection) : String := s.name ++ "." ++ s.member

end SettingSection

structure Settings where
  maxDepth : Int := 32
  maxPlaceholders : Option Int := some 1000
  verbosity : String := "warning"

/-- A value that no setting can have, with the place where it was given and what is said of it. -/
structure BadSetting where
  field : String
  message : String
  value : Value

inductive SettingsError where
  /-- A file that holds no document. -/
  | malformed (path account : String)
  /-- A file that cannot be read, or a library that breaks off. -/
  | broken (account : String)
  /-- A file whose document is no mapping. -/
  | notMapping (path kind : String)
  /-- A document with a key that is no text. -/
  | foreignKey
  | bad (setting : BadSetting)

/-- The report of an error. What breaks off and a key that is no text end the call before anything
can be told. -/
def SettingsError.report? : SettingsError → Option Report
  | .malformed path account =>
    some (.config ("Invalid YAML in " ++ path ++ ": " ++ account) none .null)
  | .broken _ => none
  | .notMapping path kind =>
    some (.config ("Config file " ++ path ++ " must contain a mapping") none (.str kind))
  | .foreignKey => none
  | .bad setting =>
    some (.config ("Invalid configuration: " ++ setting.message) (some setting.field)
      setting.value)

def Mapping.hasForeignKey (document : Mapping) : Bool :=
  document.entries.any fun entry => !entry.1.isText

/-- The document in a settings file. No file and one that holds null give an empty one. -/
def SourceFile.settingsDocument (read : DocumentReader) :
    Option SourceFile → Except SettingsError Mapping
  | none => .ok ⟨.object 0, []⟩
  | some file =>
    match file.document read with
    | .error (.malformed account) => .error (.malformed file.path account)
    | .error (.broken account) => .error (.broken account)
    | .ok .null => .ok ⟨.object 0, []⟩
    | .ok (.mapping identity entries) => .ok ⟨identity, entries⟩
    | .ok value => .error (.notMapping file.path value.kindName)

namespace Settings

def standard : Settings := {}

def verbosities : List String := ["error", "warning", "info", "debug"]

def scheme : VariableScheme := ⟨"NOTIFYCARD_", "__"⟩

variable (library : SettingsLibrary)

def readDepth : Value → Except String Int := library.integer 1 (some 100)

def readPlaceholders : Value → Except String (Option Int) := library.optionalInteger 1

def readVerbosity : Value → Except String String := library.oneOf verbosities

/-- The value given for the setting of a section, if one is given. -/
def sectionMember (s : SettingSection) (document : Mapping) : Except BadSetting (Option Value) :=
  match Value.lookup s.name document.entries with
  | none => .ok none
  | some (.mapping _ inner) => .ok (Value.lookup s.member inner)
  | some other => .error ⟨s.name, library.noSection s.className, other⟩

/-- A setting from the value given for it, or its standard value. -/
def readOr (standard : α) (field : String) (read : Value → Except String α) :
    Option Value → Except BadSetting α
  | none => .ok standard
  | some value => (read value).mapError (⟨field, ·, value⟩)

/-- The settings that a document gives. Entries that are no settings do not matter. -/
def ofDocument (document : Mapping) : Except BadSetting Settings := do
  let depth ← readOr standard.maxDepth SettingSection.expressions.memberPath (readDepth library)
    (← sectionMember library .expressions document)
  let placeholders ← readOr standard.maxPlaceholders SettingSection.templates.memberPath
    (readPlaceholders library) (← sectionMember library .templates document)
  let verbosity ← readOr standard.verbosity "verbosity" (readVerbosity library)
    (Value.lookup "verbosity" document.entries)
  return ⟨depth, placeholders, verbosity⟩

/-- The document that three layers make together, the weightiest first. -/
def layered (environment project user : Mapping) : Mapping :=
  library.merge user (library.merge project environment)

def load (read : DocumentReader) (environment : Variables) (project user : Option SourceFile) :
    Except SettingsError Settings := do
  let projectDocument ← SourceFile.settingsDocument read project
  let userDocument ← SourceFile.settingsDocument read user
  let environmentDocument ← (library.document scheme environment).mapError .broken
  let document := layered library environmentDocument projectDocument userDocument
  -- The entries of the document become named arguments, and a name is a text.
  if document.hasForeignKey then .error .foreignKey
  else (ofDocument library document).mapError .bad

end Settings

end Bulletin
