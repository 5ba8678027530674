import Bulletin.Proofs.Settings.Laws

/-!
# Layers of settings

Each setting is settled on its own. Its value is the one that the weightiest layer gives, and values
below it do not matter, except that a mapping takes in the mappings below it; no setting can be a
mapping, so this shows only in the value that is reported. Loading checks the values of the settings
one after the other, and the first that is at fault is the error.

All of this holds for every library that has the laws of one, and for every reader of documents.
-/

namespace Bulletin

inductive Setting where
  | member (s : SettingSection)
  | verbosity
  deriving DecidableEq, Repr

namespace Setting

def path : Setting → String
  | .member s => s.memberPath
  | .verbosity => "verbosity"

/-- All settings, in the order in which they are checked. -/
def all : List Setting := [.member .expressions, .member .templates, .verbosity]

theorem mem_all : ∀ setting : Setting, setting ∈ all
  | .member .expressions => by decide
  | .member .templates => by decide
  | .verbosity => by decide

/-- The value that a layer gives for a setting, if it gives one. Null is a value, too. -/
def given? (layer : Mapping) : Setting → Option Value
  | .member s =>
    match Value.lookup s.name layer.entries with
    | some (.mapping _ inner) => Value.lookup s.member inner
    | _ => none
  | .verbosity => Value.lookup "verbosity" layer.entries

/-- The value that the first of the layers gives that gives one. -/
def highest? (layers : List Mapping) (setting : Setting) : Option Value :=
  layers.findSome? fun layer => setting.given? layer

/-- The value that layers give together, the first of them uppermost. -/
def effective? (merge : Mapping → Mapping → Mapping) (layers : List Mapping) (setting : Setting) :
    Option Value :=
  layers.foldl (fun above? layer => Mapping.atop merge above? (setting.given? layer)) none

def check (library : SettingsLibrary) (value : Value) : Setting → Except String Unit
  | .member .expressions => (Settings.readDepth library value).map fun _ => ()
  | .member .templates => (Settings.readPlaceholders library value).map fun _ => ()
  | .verbosity => (Settings.readVerbosity library value).map fun _ => ()

end Setting

variable {library : SettingsLibrary}

/-! ### Values that lie over each other -/

namespace Value

/-- A value with nothing left of a mapping but that it is one. -/
def surface : Value → Value
  | .mapping _ _ => .mapping (.object 0) []
  | value => value

theorem surface_eq_iff {value other : Value} :
    value.surface = other.surface ↔
      value = other ∨ ∃ m m' : Mapping, value = m.toValue ∧ other = m'.toValue := by
  constructor
  · intro same
    cases value with
    | mapping identity entries =>
      cases other with
      | mapping identity' entries' => exact .inr ⟨⟨identity, entries⟩, ⟨_, _⟩, rfl, rfl⟩
      | _ => cases same
    | _ =>
      cases other with
      | mapping _ _ => cases same
      | _ => exact .inl same
  · rintro (rfl | ⟨m, m', rfl, rfl⟩) <;> rfl

end Value

/-- As far as can be seen from outside, the uppermost value is the value. -/
theorem Mapping.map_surface_atop (merge : Mapping → Mapping → Mapping)
    (above? below? : Option Value) :
    (atop merge above? below?).map Value.surface =
      (above?.map Value.surface).or (below?.map Value.surface) := by
  match above?, below? with
  | none, _ => rfl
  | some above, none => rw [atop_none_right, Option.map_none, Option.or_none]
  | some above, some below => cases above <;> cases below <;> rfl

namespace Setting

variable {merge : Mapping → Mapping → Mapping} {layers : List Mapping}

theorem map_surface_foldl (setting : Setting) (above? : Option Value) :
    (layers.foldl (fun above? layer => Mapping.atop merge above? (setting.given? layer))
        above?).map Value.surface =
      (above?.map Value.surface).or ((setting.highest? layers).map Value.surface) := by
  -- A fold over the rest starts from what lies above it, so that has to be arbitrary.
  induction layers generalizing above? with
  | nil => simp [highest?]
  | cons layer layers ih =>
    have first : setting.highest? (layer :: layers) =
        (setting.given? layer).or (setting.highest? layers) := by
      simp only [highest?, List.findSome?_cons]
      cases setting.given? layer <;> rfl
    rw [List.foldl_cons, ih, Mapping.map_surface_atop, first, Option.map_or, Option.or_assoc]

theorem map_surface_effective? (setting : Setting) :
    (setting.effective? merge layers).map Value.surface =
      (setting.highest? layers).map Value.surface :=
  (setting.map_surface_foldl none).trans (Option.none_or ..)

theorem effective?_eq_none_iff {setting : Setting} :
    setting.effective? merge layers = none ↔ ∀ layer ∈ layers, setting.given? layer = none := by
  rw [← Option.map_eq_none_iff, map_surface_effective?, Option.map_eq_none_iff, highest?,
    List.findSome?_eq_none_iff]

variable (merge) in
/-- What is effective is the uppermost value, or both are mappings. -/
theorem effective?_of_highest? {setting : Setting} {value : Value}
    (highest : setting.highest? layers = some value) :
    setting.effective? merge layers = some value ∨
      ∃ m merged : Mapping, value = m.toValue ∧
        setting.effective? merge layers = some merged.toValue := by
  have surface : (setting.effective? merge layers).map Value.surface =
      (some value).map Value.surface := highest ▸ setting.map_surface_effective?
  rw [Option.map_some, Option.map_eq_some_iff] at surface
  obtain ⟨effective, heffective, surface⟩ := surface
  rcases Value.surface_eq_iff.mp surface with rfl | ⟨merged, m, rfl, rfl⟩
  · exact .inl heffective
  · exact .inr ⟨m, merged, rfl, heffective⟩

end Setting

/-! ### Layers that lie over each other -/

/-- Where a layer has a section, the section is a mapping. -/
def HasMappingSections (layer : Mapping) : Prop :=
  ∀ (s : SettingSection) (value : Value), Value.lookup s.name layer.entries = some value →
    ∃ m : Mapping, value = m.toValue

namespace HasMappingSections

variable {low high : Mapping}

theorem merge (lawful : library.Lawful) (hlow : HasMappingSections low)
    (hhigh : HasMappingSections high) : HasMappingSections (library.merge low high) := by
  intro s value found
  rw [lawful.lookup_merge] at found
  cases above : Value.lookup s.name high.entries with
  | none =>
    rw [above] at found
    exact hlow s value found
  | some upper =>
    obtain ⟨m, rfl⟩ := hhigh s upper above
    cases below : Value.lookup s.name low.entries with
    | none =>
      rw [above, below] at found
      cases found
      exact ⟨m, rfl⟩
    | some lower =>
      obtain ⟨m', rfl⟩ := hlow s lower below
      rw [above, below] at found
      cases found
      exact ⟨_, rfl⟩

/-- What a setting is given by two layers, one over the other. -/
theorem given?_merge (lawful : library.Lawful) (hlow : HasMappingSections low)
    (hhigh : HasMappingSections high) (setting : Setting) :
    setting.given? (library.merge low high) =
      Mapping.atop library.merge (setting.given? high) (setting.given? low) := by
  cases setting with
  | verbosity => exact lawful.lookup_merge low high "verbosity"
  | member s =>
    simp only [Setting.given?, lawful.lookup_merge]
    cases above : Value.lookup s.name high.entries with
    | none => rfl
    | some upper =>
      obtain ⟨m, rfl⟩ := hhigh s upper above
      cases below : Value.lookup s.name low.entries with
      | none => exact (Mapping.atop_none_right ..).symm
      | some lower =>
        obtain ⟨m', rfl⟩ := hlow s lower below
        exact lawful.lookup_merge m' m s.member

end HasMappingSections

section

variable {environment project user : Mapping}

theorem hasMappingSections_layered (lawful : library.Lawful)
    (sections : ∀ layer ∈ [environment, project, user], HasMappingSections layer) :
    HasMappingSections (Settings.layered library environment project user) :=
  (sections user (by simp)).merge lawful
    ((sections project (by simp)).merge lawful (sections environment (by simp)))

theorem given?_layered (lawful : library.Lawful)
    (sections : ∀ layer ∈ [environment, project, user], HasMappingSections layer) :
    Setting.given? (Settings.layered library environment project user) =
      Setting.effective? library.merge [environment, project, user] := by
  funext setting
  have henvironment := sections environment (by simp)
  have hproject := sections project (by simp)
  rw [Settings.layered, (sections user (by simp)).given?_merge lawful
    (hproject.merge lawful henvironment), hproject.given?_merge lawful henvironment]
  rfl

theorem hasForeignKey_layered (lawful : library.Lawful) :
    (Settings.layered library environment project user).hasForeignKey ↔
      ∃ layer ∈ [environment, project, user], layer.hasForeignKey := by
  rw [Settings.layered, lawful.hasForeignKey_merge, lawful.hasForeignKey_merge]
  simp [or_assoc, or_comm]

theorem not_hasForeignKey_layered (lawful : library.Lawful) :
    ¬ (Settings.layered library environment project user).hasForeignKey ↔
      ∀ layer ∈ [environment, project, user], ¬ layer.hasForeignKey := by
  rw [hasForeignKey_layered lawful]
  simp only [not_exists, not_and]

end

/-! ### Checking -/

namespace Settings

variable {α : Type} {standard : α} {field : String} {read : Value → Except String α}
  {value? : Option Value}

/-- What is read from the value given for a setting, or the standard without one. -/
def IsRead (read : Value → Except String α) (standard : α) (value? : Option Value) (a : α) :
    Prop :=
  match value? with
  | none => a = standard
  | some value => read value = .ok a

theorem readOr_eq_ok_iff {a : α} :
    readOr standard field read value? = .ok a ↔ IsRead read standard value? a := by
  cases value? with
  | none => simp [readOr, IsRead, eq_comm]
  | some value => exact mapError_eq_ok_iff

theorem fault?_readOr :
    fault? (readOr standard field read value?) =
      value?.bind fun value => (fault? (read value)).map (⟨field, ·, value⟩) := by
  cases value? with
  | none => rfl
  | some value => exact fault?_mapError _ (read value)

theorem sectionMember_eq {document : Mapping} (h : HasMappingSections document)
    (s : SettingSection) :
    sectionMember library s document = pure ((Setting.member s).given? document) := by
  rw [sectionMember, Setting.given?]
  cases found : Value.lookup s.name document.entries with
  | none => rfl
  | some value =>
    obtain ⟨m, rfl⟩ := h s value found
    rfl

end Settings

namespace Setting

variable (library) in
def verdict (value? : Setting → Option Value) (setting : Setting) : Except BadSetting Unit :=
  Settings.readOr () setting.path (fun value => setting.check library value) (value? setting)

variable (library) in
/-- Every value that is given passes its check. -/
def AllPass (value? : Setting → Option Value) : Prop :=
  ∀ (setting : Setting) (value : Value), value? setting = some value →
    setting.check library value = .ok ()

variable (library) in
/-- The first setting whose value fails its check, with that value and what is said of it. -/
def FirstBad (value? : Setting → Option Value) (bad : BadSetting) : Prop :=
  ∃ before setting after value message, all = before ++ setting :: after ∧
    (∀ earlier ∈ before, ∀ given, value? earlier = some given →
      earlier.check library given = .ok ()) ∧
    value? setting = some value ∧ setting.check library value = .error message ∧
    bad = ⟨setting.path, message, value⟩

variable {setting : Setting} {value? : Setting → Option Value}

theorem exists_verdict_eq_ok_iff :
    (∃ done, setting.verdict library value? = .ok done) ↔
      ∀ value, value? setting = some value → setting.check library value = .ok () := by
  simp only [verdict, Settings.readOr_eq_ok_iff]
  cases value? setting with
  | none => simp [Settings.IsRead]
  | some value => cases h : setting.check library value <;> simp [Settings.IsRead, h]

theorem verdict_eq_error_iff {bad : BadSetting} :
    setting.verdict library value? = .error bad ↔
      ∃ value message, value? setting = some value ∧
        setting.check library value = .error message ∧ bad = ⟨setting.path, message, value⟩ := by
  rw [← fault?_eq_some_iff, verdict, Settings.fault?_readOr]
  simp [Option.bind_eq_some_iff, eq_comm (a := bad)]

theorem firstFault?_verdict_eq_none_iff :
    firstFault? (verdict library value?) all = none ↔ AllPass library value? := by
  simp only [firstFault?_eq_none_iff, mem_all, true_implies, exists_verdict_eq_ok_iff, AllPass]

theorem firstFault?_verdict_eq_some_iff {bad : BadSetting} :
    firstFault? (verdict library value?) all = some bad ↔ FirstBad library value? bad := by
  simp only [firstFault?_eq_some_iff, exists_verdict_eq_ok_iff, verdict_eq_error_iff]
  constructor
  · rintro ⟨before, setting, after, order, ⟨value, message, given, fails, rfl⟩, passes⟩
    exact ⟨before, setting, after, value, message, order, passes, given, fails, rfl⟩
  · rintro ⟨before, setting, after, value, message, order, passes, given, fails, rfl⟩
    exact ⟨before, setting, after, order, ⟨value, message, given, fails, rfl⟩, passes⟩

/-- No setting can be a mapping. -/
theorem exists_check_mapping (lawful : library.Lawful) (setting : Setting) (m : Mapping) :
    ∃ message, setting.check library m.toValue = .error message := by
  simp only [← fault?_eq_some_iff]
  match setting with
  | .member .expressions =>
    simpa [check, Settings.readDepth] using lawful.integer_mapping 1 (some 100) m
  | .member .templates =>
    simpa [check, Settings.readPlaceholders] using lawful.optionalInteger_mapping 1 m
  | .verbosity =>
    simpa [check, Settings.readVerbosity] using lawful.oneOf_mapping Settings.verbosities m

theorem check_mapping_ne_ok (lawful : library.Lawful) (setting : Setting) (m : Mapping) :
    setting.check library m.toValue ≠ .ok () := by
  obtain ⟨message, fails⟩ := setting.exists_check_mapping lawful m
  simp [fails]

/-- A value that is no mapping hides those below it. In the place of a mapping there is another one,
which is no value of the setting either. -/
theorem effective?_of_highest?_of_lawful (lawful : library.Lawful) {layers : List Mapping}
    {value : Value} (highest : setting.highest? layers = some value) :
    ((∀ m : Mapping, value ≠ m.toValue) → setting.effective? library.merge layers = some value) ∧
      ∀ m : Mapping, value = m.toValue →
        ∃ (merged : Mapping) (message : String),
          setting.effective? library.merge layers = some merged.toValue ∧
            setting.check library merged.toValue = .error message := by
  rcases effective?_of_highest? library.merge highest with
    effective | ⟨m, merged, rfl, effective⟩
  · refine ⟨fun _ => effective, ?_⟩
    rintro m rfl
    obtain ⟨message, fails⟩ := setting.exists_check_mapping lawful m
    exact ⟨m, message, effective, fails⟩
  · obtain ⟨message, fails⟩ := setting.exists_check_mapping lawful merged
    exact ⟨fun other => absurd rfl (other m), fun _ _ => ⟨merged, message, effective, fails⟩⟩

/-- To find out whether everything passes it is enough to look at the uppermost values. -/
theorem allPass_effective?_iff (lawful : library.Lawful) {layers : List Mapping} :
    AllPass library (effective? library.merge layers) ↔ AllPass library (highest? layers) := by
  refine forall_congr' fun setting => ?_
  cases highest : setting.highest? layers with
  | none =>
    have absent : setting.effective? library.merge layers = none := by
      rw [← Option.map_eq_none_iff, map_surface_effective?, highest, Option.map_none]
    simp [absent]
  | some value =>
    rcases effective?_of_highest? library.merge highest with
      effective | ⟨m, merged, rfl, effective⟩
    · simp [effective]
    · simp [effective, setting.check_mapping_ne_ok lawful]

end Setting

/-! ### Settings from a document -/

namespace Settings

variable (library) in
/-- Each setting is read from its value, or standard without one. -/
structure Follow (settings : Settings) (value? : Setting → Option Value) : Prop where
  maxDepth : IsRead (readDepth library) standard.maxDepth (value? (.member .expressions))
    settings.maxDepth
  maxPlaceholders : IsRead (readPlaceholders library) standard.maxPlaceholders
    (value? (.member .templates)) settings.maxPlaceholders
  verbosity : IsRead (readVerbosity library) standard.verbosity (value? .verbosity)
    settings.verbosity

namespace Follow

variable {settings : Settings} {value? : Setting → Option Value}

theorem maxDepth_bounds (lawful : library.Lawful) (h : Follow library settings value?) :
    1 ≤ settings.maxDepth ∧ settings.maxDepth ≤ 100 := by
  have read := h.maxDepth
  rw [IsRead.eq_def] at read
  split at read
  · rw [read]
    decide
  · obtain ⟨least, most⟩ := lawful.integer_bounds _ _ _ _ read
    exact ⟨least, most 100 rfl⟩

theorem one_le_of_maxPlaceholders (lawful : library.Lawful) (h : Follow library settings value?)
    {limit : Int} (hlimit : settings.maxPlaceholders = some limit) : 1 ≤ limit := by
  have read := h.maxPlaceholders
  rw [IsRead.eq_def] at read
  split at read
  · rw [hlimit] at read
    cases read
    decide
  · exact lawful.optionalInteger_bound _ _ _ read limit hlimit

end Follow

section

variable {document : Mapping} (sections : HasMappingSections document)
include sections

theorem follow_of_ofDocument {settings : Settings}
    (h : ofDocument library document = .ok settings) :
    Follow library settings (Setting.given? document) := by
  simp only [ofDocument, sectionMember_eq sections, pure_bind] at h
  obtain ⟨depth, hdepth, h⟩ := bind_eq_ok_iff.mp h
  obtain ⟨placeholders, hplaceholders, h⟩ := bind_eq_ok_iff.mp h
  obtain ⟨verbosity, hverbosity, h⟩ := bind_eq_ok_iff.mp h
  cases h
  exact ⟨readOr_eq_ok_iff.mp hdepth, readOr_eq_ok_iff.mp hplaceholders,
    readOr_eq_ok_iff.mp hverbosity⟩

/-- Reading settings fails with the fault of the first one whose value is at fault. -/
theorem fault?_ofDocument :
    fault? (ofDocument library document) =
      firstFault? (Setting.verdict library (Setting.given? document)) Setting.all := by
  simp only [ofDocument, sectionMember_eq sections, pure_bind]
  apply Eq.trans
  -- Whatever one setting is, the next ones fail in the same way.
  · exact fault?_bind fun _ => fault?_bind fun _ => fault?_bind fun _ => rfl
  · simp only [Setting.all, firstFault?_cons, Setting.verdict, fault?_readOr, Setting.check,
      fault?_map]
    rfl

theorem exists_ofDocument_eq_ok_iff :
    (∃ settings, ofDocument library document = .ok settings) ↔
      Setting.AllPass library (Setting.given? document) := by
  rw [← fault?_eq_none_iff, fault?_ofDocument sections, Setting.firstFault?_verdict_eq_none_iff]

theorem ofDocument_eq_error_iff {bad : BadSetting} :
    ofDocument library document = .error bad ↔
      Setting.FirstBad library (Setting.given? document) bad := by
  rw [← fault?_eq_some_iff, fault?_ofDocument sections, Setting.firstFault?_verdict_eq_some_iff]

end

/-! ### Loading -/

section

variable {read : DocumentReader} {environment : Variables} {project user : Option SourceFile}
variable {upper middle lower : Mapping}

theorem load_eq (hupper : library.document scheme environment = .ok upper)
    (hmiddle : SourceFile.settingsDocument read project = .ok middle)
    (hlower : SourceFile.settingsDocument read user = .ok lower) :
    load library read environment project user =
      if (layered library upper middle lower).hasForeignKey then .error .foreignKey
      else (ofDocument library (layered library upper middle lower)).mapError .bad := by
  rw [load, hupper, hmiddle, hlower]
  rfl

section

variable (lawful : library.Lawful)
  (hupper : library.document scheme environment = .ok upper)
  (hmiddle : SourceFile.settingsDocument read project = .ok middle)
  (hlower : SourceFile.settingsDocument read user = .ok lower)
  (sections : ∀ layer ∈ [upper, middle, lower], HasMappingSections layer)
include lawful hupper hmiddle hlower sections

theorem exists_load_eq_ok_iff :
    (∃ settings, load library read environment project user = .ok settings) ↔
      (∀ layer ∈ [upper, middle, lower], ¬ layer.hasForeignKey) ∧
        Setting.AllPass library (Setting.effective? library.merge [upper, middle, lower]) := by
  have whole := hasMappingSections_layered lawful sections
  rw [load_eq hupper hmiddle hlower, ← not_hasForeignKey_layered lawful,
    ← given?_layered lawful sections, ← exists_ofDocument_eq_ok_iff whole]
  split
  · next met => simp [met]
  · next unmet => simp [unmet, mapError_eq_ok_iff]

theorem follow_of_load {settings : Settings}
    (h : load library read environment project user = .ok settings) :
    Follow library settings (Setting.effective? library.merge [upper, middle, lower]) := by
  rw [load_eq hupper hmiddle hlower] at h
  rw [← given?_layered lawful sections]
  split at h
  · cases h
  · exact follow_of_ofDocument (hasMappingSections_layered lawful sections)
      (mapError_eq_ok_iff.mp h)

theorem load_eq_error_iff {e : SettingsError} :
    load library read environment project user = .error e ↔
      (∃ layer ∈ [upper, middle, lower], layer.hasForeignKey) ∧ e = .foreignKey ∨
      (∀ layer ∈ [upper, middle, lower], ¬ layer.hasForeignKey) ∧
        ∃ bad, Setting.FirstBad library
          (Setting.effective? library.merge [upper, middle, lower]) bad ∧ e = .bad bad := by
  have whole := hasMappingSections_layered lawful sections
  rw [load_eq hupper hmiddle hlower, ← hasForeignKey_layered lawful,
    ← not_hasForeignKey_layered lawful, ← given?_layered lawful sections]
  split
  · next met =>
    simp only [met, not_true_eq_false, false_and, or_false, true_and, Except.error.injEq, eq_comm]
  · next unmet =>
    simp only [unmet, Bool.false_eq_true, not_false_eq_true, false_and, false_or, true_and,
      mapError_eq_error_iff, ofDocument_eq_error_iff whole]
    exact exists_congr fun bad => and_congr_right fun _ => eq_comm

end

/-- Settings are loaded layer by layer and setting by setting. What is effective for a setting is
what the uppermost layer gives that gives anything, or a merged mapping in place of a mapping, which
no setting can be. Where all keys are texts, loading succeeds exactly if what is effective for each
setting passes its check, for which it is enough to look at the uppermost values; the settings are
then read from what is effective. Otherwise the error tells the first setting that is at fault, and
what is effective for it. -/
theorem load_by_layers (lawful : library.Lawful)
    (hupper : library.document scheme environment = .ok upper)
    (hmiddle : SourceFile.settingsDocument read project = .ok middle)
    (hlower : SourceFile.settingsDocument read user = .ok lower)
    (sections : ∀ layer ∈ [upper, middle, lower], HasMappingSections layer) :
    let layers := [upper, middle, lower]
    let effective? := Setting.effective? library.merge layers
    (∀ setting : Setting,
        (effective? setting = none ↔ ∀ layer ∈ layers, setting.given? layer = none) ∧
        ∀ value, setting.highest? layers = some value →
          ((∀ m : Mapping, value ≠ m.toValue) → effective? setting = some value) ∧
          ∀ m : Mapping, value = m.toValue →
            ∃ (merged : Mapping) (message : String), effective? setting = some merged.toValue ∧
              setting.check library merged.toValue = .error message) ∧
      ((∃ settings, load library read environment project user = .ok settings) ↔
        (∀ layer ∈ layers, ¬ layer.hasForeignKey) ∧ Setting.AllPass library effective?) ∧
      (Setting.AllPass library effective? ↔ Setting.AllPass library (Setting.highest? layers)) ∧
      (∀ settings, load library read environment project user = .ok settings →
        Follow library settings effective? ∧ 1 ≤ settings.maxDepth ∧ settings.maxDepth ≤ 100 ∧
          ∀ limit, settings.maxPlaceholders = some limit → 1 ≤ limit) ∧
      ∀ e, load library read environment project user = .error e ↔
        (∃ layer ∈ layers, layer.hasForeignKey) ∧ e = .foreignKey ∨
        (∀ layer ∈ layers, ¬ layer.hasForeignKey) ∧
          ∃ bad, Setting.FirstBad library effective? bad ∧ e = .bad bad ∧
            e.report? = some (.config ("Invalid configuration: " ++ bad.message) (some bad.field)
              bad.value) := by
  intro layers effective?
  refine ⟨fun setting => ⟨Setting.effective?_eq_none_iff, fun value =>
      setting.effective?_of_highest?_of_lawful lawful⟩,
    exists_load_eq_ok_iff lawful hupper hmiddle hlower sections,
    Setting.allPass_effective?_iff lawful, fun settings h => ?_, fun e => ?_⟩
  · have follow := follow_of_load lawful hupper hmiddle hlower sections h
    obtain ⟨least, most⟩ := follow.maxDepth_bounds lawful
    exact ⟨follow, least, most, fun limit => follow.one_le_of_maxPlaceholders lawful⟩
  · rw [load_eq_error_iff lawful hupper hmiddle hlower sections]
    refine or_congr Iff.rfl (and_congr Iff.rfl (exists_congr fun bad => ?_))
    refine and_congr Iff.rfl ⟨?_, And.left⟩
    rintro rfl
    exact ⟨rfl, rfl⟩

end

theorem hasMappingSections_memberDocument (s : SettingSection) (value : Value) :
    HasMappingSections (Host.memberDocument s value) := by
  intro t found hfound
  by_cases same : Value.str s.name = .str t.name
  · rw [Host.memberDocument, same, Value.lookup_cons_self] at hfound
    cases hfound
    exact ⟨⟨_, _⟩, rfl⟩
  · rw [Host.memberDocument, Value.lookup_cons_of_ne same] at hfound
    cases hfound

/-- A depth that is no number does no harm in the project's file below one from the environment. -/
theorem load_over_bad_depth :
    let text := "expressions:\n  max_depth: deep\n"
    let document := Host.memberDocument .expressions (.str "deep")
    let read := DocumentReader.ofTable [(text, document.toValue)]
    ∃ settings,
      load Host.settingsLibrary read [("NOTIFYCARD_EXPRESSIONS__MAX_DEPTH", "8")]
          (some ⟨"notifycard.yaml", .ok text⟩) none = .ok settings ∧
        settings.maxDepth = 8 := by
  intro text document read
  have upper := Host.documentOfVariables_member (s := .expressions)
    (show lowerString "NOTIFYCARD_EXPRESSIONS__MAX_DEPTH" = _ by decide +kernel) "8"
  have middle : SourceFile.settingsDocument read (some ⟨"notifycard.yaml", .ok text⟩) =
      .ok document := rfl
  have lower : SourceFile.settingsDocument read none = .ok ⟨.object 0, []⟩ := rfl
  have sections : ∀ layer ∈ [Host.memberDocument .expressions (.str "8"), document,
      ⟨.object 0, []⟩], HasMappingSections layer := by
    simp only [List.forall_mem_cons, List.not_mem_nil, false_implies, implies_true, and_true]
    exact ⟨hasMappingSections_memberDocument _ _, hasMappingSections_memberDocument _ _,
      fun _ _ found => nomatch found⟩
  obtain ⟨-, succeeds, highest, follow, -⟩ :=
    load_by_layers Host.settingsLibrary_lawful upper middle lower sections
  obtain ⟨settings, loaded⟩ := succeeds.mpr ⟨by decide, highest.mpr (by
    rintro ((_ | _) | _) value given <;> cases given
    rfl)⟩
  have depth : readDepth Host.settingsLibrary (.str "8") = .ok settings.maxDepth :=
    (follow settings loaded).1.maxDepth
  have eight : readDepth Host.settingsLibrary (.str "8") = .ok 8 := rfl
  exact ⟨settings, loaded, (Except.ok.inj (eight.symm.trans depth)).symm⟩

/-- Two mappings for one setting lie over each other: the value that is reported is not the one that
the uppermost layer gives. A key that is a number ends the call without a report, although no layer
gives a value for any setting. -/
theorem load_of_mappings_and_number :
    let inner (key : String) : Value := .mapping (.object 1) [(.str key, .null)]
    let document (key : String) := Host.memberDocument .expressions (inner key)
    let text (key : String) := "expressions:\n  max_depth:\n    " ++ key ++ ": null\n"
    let number : Mapping := ⟨.object 0, [(.int 7, .null)]⟩
    let read := DocumentReader.ofTable [(text "a", (document "a").toValue),
      (text "b", (document "b").toValue), ("7: null\n", number.toValue)]
    let merged : Value := .mapping (.object 1) [(.str "b", .null), (.str "a", .null)]
    Host.settingsLibrary.document scheme [] = .ok ⟨.object 0, []⟩ ∧
      ((Setting.member .expressions).highest? [⟨.object 0, []⟩, document "a", document "b"] =
          some (inner "a") ∧
        load Host.settingsLibrary read [] (some ⟨"notifycard.yaml", .ok (text "a")⟩)
            (some ⟨"home/.config/notifycard/config.yaml", .ok (text "b")⟩) =
          .error (.bad ⟨"expressions.max_depth", "Input should be a valid integer", merged⟩) ∧
        merged ≠ inner "a") ∧
      (∀ setting : Setting, setting.highest? [⟨.object 0, []⟩, number, ⟨.object 0, []⟩] = none) ∧
      load Host.settingsLibrary read [] (some ⟨"notifycard.yaml", .ok "7: null\n"⟩) none =
        .error .foreignKey ∧
      SettingsError.foreignKey.report? = none := by
  intro inner document text number read merged
  have upper : Host.settingsLibrary.document scheme [] = .ok ⟨.object 0, []⟩ := rfl
  have absent : SourceFile.settingsDocument read none = .ok ⟨.object 0, []⟩ := rfl
  have middle (key : String) (known : key ∈ ["a", "b"]) (path : String) :
      SourceFile.settingsDocument read (some ⟨path, .ok (text key)⟩) = .ok (document key) := by
    simp only [List.mem_cons, List.not_mem_nil, or_false] at known
    obtain rfl | rfl := known <;> rfl
  have numbered : SourceFile.settingsDocument read
      (some ⟨"notifycard.yaml", .ok "7: null\n"⟩) = .ok number := rfl
  refine ⟨upper, ⟨rfl, ?_, by simp [merged, inner]⟩, ?_, ?_, rfl⟩
  · rw [load_eq upper (middle "a" (by simp) _) (middle "b" (by simp) _)]
    rfl
  · rintro ((_ | _) | _) <;> rfl
  · rw [load_eq upper numbered absent]
    rfl

end Settings

end Bulletin
