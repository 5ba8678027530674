import Bulletin.Host.Settings
import Bulletin.Proofs.FirstFault

/-!
# Laws of a library for settings

What loading settings relies on: documents are merged recursively and what lies above wins, no key
that is a text becomes another one, integers keep within the bounds that are asked for, and a
mapping is no value of a setting. The library that the program runs with has these laws.
-/

namespace Bulletin

namespace Mapping

variable (merge : Mapping → Mapping → Mapping)

/-- What two mappings have for a key once they are merged, from what each of them has for it. Two
mappings are merged, and anything else that lies above hides what is below. -/
def atop : Option Value → Option Value → Option Value
  | none, below? => below?
  | some (.mapping identity above), some (.mapping identity' below) =>
    some (merge ⟨identity', below⟩ ⟨identity, above⟩).toValue
  | some above, _ => some above

@[simp]
theorem atop_none_right (above? : Option Value) : atop merge above? none = above? := by
  cases above? with
  | none => rfl
  | some above => cases above <;> rfl

end Mapping

namespace SettingsLibrary

/-- What is assumed of a library for settings. -/
structure Lawful (library : SettingsLibrary) : Prop where
  lookup_merge : ∀ (low high : Mapping) (name : String),
    Value.lookup name (library.merge low high).entries =
      Mapping.atop library.merge (Value.lookup name high.entries) (Value.lookup name low.entries)
  hasForeignKey_merge : ∀ low high : Mapping,
    (library.merge low high).hasForeignKey = (low.hasForeignKey || high.hasForeignKey)
  integer_bounds : ∀ low high? value n, library.integer low high? value = .ok n →
    low ≤ n ∧ ∀ high ∈ high?, n ≤ high
  optionalInteger_bound : ∀ low value limit, library.optionalInteger low value = .ok limit →
    ∀ n ∈ limit, low ≤ n
  integer_mapping : ∀ low high? (m : Mapping),
    ∃ message, library.integer low high? m.toValue = .error message
  optionalInteger_mapping : ∀ low (m : Mapping),
    ∃ message, library.optionalInteger low m.toValue = .error message
  oneOf_mapping : ∀ names (m : Mapping), ∃ message, library.oneOf names m.toValue = .error message

end SettingsLibrary

/-- A reader that knows some texts and the documents in them, and no others. -/
def DocumentReader.ofTable (table : List (String × Value)) : DocumentReader := fun text =>
  match table.lookup text with
  | some document => .ok document
  | none => .error (.malformed "the text is no document")

/-! ### The laws of the running library -/

namespace Value

theorem lookup_cons_self (name : String) (value : Value) (rest : List (Value × Value)) :
    lookup name ((.str name, value) :: rest) = some value := by
  simp [lookup, sameText]

theorem lookup_cons_of_ne {key : Value} {name : String} (other : key ≠ .str name) (value : Value)
    (rest : List (Value × Value)) : lookup name ((key, value) :: rest) = lookup name rest := by
  cases key with
  | str s =>
    have differ : s ≠ name := fun same => other (congrArg Value.str same)
    simp [lookup, sameText, differ]
  | _ => rfl

theorem lookup_append (name : String) (first second : List (Value × Value)) :
    lookup name (first ++ second) = (lookup name first).or (lookup name second) := by
  simp only [lookup, List.find?_append]
  cases first.find? _ <;> rfl

end Value

namespace Host

variable {low high : List (Value × Value)} {name : String}

theorem lookup_overlayEntries :
    Value.lookup name (overlayEntries high low) =
      (Value.lookup name low).map fun below =>
        match Value.lookup name high with
        | some above => overlay below above
        | none => below := by
  induction low with
  | nil => rfl
  | cons entry low ih =>
    obtain ⟨key, below⟩ := entry
    by_cases same : key = .str name
    · subst same
      rw [overlayEntries, Value.lookup_cons_self, Value.lookup_cons_self]
      rfl
    · have kept : ∃ value, overlayEntries high ((key, below) :: low) =
          (key, value) :: overlayEntries high low := by
        cases key <;> exact ⟨_, rfl⟩
      obtain ⟨value, kept⟩ := kept
      rw [kept, Value.lookup_cons_of_ne same, Value.lookup_cons_of_ne same, ih]

theorem lookup_entriesBeside (absent : Value.lookup name low = none) :
    Value.lookup name (entriesBeside low high) = Value.lookup name high := by
  induction high with
  | nil => rfl
  | cons entry high ih =>
    obtain ⟨key, above⟩ := entry
    rw [entriesBeside] at ih ⊢
    by_cases same : key = .str name
    · subst same
      have beside : isBeside low (.str name) := by rw [isBeside, absent, Option.isNone_none]
      rw [List.filter_cons, if_pos beside, Value.lookup_cons_self, Value.lookup_cons_self]
    · rw [Value.lookup_cons_of_ne same, List.filter_cons]
      split
      · rw [Value.lookup_cons_of_ne same, ih]
      · exact ih

/-- Laying a value over another is what merging is made of. -/
theorem some_overlay_eq_atop (below above : Value) :
    some (overlay below above) = Mapping.atop merge (some above) (some below) := by
  cases above <;> cases below <;> rfl

theorem lookup_merge (low high : Mapping) (name : String) :
    Value.lookup name (merge low high).entries =
      Mapping.atop merge (Value.lookup name high.entries) (Value.lookup name low.entries) := by
  rw [merge, Value.lookup_append, lookup_overlayEntries]
  cases below? : Value.lookup name low.entries with
  | none =>
    rw [lookup_entriesBeside below?]
    simp
  | some below =>
    cases above? : Value.lookup name high.entries with
    | none => rfl
    | some above => exact some_overlay_eq_atop below above

theorem map_fst_overlayEntries : (overlayEntries high low).map (·.1) = low.map (·.1) := by
  induction low with
  | nil => rfl
  | cons entry low ih =>
    obtain ⟨key, below⟩ := entry
    cases key <;> simp only [overlayEntries, List.map_cons, ih]

theorem hasForeignKey_merge (low high : Mapping) :
    (merge low high).hasForeignKey = (low.hasForeignKey || high.hasForeignKey) := by
  have keys (entries : List (Value × Value)) :
      entries.any (fun entry => !entry.1.isText) = (entries.map (·.1)).any (!·.isText) := by
    rw [List.any_map]
    rfl
  -- A key that is no text is never met, so all of them are among those that are added.
  have beside : ∀ entry : Value × Value,
      (isBeside low.entries entry.1 && !entry.1.isText) = !entry.1.isText := by
    rintro ⟨key, value⟩
    cases key <;> simp [isBeside, Value.isText]
  rw [Mapping.hasForeignKey, merge, List.any_append, keys, map_fst_overlayEntries, ← keys,
    entriesBeside, List.any_filter]
  simp only [beside]
  rfl

theorem integer_bounds {low n : Int} {high? : Option Int} {value : Value}
    (h : integer low high? value = .ok n) : low ≤ n ∧ ∀ high ∈ high?, n ≤ high := by
  obtain ⟨m, -, h⟩ := bind_eq_ok_iff.mp h
  rw [bounded] at h
  split at h
  · cases h
  next above =>
  split at h
  · cases h
  next below =>
  cases h
  refine ⟨Int.not_lt.mp above, fun high hhigh => ?_⟩
  simpa using (Option.filter_eq_none_iff.mp below) high hhigh

theorem optionalInteger_bound {low : Int} {value : Value} {limit : Option Int}
    (h : optionalInteger low value = .ok limit) : ∀ n ∈ limit, low ≤ n := by
  rw [optionalInteger.eq_def] at h
  split at h
  · cases h
    simp
  · obtain ⟨n, hn, rfl⟩ := map_eq_ok_iff.mp h
    simpa using (integer_bounds hn).1

/-- The library that the program runs with does what is assumed of one. -/
theorem settingsLibrary_lawful : settingsLibrary.Lawful where
  lookup_merge := lookup_merge
  hasForeignKey_merge := hasForeignKey_merge
  integer_bounds _ _ _ _ := integer_bounds
  optionalInteger_bound _ _ _ := optionalInteger_bound
  integer_mapping _ _ _ := ⟨_, rfl⟩
  optionalInteger_mapping _ _ := ⟨_, rfl⟩
  oneOf_mapping _ _ := ⟨_, rfl⟩

/-! ### Variables for the settings of sections -/

/-- A document that gives the setting of a section and nothing else. -/
def memberDocument (s : SettingSection) (value : Value) : Mapping :=
  ⟨.object 0, [(.str s.name, .mapping (.object 0) [(.str s.member, value)])]⟩

/-- The name, in lower case, of the variable for a section's setting. -/
def memberVariable (s : SettingSection) : String := "notifycard_" ++ s.name ++ "__" ++ s.member

theorem nestedEntries_memberVariable (s t : SettingSection) (value : String) :
    nestedEntries Settings.scheme t [(memberVariable s, value)] =
      if s = t then [(.str t.member, .str value)] else [] := by
  have start : ∀ s t : SettingSection,
      (memberStart Settings.scheme t).isPrefixOf (memberVariable s).toList = decide (s = t) := by
    rintro (_ | _) (_ | _) <;> decide +kernel
  have parts : ∀ t : SettingSection, splitName Settings.scheme.delimiter.toList 0
      ((memberVariable t).toList.drop (memberStart Settings.scheme t).length) =
        (t.member.toList, []) := by
    rintro (_ | _) <;> decide +kernel
  simp only [nestedEntries, List.foldl_cons, List.foldl_nil, start, decide_eq_true_eq]
  split
  · next same =>
    subst same
    simp only [parts, List.map_nil, putNested, putEntry, String.ofList_toList]
  · rfl

theorem sectionValue?_memberVariable (s t : SettingSection) (value : String) :
    sectionValue? Settings.scheme t [(memberVariable s, value)] =
      .ok (if s = t then some (.mapping (.object 0) [(.str t.member, .str value)]) else none) := by
  have whole : ∀ s t : SettingSection,
      (lowerString Settings.scheme.mark ++ t.name == memberVariable s) = false := by
    rintro (_ | _) (_ | _) <;> decide +kernel
  simp only [sectionValue?, List.lookup_cons, List.lookup_nil, whole, nestedEntries_memberVariable]
  split <;> rfl

/-- A variable that is named for the setting of a section gives it, whatever the case of its
letters. -/
theorem documentOfVariables_member {s : SettingSection} {name : String}
    (named : lowerString name = memberVariable s) (value : String) :
    documentOfVariables Settings.scheme [(name, value)] = .ok (memberDocument s (.str value)) := by
  have low : lowered [(name, value)] = [(memberVariable s, value)] := by
    simp only [lowered, List.foldl_cons, List.foldl_nil, named]
    rfl
  have verbosity : ∀ s : SettingSection,
      (lowerString Settings.scheme.mark ++ "verbosity" == memberVariable s) = false := by
    rintro (_ | _) <;> decide +kernel
  simp only [documentOfVariables, low, sectionValue?_memberVariable, List.lookup_cons,
    List.lookup_nil, verbosity]
  cases s <;> rfl

end Host

end Bulletin
