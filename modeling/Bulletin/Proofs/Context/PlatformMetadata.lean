import Bulletin.Proofs.Context.Descent
import Bulletin.Proofs.Context.Operations
import Bulletin.Proofs.Members
import Bulletin.Proofs.Text.AsciiCase

/-!
# The platform's metadata and its variables

A context made from an environment has a platform variable twice: among all the variables, and, by
what follows the mark in lower case, among the platform's metadata. The last variable of a name
counts there. A variable that is the only one with its name in lower case, and has it in upper case,
is found on both ways. The kelvin sign is the one exception: it is upper case and has the lower case
of the letter `K`, but a name among the variables is not looked for with a kelvin sign in it.
-/

namespace Bulletin

namespace Context

variable {vars : Variables} {context : Context} {environ : Environ} {key name text : String}

/-! ### The metadata -/

/-- A variable gives the metadata of a name: that is what follows the mark of the platform in the
name of the variable, in lower case, and there is something. -/
def GivesMetadata (key name : String) : Prop :=
  ∃ rest : String, rest ≠ "" ∧ key = "GITHUB_" ++ rest ∧ lowerString rest = name

theorem platformName?_eq_some_iff : platformName? key = some name ↔ GivesMetadata key name := by
  rw [platformName?]
  simp only [Option.ite_none_right_eq_some, Bool.and_eq_true, List.isPrefixOf_iff_prefix,
    decide_eq_true_eq, Option.some.injEq]
  constructor
  · rintro ⟨⟨⟨rest, split⟩, longer⟩, lower⟩
    rw [← split, List.drop_left] at lower
    refine ⟨String.ofList rest, fun nothing => ?_, String.toList_inj.mp ?_, lower⟩
    · have nil : rest = [] := by simpa using congrArg String.toList nothing
      simp [← split, nil] at longer
    · simpa using split.symm
  · rintro ⟨rest, something, rfl, lower⟩
    have nonempty : rest.toList ≠ [] := fun nil => something (String.toList_inj.mp nil)
    rw [String.toList_append, List.drop_left, String.ofList_toList]
    refine ⟨⟨List.prefix_append .., ?_⟩, lower⟩
    rw [List.length_append]
    exact Nat.lt_add_of_pos_right (List.length_pos_iff.mpr nonempty)

def givenMetadata (environ : Environ) : List (String × Value) :=
  environ.filterMap fun entry => (platformName? entry.1).map (·, entry.2)

theorem platformEntries_eq (environ : Environ) :
    platformEntries environ = putTexts [] (givenMetadata environ) := by
  rw [platformEntries, putTexts, givenMetadata, List.foldl_filterMap]
  congr 1
  funext entries entry
  cases given : platformName? entry.1 <;> simp only [given, Option.map_none, Option.map_some]

theorem mem_map_fst_givenMetadata_iff :
    name ∈ (givenMetadata vars.toValues).map Prod.fst ↔
      ∃ entry ∈ vars, GivesMetadata entry.1 name := by
  simp only [givenMetadata, Variables.toValues, List.filterMap_map, List.map_filterMap,
    List.mem_filterMap, Function.comp_apply, Option.map_map, ← platformName?_eq_some_iff]
  simp [Function.comp_def]

/-- The metadata of a name is what the last variable has that gives it. -/
theorem lookup_platformEntries {before after : Variables}
    (split : vars = before ++ (key, text) :: after) (gives : GivesMetadata key name)
    (others : ∀ entry ∈ after, ¬ GivesMetadata entry.1 name) :
    (platformEntries vars.toValues).lookup name = some (.str text) := by
  rw [platformEntries_eq, (isMerged_putTexts _).lookup_eq_some_iff]
  refine ⟨givenMetadata before.toValues, givenMetadata after.toValues, ?_,
    fun member mem same => ?_⟩
  · simp [split, givenMetadata, Variables.toValues, platformName?_eq_some_iff.mpr gives]
  · obtain ⟨entry, hentry, given⟩ :=
      mem_map_fst_givenMetadata_iff.mp (List.mem_map.mpr ⟨member, mem, same⟩)
    exact others entry hentry given

theorem mem_map_fst_platformEntries_iff :
    name ∈ (platformEntries vars.toValues).map Prod.fst ↔
      ∃ entry ∈ vars, GivesMetadata entry.1 name := by
  rw [platformEntries_eq, (isMerged_putTexts _).keys, List.mem_eraseDups,
    mem_map_fst_givenMetadata_iff]

theorem lookup_platformEntries_iff {v : Value} :
    (platformEntries vars.toValues).lookup name = some v ↔
      ∃ before key text after, vars = before ++ (key, text) :: after ∧ GivesMetadata key name ∧
        (∀ entry ∈ after, ¬ GivesMetadata entry.1 name) ∧ v = .str text := by
  constructor
  · intro found
    have mem : name ∈ (platformEntries vars.toValues).map Prod.fst := by
      obtain ⟨before, after, split, -⟩ := List.lookup_eq_some_iff.mp found
      simp [split]
    obtain ⟨before, ⟨key, text⟩, after, split, gives, others⟩ :=
      exists_last (mem_map_fst_platformEntries_iff.mp mem)
    rw [lookup_platformEntries split gives others] at found
    exact ⟨before, key, text, after, split, gives, others, (Option.some.inj found).symm⟩
  · rintro ⟨before, key, text, after, split, gives, others, rfl⟩
    exact lookup_platformEntries split gives others

/-! ### Contexts from variables -/

theorem map_fst_scopeMapping (scope : Scope) (entries : List (String × Value)) :
    (scopeMapping scope entries).entries.map Prod.fst = (entries.map Prod.fst).map Value.str := by
  simp [scopeMapping, Function.comp_def]

/-- Variables by themselves make a context. -/
theorem exists_ofVariables (vars : Variables) :
    ∃ context, ofEnviron vars.toValues (fun _ => .null) = .ok context :=
  exists_seeded (some vars.toValues)

theorem scope_envs (h : ofEnviron vars.toValues (fun _ => .null) = .ok context) :
    context.scope .envs = scopeMapping .envs vars.toValues :=
  eq_of_gives_toValue (ofScopes_eq_ok_iff.mp h .envs)

theorem scope_github (h : ofEnviron vars.toValues (fun _ => .null) = .ok context) :
    context.scope .github = scopeMapping .github (platformEntries vars.toValues) :=
  eq_of_gives_toValue (ofScopes_eq_ok_iff.mp h .github)

/-! ### The variable of a name -/

/-- A name that is written in lower-case ASCII, without points. -/
structure IsPlainName (name : String) : Prop where
  nonempty : name ≠ ""
  ascii : IsAsciiText name
  lower : ∀ c ∈ name.toList, c.isUpper = false
  noPoint : '.' ∉ name.toList

/-- The name of the variable for the metadata of a name, in lower case. -/
def variableName (name : String) : String := "github_" ++ name

/-- Of the variables, a single one has this name in lower case, and it has it in upper case. -/
structure IsOnlySpelling (vars : Variables) (name key text : String) : Prop where
  mem : (key, text) ∈ vars
  lower : lowerString key = variableName name
  only : ∀ entry ∈ vars, lowerString entry.1 = variableName name → entry.1 = key
  upper : upperString key = key

instance : Decidable (IsPlainName name) :=
  decidable_of_iff
    (name ≠ "" ∧ name.toList.all isAscii ∧ name.toList.all (!·.isUpper) ∧ '.' ∉ name.toList)
    ⟨fun ⟨nonempty, ascii, lower, noPoint⟩ =>
        ⟨nonempty, List.all_eq_true.mp ascii, by simpa using lower, noPoint⟩,
      fun h => ⟨h.nonempty, List.all_eq_true.mpr h.ascii, by simpa using h.lower, h.noPoint⟩⟩

instance : Decidable (IsOnlySpelling vars name key text) :=
  decidable_of_iff
    ((key, text) ∈ vars ∧ lowerString key = variableName name ∧
      (∀ entry ∈ vars, lowerString entry.1 = variableName name → entry.1 = key) ∧
      upperString key = key)
    ⟨fun ⟨mem, lower, only, upper⟩ => ⟨mem, lower, only, upper⟩,
      fun h => ⟨h.mem, h.lower, h.only, h.upper⟩⟩

theorem variableName_ne {root : String} (h : root.toList.take 7 ≠ "github_".toList) :
    variableName name ≠ root := by
  rintro rfl
  rw [variableName, String.toList_append] at h
  exact h (List.take_left' rfl)

theorem isHostRoot_variableName (name : String) : isHostRoot (variableName name) = false := by
  rw [isHostRoot, Bool.or_eq_false_iff, beq_eq_false_iff_ne, beq_eq_false_iff_ne]
  exact ⟨variableName_ne (by decide), variableName_ne (by decide)⟩

theorem ofName?_variableName (name : String) : Scope.ofName? (variableName name) = none := by
  cases found : Scope.ofName? (variableName name) with
  | none => rfl
  | some scope =>
    have short : scope.name.toList.take 7 ≠ "github_".toList := by cases scope <;> decide
    exact absurd (Scope.ofName?_eq_some_iff.mp found) (variableName_ne short)

section Names

variable (plain : IsPlainName name)

include plain

theorem isAsciiText_variableName : IsAsciiText (variableName name) := by
  rw [IsAsciiText, variableName, String.toList_append]
  exact List.forall_mem_append.mpr ⟨by simp [isAscii], plain.ascii⟩

theorem lowerString_variableName : lowerString (variableName name) = variableName name := by
  refine lowerString_eq_self (isAsciiText_variableName plain) ?_
  rw [variableName, String.toList_append]
  exact List.forall_mem_append.mpr ⟨by simp, plain.lower⟩

theorem upperString_variableName_ne : upperString (variableName name) ≠ variableName name := by
  intro same
  have upper := upperString_eq_map (isAsciiText_variableName plain).lowersToAscii
  rw [same, variableName, String.toList_append] at upper
  cases upper

theorem point_not_mem_variableName : '.' ∉ (variableName name).toList := by
  rw [variableName, String.toList_append, List.mem_append]
  exact not_or.mpr ⟨by decide, plain.noPoint⟩

end Names

theorem lowersToAscii_of_lower (plain : IsPlainName name)
    (lower : lowerString key = variableName name) : ∀ c ∈ key.toList, LowersToAscii c :=
  lowersToAscii_of_lowerString (by rw [lower]; exact isAsciiText_variableName plain)

/-- Whatever gives the metadata of a plain name is a spelling of the name of its variable. -/
theorem GivesMetadata.lower (h : GivesMetadata key name) (plain : IsPlainName name) :
    lowerString key = variableName name := by
  obtain ⟨rest, -, rfl, lower⟩ := h
  have ofRest : ∀ c ∈ rest.toList, LowersToAscii c :=
    lowersToAscii_of_lowerString (by rw [lower]; exact plain.ascii)
  have ofKey : ∀ c ∈ ("GITHUB_" ++ rest).toList, LowersToAscii c := by
    rw [String.toList_append]
    have ofMark : IsAsciiText "GITHUB_" := by simp [IsAsciiText, isAscii]
    exact List.forall_mem_append.mpr ⟨ofMark.lowersToAscii, ofRest⟩
  rw [← String.toList_inj, lowerString_eq_map ofKey, String.toList_append, List.map_append,
    ← lowerString_eq_map ofRest, lower, variableName, String.toList_append]
  rfl

/-- The only spelling of a variable gives the metadata of its name. -/
theorem IsOnlySpelling.givesMetadata (h : IsOnlySpelling vars name key text)
    (plain : IsPlainName name) : GivesMetadata key name := by
  have chars := lowersToAscii_of_lower plain h.lower
  have lower : key.toList.map asciiLower = "github_".toList ++ name.toList := by
    rw [← lowerString_eq_map chars, h.lower, variableName, String.toList_append]
  have upper : key.toList.map Char.toUpper = key.toList := by
    rw [← upperString_eq_map chars, h.upper]
  obtain ⟨mark, rest, split, hmark, hrest⟩ := List.map_eq_append_iff.mp lower
  rw [split] at chars upper
  obtain ⟨ofMark, ofRest⟩ := List.forall_mem_append.mp chars
  -- there is no `k` in the mark, so none of its letters is a kelvin sign
  have isAscii_of_mem (c : Char) (hc : c ∈ mark) : isAscii c := by
    refine (ofMark c hc).resolve_right fun kelvin => ?_
    have mem : asciiLower c ∈ "github_".toList := hmark ▸ List.mem_map_of_mem hc
    rw [kelvin] at mem
    exact absurd mem (by decide)
  have same : mark = "GITHUB_".toList :=
    calc mark
      _ = mark.map Char.toUpper := by
        rw [List.map_append] at upper
        exact (List.append_inj_left upper (List.length_map _)).symm
      _ = (mark.map asciiLower).map Char.toUpper := by
        rw [List.map_map]
        refine List.map_congr_left fun c hc => ?_
        rw [Function.comp_apply, asciiLower_of_isAscii (isAscii_of_mem c hc),
          Char.toUpper_toLower_eq_toUpper]
      _ = "GITHUB_".toList := by rw [hmark]; rfl
  refine ⟨String.ofList rest, fun nothing => ?_, String.toList_inj.mp ?_, String.toList_inj.mp ?_⟩
  · have nil : rest = [] := by simpa using congrArg String.toList nothing
    rw [nil, List.map_nil] at hrest
    exact plain.nonempty (String.toList_inj.mp hrest.symm)
  · rw [split, same]
    simp
  · rw [lowerString_eq_map (by rwa [String.toList_ofList]), String.toList_ofList, hrest]

/-! ### Where the paths lead -/

section Paths

variable (distinct : (vars.map Prod.fst).Nodup) (plain : IsPlainName name)
  (h : IsOnlySpelling vars name key text)

include distinct h

theorem IsOnlySpelling.eq_of_lookup {other found : String} (there : vars.lookup other = some found)
    (lower : lowerString other = variableName name) : other = key :=
  h.only (other, found) ((lookup_eq_some_iff_mem distinct).mp there) lower

include plain

theorem lookup_variableName : vars.lookup (variableName name) = none := by
  cases there : vars.lookup (variableName name) with
  | none => rfl
  | some found =>
    have same := h.eq_of_lookup distinct there (lowerString_variableName plain)
    exact absurd (same ▸ h.upper) (upperString_variableName_ne plain)

/-- The variable is found by its name in lower case if there is no kelvin sign in its own. -/
theorem value_variableName_of_isAscii (ascii : IsAsciiText key) :
    vars.value (variableName name) = .str text := by
  have upper : upperString (variableName name) = key := by
    rw [← h.lower, upperString_lowerString ascii, h.upper]
  have there : vars.lookup key = some text := (lookup_eq_some_iff_mem distinct).mpr h.mem
  rw [Variables.value, Variables.anyCase?, lookup_variableName distinct plain h, upper, there]
  rfl

theorem value_variableName_of_not_isAscii (kelvin : ¬ IsAsciiText key) :
    vars.value (variableName name) = .undefined := by
  have ascii := isAsciiText_variableName plain
  have upper : vars.lookup (upperString (variableName name)) = none := by
    cases there : vars.lookup (upperString (variableName name)) with
    | none => rfl
    | some found =>
      have same := h.eq_of_lookup distinct there
        (by rw [lowerString_upperString ascii, lowerString_variableName plain])
      exact absurd (same ▸ ascii.upperString) kelvin
  rw [Variables.value, Variables.anyCase?, lowerString_variableName plain,
    lookup_variableName distinct plain h, upper]
  rfl

theorem lookup_metadata : (platformEntries vars.toValues).lookup name = some (.str text) := by
  obtain ⟨before, after, split⟩ := List.append_of_mem h.mem
  refine lookup_platformEntries split (h.givesMetadata plain) fun entry mem gives => ?_
  have same : entry.1 = key := h.only entry (by simp [split, mem]) (gives.lower plain)
  rw [split, List.map_append, List.map_cons] at distinct
  have notAfter := (List.nodup_cons.mp (List.nodup_append.mp distinct).2.1).1
  exact notAfter (List.mem_map.mpr ⟨entry, mem, same⟩)

end Paths

section Resolve

variable (made : ofEnviron vars.toValues (fun _ => .null) = .ok context) (environ : Environ)
  (plain : IsPlainName name)

include made plain

theorem resolve_metadata :
    context.resolve environ ("github." ++ name) =
      ((platformEntries vars.toValues).lookup name).getD .undefined := by
  have root : context.resolve environ "github" = (context.scope .github).toValue := rfl
  change context.resolve environ ("github" ++ "." ++ name) = _
  rw [resolve_append_point (by decide) name, root, pathSegments_of_not_mem plain.noPoint,
    Value.descend_singleton, scope_github made, ← lookup_scopeMapping .github]
  rfl

theorem resolve_variableName :
    context.resolve environ ("envs." ++ variableName name) = vars.value (variableName name) ∧
      context.resolve environ (variableName name) = vars.value (variableName name) := by
  have point := point_not_mem_variableName plain
  have filled : vars.FillMapping (context.scope .envs) := by
    rw [scope_envs made]
    exact vars.fillMapping_scopeMapping .envs
  have through : context.resolve environ ("envs." ++ variableName name) =
      vars.value (variableName name) := resolve_envs_name filled point
  refine ⟨through, ?_⟩
  rw [resolve_eq_resolve_envs, through]
  · rw [pathSegments_of_not_mem point]
    exact isHostRoot_variableName name
  · rw [pathSegments_of_not_mem point]
    exact ofName?_variableName name

end Resolve

/-- A context made from variables has the metadata that they give and no others, each once and as
the last variable of its name has it. The only variable whose name in lower case is `github_` and a
plain name, if it has it in upper case, is found by that name in the metadata. It is found by its
own name in lower case, among the variables and alone, if it is ASCII, and otherwise, with a kelvin
sign in its name, it is not. -/
theorem metadata_of_variables (vars : Variables) (distinct : (vars.map Prod.fst).Nodup) :
    ∃ context, ofEnviron vars.toValues (fun _ => .null) = .ok context ∧
      (∀ k : Value, k ∈ (context.scope .github).entries.map Prod.fst ↔
        ∃ name, k = .str name ∧ ∃ entry ∈ vars, GivesMetadata entry.1 name) ∧
      ((context.scope .github).entries.map Prod.fst).Nodup ∧
      (∀ name v, Value.lookup name (context.scope .github).entries = some v ↔
        ∃ before key text after, vars = before ++ (key, text) :: after ∧
          GivesMetadata key name ∧ (∀ entry ∈ after, ¬ GivesMetadata entry.1 name) ∧
          v = .str text) ∧
      ∀ (environ : Environ) (name key text : String), IsPlainName name →
        IsOnlySpelling vars name key text →
          context.resolve environ ("github." ++ name) = .str text ∧
          (IsAsciiText key →
            context.resolve environ ("envs." ++ variableName name) = .str text ∧
              context.resolve environ (variableName name) = .str text) ∧
          (¬ IsAsciiText key →
            context.resolve environ ("envs." ++ variableName name) = .undefined ∧
              context.resolve environ (variableName name) = .undefined) := by
  obtain ⟨context, made⟩ := exists_ofVariables vars
  refine ⟨context, made, ?_⟩
  rw [scope_github made, map_fst_scopeMapping]
  refine ⟨fun k => ?_, ?_, fun name v => ?_, ?_⟩
  · rw [List.mem_map]
    refine exists_congr fun name => ?_
    rw [mem_map_fst_platformEntries_iff, eq_comm, and_comm]
  · refine List.Nodup.map (fun a b => Value.str.inj) ?_
    rw [platformEntries_eq]
    exact nodup_putTexts _
  · rw [lookup_scopeMapping, lookup_platformEntries_iff]
  · intro environ name key text plain only
    obtain ⟨through, bare⟩ := resolve_variableName made environ plain
    rw [through, bare, resolve_metadata made environ plain, lookup_metadata distinct plain only]
    refine ⟨rfl, fun ascii => ?_, fun kelvin => ?_⟩
    · exact ⟨value_variableName_of_isAscii distinct plain only ascii,
        value_variableName_of_isAscii distinct plain only ascii⟩
    · exact ⟨value_variableName_of_not_isAscii distinct plain only kelvin,
        value_variableName_of_not_isAscii distinct plain only kelvin⟩

/-- Variables of which two give the metadata of the same name, one is only the mark, and one has a
kelvin sign. -/
def sampleVariables : Variables :=
  [("GITHUB_REF", "main"), ("GITHUB_job", "build"), ("GITHUB_", "mark"), ("GITHUB_JOB", "test"),
    ("GITHUB_\u212a", "kelvin")]

/-- Of the two variables for the metadata `job` the last one counts, and `ref` is found on all the
paths. -/
theorem metadata_of_sampleVariables :
    (sampleVariables.map Prod.fst).Nodup ∧
      ∃ context, ofEnviron sampleVariables.toValues (fun _ => .null) = .ok context ∧
        Value.lookup "job" (context.scope .github).entries = some (.str "test") ∧
        context.resolve [] "github.ref" = .str "main" ∧
        context.resolve [] "envs.github_ref" = .str "main" ∧
        context.resolve [] "github_ref" = .str "main" ∧
        context.resolve [] "github.k" = .str "kelvin" ∧
        context.resolve [] "github_k" = .undefined := by
  have distinct : (sampleVariables.map Prod.fst).Nodup := by decide
  obtain ⟨context, made, -, -, lookup, paths⟩ := metadata_of_variables sampleVariables distinct
  have job : GivesMetadata "GITHUB_JOB" "job" :=
    platformName?_eq_some_iff.mp (by decide +kernel)
  have after : ¬ GivesMetadata "GITHUB_\u212a" "job" := fun gives =>
    absurd (platformName?_eq_some_iff.mpr gives) (by decide +kernel)
  have found : Value.lookup "job" (context.scope .github).entries = some (.str "test") :=
    (lookup _ _).mpr ⟨sampleVariables.take 3, "GITHUB_JOB", "test", [("GITHUB_\u212a", "kelvin")],
      rfl, job, by simpa using after, rfl⟩
  have ascii : IsAsciiText "GITHUB_REF" := by simp [IsAsciiText, isAscii]
  have kelvin : ¬ IsAsciiText "GITHUB_\u212a" := by simp [IsAsciiText, isAscii]
  obtain ⟨ofRef, ofAscii, -⟩ :=
    paths [] "ref" "GITHUB_REF" "main" (by decide) (by decide +kernel)
  obtain ⟨ofK, -, ofKelvin⟩ :=
    paths [] "k" "GITHUB_\u212a" "kelvin" (by decide) (by decide +kernel)
  exact ⟨distinct, context, made, found, ofRef, (ofAscii ascii).1, (ofAscii ascii).2, ofK,
    (ofKelvin kelvin).2⟩

/-- The three paths to the only spelling of a variable lead to it, if it is in upper case. -/
def PathsMeet (vars : Variables) : Prop :=
  ∀ (context : Context) (environ : Environ) (name key text : String),
    ofEnviron vars.toValues (fun _ => .null) = .ok context →
      IsPlainName name → IsOnlySpelling vars name key text →
        context.resolve environ ("github." ++ name) = .str text ∧
          context.resolve environ ("envs." ++ variableName name) = .str text ∧
          context.resolve environ (variableName name) = .str text

/-- The paths do not meet for a variable with a kelvin sign in its name. -/
theorem not_pathsMeet_of_kelvinSign : ¬ PathsMeet sampleVariables := by
  intro meet
  obtain ⟨context, made⟩ := exists_ofVariables sampleVariables
  have plain : IsPlainName "k" := by decide
  have only : IsOnlySpelling sampleVariables "k" "GITHUB_\u212a" "kelvin" := by decide +kernel
  obtain ⟨-, -, bare⟩ := meet context [] "k" "GITHUB_\u212a" "kelvin" made plain only
  rw [(resolve_variableName made [] plain).2,
    value_variableName_of_not_isAscii (by decide) plain only (by simp [IsAsciiText, isAscii])]
    at bare
  cases bare

end Context

end Bulletin
