import Bulletin.Report

/-!
# Contexts under operations

Whatever operations a context has gone through, it has a mapping for every scope. Replacing changes
the named scopes and no others, in whatever order they are named, and an operation that fails
changes nothing. Data that makes a context by itself can always be put over another one.
-/

namespace Bulletin

theorem lookup_perm {α : Type} {entries entries' : List (String × α)}
    (h : entries.Perm entries') (distinct : (entries.map Prod.fst).Nodup) (name : String) :
    entries.lookup name = entries'.lookup name := by
  have distinct' : (entries'.map Prod.fst).Nodup := (h.map Prod.fst).nodup distinct
  refine Option.ext fun a => ?_
  rw [lookup_eq_some_iff_mem distinct, lookup_eq_some_iff_mem distinct', h.mem_iff]

namespace Context

/-! ### Data for scopes -/

variable {context context' : Context}

/-- The data of a scope is its mapping; null stands for an empty one. -/
def Gives (v : Value) (scope : Scope) (m : Mapping) : Prop :=
  v = .null ∧ m = .emptyScope scope ∨ v = m.toValue

theorem mappingFor?_eq_some_iff {scope : Scope} {v : Value} {m : Mapping} :
    mappingFor? scope v = some m ↔ Gives v scope m := by
  cases v with
  | null => simp [mappingFor?, Gives, Mapping.toValue, eq_comm]
  | mapping identity entries =>
    obtain ⟨identity', entries'⟩ := m
    simp [mappingFor?, Gives, Mapping.toValue]
  | _ => simp [mappingFor?, Gives, Mapping.toValue]

theorem firstMalformed?_eq_none_iff {data : Scope → Value} :
    firstMalformed? data = none ↔ ∀ scope, ∃ m, Gives (data scope) scope m := by
  simp [firstMalformed?, Scope.mem_all, ← mappingFor?_eq_some_iff, Option.ne_none_iff_exists']

/-- Data makes a context that has a mapping given for every scope. -/
theorem ofScopes_eq_ok_iff {data : Scope → Value} :
    ofScopes data = .ok context ↔ ∀ scope, Gives (data scope) scope (context.scope scope) := by
  constructor
  · intro h scope
    rw [ofScopes] at h
    split at h
    · cases h
    · next wellFormed =>
      cases h
      obtain ⟨m, hm⟩ := firstMalformed?_eq_none_iff.mp wellFormed scope
      have found := mappingFor?_eq_some_iff.mpr hm
      simpa [found] using hm
  · intro h
    have wellFormed := firstMalformed?_eq_none_iff.mpr fun scope => ⟨_, h scope⟩
    simp only [ofScopes, wellFormed, mappingFor?_eq_some_iff.mpr (h _)]
    rfl

theorem exists_ofScopes_eq_ok {data : Scope → Value}
    (h : ∀ scope, ∃ m, Gives (data scope) scope m) :
    ∃ context, ofScopes data = .ok context := by
  simp only [ofScopes, firstMalformed?_eq_none_iff.mpr h]
  exact ⟨_, rfl⟩

/-! ### Scopes by their names -/

/-- Keys that name no scope are always an error. -/
theorem unknownKeys?_eq_none_iff {keys : List Value} : unknownKeys? keys = none ↔ keys = [] := by
  match keys with
  | [] => simp [unknownKeys?]
  | [key] => simp [unknownKeys?]
  | key :: other :: rest =>
    simp only [unknownKeys?, reduceCtorEq, iff_false]
    split
    · split
      · next sorted =>
        have length := congrArg List.length sorted
        simp at length
      · simp
    · simp

theorem ofEntries_eq_ok_iff {entries : List (Value × Value)} :
    ofEntries entries = .ok context ↔
      (∀ entry ∈ entries, isScopeKey entry.1) ∧ ∀ scope,
        Gives ((Value.lookup scope.name entries).getD .null) scope (context.scope scope) := by
  have known_iff : unknownKeys? ((entries.map (·.1)).filter (!isScopeKey ·)) = none ↔
      ∀ entry ∈ entries, isScopeKey entry.1 := by
    simp [unknownKeys?_eq_none_iff]
  rw [ofEntries, ← known_iff, ← ofScopes_eq_ok_iff]
  split
  · next e unknown => simp [unknown]
  · next known => simp [known]

theorem replace_eq_ok_iff {given : List (String × Value)} :
    context.replace given = .ok context' ↔
      (∀ entry ∈ given, (Scope.ofName? entry.1).isSome) ∧ ∀ scope,
        Gives (context.replacement given scope) scope (context'.scope scope) := by
  have known_iff : (given.find? fun entry => (Scope.ofName? entry.1).isNone) = none ↔
      ∀ entry ∈ given, (Scope.ofName? entry.1).isSome := by
    simp [Option.isSome_iff_ne_none]
  rw [replace, ← known_iff, ← ofScopes_eq_ok_iff]
  split
  · next name value foreign => simp [foreign]
  · next known => simp [known]

/-- A context has the data given for scopes, and its other scopes are those of another context. -/
structure Replaces (base : Context) (data? : Scope → Option Value) (context : Context) : Prop where
  given : ∀ scope v, data? scope = some v → Gives v scope (context.scope scope)
  kept : ∀ scope, data? scope = none → context.scope scope = base.scope scope

section Replace

variable {given given' : List (String × Value)}

theorem replacement_of_lookup_eq_some {scope : Scope} {v : Value}
    (h : given.lookup scope.name = some v) : context.replacement given scope = v := by
  rw [replacement, h, Option.getD_some]

theorem replacement_of_lookup_eq_none {scope : Scope} (h : given.lookup scope.name = none) :
    context.replacement given scope = (context.scope scope).toValue := by
  rw [replacement, h, Option.getD_none]

theorem eq_of_gives_toValue {scope : Scope} {m m' : Mapping} (h : Gives m.toValue scope m') :
    m' = m := by
  rcases h with ⟨null, -⟩ | same
  · cases null
  · cases m
    cases m'
    cases same
    rfl

/-- A scope that is named gets the data given for it, and one that is not named stays. -/
theorem replaces_of_replace (h : context.replace given = .ok context') :
    Replaces context (fun scope => given.lookup scope.name) context' where
  given := by
    intro scope v named
    have gives := (replace_eq_ok_iff.mp h).2 scope
    rwa [replacement_of_lookup_eq_some named] at gives
  kept := by
    intro scope unnamed
    have gives := (replace_eq_ok_iff.mp h).2 scope
    rw [replacement_of_lookup_eq_none unnamed] at gives
    exact eq_of_gives_toValue gives

theorem replace_perm (h : given.Perm given') (distinct : (given.map Prod.fst).Nodup)
    (replaced : context.replace given = .ok context') :
    context.replace given' = .ok context' := by
  obtain ⟨known, gives⟩ := replace_eq_ok_iff.mp replaced
  refine replace_eq_ok_iff.mpr ⟨fun entry mem => known entry (h.mem_iff.mpr mem), fun scope => ?_⟩
  have same := gives scope
  rwa [replacement, lookup_perm h distinct] at same

end Replace

/-! ### Listing the scopes -/

/-- The scopes by name, as mappings with the same entries and any identities. -/
def listed (context : Context) (identity : Scope → Identity) : List (Value × Value) :=
  Scope.all.map fun scope =>
    (.str scope.name, .mapping (identity scope) (context.scope scope).entries)

theorem toEntries_eq_listed (context : Context) :
    context.toEntries = context.listed fun scope => (context.scope scope).identity := rfl

theorem lookup_listed (context : Context) (identity : Scope → Identity) (scope : Scope) :
    Value.lookup scope.name (context.listed identity) =
      some (.mapping (identity scope) (context.scope scope).entries) := by
  cases scope <;> rfl

theorem ofEntries_listed (context : Context) (identity : Scope → Identity) :
    ofEntries (context.listed identity) =
      .ok ⟨fun scope => ⟨identity scope, (context.scope scope).entries⟩⟩ := by
  refine ofEntries_eq_ok_iff.mpr ⟨fun entry mem => ?_, fun scope => ?_⟩
  · obtain ⟨scope, -, rfl⟩ := List.mem_map.mp mem
    rw [isScopeKey, Scope.ofName?_name]
    rfl
  · rw [lookup_listed]
    exact .inr rfl

/-! ### Documents put over a context -/

theorem lookup_textEntries (name : String) (entries : List (Value × Value)) :
    (entries.filterMap textEntry?).lookup name = Value.lookup name entries := by
  induction entries with
  | nil => rfl
  | cons entry entries ih =>
    obtain ⟨key, v⟩ := entry
    simp only [Value.lookup, List.find?_cons] at ih ⊢
    cases key with
    | str s =>
      rw [List.filterMap_cons_some (show textEntry? (.str s, v) = some (s, v) from rfl),
        List.lookup_cons, Value.sameText, Bool.beq_comm]
      cases s == name with
      | true => rfl
      | false => exact ih
    | _ => exact ih

/-- An environment always makes a context. -/
theorem exists_seeded (environ : Option Environ) : ∃ base, seeded environ = .ok base := by
  cases environ with
  | none => exact ⟨.empty, rfl⟩
  | some environ =>
    rw [seeded, ofEnviron]
    refine exists_ofScopes_eq_ok fun scope => ?_
    cases scope with
    | envs => exact ⟨scopeMapping .envs environ, .inr rfl⟩
    | github => exact ⟨scopeMapping .github (platformEntries environ), .inr rfl⟩
    | _ => exact ⟨_, .inl ⟨rfl, rfl⟩⟩

/-- Data that makes a context by itself can be put over any other one. -/
theorem exists_replace_eq_ok {entries : List (Value × Value)} (h : ofEntries entries = .ok context')
    (context : Context) :
    ∃ assembled, context.replace (entries.filterMap textEntry?) = .ok assembled := by
  obtain ⟨known, gives⟩ := ofEntries_eq_ok_iff.mp h
  have mapping (scope : Scope) :
      ∃ m, Gives (context.replacement (entries.filterMap textEntry?) scope) scope m := by
    have here := gives scope
    rw [← lookup_textEntries] at here
    cases found : (entries.filterMap textEntry?).lookup scope.name with
    | some v =>
      rw [found] at here
      exact ⟨_, replacement_of_lookup_eq_some found ▸ here⟩
    | none => exact ⟨context.scope scope, .inr (replacement_of_lookup_eq_none found)⟩
  obtain ⟨assembled, hassembled⟩ := exists_ofScopes_eq_ok mapping
  refine ⟨assembled, replace_eq_ok_iff.mpr ⟨fun entry mem => ?_, ofScopes_eq_ok_iff.mp hassembled⟩⟩
  obtain ⟨⟨key, v⟩, hmem, hentry⟩ := List.mem_filterMap.mp mem
  have scopeKey := known _ hmem
  cases key with
  | str s =>
    cases hentry
    exact scopeKey
  | _ => cases hentry

section Assemble

variable {environ : Option Environ} {base : Context}

/-- The scopes of a document take the place of those that the environment fills, and no others. -/
theorem exists_assemble {entries : List (Value × Value)} (hbase : seeded environ = .ok base)
    (h : ofEntries entries = .ok context) :
    ∃ given assembled, scopesOfDocument entries = .ok given ∧
      assemble environ given = .ok assembled ∧
        Replaces base (fun scope => Value.lookup scope.name entries) assembled := by
  obtain ⟨assembled, hassembled⟩ := exists_replace_eq_ok h base
  refine ⟨entries.filterMap textEntry?, assembled, ?_, ?_, ?_⟩
  · rw [scopesOfDocument, h]
    rfl
  · rw [assemble, hbase]
    exact hassembled
  · simp only [← lookup_textEntries]
    exact replaces_of_replace hassembled

theorem ofEntries_nil : ofEntries [] = .ok .empty :=
  ofEntries_eq_ok_iff.mpr ⟨fun _ mem => absurd mem List.not_mem_nil, fun _ => .inl ⟨rfl, rfl⟩⟩

/-- The same for the document that a reader finds in a file. Null replaces no scope. -/
theorem exists_assemble_file {read : DocumentReader} {file : SourceFile} {document : Value}
    {source : ContextSource} (hbase : seeded environ = .ok base)
    (found : file.document read = .ok document)
    (hsource : ContextSource.ofValue? document = some source)
    (h : source.normalize = .ok context) :
    ∃ given assembled, scopesInFile read file = .ok given ∧
      assemble environ given = .ok assembled ∧ Replaces base source.data? assembled := by
  rw [scopesInFile, found]
  cases document with
  | null =>
    cases hsource
    obtain ⟨given, assembled, hgiven, hassembled, replaces⟩ := exists_assemble hbase ofEntries_nil
    rw [scopesOfDocument, ofEntries_nil] at hgiven
    cases hgiven
    exact ⟨[], assembled, rfl, hassembled, replaces.given, replaces.kept⟩
  | mapping identity entries =>
    cases hsource
    obtain ⟨given, assembled, hgiven, rest⟩ := exists_assemble hbase h
    refine ⟨given, assembled, ?_, rest⟩
    simp only [hgiven]
    rfl
  | _ => cases hsource

end Assemble

end Context

namespace ContextOperation

variable {operations : List ContextOperation} {operation : ContextOperation}

theorem run_concat : run (operations ++ [operation]) = operation.next (run operations) := by
  simp [run]

theorem run_concat_of_error {e : ContextError}
    (h : operation.result (run operations) = .error e) :
    run (operations ++ [operation]) = run operations := by
  rw [run_concat, next, h]

theorem run_concat_of_ok {context : Context}
    (h : operation.result (run operations) = .ok context) :
    run (operations ++ [operation]) = context := by
  rw [run_concat, next, h]

end ContextOperation

open Context in
/-- After any operations on the empty context, there is a mapping for each of the scopes, listed in
the fixed order. An operation that fails changes nothing. Replacing gives the named scopes the data
given for them, null for an empty one, and leaves the others, whatever the order of the names. What
is listed makes the same context again. A document that makes a context by itself can be put over
what the environment fills, and replaces the scopes that it has, whatever reads it from a file. -/
theorem ContextOperation.scopes_after_run :
    (∀ operations : List ContextOperation,
      (run operations).toEntries.map (·.1) = Scope.all.map (fun scope => .str scope.name) ∧
      (∀ scope : Scope, ∃ identity entries,
        Value.lookup scope.name (run operations).toEntries = some (.mapping identity entries)) ∧
      (∀ operation e, operation.result (run operations) = .error e →
        run (operations ++ [operation]) = run operations) ∧
      (∀ operation context, operation.result (run operations) = .ok context →
        run (operations ++ [operation]) = context) ∧
      (∀ given context, (run operations).replace given = .ok context →
        Replaces (run operations) (fun scope => given.lookup scope.name) context ∧
        ∀ given', given.Perm given' → (given.map Prod.fst).Nodup →
          (run operations).replace given' = .ok context) ∧
      (ContextSource.made (run operations)).normalize = .ok (run operations) ∧
      (ContextSource.scopes (run operations).toEntries).normalize = .ok (run operations) ∧
      ∀ identity : Scope → Identity,
        (ContextSource.scopes ((run operations).listed identity)).normalize =
          .ok ⟨fun scope => ⟨identity scope, ((run operations).scope scope).entries⟩⟩) ∧
    ∀ environ : Option Environ, ∃ base, seeded environ = .ok base ∧
      (∀ entries context, ofEntries entries = .ok context →
        ∃ given assembled, scopesOfDocument entries = .ok given ∧
          assemble environ given = .ok assembled ∧
            Replaces base (fun scope => Value.lookup scope.name entries) assembled) ∧
      ∀ (read : DocumentReader) (file : SourceFile) (document : Value) (source : ContextSource)
        (context : Context),
        file.document read = .ok document → ContextSource.ofValue? document = some source →
          source.normalize = .ok context →
            ∃ given assembled, scopesInFile read file = .ok given ∧
              assemble environ given = .ok assembled ∧ Replaces base source.data? assembled := by
  constructor
  · intro operations
    refine ⟨rfl, fun scope => ?_, fun _ _ => run_concat_of_error, fun _ _ => run_concat_of_ok,
      fun given context replaced => ⟨replaces_of_replace replaced, fun given' perm distinct =>
        replace_perm perm distinct replaced⟩, rfl, ?_, ofEntries_listed _⟩
    · rw [toEntries_eq_listed, lookup_listed]
      exact ⟨_, _, rfl⟩
    · exact ofEntries_listed (run operations) _
  · intro environ
    obtain ⟨base, hbase⟩ := exists_seeded environ
    exact ⟨base, hbase, fun entries context => exists_assemble hbase,
      fun read file document source context => exists_assemble_file hbase⟩

end Bulletin
