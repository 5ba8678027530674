import Bulletin.Proofs.Context.KeyOrder
import Bulletin.Proofs.Context.Operations

/-!
# Mappings that make no context

A mapping makes a context if its keys are names of scopes and its data is null or mappings. Of any
other mapping a report should tell one name: the first of the keys that name no scope, in order, or
else the first scope whose data is malformed. The keys have to be put in order for this, and keys of
several kinds cannot be: they end the call without a report, although one of them alone, or several
of one kind, are reported. A file can hold such keys as well as any other mapping.
-/

namespace Bulletin

namespace Context

/-! ### What a mapping is blamed for -/

/-- The data of a scope, well formed: null or a mapping. -/
def IsScopeData (v : Value) : Prop := v = .null ∨ ∃ m : Mapping, v = m.toValue

def foreignKeys (entries : List (Value × Value)) : List Value :=
  (entries.map (·.1)).filter (!isScopeKey ·)

/-- The name that a mapping is blamed for: the first of the foreign keys in order, or, if there are
none, the first scope whose data is malformed. -/
inductive Blames (entries : List (Value × Value)) : String → Prop where
  | key {first : Value} {rest : List Value} (keys : (foreignKeys entries).Perm (first :: rest))
      (sorted : (first :: rest).Pairwise Value.Precedes) : Blames entries first.display
  | scope {scope : Scope} {v : Value} {before after : List Scope}
      (known : foreignKeys entries = []) (listed : Scope.all = before ++ scope :: after)
      (given : (.str scope.name, v) ∈ entries) (malformed : ¬ IsScopeData v)
      (earlier : ∀ s ∈ before, ∀ w, (.str s.name, w) ∈ entries → IsScopeData w) :
      Blames entries scope.name

/-- A mapping is accepted if every key names a scope and all data is well formed. Each scope then
has the mapping given for it, or an empty one. -/
structure Accepts (entries : List (Value × Value)) : Prop where
  exists_iff : (∃ context, (ContextSource.scopes entries).normalize = .ok context) ↔
    ∀ entry ∈ entries, (∃ scope : Scope, entry.1 = .str scope.name) ∧ IsScopeData entry.2
  given : ∀ context, (ContextSource.scopes entries).normalize = .ok context →
    ∀ (scope : Scope) (m : Mapping), (.str scope.name, m.toValue) ∈ entries →
      context.scope scope = m
  empty : ∀ context, (ContextSource.scopes entries).normalize = .ok context →
    ∀ scope : Scope, (∀ v, (.str scope.name, v) ∈ entries → v = .null) →
      context.scope scope = .emptyScope scope

/-- A mapping that is not accepted is refused with a report of the name it is blamed for. -/
def Refuses (entries : List (Value × Value)) : Prop :=
  ∀ e, (ContextSource.scopes entries).normalize = .error e →
    ∃ name, Blames entries name ∧ e.report? = some (.config e.message (some name) e.value)

/-! ### Entries of distinct keys -/

theorem isScopeKey_iff {key : Value} :
    isScopeKey key ↔ ∃ scope : Scope, key = .str scope.name := by
  cases key with
  | str s => simp [isScopeKey, Option.isSome_iff_exists, Scope.ofName?_eq_some_iff]
  | _ => simp [isScopeKey]

theorem textEntry_eq_some_iff {entry : Value × Value} {name : String} {v : Value} :
    textEntry? entry = some (name, v) ↔ entry = (.str name, v) := by
  obtain ⟨key, w⟩ := entry
  unfold textEntry?
  cases key <;> simp

section Entries

variable {entries : List (Value × Value)} {scope : Scope} {v : Value}

theorem lookup_eq_some_iff (distinct : (entries.map Prod.fst).Nodup) {name : String} :
    Value.lookup name entries = some v ↔ (.str name, v) ∈ entries := by
  have distinctTexts : ((entries.filterMap textEntry?).map Prod.fst).Nodup := by
    rw [List.Nodup, List.pairwise_map, List.pairwise_filterMap]
    refine (List.pairwise_map.mp distinct).imp fun differ a ha b hb same => ?_
    rw [textEntry_eq_some_iff.mp ha, textEntry_eq_some_iff.mp hb, same] at differ
    exact differ rfl
  rw [← lookup_textEntries, lookup_eq_some_iff_mem distinctTexts, List.mem_filterMap]
  simp only [textEntry_eq_some_iff, exists_eq_right]

def dataFor (entries : List (Value × Value)) (scope : Scope) : Value :=
  (Value.lookup scope.name entries).getD .null

theorem dataFor_of_mem (distinct : (entries.map Prod.fst).Nodup)
    (h : (.str scope.name, v) ∈ entries) : dataFor entries scope = v := by
  rw [dataFor, (lookup_eq_some_iff distinct).mpr h, Option.getD_some]

theorem mem_or_dataFor_eq_null (distinct : (entries.map Prod.fst).Nodup) (scope : Scope) :
    (.str scope.name, dataFor entries scope) ∈ entries ∨ dataFor entries scope = .null := by
  cases found : Value.lookup scope.name entries with
  | some v => exact .inl (by rwa [dataFor, found, Option.getD_some, ← lookup_eq_some_iff distinct])
  | none => exact .inr (by rw [dataFor, found, Option.getD_none])

theorem isScopeData_iff (scope : Scope) : IsScopeData v ↔ ∃ m, Gives v scope m := by
  constructor
  · rintro (rfl | ⟨m, rfl⟩)
    · exact ⟨_, .inl ⟨rfl, rfl⟩⟩
    · exact ⟨m, .inr rfl⟩
  · rintro ⟨m, ⟨rfl, -⟩ | rfl⟩
    · exact .inl rfl
    · exact .inr ⟨m, rfl⟩

theorem isScopeData_dataFor_iff (distinct : (entries.map Prod.fst).Nodup) :
    IsScopeData (dataFor entries scope) ↔
      ∀ v, (.str scope.name, v) ∈ entries → IsScopeData v := by
  constructor
  · intro h v mem
    rwa [← dataFor_of_mem distinct mem]
  · intro h
    rcases mem_or_dataFor_eq_null distinct scope with mem | null
    · exact h _ mem
    · exact .inl null

theorem foreignKeys_eq_nil_iff :
    foreignKeys entries = [] ↔ ∀ entry ∈ entries, ∃ scope : Scope, entry.1 = .str scope.name := by
  simp [foreignKeys, ← isScopeKey_iff]

end Entries

/-! ### Mappings that are accepted -/

section Normalization

variable {entries : List (Value × Value)} {context : Context}

theorem ofEntries_eq_ok_iff_dataFor :
    ofEntries entries = .ok context ↔
      foreignKeys entries = [] ∧ ∀ scope, Gives (dataFor entries scope) scope
        (context.scope scope) := by
  rw [ofEntries_eq_ok_iff, foreignKeys_eq_nil_iff]
  simp only [isScopeKey_iff]
  rfl

theorem exists_ofEntries_eq_ok_iff (distinct : (entries.map Prod.fst).Nodup) :
    (∃ context, ofEntries entries = .ok context) ↔
      ∀ entry ∈ entries, (∃ scope : Scope, entry.1 = .str scope.name) ∧ IsScopeData entry.2 := by
  constructor
  · rintro ⟨context, made⟩ ⟨key, v⟩ mem
    obtain ⟨known, gives⟩ := ofEntries_eq_ok_iff_dataFor.mp made
    obtain ⟨scope, rfl⟩ := foreignKeys_eq_nil_iff.mp known _ mem
    exact ⟨⟨scope, rfl⟩, (isScopeData_dataFor_iff distinct).mp
      ((isScopeData_iff scope).mpr ⟨_, gives scope⟩) v mem⟩
  · intro wellFormed
    have data (scope : Scope) : ∃ m, Gives (dataFor entries scope) scope m :=
      (isScopeData_iff scope).mp ((isScopeData_dataFor_iff distinct).mpr fun v mem =>
        (wellFormed _ mem).2)
    obtain ⟨context, made⟩ := exists_ofScopes_eq_ok data
    exact ⟨context, ofEntries_eq_ok_iff_dataFor.mpr
      ⟨foreignKeys_eq_nil_iff.mpr fun entry mem => (wellFormed entry mem).1,
        ofScopes_eq_ok_iff.mp made⟩⟩

theorem accepts (distinct : (entries.map Prod.fst).Nodup) : Accepts entries where
  exists_iff := exists_ofEntries_eq_ok_iff distinct
  given := by
    intro context made scope m mem
    have gives := (ofEntries_eq_ok_iff_dataFor.mp made).2 scope
    rw [dataFor_of_mem distinct mem] at gives
    exact eq_of_gives_toValue gives
  empty := by
    intro context made scope absent
    have null : dataFor entries scope = .null :=
      (mem_or_dataFor_eq_null distinct scope).elim (absent _) id
    have gives := (ofEntries_eq_ok_iff_dataFor.mp made).2 scope
    rw [null] at gives
    rcases gives with ⟨-, empty⟩ | same
    · exact empty
    · cases same

/-! ### Mappings that are refused -/

theorem firstMalformed?_eq_some_iff {data : Scope → Value} {scope : Scope} {v : Value} :
    firstMalformed? data = some (scope, v) ↔
      v = data scope ∧ ¬ IsScopeData v ∧ ∃ before after, Scope.all = before ++ scope :: after ∧
        ∀ s ∈ before, IsScopeData (data s) := by
  have isNone_iff (s : Scope) :
      (mappingFor? s (data s)).isNone ↔ ¬ IsScopeData (data s) := by
    rw [isScopeData_iff s, Option.isNone_iff_eq_none, Option.eq_none_iff_forall_not_mem]
    simp [mappingFor?_eq_some_iff]
  simp only [firstMalformed?, Option.map_eq_some_iff, List.find?_eq_some_iff_append, isNone_iff,
    Bool.not_eq_true', ← Bool.not_eq_true, not_not, Prod.mk.injEq]
  constructor
  · rintro ⟨_, found, rfl, rfl⟩
    exact ⟨rfl, found⟩
  · rintro ⟨rfl, found⟩
    exact ⟨scope, found, rfl, rfl⟩

open Value in
theorem ofOneKind_cons_cons_iff {key other : Value} {rest : List Value} :
    OfOneKind (key :: other :: rest) ↔
      (key.keyKind != .other && (other :: rest).all (·.keyKind == key.keyKind)) := by
  rw [Bool.and_eq_true, bne_iff_ne, List.all_eq_true]
  simp only [beq_iff_eq]
  constructor
  · rintro (short | ⟨kind, ne_other, h⟩)
    · simp at short
    · have first : key.keyKind = kind := h key (List.mem_cons_self ..)
      exact ⟨first ▸ ne_other, fun k hk => (h k (List.mem_cons_of_mem _ hk)).trans first.symm⟩
  · rintro ⟨ne_other, h⟩
    exact .inr ⟨key.keyKind, ne_other, List.forall_mem_cons.mpr ⟨rfl, h⟩⟩

open Value in
/-- Keys of one kind are told in the order that sorting gives, and others are not told. -/
theorem unknownKeys?_eq_some_iff {keys : List Value} {e : ContextError} :
    unknownKeys? keys = some e ↔
      OfOneKind keys ∧ (∃ first rest, keys.mergeSort keyLe = first :: rest ∧
        e = .unknownScopes first rest) ∨ ¬ OfOneKind keys ∧ e = .unorderedKeys := by
  match keys with
  | [] => simp [unknownKeys?, OfOneKind]
  | [key] => simp [unknownKeys?, OfOneKind, eq_comm]
  | key :: other :: rest =>
    rw [ofOneKind_cons_cons_iff]
    simp only [unknownKeys?]
    split
    · next oneKind =>
      rw [oneKind]
      cases (key :: other :: rest).mergeSort keyLe <;> simp [eq_comm]
    · next several =>
      rw [Bool.eq_false_iff.mpr several]
      simp [eq_comm]

theorem ofEntries_eq (entries : List (Value × Value)) :
    ofEntries entries =
      match unknownKeys? (foreignKeys entries) with
      | some e => .error e
      | none => ofScopes (dataFor entries) := rfl

/-- Foreign keys are reported first, and scopes whose data is malformed only if there are none. -/
theorem ofEntries_eq_error_iff {e : ContextError} :
    ofEntries entries = .error e ↔
      unknownKeys? (foreignKeys entries) = some e ∨
        foreignKeys entries = [] ∧ ∃ scope v, firstMalformed? (dataFor entries) = some (scope, v) ∧
          e = .notMapping scope v := by
  rw [ofEntries_eq]
  cases unknown : unknownKeys? (foreignKeys entries) with
  | some e' =>
    have nonempty : foreignKeys entries ≠ [] := fun none => by
      rw [unknownKeys?_eq_none_iff.mpr none] at unknown
      cases unknown
    simp [nonempty]
  | none =>
    have known := unknownKeys?_eq_none_iff.mp unknown
    rw [ofScopes]
    cases firstMalformed? (dataFor entries) with
    | none => simp
    | some first =>
      obtain ⟨scope, v⟩ := first
      simp [known, eq_comm]

/-- The calls that end without a report are those with foreign keys of several kinds. -/
theorem exists_unreported_iff :
    (∃ e, ofEntries entries = .error e ∧ e.report? = none) ↔
      ¬ Value.OfOneKind (foreignKeys entries) := by
  constructor
  · rintro ⟨e, refused, unreported⟩
    rcases ofEntries_eq_error_iff.mp refused with unknown | ⟨-, scope, v, -, rfl⟩
    · rcases unknownKeys?_eq_some_iff.mp unknown with ⟨-, first, rest, -, rfl⟩ | ⟨several, -⟩
      · cases unreported
      · exact several
    · cases unreported
  · intro several
    exact ⟨.unorderedKeys, ofEntries_eq_error_iff.mpr
      (.inl (unknownKeys?_eq_some_iff.mpr (.inr ⟨several, rfl⟩))), rfl⟩

theorem refuses_of_inOrder (distinct : (entries.map Prod.fst).Nodup)
    (inOrder : Value.InOrder (foreignKeys entries)) : Refuses entries := by
  intro e refused
  rcases ofEntries_eq_error_iff.mp refused with unknown | ⟨known, scope, v, malformed, rfl⟩
  · rcases unknownKeys?_eq_some_iff.mp unknown with ⟨-, first, rest, sorted, rfl⟩ | ⟨several, -⟩
    · have perm := List.mergeSort_perm (foreignKeys entries) Value.keyLe
      have increasing := Value.pairwise_mergeSort_keyLe inOrder
      rw [sorted] at perm increasing
      exact ⟨first.display, .key perm.symm increasing, rfl⟩
    · exact absurd inOrder.ofOneKind several
  · obtain ⟨rfl, malformed, before, after, listed, earlier⟩ :=
      firstMalformed?_eq_some_iff.mp malformed
    have given := (mem_or_dataFor_eq_null distinct scope).resolve_right fun null =>
      malformed (.inl null)
    exact ⟨scope.name, .scope known listed given malformed fun s hs =>
      (isScopeData_dataFor_iff distinct).mp (earlier s hs), rfl⟩

/-- A report of the foreign keys can only be asked for if they can be told in order. -/
theorem inOrder_of_refuses (h : Refuses entries) : Value.InOrder (foreignKeys entries) := by
  cases unknown : unknownKeys? (foreignKeys entries) with
  | none =>
    rw [unknownKeys?_eq_none_iff.mp unknown]
    exact .inl (Nat.zero_le 1)
  | some e =>
    obtain ⟨name, blames, -⟩ := h e (ofEntries_eq_error_iff.mpr (.inl unknown))
    cases blames with
    | key keys sorted => exact Value.inOrder_of_pairwise keys sorted
    | scope known =>
      rw [known]
      exact .inl (Nat.zero_le 1)

end Normalization

open Value in
/-- A mapping makes a context exactly if its keys name scopes and its data is null or mappings. Any
other is refused with a report of the name that it is blamed for exactly if the keys that name no
scope can be told in order: there is one at most, or they are texts, dates or numbers without a NaN.
Keys of several kinds end the call without any report. -/
theorem refuses_iff_inOrder {entries : List (Value × Value)}
    (distinct : (entries.map Prod.fst).Nodup) :
    Accepts entries ∧ (Refuses entries ↔ InOrder (foreignKeys entries)) ∧
      ((∃ e, (ContextSource.scopes entries).normalize = .error e ∧ e.report? = none) ↔
        ¬ OfOneKind (foreignKeys entries)) :=
  ⟨accepts distinct, ⟨inOrder_of_refuses, refuses_of_inOrder distinct⟩, exists_unreported_iff⟩

/-- Two texts that name no scope are reported, whatever the data of the scope between them. -/
theorem refuses_two_texts :
    (([(.str "zeta", .null), (.str "vars", .int 5), (.str "alpha", .null)] :
        List (Value × Value)).map Prod.fst).Nodup ∧
      Refuses [(.str "zeta", .null), (.str "vars", .int 5), (.str "alpha", .null)] := by
  have distinct : (([(.str "zeta", .null), (.str "vars", .int 5), (.str "alpha", .null)] :
      List (Value × Value)).map Prod.fst).Nodup := by simp
  have foreign : foreignKeys [(.str "zeta", .null), (.str "vars", .int 5), (.str "alpha", .null)] =
      [.str "zeta", .str "alpha"] := by rfl
  have inOrder : Value.InOrder (foreignKeys
      [(.str "zeta", .null), (.str "vars", .int 5), (.str "alpha", .null)]) := by
    rw [foreign]
    exact .inr ⟨.text, by decide, by simp [Value.keyKind]⟩
  exact ⟨distinct, (refuses_iff_inOrder distinct).2.1.mpr inOrder⟩

/-- A number and a text that name no scope end the call without a report. -/
theorem not_refuses_number_and_text :
    (([(.int 7, .mapping (.object 1) []), (.str "secrets", .mapping (.object 2) [])] :
        List (Value × Value)).map Prod.fst).Nodup ∧
      (ContextSource.scopes [(.int 7, .mapping (.object 1) []),
        (.str "secrets", .mapping (.object 2) [])]).normalize = .error .unorderedKeys ∧
      ContextError.unorderedKeys.report? = none ∧
      ¬ Refuses [(.int 7, .mapping (.object 1) []), (.str "secrets", .mapping (.object 2) [])] := by
  have refused : (ContextSource.scopes [(.int 7, .mapping (.object 1) []),
      (.str "secrets", .mapping (.object 2) [])]).normalize = .error .unorderedKeys := by rfl
  refine ⟨by simp, refused, rfl, fun refuses => ?_⟩
  obtain ⟨name, -, told⟩ := refuses _ refused
  cases told

end Context

end Bulletin
