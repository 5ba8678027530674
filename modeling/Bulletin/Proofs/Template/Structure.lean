import Bulletin.Proofs.FirstFault
import Bulletin.Proofs.Template.Substitution

/-!
# Rendering a structured value

A structured value is rendered string by string. The first string of the document that fails is the
error, a key before its value, and if none fails, every string has its own rendering in its place
and all else stays as it was. Keys that become one text share the place of the first of them and the
value of the last.
-/

namespace Bulletin

namespace Value

/-! ### Keys that become one text -/

/-- The value that comes last under a key, whose first value is given. -/
def lastValue (key first : Value) (entries : List (Value × Value)) : Value :=
  ((entries.filter fun entry => entry.1.sameText key).map (·.2)).getLastD first

/-- The entries whose key is not the same text. -/
def withoutKey (key : Value) (entries : List (Value × Value)) : List (Value × Value) :=
  entries.filter fun entry => !entry.1.sameText key

/-- Entries without those whose key has come before. An entry that stays has the value that comes
last under its key. -/
def mergeKeys : List (Value × Value) → List (Value × Value)
  | [] => []
  | (key, first) :: rest => (key, lastValue key first rest) :: mergeKeys (withoutKey key rest)
termination_by entries => entries.length
decreasing_by exact Nat.lt_succ_of_le (List.length_filter_le _ _)

theorem sameText_swap (a b : Value) : a.sameText b = b.sameText a := by
  cases a <;> cases b <;> simp only [sameText]
  exact Bool.beq_comm

def putAll (done entries : List (Value × Value)) : List (Value × Value) :=
  entries.foldl (fun done entry => putEntry sameText entry.1 entry.2 done) done

/-- The first entry that is there stays the first, whatever is put. It gets the value that comes
last under its key, and the others do not meet it. -/
theorem putAll_cons (key first : Value) (done entries : List (Value × Value)) :
    putAll ((key, first) :: done) entries =
      (key, lastValue key first entries) :: putAll done (withoutKey key entries) := by
  induction entries generalizing first done with
  | nil => rfl
  | cons entry entries ih =>
    have swap := sameText_swap key entry.1
    cases same : entry.1.sameText key with
    | true =>
      have put : putEntry sameText entry.1 entry.2 ((key, first) :: done) =
          (key, entry.2) :: done := by
        rw [putEntry, swap, same, if_pos rfl]
      have last : lastValue key first (entry :: entries) = lastValue key entry.2 entries := by
        simp only [lastValue, List.filter_cons, same, if_true, List.map_cons, List.getLastD_cons]
      have rest : withoutKey key (entry :: entries) = withoutKey key entries :=
        List.filter_cons_of_neg (by simp [same])
      rw [putAll, List.foldl_cons, put, last, rest]
      exact ih entry.2 done
    | false =>
      have put : putEntry sameText entry.1 entry.2 ((key, first) :: done) =
          (key, first) :: putEntry sameText entry.1 entry.2 done := by
        rw [putEntry, swap, same, if_neg Bool.false_ne_true]
      have last : lastValue key first (entry :: entries) = lastValue key first entries := by
        simp only [lastValue, List.filter_cons, same, Bool.false_eq_true, if_false]
      have rest : withoutKey key (entry :: entries) = entry :: withoutKey key entries :=
        List.filter_cons_of_pos (by simp [same])
      rw [putAll, List.foldl_cons, put, last, rest]
      exact ih first (putEntry sameText entry.1 entry.2 done)

theorem putAll_nil (entries : List (Value × Value)) : putAll [] entries = mergeKeys entries := by
  fun_induction mergeKeys entries with
  | case1 => rfl
  | case2 key first rest ih => rw [← ih, ← putAll_cons key first [] rest]; rfl

/-- No entry is lost if no two keys are one text. -/
theorem mergeKeys_eq_self {entries : List (Value × Value)}
    (h : entries.Pairwise fun entry other => other.1.sameText entry.1 = false) :
    mergeKeys entries = entries := by
  induction entries with
  | nil => rw [mergeKeys]
  | cons entry rest ih =>
    obtain ⟨first, others⟩ := List.pairwise_cons.mp h
    have kept : withoutKey entry.1 rest = rest :=
      List.filter_eq_self.mpr fun other hother => by rw [first other hother]; rfl
    have alone : (rest.filter fun other => other.1.sameText entry.1) = [] :=
      List.filter_eq_nil_iff.mpr fun other hother => by
        rw [first other hother]
        exact Bool.false_ne_true
    rw [mergeKeys, lastValue, kept, alone, ih others]
    rfl

/-! ### What a rendered value is -/

mutual

/-- A value is another one with every string in it rendered. -/
inductive IsRendering {ε : Type} (render : String → Except ε String) : Value → Value → Prop where
  | str {s text : String} (h : render s = .ok text) : IsRendering render (.str s) (.str text)
  | list (identity : Identity) {items results : List Value}
      (h : AreRenderings render items results) :
      IsRendering render (.list identity items) (.list identity results)
  | mapping (identity : Identity) {entries results : List (Value × Value)}
      (h : AreEntryRenderings render entries results) :
      IsRendering render (.mapping identity entries) (.mapping identity (mergeKeys results))
  | null : IsRendering render .null .null
  | undefined : IsRendering render .undefined .undefined
  | bool (b : Bool) : IsRendering render (.bool b) (.bool b)
  | int (n : Int) : IsRendering render (.int n) (.int n)
  | double (x : Double) : IsRendering render (.double x) (.double x)
  | date (identity : Identity) (text : String) :
      IsRendering render (.date identity text) (.date identity text)

inductive AreRenderings {ε : Type} (render : String → Except ε String) :
    List Value → List Value → Prop where
  | nil : AreRenderings render [] []
  | cons {v result : Value} {items results : List Value} (first : IsRendering render v result)
      (others : AreRenderings render items results) :
      AreRenderings render (v :: items) (result :: results)

/-- Entries one by one. A key that is no text stays. -/
inductive AreEntryRenderings {ε : Type} (render : String → Except ε String) :
    List (Value × Value) → List (Value × Value) → Prop where
  | nil : AreEntryRenderings render [] []
  | text {s text : String} {v result : Value} {entries results : List (Value × Value)}
      (key : render s = .ok text) (value : IsRendering render v result)
      (others : AreEntryRenderings render entries results) :
      AreEntryRenderings render ((.str s, v) :: entries) ((.str text, result) :: results)
  | other {key v result : Value} {entries results : List (Value × Value)}
      (noText : ∀ s, key ≠ .str s) (value : IsRendering render v result)
      (others : AreEntryRenderings render entries results) :
      AreEntryRenderings render ((key, v) :: entries) ((key, result) :: results)

end

section

variable {ε : Type} {render : String → Except ε String}

theorem AreRenderings.length_eq {items results : List Value}
    (h : AreRenderings render items results) :
    results.length = items.length := by
  match h with
  | .nil => rfl
  | .cons first others => rw [List.length_cons, List.length_cons, others.length_eq]

/-! ### The first string that fails -/

def keyStrings : Value → List String
  | .str s => [s]
  | _ => []

theorem stringsOfEntries_cons (key v : Value) (rest : List (Value × Value)) :
    stringsOfEntries ((key, v) :: rest) = keyStrings key ++ strings v ++ stringsOfEntries rest := by
  cases key <;> rfl

theorem fault?_renderKey (key : Value) :
    fault? (renderKey render key) = firstFault? render (keyStrings key) := by
  cases key with
  | str s => simp [renderKey, keyStrings, firstFault?]
  | _ => rfl

mutual

theorem fault?_renderStrings : ∀ v : Value,
    fault? (v.renderStrings render) = firstFault? render v.strings
  | .str s => by simp [renderStrings, strings, firstFault?]
  | .list identity items => by
    rw [renderStrings, fault?_map, strings, fault?_renderItems]
  | .mapping identity entries => by
    rw [renderStrings, fault?_map, strings, fault?_renderEntries]
  | .null => rfl
  | .undefined => rfl
  | .bool b => rfl
  | .int n => rfl
  | .double x => rfl
  | .date identity text => rfl

theorem fault?_renderItems : ∀ items : List Value,
    fault? (renderItems render items) = firstFault? render (stringsOfItems items)
  | [] => rfl
  | v :: rest => by
    rw [renderItems, stringsOfItems, firstFault?_append, ← fault?_renderStrings v,
      ← fault?_renderItems rest]
    cases v.renderStrings render with
    | error e => rfl
    | ok result => exact fault?_map _ _

theorem fault?_renderEntries (done : List (Value × Value)) : ∀ entries : List (Value × Value),
    fault? (renderEntries render done entries) = firstFault? render (stringsOfEntries entries)
  | [] => rfl
  | (k, v) :: rest => by
    rw [renderEntries, stringsOfEntries_cons, firstFault?_append, firstFault?_append,
      ← fault?_renderKey k, ← fault?_renderStrings v]
    cases renderKey render k with
    | error e => rfl
    | ok key =>
      cases v.renderStrings render with
      | error e => rfl
      | ok result => exact fault?_renderEntries _ rest

end

/-! ### The rendered value -/

theorem areEntryRenderings_cons_iff {key v : Value} {rest rendered : List (Value × Value)} :
    AreEntryRenderings render ((key, v) :: rest) rendered ↔
      ∃ key' result others, renderKey render key = .ok key' ∧ IsRendering render v result ∧
        AreEntryRenderings render rest others ∧ rendered = (key', result) :: others := by
  constructor
  · intro h
    cases h with
    | text hkey value others =>
      exact ⟨_, _, _, map_eq_ok_iff.mpr ⟨_, hkey, rfl⟩, value, others, rfl⟩
    | other noText value others =>
      have stays : renderKey render key = .ok key := by
        cases key with
        | str s => exact absurd rfl (noText s)
        | _ => rfl
      exact ⟨_, _, _, stays, value, others, rfl⟩
  · rintro ⟨key', result, others, hkey, value, hothers, rfl⟩
    cases key with
    | str s =>
      obtain ⟨text, htext, rfl⟩ := map_eq_ok_iff.mp hkey
      exact .text htext value hothers
    | _ =>
      cases hkey
      exact .other (fun s => by simp) value hothers

mutual

theorem renderStrings_eq_ok_iff : ∀ v result : Value,
    v.renderStrings render = .ok result ↔ IsRendering render v result
  | .str s, result => by
    rw [renderStrings, map_eq_ok_iff]
    constructor
    · rintro ⟨text, h, rfl⟩
      exact .str h
    · intro h
      cases h with
      | str h => exact ⟨_, h, rfl⟩
  | .list identity items, result => by
    rw [renderStrings, map_eq_ok_iff]
    constructor
    · rintro ⟨results, h, rfl⟩
      exact .list identity ((renderItems_eq_ok_iff items results).mp h)
    · intro h
      cases h with
      | list _ h => exact ⟨_, (renderItems_eq_ok_iff items _).mpr h, rfl⟩
  | .mapping identity entries, result => by
    rw [renderStrings, map_eq_ok_iff]
    constructor
    · rintro ⟨results, h, rfl⟩
      obtain ⟨rendered, areRenderings, rfl⟩ := (renderEntries_eq_ok_iff [] entries results).mp h
      rw [putAll_nil]
      exact .mapping identity areRenderings
    · intro h
      cases h with
      | mapping _ h =>
        exact ⟨_, (renderEntries_eq_ok_iff [] entries _).mpr ⟨_, h, putAll_nil _⟩, rfl⟩
  | .null, result => ⟨fun h => by cases h; exact .null, fun h => by cases h; rfl⟩
  | .undefined, result => ⟨fun h => by cases h; exact .undefined, fun h => by cases h; rfl⟩
  | .bool b, result => ⟨fun h => by cases h; exact .bool b, fun h => by cases h; rfl⟩
  | .int n, result => ⟨fun h => by cases h; exact .int n, fun h => by cases h; rfl⟩
  | .double x, result => ⟨fun h => by cases h; exact .double x, fun h => by cases h; rfl⟩
  | .date identity text, result =>
    ⟨fun h => by cases h; exact .date identity text, fun h => by cases h; rfl⟩

theorem renderItems_eq_ok_iff : ∀ items results : List Value,
    renderItems render items = .ok results ↔ AreRenderings render items results
  | [], results => ⟨fun h => by cases h; exact .nil, fun h => by cases h; rfl⟩
  | v :: rest, results => by
    rw [renderItems]
    constructor
    · intro h
      split at h
      · cases h
      · next first hfirst =>
        obtain ⟨others, hothers, rfl⟩ := map_eq_ok_iff.mp h
        exact .cons ((renderStrings_eq_ok_iff v first).mp hfirst)
          ((renderItems_eq_ok_iff rest others).mp hothers)
    · intro h
      cases h with
      | cons first others =>
        rw [(renderStrings_eq_ok_iff v _).mpr first, (renderItems_eq_ok_iff rest _).mpr others]
        rfl

theorem renderEntries_eq_ok_iff (done : List (Value × Value)) :
    ∀ entries results : List (Value × Value),
      renderEntries render done entries = .ok results ↔
        ∃ rendered, AreEntryRenderings render entries rendered ∧ putAll done rendered = results
  | [], results => by
    constructor
    · intro h
      cases h
      exact ⟨[], .nil, rfl⟩
    · rintro ⟨rendered, h, rfl⟩
      cases h
      rfl
  | (key, v) :: rest, results => by
    rw [renderEntries]
    constructor
    · intro h
      split at h
      · cases h
      · next key' hkey =>
        split at h
        · cases h
        · next result hresult =>
          obtain ⟨others, hothers, rfl⟩ := (renderEntries_eq_ok_iff _ rest results).mp h
          refine ⟨(key', result) :: others, areEntryRenderings_cons_iff.mpr ?_, rfl⟩
          exact ⟨key', result, others, hkey, (renderStrings_eq_ok_iff v result).mp hresult,
            hothers, rfl⟩
    · rintro ⟨rendered, h, rfl⟩
      obtain ⟨key', result, others, hkey, hresult, hothers, rfl⟩ :=
        areEntryRenderings_cons_iff.mp h
      rw [hkey, (renderStrings_eq_ok_iff v result).mpr hresult]
      exact (renderEntries_eq_ok_iff _ rest _).mpr ⟨others, hothers, rfl⟩

end

/-! ### Ways of rendering that agree -/

section Congr

variable {render' : String → Except ε String}

theorem renderKey_congr (key : Value) (h : ∀ s ∈ keyStrings key, render s = render' s) :
    renderKey render key = renderKey render' key := by
  cases key with
  | str s => rw [renderKey, renderKey, h s (List.mem_singleton_self s)]
  | _ => rfl

mutual

/-- Two ways of rendering that agree on the strings of a value render it alike. -/
theorem renderStrings_congr : ∀ v : Value, (∀ s ∈ v.strings, render s = render' s) →
    v.renderStrings render = v.renderStrings render'
  | .str s, h => by rw [renderStrings, renderStrings, h s (List.mem_singleton_self s)]
  | .list identity items, h => by rw [renderStrings, renderStrings, renderItems_congr items h]
  | .mapping identity entries, h => by
    rw [renderStrings, renderStrings, renderEntries_congr [] entries h]
  | .null, _ => rfl
  | .undefined, _ => rfl
  | .bool _, _ => rfl
  | .int _, _ => rfl
  | .double _, _ => rfl
  | .date _ _, _ => rfl

theorem renderItems_congr : ∀ items : List Value,
    (∀ s ∈ stringsOfItems items, render s = render' s) →
      renderItems render items = renderItems render' items
  | [], _ => rfl
  | v :: rest, h => by
    rw [stringsOfItems] at h
    rw [renderItems, renderItems,
      renderStrings_congr v fun s hs => h s (List.mem_append_left _ hs),
      renderItems_congr rest fun s hs => h s (List.mem_append_right _ hs)]

theorem renderEntries_congr (done : List (Value × Value)) : ∀ entries : List (Value × Value),
    (∀ s ∈ stringsOfEntries entries, render s = render' s) →
      renderEntries render done entries = renderEntries render' done entries
  | [], _ => rfl
  | (key, v) :: rest, h => by
    rw [stringsOfEntries_cons] at h
    have keys := renderKey_congr key fun s hs =>
      h s (List.mem_append_left _ (List.mem_append_left _ hs))
    have values := renderStrings_congr v fun s hs =>
      h s (List.mem_append_left _ (List.mem_append_right _ hs))
    have others (done : List (Value × Value)) := renderEntries_congr done rest fun s hs =>
      h s (List.mem_append_right _ hs)
    simp only [renderEntries, keys, values, others]

end

end Congr

end

end Value

namespace Renderer

open Template

variable {r : Renderer}

theorem renderValue_eq_error_iff {v : Value} {e : RenderError} :
    r.renderValue v = .error e ↔
      ∃ before s after, v.strings = before ++ s :: after ∧ r.render s = .error e ∧
        ∀ t ∈ before, ∃ text, r.render t = .ok text := by
  rw [← firstFault?_eq_some_iff, ← Value.fault?_renderStrings, fault?_eq_some_iff, renderValue]

theorem exists_renderValue_eq_error_iff {v : Value} :
    (∃ e, r.renderValue v = .error e) ↔ ∃ s ∈ v.strings, ∃ e, r.render s = .error e := by
  rw [← exists_firstFault?_eq_some_iff, ← Value.fault?_renderStrings]
  simp only [fault?_eq_some_iff, renderValue]

/-- A limit that no string exceeds on its own does not matter. -/
theorem renderValue_eq_unlimited {v : Value}
    (h : ∀ s ∈ v.strings, ∀ limit, ¬ r.Exceeds (ofText s) limit) :
    r.renderValue v = renderValue ⟨r.evaluator, none⟩ v := by
  refine Value.renderStrings_congr v fun s hs => ?_
  have unlimited (limit : Int) : ¬ Exceeds ⟨r.evaluator, none⟩ (ofText s) limit :=
    fun exceeds => nomatch exceeds.1
  rw [render_eq_fill (h s hs), render_eq_fill unlimited]
  rfl

/-- Rendering a structured value fails exactly when one of its strings fails on its own, and the
first such string of the document is the error. Otherwise the result has the rendering of every
string in its place, lists of the same lengths, and all else as it was; an entry is lost only to a
key that becomes the same text. The limit counts for every string on its own. -/
theorem renderValue_string_by_string (r : Renderer) (v : Value) :
    ((∃ e, r.renderValue v = .error e) ↔ ∃ s ∈ v.strings, ∃ e, r.render s = .error e) ∧
      (∀ e, r.renderValue v = .error e ↔
        ∃ before s after, v.strings = before ++ s :: after ∧ r.render s = .error e ∧
          ∀ t ∈ before, ∃ text, r.render t = .ok text) ∧
      (∀ result, r.renderValue v = .ok result ↔ v.IsRendering r.render result) ∧
      (∀ items results : List Value, Value.AreRenderings r.render items results →
        results.length = items.length) ∧
      (∀ entries : List (Value × Value),
        entries.Pairwise (fun entry other => other.1.sameText entry.1 = false) →
          Value.mergeKeys entries = entries) ∧
      ((∀ s ∈ v.strings, ∀ limit, ¬ r.Exceeds (ofText s) limit) →
        r.renderValue v = renderValue ⟨r.evaluator, none⟩ v) := by
  exact ⟨exists_renderValue_eq_error_iff, fun e => renderValue_eq_error_iff,
    Value.renderStrings_eq_ok_iff v, fun items results => Value.AreRenderings.length_eq,
    fun entries => Value.mergeKeys_eq_self, renderValue_eq_unlimited⟩

end Renderer

end Bulletin
