import Bulletin.Proofs.Context.Routes

/-!
# Paths by segments

A path is followed from one scope, and one more segment is one more step from the value that the
path has. There is no step out of anything but a list or a mapping. So a path that is not undefined
leads along children that are there, and a path that goes on from a value without children is
undefined.
-/

namespace Bulletin

namespace Value

/-- The step of one segment, in the scopes that have their names as they are written only or in any
case. -/
def step (exact : Bool) : Value → String → Value := if exact then child else childAnyCase

def spellings (exact : Bool) (segment : String) : List String :=
  if exact then [segment] else [segment, upperString segment, lowerString segment]

/-- A value is stored in a mapping under a name, or in a list at the position that the name
is. -/
inductive Holds : Value → String → Value → Prop where
  | entry {identity : Identity} {entries : List (Value × Value)} {name : String} {v : Value}
      (h : (.str name, v) ∈ entries) : Holds (.mapping identity entries) name v
  | item {identity : Identity} {items : List Value} {name : String} {position : Nat} {v : Value}
      (named : indexOf? name = some position) (h : items[position]? = some v) :
      Holds (.list identity items) name v

/-- A value stands at the end of a chain of children, each of which is there under a name that its
segment may stand for. -/
inductive Chain (exact : Bool) : Value → List String → Value → Prop where
  | nil (v : Value) : Chain exact v [] v
  | cons {start next v : Value} {segment name : String} {rest : List String}
      (spelled : name ∈ spellings exact segment) (held : start.Holds name next)
      (others : Chain exact next rest v) : Chain exact start (segment :: rest) v

/-! ### One step -/

variable {exact : Bool} {v start : Value} {segment name : String}

theorem child_of_not_isStructured (h : v.isStructured = false) (segment : String) :
    v.child segment = .undefined := by
  cases v with
  | list identity items => cases h
  | mapping identity entries => cases h
  | _ => rfl

theorem step_of_not_isStructured (h : v.isStructured = false) (exact : Bool) (segment : String) :
    step exact v segment = .undefined := by
  cases exact with
  | true => exact child_of_not_isStructured h segment
  | false => simp [step, childAnyCase, child_of_not_isStructured h, isNil]

theorem not_isStructured_of_isNil (h : v.isNil) : v.isStructured = false := by
  cases v <;> first | rfl | cases h

theorem mem_of_lookup {entries : List (Value × Value)} (h : lookup name entries = some v) :
    (.str name, v) ∈ entries := by
  obtain ⟨⟨key, found⟩, hfound, rfl⟩ := Option.map_eq_some_iff.mp h
  have same : key.sameText (.str name) := by simpa using List.find?_some hfound
  cases key with
  | str s =>
    obtain rfl : s = name := beq_iff_eq.mp same
    exact List.mem_of_find?_eq_some hfound
  | _ => cases same

theorem holds_child (h : v.child segment ≠ .undefined) : v.Holds segment (v.child segment) := by
  cases v with
  | mapping identity entries =>
    simp only [child] at h ⊢
    cases found : lookup segment entries with
    | some v => exact .entry (mem_of_lookup found)
    | none => exact absurd (by rw [found]; rfl) h
  | list identity items =>
    simp only [child] at h ⊢
    cases found : (indexOf? segment).bind (items[·]?) with
    | some v =>
      obtain ⟨position, named, hposition⟩ := Option.bind_eq_some_iff.mp found
      exact .item named hposition
    | none => exact absurd (by rw [found]; rfl) h
  | _ => exact absurd rfl h

theorem ne_undefined_of_not_isNil (h : v.isNil = false) : v ≠ .undefined := by
  rintro rfl
  cases h

/-- A step that leads anywhere leads to a child that is there. -/
theorem exists_holds_step (h : step exact v segment ≠ .undefined) :
    ∃ name ∈ spellings exact segment, v.Holds name (step exact v segment) := by
  cases exact with
  | true => exact ⟨segment, List.mem_singleton_self segment, holds_child h⟩
  | false =>
    simp only [step, spellings, childAnyCase, Bool.false_eq_true, if_false, List.mem_cons,
      List.not_mem_nil, or_false, exists_eq_or_imp, exists_eq_left] at h ⊢
    split
    · next found => exact .inl (holds_child (ne_undefined_of_not_isNil (by simpa using found)))
    · split
      · next found =>
        exact .inr (.inl (holds_child (ne_undefined_of_not_isNil (by simpa using found))))
      · next missing hmissing =>
        rw [if_neg missing, if_neg hmissing] at h
        exact .inr (.inr (holds_child h))

/-! ### Many steps -/

theorem descend_append (step : Value → String → Value) (start : Value)
    (segments more : List String) :
    descend step start (segments ++ more) = descend step (descend step start segments) more := by
  induction segments generalizing start with
  | nil => rfl
  | cons segment rest ih =>
    simp only [List.cons_append, descend]
    split
    · rw [descend_undefined]
    · exact ih (step start segment)

theorem descend_singleton (exact : Bool) (start : Value) (segment : String) :
    descend (step exact) start [segment] = step exact start segment := by
  simp only [descend]
  split
  · next nothing => rw [step_of_not_isStructured (not_isStructured_of_isNil nothing)]
  · rfl

theorem descend_of_not_isStructured (h : start.isStructured = false) (exact : Bool)
    (segment : String) (rest : List String) :
    descend (step exact) start (segment :: rest) = .undefined := by
  simp only [descend, step_of_not_isStructured h, descend_undefined, ite_self]

theorem chain_descend {segments : List String}
    (h : descend (step exact) start segments ≠ .undefined) :
    Chain exact start segments (descend (step exact) start segments) := by
  induction segments generalizing start with
  | nil => exact .nil start
  | cons segment rest ih =>
    simp only [descend] at h ⊢
    split at h
    · exact absurd rfl h
    · next something =>
      rw [if_neg something]
      have there : step exact start segment ≠ .undefined := fun missing => by
        rw [missing, descend_undefined] at h
        exact h rfl
      obtain ⟨name, spelled, held⟩ := exists_holds_step there
      exact .cons spelled held (ih h)

end Value

namespace Context

/-! ### From a scope -/

def exactScopes : List String := ["vars", "github", "matrix", "job", "steps"]

/-- The first segment of a path names a scope whose names are found as they are written only. -/
def isExact (path : String) : Bool := exactScopes.contains (pathSegments path).1

/-- The scope in which a path starts, and the segments that are followed there. A first segment that
names no scope is a name among the environment variables. -/
def route (path : String) : Scope × List String :=
  match Scope.ofName? (pathSegments path).1 with
  | some scope => (scope, (pathSegments path).2)
  | none => (.envs, (pathSegments path).1 :: (pathSegments path).2)

theorem stepIn_route (path : String) : stepIn (route path).1 = Value.step (isExact path) := by
  cases named : Scope.ofName? (pathSegments path).1 with
  | some scope =>
    have first := Scope.ofName?_eq_some_iff.mp named
    simp only [route, isExact, first]
    cases scope <;> rfl
  | none =>
    have foreign : isExact path = false := by
      rw [isExact, List.contains_eq_mem, decide_eq_false_iff_not]
      intro mem
      have scopes : ∀ name ∈ exactScopes, (Scope.ofName? name).isSome := by decide
      have some := scopes _ mem
      rw [named] at some
      cases some
    simp only [route, named, foreign]
    rfl

section Paths

variable {context : Context} {environ : Environ} {path : String}

/-- A path that does not start in the host environment is followed from its scope. -/
theorem resolve_eq_descend (notHost : isHostRoot (pathSegments path).1 = false) :
    context.resolve environ path =
      Value.descend (Value.step (isExact path)) (context.scope (route path).1).toValue
        (route path).2 := by
  rw [← stepIn_route]
  cases named : Scope.ofName? (pathSegments path).1 with
  | some scope => simp only [resolve_scope notHost named, route, named]
  | none => simp only [resolve_variable notHost named, route, named]

/-- A longer path goes on from the value of the path. -/
theorem resolve_append_point (notHost : isHostRoot (pathSegments path).1 = false)
    (longer : String) :
    context.resolve environ (path ++ "." ++ longer) =
      Value.descend (Value.step (isExact path)) (context.resolve environ path)
        ((pathSegments longer).1 :: (pathSegments longer).2) := by
  have segments := pathSegments_append_point path longer
  have first : (pathSegments (path ++ "." ++ longer)).1 = (pathSegments path).1 := by rw [segments]
  have exactly : isExact (path ++ "." ++ longer) = isExact path := by rw [isExact, first, isExact]
  have goesOn : route (path ++ "." ++ longer) =
      ((route path).1,
        (route path).2 ++ (pathSegments longer).1 :: (pathSegments longer).2) := by
    simp only [route, segments]
    cases Scope.ofName? (pathSegments path).1 <;> rfl
  rw [resolve_eq_descend (by rwa [first]), exactly, goesOn, Value.descend_append,
    ← resolve_eq_descend notHost]

/-- The value of a path outside the host environment, with one more segment, is one step from the
value of the path, which does not depend on how that was reached, but for the case of names. A path
is undefined if it goes on, by one segment or by many, from what is neither a list nor a mapping,
and any other value is one that the context holds, at the end of a chain of children that are
there. -/
theorem resolve_by_segments (context : Context) (environ : Environ) (path : String)
    (notHost : isHostRoot (pathSegments path).1 = false) :
    (∀ segment : String, '.' ∉ segment.toList →
        context.resolve environ (path ++ "." ++ segment) =
          Value.step (isExact path) (context.resolve environ path) segment) ∧
      ((context.resolve environ path).isStructured = false → ∀ longer : String,
        context.resolve environ (path ++ "." ++ longer) = .undefined) ∧
      (context.resolve environ path ≠ .undefined →
        Value.Chain (isExact path) (context.scope (route path).1).toValue (route path).2
          (context.resolve environ path)) := by
  refine ⟨fun segment point => ?_, fun childless longer => ?_, fun there => ?_⟩
  · rw [resolve_append_point notHost, pathSegments_of_not_mem point, Value.descend_singleton]
  · rw [resolve_append_point notHost, Value.descend_of_not_isStructured childless]
  · rw [resolve_eq_descend notHost] at there ⊢
    exact Value.chain_descend there

/-- A list in a scope, whose items are null and a mapping: from the item at 1 one step goes on, to a
name in another case only where a bare name started, and from the one at 0 no path does. -/
theorem resolve_by_segments_of_items :
    let item : Value := .mapping (.object 1) [(.str "NAME", .str "x")]
    let items : Value := .list (.object 0) [.null, item]
    let context : Context := ⟨fun scope => ⟨.scope scope, [(.str "ITEMS", items)]⟩⟩
    isHostRoot (pathSegments "items.1").1 = false ∧
      isHostRoot (pathSegments "vars.ITEMS.1").1 = false ∧
      isHostRoot (pathSegments "items.0").1 = false ∧
      context.resolve [] ("items.1" ++ "." ++ "name") = .str "x" ∧
      context.resolve [] ("vars.ITEMS.1" ++ "." ++ "name") = .undefined ∧
      context.resolve [] ("items.0" ++ "." ++ "name.more") = .undefined ∧
      Value.Chain false (context.scope .envs).toValue ["items", "1"] item := by
  intro item items context
  have first : (context.scope .envs).toValue.childAnyCase "items" = items := by
    have upper : upperString "items" = "ITEMS" := by decide +kernel
    rw [Value.childAnyCase, upper]
    rfl
  have written : context.resolve [] "vars.ITEMS.1" = item := by rfl
  have found : context.resolve [] "items.1" = item := by
    rw [resolve_eq_descend (by decide)]
    change Value.descend Value.childAnyCase (context.scope .envs).toValue ["items", "1"] = item
    rw [Value.descend, first]
    rfl
  have null : context.resolve [] "items.0" = .null := by
    rw [resolve_eq_descend (by decide)]
    change Value.descend Value.childAnyCase (context.scope .envs).toValue ["items", "0"] = .null
    rw [Value.descend, first]
    rfl
  obtain ⟨oneMore, -, chain⟩ := resolve_by_segments context [] "items.1" (by decide)
  obtain ⟨oneMoreWritten, -, -⟩ := resolve_by_segments context [] "vars.ITEMS.1" (by decide)
  obtain ⟨-, childless, -⟩ := resolve_by_segments context [] "items.0" (by decide)
  refine ⟨by decide, by decide, by decide, ?_, ?_, childless (by rw [null]; rfl) "name.more", ?_⟩
  · have upper : upperString "name" = "NAME" := by decide +kernel
    rw [oneMore "name" (by decide), found]
    change Value.childAnyCase item "name" = _
    rw [Value.childAnyCase, upper]
    rfl
  · rw [oneMoreWritten "name" (by decide), written]
    rfl
  · rw [found] at chain
    exact chain (by simp [item])

end Paths

end Context

end Bulletin
