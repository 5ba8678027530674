import Bulletin.Proofs.Inputs
import Bulletin.Context

/-!
# Routes to a variable

A variable can be reached by its bare name, through the scope of environment variables, and through
the host environment. Each look-up tries the name as written, then in upper, then in lower case. A
bare name leads where the path through the scope leads, whatever follows the name and whatever lies
on the way. If the scope and the host environment hold the same variables, all routes lead to one
value: the text of the first spelling that is there.
-/

namespace Bulletin

/-! ### Segments -/

theorem splitPath_of_not_mem {name : List Char} (h : '.' ∉ name) : splitPath name = (name, []) := by
  induction name with
  | nil => rfl
  | cons c rest ih =>
    have hc : c ≠ '.' := fun hc => h (by simp [hc])
    have hrest : '.' ∉ rest := fun hx => h (by simp [hx])
    simp only [splitPath, ih hrest, if_neg hc]

/-- A point between two paths parts the segments of one from those of the other. -/
theorem splitPath_append_point (path longer : List Char) :
    splitPath (path ++ '.' :: longer) =
      ((splitPath path).1, (splitPath path).2 ++ (splitPath longer).1 :: (splitPath longer).2) := by
  induction path with
  | nil => simp [splitPath]
  | cons c rest ih =>
    simp only [List.cons_append, splitPath, ih]
    split <;> rfl

theorem pathSegments_of_not_mem {name : String} (h : '.' ∉ name.toList) :
    pathSegments name = (name, []) := by
  simp only [pathSegments, splitPath_of_not_mem h, String.ofList_toList, List.map_nil]

theorem pathSegments_append_point (path longer : String) :
    pathSegments (path ++ "." ++ longer) =
      ((pathSegments path).1,
        (pathSegments path).2 ++ (pathSegments longer).1 :: (pathSegments longer).2) := by
  have split : (path ++ "." ++ longer).toList = path.toList ++ '.' :: longer.toList := by simp
  simp only [pathSegments, split, splitPath_append_point, List.map_append, List.map_cons]

/-- A root that has no points, put in front of a path with a point, becomes its first segment. -/
theorem pathSegments_append (root : String) (h : '.' ∉ root.toList) (path : String) :
    pathSegments (root ++ "." ++ path) =
      (root, (pathSegments path).1 :: (pathSegments path).2) := by
  rw [pathSegments_append_point, pathSegments_of_not_mem h, List.nil_append]

theorem intercalate_cons_eq_flatMap (first : List Char) (others : List (List Char)) :
    ['.'].intercalate (first :: others) = first ++ others.flatMap ('.' :: ·) := by
  induction others generalizing first with
  | nil => simp
  | cons second others ih => simp [List.intercalate_cons_cons, ih]

/-- The segments of a path, joined by points, are the path. -/
theorem intercalate_pathSegments (path : String) :
    ".".intercalate ((pathSegments path).1 :: (pathSegments path).2) = path := by
  have texts : (pathSegments path).2.map String.toList = (splitPath path.toList).2 := by
    simp [pathSegments, Function.comp_def]
  have first : (pathSegments path).1.toList = (splitPath path.toList).1 := by
    simp [pathSegments]
  rw [← String.toList_inj, String.toList_intercalate, List.map_cons, texts, first]
  exact (intercalate_cons_eq_flatMap _ _).trans (splitPath_append path.toList)

/-! ### Variables -/

/-- In the mapping made for a scope there is what is there under a name. -/
theorem Context.lookup_scopeMapping (scope : Scope) (entries : List (String × Value))
    (name : String) :
    Value.lookup name (scopeMapping scope entries).entries = entries.lookup name := by
  induction entries with
  | nil => rfl
  | cons entry rest ih =>
    obtain ⟨k, v⟩ := entry
    simp only [scopeMapping, Value.lookup, List.map_cons, List.lookup_cons, List.find?_cons,
      Value.sameText] at ih ⊢
    rw [Bool.beq_comm]
    cases name == k with
    | true => rfl
    | false => exact ih

namespace Variables

variable (vars : Variables)

/-- The host environment has these variables and no others. -/
def FillEnviron (environ : Environ) : Prop :=
  ∀ name, environ.lookup name = (vars.lookup name).map Value.str

/-- The mapping of a scope has these variables and no others. -/
def FillMapping (mapping : Mapping) : Prop :=
  ∀ name, Value.lookup name mapping.entries = (vars.lookup name).map Value.str

/-- The text of a variable whose name is spelled as written, in upper or in lower case. -/
def anyCase? (name : String) : Option String :=
  (vars.lookup name <|> vars.lookup (upperString name)) <|> vars.lookup (lowerString name)

/-- The value of a variable under any of the spellings of its name. -/
def value (name : String) : Value := ((vars.anyCase? name).map Value.str).getD .undefined

theorem fillEnviron_toValues : vars.FillEnviron vars.toValues := by
  intro name
  induction vars with
  | nil => rfl
  | cons entry rest ih =>
    obtain ⟨k, text⟩ := entry
    simp only [toValues, List.map_cons, List.lookup_cons] at ih ⊢
    cases name == k with
    | true => rfl
    | false => exact ih

theorem fillMapping_scopeMapping (scope : Scope) :
    vars.FillMapping (Context.scopeMapping scope vars.toValues) := by
  intro name
  rw [Context.lookup_scopeMapping, fillEnviron_toValues]

end Variables

namespace Context

variable {vars : Variables} {environ : Environ} {mapping : Mapping}

theorem hostVariable_eq (h : vars.FillEnviron environ) (name : String) :
    hostVariable environ name = vars.value name := by
  have present (spelling : String) :
      presentVariable? environ spelling = (vars.lookup spelling).map Value.str := by
    rw [presentVariable?, h spelling]
    cases vars.lookup spelling <;> rfl
  simp only [hostVariable, present, Variables.value, Variables.anyCase?]
  cases vars.lookup name with
  | some _ => rfl
  | none => cases vars.lookup (upperString name) <;> rfl

theorem childAnyCase_eq (h : vars.FillMapping mapping) (name : String) :
    mapping.toValue.childAnyCase name = vars.value name := by
  have child (spelling : String) : mapping.toValue.child spelling =
      ((vars.lookup spelling).map Value.str).getD .undefined := by
    rw [← h spelling]
    rfl
  simp only [Value.childAnyCase, child, Variables.value, Variables.anyCase?]
  cases vars.lookup name with
  | some _ => rfl
  | none =>
    cases vars.lookup (upperString name) with
    | some _ => rfl
    | none => rfl

/-! ### The routes -/

variable {context : Context} {name path : String}

/-- A path through the host environment, whatever name it spells. -/
theorem resolve_host_append (root : String) (host : isHostRoot root) (point : '.' ∉ root.toList)
    (h : vars.FillEnviron environ) (name : String) :
    context.resolve environ (root ++ "." ++ name) = vars.value name := by
  have segments := pathSegments_append root point name
  rw [resolve_host (by rwa [segments]), segments, intercalate_pathSegments]
  exact hostVariable_eq h name

theorem resolve_envs_append (context : Context) (environ : Environ) (path : String) :
    context.resolve environ ("envs." ++ path) =
      Value.descend (stepIn .envs) (context.scope .envs).toValue
        ((pathSegments path).1 :: (pathSegments path).2) := by
  have segments : pathSegments ("envs." ++ path) = _ :=
    pathSegments_append "envs" (by decide) path
  have notHost : isHostRoot (pathSegments ("envs." ++ path)).1 = false := by
    rw [segments]
    rfl
  have scope : Scope.ofName? (pathSegments ("envs." ++ path)).1 = some .envs := by
    rw [segments]
    exact Scope.ofName?_name .envs
  rw [resolve_scope notHost scope, segments]

/-- A bare name leads where the path through the scope of environment variables leads. -/
theorem resolve_eq_resolve_envs (notHost : isHostRoot (pathSegments path).1 = false)
    (notScope : Scope.ofName? (pathSegments path).1 = none) :
    context.resolve environ path = context.resolve environ ("envs." ++ path) := by
  rw [resolve_variable notHost notScope, resolve_envs_append]

theorem resolve_envs_name (h : vars.FillMapping (context.scope .envs))
    (point : '.' ∉ name.toList) :
    context.resolve environ ("envs." ++ name) = vars.value name := by
  rw [resolve_envs_append, pathSegments_of_not_mem point]
  exact childAnyCase_eq h name

/-- The routes to a variable agree. A path whose first segment names neither a scope nor the host
environment is the path through the scope of environment variables. A name without points has one
value, whichever of the routes it is reached by and whatever else the context and the host
environment hold. -/
theorem routes_agree (context : Context) (environ : Environ) :
    (∀ path, isHostRoot (pathSegments path).1 = false →
        Scope.ofName? (pathSegments path).1 = none →
        context.resolve environ path = context.resolve environ ("envs." ++ path)) ∧
      ∀ (vars : Variables) (name : String), '.' ∉ name.toList →
        (vars.FillEnviron environ →
          context.resolve environ ("appEnv." ++ name) = vars.value name ∧
            context.resolve environ ("processEnv." ++ name) = vars.value name) ∧
        (vars.FillMapping (context.scope .envs) →
          context.resolve environ ("envs." ++ name) = vars.value name ∧
            (isHostRoot name = false → Scope.ofName? name = none →
              context.resolve environ name = vars.value name)) := by
  refine ⟨fun path => resolve_eq_resolve_envs, fun vars name point => ⟨fun filled => ?_, ?_⟩⟩
  · exact ⟨resolve_host_append "appEnv" (by decide) (by decide) filled name,
      resolve_host_append "processEnv" (by decide) (by decide) filled name⟩
  · intro filled
    have through : context.resolve environ ("envs." ++ name) = vars.value name :=
      resolve_envs_name filled point
    refine ⟨through, fun notHost notScope => ?_⟩
    have segments := pathSegments_of_not_mem point
    rw [resolve_eq_resolve_envs (by rwa [segments]) (by rwa [segments]), through]

/-- Two variables that differ in case, asked for in mixed case: every route finds the upper one. -/
theorem routes_to_mixed_case :
    let vars : Variables := [("foo", "lower"), ("FOO", "upper")]
    let context : Context := ⟨fun scope => scopeMapping scope vars.toValues⟩
    let environ := vars.toValues
    context.resolve environ "appEnv.Foo" = .str "upper" ∧
      context.resolve environ "processEnv.Foo" = .str "upper" ∧
      context.resolve environ "envs.Foo" = .str "upper" ∧
      context.resolve environ "Foo" = .str "upper" ∧
      context.resolve environ "Foo.length" = context.resolve environ ("envs." ++ "Foo.length") := by
  intro vars context environ
  have value : vars.value "Foo" = .str "upper" := by
    have spelled : vars.anyCase? "Foo" = some "upper" := by decide +kernel
    rw [Variables.value, spelled]
    rfl
  obtain ⟨bareIsScope, named⟩ := routes_agree context environ
  obtain ⟨host, scope⟩ := named vars "Foo" (by decide)
  obtain ⟨app, process⟩ := host vars.fillEnviron_toValues
  obtain ⟨through, bare⟩ := scope (vars.fillMapping_scopeMapping .envs)
  rw [value] at app process through bare
  exact ⟨app, process, through, bare (by decide) (by decide),
    bareIsScope "Foo.length" (by decide) (by decide)⟩

end Context

end Bulletin
