import Bulletin.Proofs.Expr.Outcome

/-!
# What an evaluation reads

The paths in the tree of an expression are the identifiers among its tokens, from left to right.
Each of them names one thing outside the expression, a scope or the host environment, by its first
segment. What no identifier names has no bearing on the outcome, be it a value or an error.
-/

namespace Bulletin

/-- Something outside an expression that its value can depend on. -/
inductive Input where
  | scope (scope : Scope)
  | environment
  deriving DecidableEq

namespace Input

/-- What a path names: the host environment or a scope, by its first segment. Any other first
segment stands for an environment variable, which is looked up in its scope. -/
def ofPath (path : String) : Input :=
  let root := (pathSegments path).1
  if Context.isHostRoot root then .environment
  else
    match Scope.ofName? root with
    | some s => .scope s
    | none => .scope .envs

def Same (context : Context) (environ : Environ) (context' : Context) (environ' : Environ) :
    Input → Prop
  | .scope s => context.scope s = context'.scope s
  | .environment => environ = environ'

end Input

/-! ### What paths read -/

section Paths

variable {context context' : Context} {environ environ' : Environ} {path : String}

theorem Input.ofPath_host (h : Context.isHostRoot (pathSegments path).1) :
    ofPath path = .environment := by
  simp only [ofPath, h, if_true]

theorem Input.ofPath_scope {s : Scope} (h : Context.isHostRoot (pathSegments path).1 = false)
    (hs : Scope.ofName? (pathSegments path).1 = some s) : ofPath path = .scope s := by
  simp only [ofPath, h, hs, Bool.false_eq_true, if_false]

theorem Input.ofPath_variable (h : Context.isHostRoot (pathSegments path).1 = false)
    (hs : Scope.ofName? (pathSegments path).1 = none) : ofPath path = .scope .envs := by
  simp only [ofPath, h, hs, Bool.false_eq_true, if_false]

theorem Context.resolve_host (h : isHostRoot (pathSegments path).1) :
    context.resolve environ path =
      if (pathSegments path).2.isEmpty then .undefined
      else hostVariable environ (".".intercalate (pathSegments path).2) := by
  simp only [resolve, h, if_true]

theorem Context.resolve_scope {s : Scope} (h : isHostRoot (pathSegments path).1 = false)
    (hs : Scope.ofName? (pathSegments path).1 = some s) :
    context.resolve environ path =
      Value.descend (stepIn s) (context.scope s).toValue (pathSegments path).2 := by
  simp only [resolve, h, hs, Bool.false_eq_true, if_false]

theorem Context.resolve_variable (h : isHostRoot (pathSegments path).1 = false)
    (hs : Scope.ofName? (pathSegments path).1 = none) :
    context.resolve environ path =
      Value.descend (stepIn .envs) (context.scope .envs).toValue
        ((pathSegments path).1 :: (pathSegments path).2) := by
  simp only [resolve, h, hs, Bool.false_eq_true, if_false]
  split
  · next missing =>
    rw [Value.isUndefined_iff] at missing
    simp only [Value.descend, stepIn, missing, Value.descend_undefined, ite_self]
  · rfl

/-- The value of a path depends on what the path names. -/
theorem Context.resolve_congr
    (h : (Input.ofPath path).Same context environ context' environ') :
    context.resolve environ path = context'.resolve environ' path := by
  cases host : isHostRoot (pathSegments path).1 with
  | true =>
    rw [Input.ofPath_host host] at h
    have same : environ = environ' := h
    rw [resolve_host host, resolve_host host, same]
  | false =>
    cases named : Scope.ofName? (pathSegments path).1 with
    | some s =>
      rw [Input.ofPath_scope host named] at h
      have same : context.scope s = context'.scope s := h
      rw [resolve_scope host named, resolve_scope host named, same]
    | none =>
      rw [Input.ofPath_variable host named] at h
      have same : context.scope .envs = context'.scope .envs := h
      rw [resolve_variable host named, resolve_variable host named, same]

end Paths

/-! ### What expressions read -/

def Lexeme.path? : Lexeme → Option String
  | .identifier path => some path
  | _ => none

/-- The paths of a derived tree are the identifiers of its yield. -/
theorem Derivation.paths_value {l : Level} (d : Derivation l) :
    (d.value Expr.tree).paths = d.yield.filterMap Lexeme.path? := by
  induction d with
  | single only ih => exact ih
  | binary op tier_eq left right ihl ihr =>
    simp only [value, yield, List.filterMap_append, List.filterMap_cons, Lexeme.path?, ← ihl,
      ← ihr]
    rfl
  | alone primary ih => exact ih
  | not operand ih => exact ih
  | literal l => rfl
  | identifier path => rfl
  | paren body ih =>
    simp only [value, yield, List.filterMap_append, List.filterMap_cons, List.filterMap_nil,
      Lexeme.path?, ih, List.append_nil, List.cons_append]

namespace Expr

def identifiers (expression : String) : List String :=
  match Token.ofText expression with
  | .ok tokens => tokens.filterMap fun token => token.lexeme.path?
  | .error _ => []

/-- What the identifiers of a text name. -/
def inputs (expression : String) : List Input := (identifiers expression).map Input.ofPath

/-- The paths of an expression are the identifiers of its text. -/
theorem paths_of_ofText {room : Nat} {expression : String} {e : Expr}
    (h : ofText room expression = .ok e) : e.paths = identifiers expression := by
  simp only [ofText, readText] at h
  simp only [identifiers]
  cases scanned : Token.ofText expression with
  | error stray =>
    rw [scanned] at h
    cases h
  | ok tokens =>
    simp only [scanned] at h
    obtain ⟨d, hyield, -, rfl⟩ := readTokens_eq_ok_iff.mp h
    simp only [d.paths_value, hyield, lexemes, List.filterMap_map]
    rfl

end Expr

variable {context context' : Context} {environ environ' : Environ}

namespace Evaluator

/-- Agreement on what the identifiers of an expression name is enough for one outcome. -/
theorem eval_congr {expression : String} (maxDepth : Int)
    (h : ∀ input ∈ Expr.inputs expression, input.Same context environ context' environ') :
    (⟨context, environ, maxDepth⟩ : Evaluator).eval expression =
      (⟨context', environ', maxDepth⟩ : Evaluator).eval expression := by
  rw [eval_eq_map_eval, eval_eq_map_eval]
  cases read : Expr.ofText maxDepth.toNat expression with
  | error e => rfl
  | ok e =>
    refine congrArg Except.ok (Expr.eval_congr fun path hpath => Context.resolve_congr (h _ ?_))
    rw [Expr.paths_of_ofText read] at hpath
    exact List.mem_map_of_mem hpath

/-- An expression without an identifier that leads to the host environment is the same in every
environment. -/
theorem eval_environ {expression : String} (maxDepth : Int)
    (h : ∀ path ∈ Expr.identifiers expression, Context.isHostRoot (pathSegments path).1 = false) :
    (⟨context, environ, maxDepth⟩ : Evaluator).eval expression =
      (⟨context, environ', maxDepth⟩ : Evaluator).eval expression := by
  refine eval_congr maxDepth fun input hinput => ?_
  obtain ⟨path, hpath, rfl⟩ := List.mem_map.mp hinput
  cases named : Scope.ofName? (pathSegments path).1 with
  | some s =>
    rw [Input.ofPath_scope (h path hpath) named]
    exact rfl
  | none =>
    rw [Input.ofPath_variable (h path hpath) named]
    exact rfl

end Evaluator

/-- A template depends on what is put into its placeholders. -/
theorem Template.fill_congr {ε : Type} {f g : String → Except ε String} {T : Template}
    (h : ∀ x ∈ T.placeholders, f x = g x) : T.fill f = T.fill g := by
  obtain ⟨pieces, tail⟩ := T
  have same : fillPieces f pieces tail = fillPieces g pieces tail := by
    induction pieces with
    | nil => rfl
    | cons piece pieces ih =>
      have here := h _ (List.mem_cons_self ..)
      have later := ih fun x hx => h x (List.mem_cons_of_mem _ hx)
      simp only [fillPieces, here, later]
  rw [fill, same]
  rfl

/-- Rendering reads what the expressions of the placeholders read. -/
theorem Renderer.render_congr {text : String} (maxDepth : Int) (limit : Option Int)
    (h : ∀ expression ∈ (Template.ofText text).placeholders,
      ∀ input ∈ Expr.inputs expression, input.Same context environ context' environ') :
    (⟨⟨context, environ, maxDepth⟩, limit⟩ : Renderer).render text =
      (⟨⟨context', environ', maxDepth⟩, limit⟩ : Renderer).render text := by
  have same : ∀ x ∈ (Template.ofText text).placeholders,
      fill ⟨⟨context, environ, maxDepth⟩, limit⟩ x =
        fill ⟨⟨context', environ', maxDepth⟩, limit⟩ x := by
    intro x hx
    simp only [fill, Evaluator.eval_congr maxDepth (h x hx)]
  simp only [render, Template.fill_congr same]

/-- The outcome of an expression depends on the scopes and the environment that its identifiers
name, and on nothing else outside it; so does that of a template, by the identifiers in its
placeholders. Without an identifier that leads to the host environment, the environment does not
matter. -/
theorem Evaluator.eval_reads_inputs (context context' : Context) (environ environ' : Environ)
    (maxDepth : Int) (limit : Option Int) :
    (∀ expression, (∀ input ∈ Expr.inputs expression,
        input.Same context environ context' environ') →
      (⟨context, environ, maxDepth⟩ : Evaluator).eval expression =
        (⟨context', environ', maxDepth⟩ : Evaluator).eval expression) ∧
    (∀ text, (∀ expression ∈ (Template.ofText text).placeholders,
        ∀ input ∈ Expr.inputs expression, input.Same context environ context' environ') →
      (⟨⟨context, environ, maxDepth⟩, limit⟩ : Renderer).render text =
        (⟨⟨context', environ', maxDepth⟩, limit⟩ : Renderer).render text) ∧
    ∀ expression, (∀ path ∈ Expr.identifiers expression,
        Context.isHostRoot (pathSegments path).1 = false) →
      (⟨context, environ, maxDepth⟩ : Evaluator).eval expression =
        (⟨context, environ', maxDepth⟩ : Evaluator).eval expression :=
  ⟨fun _ => eval_congr maxDepth, fun _ => Renderer.render_congr maxDepth limit,
    fun _ => eval_environ maxDepth⟩

end Bulletin
