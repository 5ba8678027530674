import Bulletin.Context
import Bulletin.Expr.Parser

/-!
# Templates

A template is literal text with placeholders in it. A placeholder starts at the first pair of
opening braces after which a pair of closing braces follows, with at least one character between;
it ends at the first such pair. Braces that start no placeholder are literal text. The placeholders
are evaluated from left to right, and each is replaced by the text of its value. Rendering is all or
nothing: the first placeholder that fails is the error. A structured value is rendered string by
string, a key before its value.
-/

namespace Bulletin

/-! ### Taking a text apart -/

/-- A template taken apart: each placeholder's inner text with the literal text before it, and
the literal text after the last one. -/
structure Template where
  pieces : List (List Char × List Char)
  tail : List Char
  deriving DecidableEq, Repr

namespace Template

def splitAtClose? : List Char → Option (List Char × List Char)
  | [] => none
  | '\x7d' :: '\x7d' :: rest => some ([], rest)
  | c :: rest => (splitAtClose? rest).map fun (inner, after) => (c :: inner, after)

/-- The inner text of a placeholder whose opening braces have just been read, and what follows
its closing braces. The first character belongs to the inner text, whatever it is. -/
def readInner? : List Char → Option (List Char × List Char)
  | [] => none
  | c :: rest => (splitAtClose? rest).map fun (inner, after) => (c :: inner, after)

def firstPlaceholder? : List Char → Option (List Char × List Char × List Char)
  | [] => none
  | c :: rest =>
    let here :=
      match c, rest with
      | '\x7b', '\x7b' :: inside => readInner? inside
      | _, _ => none
    match here with
    | some (inner, after) => some ([], inner, after)
    | none =>
      (firstPlaceholder? rest).map fun (literal, inner, after) => (c :: literal, inner, after)

theorem splitAtClose?_length {text inner after : List Char}
    (h : splitAtClose? text = some (inner, after)) : after.length < text.length := by
  fun_induction splitAtClose? text generalizing inner after with
  | case1 => simp at h
  | case2 rest =>
    simp only [Option.some.injEq, Prod.mk.injEq] at h
    simp only [List.length_cons, ← h.2]
    omega
  | case3 c rest _ ih =>
    simp only [Option.map_eq_some_iff, Prod.mk.injEq, Prod.exists] at h
    obtain ⟨i, a, hs, -, rfl⟩ := h
    have := ih hs
    simp only [List.length_cons]
    omega

theorem readInner?_length {text inner after : List Char}
    (h : readInner? text = some (inner, after)) : after.length < text.length := by
  cases text with
  | nil => simp [readInner?] at h
  | cons c rest =>
    simp only [readInner?, Option.map_eq_some_iff, Prod.mk.injEq, Prod.exists] at h
    obtain ⟨i, a, hs, -, rfl⟩ := h
    have := splitAtClose?_length hs
    simp only [List.length_cons]
    omega

theorem firstPlaceholder?_length {text literal inner after : List Char}
    (h : firstPlaceholder? text = some (literal, inner, after)) :
    after.length < text.length := by
  induction text generalizing literal with
  | nil => simp [firstPlaceholder?] at h
  | cons c rest ih =>
    simp only [firstPlaceholder?] at h
    split at h
    · rename_i i a here
      simp only [Option.some.injEq, Prod.mk.injEq] at h
      split at here
      · have := readInner?_length here
        simp only [List.length_cons, ← h.2.2]
        omega
      · simp at here
    · simp only [Option.map_eq_some_iff, Prod.mk.injEq, Prod.exists] at h
      obtain ⟨l, i, a, hs, -, rfl, rfl⟩ := h
      have := ih hs
      simp only [List.length_cons]
      omega

def ofChars (text : List Char) : Template :=
  match _h : firstPlaceholder? text with
  | none => ⟨[], text⟩
  | some (literal, inner, after) =>
    let others := ofChars after
    ⟨(literal, inner) :: others.pieces, others.tail⟩
termination_by text.length
decreasing_by exact firstPlaceholder?_length _h

def ofText (text : String) : Template := ofChars text.toList

end Template

/-! ### Rendering -/

/-- What expressions are evaluated against, and how deep they may nest. -/
structure Evaluator where
  context : Context
  environ : Environ
  maxDepth : Int

namespace Evaluator

def meaning (e : Evaluator) : Meaning Value := Value.meaning (e.context.resolve e.environ)

def evalTokens (e : Evaluator) (finish : Nat) (tokens : List Token) : Except SyntaxError Value :=
  Expr.readTokens e.meaning finish e.maxDepth.toNat tokens

def eval (e : Evaluator) (expression : String) : Except SyntaxError Value :=
  Expr.readText e.meaning e.maxDepth.toNat expression

end Evaluator

inductive RenderError where
  /-- More placeholders than a limit allows. -/
  | tooMany (limit : Int) (found : Nat) (template : String)
  /-- The expression of a placeholder is malformed. -/
  | placeholder (expression : String) (e : SyntaxError)
  deriving DecidableEq

namespace Template

def placeholders (template : Template) : List String :=
  template.pieces.map fun (_, inner) => String.ofList (trim inner)

def fillPieces (fill : String → Except ε String) :
    List (List Char × List Char) → List Char → Except ε (List Char)
  | [], tail => .ok tail
  | (literal, inner) :: rest, tail =>
    match fill (String.ofList (trim inner)) with
    | .error e => .error e
    | .ok text => (fillPieces fill rest tail).map fun after => literal ++ text.toList ++ after

/-- The text of a template, each placeholder replaced by what `fill` gives for its expression. -/
def fill (template : Template) (fill : String → Except ε String) : Except ε String :=
  (fillPieces fill template.pieces template.tail).map String.ofList

/-- The limit, if there are more placeholders than it allows. A template without placeholders
exceeds no limit. -/
def exceeded? (template : Template) (limit : Option Int) : Option Int :=
  limit.filter fun most => !template.pieces.isEmpty && most < template.pieces.length

end Template

structure Renderer where
  evaluator : Evaluator
  maxPlaceholders : Option Int

namespace Renderer

def fill (r : Renderer) (expression : String) : Except RenderError String :=
  match r.evaluator.eval expression with
  | .ok value => .ok value.rendered
  | .error e => .error (.placeholder expression e)

/-- The text of a template. The limit is checked before anything is evaluated. -/
def render (r : Renderer) (text : String) : Except RenderError String :=
  let template := Template.ofText text
  match template.exceeded? r.maxPlaceholders with
  | some limit => .error (.tooMany limit template.pieces.length text)
  | none => template.fill r.fill

end Renderer

namespace Value

/-- A key after rendering: a text is rendered, any other key stays. -/
def renderKey (render : String → Except ε String) : Value → Except ε Value
  | .str s => (render s).map .str
  | v => .ok v

mutual

def renderStrings (render : String → Except ε String) : Value → Except ε Value
  | .str s => (render s).map .str
  | .list identity items => (renderItems render items).map (.list identity)
  | .mapping identity entries => (renderEntries render [] entries).map (.mapping identity)
  | .null => .ok .null
  | .undefined => .ok .undefined
  | .bool b => .ok (.bool b)
  | .int n => .ok (.int n)
  | .double x => .ok (.double x)
  | .date identity text => .ok (.date identity text)

def renderItems (render : String → Except ε String) : List Value → Except ε (List Value)
  | [] => .ok []
  | v :: rest =>
    match renderStrings render v with
    | .error e => .error e
    | .ok v' => (renderItems render rest).map (v' :: ·)

/-- The entries `done`, and after them those that follow, rendered. Of two keys that become one
text, the later value takes the earlier place. -/
def renderEntries (render : String → Except ε String) (done : List (Value × Value)) :
    List (Value × Value) → Except ε (List (Value × Value))
  | [] => .ok done
  | (k, v) :: rest =>
    match renderKey render k with
    | .error e => .error e
    | .ok k' =>
      match renderStrings render v with
      | .error e => .error e
      | .ok v' => renderEntries render (putEntry sameText k' v' done) rest

end

mutual

/-- The strings in a value in the order of the document, a key before its value. -/
def strings : Value → List String
  | .str s => [s]
  | .list _ items => stringsOfItems items
  | .mapping _ entries => stringsOfEntries entries
  | _ => []

def stringsOfItems : List Value → List String
  | [] => []
  | v :: rest => strings v ++ stringsOfItems rest

def stringsOfEntries : List (Value × Value) → List String
  | [] => []
  | (k, v) :: rest =>
    (match k with
      | .str s => [s]
      | _ => []) ++ strings v ++ stringsOfEntries rest

end

end Value

def Renderer.renderValue (r : Renderer) (v : Value) : Except RenderError Value :=
  v.renderStrings r.render

end Bulletin
