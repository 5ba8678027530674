import Bulletin.Host.CommandLine
import Bulletin.Proofs.Json.ControlCharacters
import Bulletin.Proofs.Settings.Layers

/-!
# Answers of the commands

A command prints the whole of its answer or nothing. There is an answer if the session can start,
the template is a text, and the core has a result under the limits of the session; the run then ends
with zero, and with another code if there is none. What reaches the standard output is the answer
itself, as long as no terminal could take a part of it for an escape sequence; in JSON there never
is one.

All of this holds whatever reads the documents, loads the settings and completes the variables. Of
what prints a text it is only assumed that it keeps a text without escape characters as it is.
-/

namespace Bulletin

/-- A text without escape characters reaches a stream as it is. -/
def Libraries.EchoesPlainText (libraries : Libraries) : Prop :=
  ∀ s : String, '\x1b' ∉ s.toList → libraries.echo s = s

namespace Invocation

def AsksForPage : Invocation → Prop
  | .page => True
  | .version => True
  | .task _ .page => True
  | _ => False

def AsksForJson : Invocation → Prop
  | .task _ (.eval _ asJson _) => asJson
  | .task _ (.render _ structured _) => structured
  | _ => False

end Invocation

variable {libraries : Libraries} {s : Surroundings}

namespace Surroundings

variable (libraries s) in
/-- The session that switches start: the variables are completed, the settings loaded, and the
context is built. -/
structure Starts (switches : GlobalSwitches) (contextSwitches : ContextSwitches)
    (session : Session) : Prop where
  environment : libraries.completeVariables s.environment (s.entry s.variablesFile) =
    some session.environment
  settings : s.settings libraries session.environment switches.settingsPath? = .ok session.settings
  context : s.context libraries session.environment contextSwitches = .ok session.context

variable (libraries s) in
/-- What a command line is answered. The evaluator works in the context of the session and with its
limit on nesting, and the renderer with its limit on placeholders. -/
inductive Answers : Invocation → String → Prop where
  | eval {switches : GlobalSwitches} {contextSwitches : ContextSwitches} {session : Session}
      {expression : String} {asJson : Bool} {v : Value}
      (starts : Starts libraries s switches contextSwitches session)
      (value : Evaluator.eval
        ⟨session.context, session.environment.toValues, session.settings.maxDepth⟩ expression =
          .ok v) :
      Answers (.task switches (.eval expression asJson contextSwitches))
        ((if asJson then v.prettyJson else v.rendered) ++ "\n")
  | text {switches : GlobalSwitches} {contextSwitches : ContextSwitches} {session : Session}
      {template : TemplateFile} {text result : String}
      (starts : Starts libraries s switches contextSwitches session)
      (decoded : readText template.octets = .ok text)
      (rendered : Renderer.render
        ⟨⟨session.context, session.environment.toValues, session.settings.maxDepth⟩,
          session.settings.maxPlaceholders⟩ text = .ok result) :
      Answers (.task switches (.render template false contextSwitches)) result
  | document {switches : GlobalSwitches} {contextSwitches : ContextSwitches} {session : Session}
      {template : TemplateFile} {text : String} {document result : Value}
      (starts : Starts libraries s switches contextSwitches session)
      (decoded : readText template.octets = .ok text)
      (read : libraries.readDocument text = .ok document)
      (rendered : Renderer.renderValue
        ⟨⟨session.context, session.environment.toValues, session.settings.maxDepth⟩,
          session.settings.maxPlaceholders⟩ document = .ok result) :
      Answers (.task switches (.render template true contextSwitches)) (result.prettyJson ++ "\n")

end Surroundings

/-! ### How runs end -/

namespace Outcome

/-- The run does what it was asked for, and prints a text. -/
structure Prints (libraries : Libraries) (o : Outcome) (text : String) : Prop where
  exitCode : o.exitCode = 0
  output : o.output = .text (libraries.echo text)

/-- The run fails, and prints nothing. -/
structure Fails (o : Outcome) : Prop where
  exitCode : o.exitCode ≠ 0
  output : o.output = .text ""

theorem fails_refused (r : Refusal) : (refused r).Fails := ⟨r.failed, rfl⟩

theorem fails_broken : broken.Fails := ⟨Nat.one_ne_zero, rfl⟩

theorem fails_fail (libraries : Libraries) (f : Failure) : (fail libraries f).Fails := by
  refine ⟨?_, rfl⟩
  cases f <;> exact Nat.succ_ne_zero _

theorem fails_ofSettingsError (e : SettingsError) : (ofSettingsError libraries e).Fails := by
  cases e <;> exact ⟨Nat.one_ne_zero, rfl⟩

theorem prints_ofAnswer {journal : Journal} {answer : Answer} {text : String}
    (h : answer.text = .ok text) : (ofAnswer libraries journal answer).Prints libraries text := by
  rw [ofAnswer, h]
  exact ⟨rfl, rfl⟩

theorem fails_ofAnswer {journal : Journal} {answer : Answer} {f : Failure}
    (h : answer.text = .error f) : (ofAnswer libraries journal answer).Fails := by
  rw [ofAnswer, h]
  exact ⟨(fails_fail libraries f).exitCode, rfl⟩

end Outcome

namespace Surroundings

/-! ### Answers and runs -/

variable {switches : GlobalSwitches} {contextSwitches : ContextSwitches}

theorem Starts.unique {session session' : Session}
    (h : Starts libraries s switches contextSwitches session)
    (h' : Starts libraries s switches contextSwitches session') : session = session' := by
  obtain ⟨settings, environment, context⟩ := session
  obtain ⟨settings', environment', context'⟩ := session'
  obtain rfl : environment = environment' :=
    Option.some.inj (h.environment.symm.trans h'.environment)
  obtain rfl : settings = settings' := Except.ok.inj (h.settings.symm.trans h'.settings)
  obtain rfl : context = context' := Except.ok.inj (h.context.symm.trans h'.context)
  rfl

namespace Answers

variable {invocation : Invocation} {text text' : String}

theorem unique (h : Answers libraries s invocation text)
    (h' : Answers libraries s invocation text') : text = text' := by
  cases h with
  | eval starts value =>
    cases h' with
    | eval starts' value' =>
      obtain rfl := starts.unique starts'
      rw [Except.ok.inj (value.symm.trans value')]
  | text starts decoded rendered =>
    cases h' with
    | text starts' decoded' rendered' =>
      obtain rfl := starts.unique starts'
      cases decoded.symm.trans decoded'
      exact Except.ok.inj (rendered.symm.trans rendered')
  | document starts decoded read rendered =>
    cases h' with
    | document starts' decoded' read' rendered' =>
      obtain rfl := starts.unique starts'
      cases decoded.symm.trans decoded'
      cases read.symm.trans read'
      rw [Except.ok.inj (rendered.symm.trans rendered')]

/-- A run with an answer prints it. -/
theorem prints (h : Answers libraries s invocation text) :
    (s.run libraries invocation).Prints libraries text := by
  cases h with
  | eval starts value =>
    simp only [run, starts.environment, starts.settings, perform]
    refine Outcome.prints_ofAnswer ?_
    simp only [evaluate, starts.context, Session.evaluate, Session.evaluator, value]
  | text starts decoded rendered =>
    simp only [run, starts.environment, starts.settings, perform]
    refine Outcome.prints_ofAnswer ?_
    simp only [render, decoded, starts.context, Bool.false_eq_true, if_false, Session.renderText,
      Session.renderer, Session.evaluator, rendered]
  | document starts decoded read rendered =>
    simp only [run, starts.environment, starts.settings, perform]
    refine Outcome.prints_ofAnswer ?_
    simp only [render, decoded, starts.context, if_true, Session.renderDocument, read,
      Session.renderer, Session.evaluator, rendered]

/-- An answer in JSON has no escape character. -/
theorem escape_not_mem (h : Answers libraries s invocation text) (json : invocation.AsksForJson) :
    '\x1b' ∉ text.toList := by
  cases h with
  | @eval _ _ _ _ asJson v _ _ =>
    obtain rfl : asJson = true := json
    exact v.escape_not_mem_prettyJson
  | text => cases json
  | document _ _ _ _ => exact Value.escape_not_mem_prettyJson _

end Answers

section

variable {environment : Variables} {settings : Settings}
  (henvironment : libraries.completeVariables s.environment (s.entry s.variablesFile) =
    some environment)
  (hsettings : s.settings libraries environment switches.settingsPath? = .ok settings)
include henvironment hsettings

/-- What evaluating gives is the answer. -/
theorem answers_of_evaluate {expression text : String} {asJson : Bool}
    (h : (s.evaluate libraries settings environment expression asJson contextSwitches).text =
      .ok text) :
    Answers libraries s (.task switches (.eval expression asJson contextSwitches)) text := by
  rw [evaluate] at h
  split at h
  · cases h
  · next context hcontext =>
    have starts : Starts libraries s switches contextSwitches ⟨settings, environment, context⟩ :=
      ⟨henvironment, hsettings, hcontext⟩
    rw [Session.evaluate] at h
    split at h
    · next v value =>
      cases h
      exact .eval starts value
    · cases h

/-- What rendering gives is the answer. -/
theorem answers_of_render {template : TemplateFile} {text : String} {structured : Bool}
    (h : (s.render libraries settings environment template structured contextSwitches).text =
      .ok text) :
    Answers libraries s (.task switches (.render template structured contextSwitches)) text := by
  rw [render] at h
  split at h
  · cases h
  next decoded =>
  split at h
  · cases h
  next context hcontext =>
  have starts : Starts libraries s switches contextSwitches ⟨settings, environment, context⟩ :=
    ⟨henvironment, hsettings, hcontext⟩
  cases structured with
  | false =>
    simp only [Bool.false_eq_true, if_false, Session.renderText] at h
    split at h
    · next rendered =>
      cases h
      exact .text starts decoded rendered
    · cases h
  | true =>
    simp only [if_true, Session.renderDocument] at h
    split at h
    · cases h
    next read =>
    split at h
    · next rendered =>
      cases h
      exact .document starts decoded read rendered
    · cases h

/-- Once there are settings, a task without an answer fails, unless it shows a page. -/
theorem answers_or_fails_perform {task : Task}
    (notPage : ¬ (Invocation.task switches task).AsksForPage) :
    (∃ text, Answers libraries s (.task switches task) text) ∨
      (s.perform libraries switches environment settings task).Fails := by
  cases task with
  | page => exact absurd trivial notPage
  | refused refusal => exact .inr (Outcome.fails_refused refusal)
  | eval expression asJson contextSwitches =>
    cases h :
      (s.evaluate libraries settings environment expression asJson contextSwitches).text with
    | ok text => exact .inl ⟨text, answers_of_evaluate henvironment hsettings h⟩
    | error f => exact .inr (Outcome.fails_ofAnswer h)
  | render template structured contextSwitches =>
    cases h :
      (s.render libraries settings environment template structured contextSwitches).text with
    | ok text => exact .inl ⟨text, answers_of_render henvironment hsettings h⟩
    | error f => exact .inr (Outcome.fails_ofAnswer h)

end

/-- A run without an answer fails, unless it shows a page. -/
theorem answers_or_fails {invocation : Invocation} (notPage : ¬ invocation.AsksForPage) :
    (∃ text, Answers libraries s invocation text) ∨ (s.run libraries invocation).Fails := by
  match invocation with
  | .page => exact absurd trivial notPage
  | .version => exact absurd trivial notPage
  | .refused refusal => exact .inr (Outcome.fails_refused refusal)
  | .task switches task =>
    -- The stages in their order: the variables, the settings, and then the task.
    rw [run]
    cases henvironment : libraries.completeVariables s.environment (s.entry s.variablesFile) with
    | none => exact .inr Outcome.fails_broken
    | some environment =>
      dsimp only
      cases hsettings : s.settings libraries environment switches.settingsPath? with
      | error e => exact .inr (Outcome.fails_ofSettingsError e)
      | ok settings => exact answers_or_fails_perform henvironment hsettings notPage

/-! ### All or nothing -/

/-- The commands answer in full or not at all. A run that is asked for no page ends with zero
exactly if there is an answer. There is no other answer then, and it is printed; any other run
prints nothing. What reaches the standard output is the answer itself if that has no escape
character, and so it is for each answer in JSON. -/
theorem run_all_or_nothing (plainText : libraries.EchoesPlainText) (s : Surroundings)
    {invocation : Invocation} (notPage : ¬ invocation.AsksForPage) :
    (∀ text, Answers libraries s invocation text →
        (s.run libraries invocation).exitCode = 0 ∧
        (s.run libraries invocation).output = .text (libraries.echo text) ∧
        (invocation.AsksForJson ∨ '\x1b' ∉ text.toList →
          (s.run libraries invocation).output = .text text) ∧
        ∀ other, Answers libraries s invocation other → other = text) ∧
      ((s.run libraries invocation).exitCode = 0 ↔ ∃ text, Answers libraries s invocation text) ∧
      ((s.run libraries invocation).exitCode ≠ 0 →
        (s.run libraries invocation).output = .text "") := by
  refine ⟨fun text answer => ⟨answer.prints.exitCode, answer.prints.output, fun plain => ?_,
    fun other h => h.unique answer⟩, ⟨fun zero => ?_, ?_⟩, fun nonzero => ?_⟩
  · have noEscape : '\x1b' ∉ text.toList := plain.elim answer.escape_not_mem id
    rw [answer.prints.output, plainText text noEscape]
  · exact (answers_or_fails notPage).resolve_right fun fails => fails.exitCode zero
  · rintro ⟨text, answer⟩
    exact answer.prints.exitCode
  · obtain ⟨text, answer⟩ | fails := answers_or_fails notPage
    · exact absurd answer.prints.exitCode nonzero
    · exact fails.output

end Surroundings

/-! ### The running libraries -/

theorem Host.libraries_echoesPlainText : Host.libraries.EchoesPlainText :=
  fun _ plain => echo_of_not_mem plain

namespace Surroundings

def ofFiles (environment : Variables) (files : List (String × List UInt8)) : Surroundings where
  environment := environment
  entry := fun path => ((files.lookup path).map PathEntry.file).getD .missing
  projectSettings := "notifycard.yaml"
  userSettings := ".config/notifycard/config.yaml"
  variablesFile := ".env"

def asciiOctets (text : String) : List UInt8 := text.toList.map fun c => c.toNat.toUInt8

/-- A template with a placeholder, which is all that the environment admits, on the standard input,
and a context in a file. -/
theorem run_of_greeting :
    let context := "vars:\n  name: Ada\n"
    let document := .mapping (.object 0)
      [(.str "vars", .mapping (.object 1) [(.str "name", .str "Ada")])]
    let libraries := { Host.libraries with
      readDocument := DocumentReader.ofTable [(context, document)] }
    let s := ofFiles [("NOTIFYCARD_TEMPLATES__MAX_PLACEHOLDERS", "1")]
      [("context.yaml", asciiOctets context)]
    let outcome := s.run libraries (.task ⟨none, 0, false⟩
      (.render ⟨"<stdin>", asciiOctets "Hello \x7b\x7b vars.name \x7d\x7d"⟩ false
        ⟨some "context.yaml", false⟩))
    outcome.exitCode = 0 ∧ outcome.output = .text "Hello Ada" := by
  intro context document libraries s outcome
  have completed : libraries.completeVariables s.environment (s.entry s.variablesFile) =
      some s.environment := by decide +kernel
  have settings : s.settings libraries s.environment none = .ok ⟨32, some 1, "warning"⟩ := by
    have upper := Host.documentOfVariables_member (s := .templates)
      (show lowerString "NOTIFYCARD_TEMPLATES__MAX_PLACEHOLDERS" = _ by decide +kernel) "1"
    have absent : SourceFile.settingsDocument libraries.readDocument none =
      .ok ⟨.object 0, []⟩ := rfl
    exact (Settings.load_eq upper absent absent).trans rfl
  have decoded : readText (asciiOctets "Hello \x7b\x7b vars.name \x7d\x7d") =
      .ok "Hello \x7b\x7b vars.name \x7d\x7d" := toOption_eq_some_iff.mp (by decide +kernel)
  have rendered : ((s.context libraries s.environment ⟨some "context.yaml", false⟩).toOption.bind
      fun context => (Renderer.render ⟨⟨context, s.environment.toValues, 32⟩, some 1⟩
        "Hello \x7b\x7b vars.name \x7d\x7d").toOption) = some "Hello Ada" := by decide +kernel
  obtain ⟨built, hbuilt, rendered⟩ := Option.bind_eq_some_iff.mp rendered
  have starts : Starts libraries s ⟨none, 0, false⟩ ⟨some "context.yaml", false⟩
      ⟨⟨32, some 1, "warning"⟩, s.environment, built⟩ :=
    ⟨completed, settings, toOption_eq_some_iff.mp hbuilt⟩
  have plainText : libraries.EchoesPlainText := Host.libraries_echoesPlainText
  obtain ⟨answered, -, -⟩ := run_all_or_nothing plainText s
    (show ¬ (Invocation.task ⟨none, 0, false⟩ (.render ⟨"<stdin>",
      asciiOctets "Hello \x7b\x7b vars.name \x7d\x7d"⟩ false
        ⟨some "context.yaml", false⟩)).AsksForPage from id)
  obtain ⟨zero, -, printed, -⟩ := answered "Hello Ada"
    (.text starts decoded (toOption_eq_some_iff.mp rendered))
  exact ⟨zero, printed (.inr (by decide))⟩

/-- An answer with escape sequences is printed without them. -/
theorem run_of_colors :
    let s := ofFiles [] []
    let invocation := .task ⟨none, 0, false⟩
      (.render ⟨"<stdin>", asciiOctets "\x1b[31mred\x1b[0m"⟩ false ⟨none, false⟩)
    Answers Host.libraries s invocation "\x1b[31mred\x1b[0m" ∧
      (s.run Host.libraries invocation).exitCode = 0 ∧
      (s.run Host.libraries invocation).output = .text "red" ∧
      "red" ≠ "\x1b[31mred\x1b[0m" := by
  intro s invocation
  have starts : Starts Host.libraries s ⟨none, 0, false⟩ ⟨none, false⟩ ⟨.standard, [], .empty⟩ :=
    ⟨rfl, rfl, rfl⟩
  have decoded : readText (asciiOctets "\x1b[31mred\x1b[0m") = .ok "\x1b[31mred\x1b[0m" :=
    toOption_eq_some_iff.mp (by decide +kernel)
  have rendered : Renderer.render ⟨⟨.empty, Variables.toValues [], 32⟩, some 1000⟩
      "\x1b[31mred\x1b[0m" = .ok "\x1b[31mred\x1b[0m" :=
    toOption_eq_some_iff.mp (by decide +kernel)
  have answer : Answers Host.libraries s invocation "\x1b[31mred\x1b[0m" :=
    .text starts decoded rendered
  have printed : Host.libraries.echo "\x1b[31mred\x1b[0m" = "red" := by decide +kernel
  exact ⟨answer, answer.prints.exitCode, printed ▸ answer.prints.output, by decide⟩

end Surroundings

end Bulletin
