import Snippet.Proofs.Page
import Snippet.Proofs.Program.Run

/-! Runs that are rejected.

Whatever a run is asked to write, it loads its settings and reads its input first, and a
split looks at the names of its files before it creates anything. A run that ends there
has only read.
-/

set_option autoImplicit false

namespace Snippet

/-- The inputs that a command reads, in order. None is the standard input. -/
def Command.inputs : Command → List (Option Text)
  | .detect input _ | .obfuscate input _ _ _ _ | .format input _ _ | .fix input _
  | .split input _ _ | .comment input _ _ => [input]
  | .prompt _ code existing => (existing.toList ++ code.toList).map some
  | .sample _ | .settings _ | .completions _ => []

def Command.needsCode : Command → Bool
  | .obfuscate _ _ _ _ _ | .format _ _ _ | .fix _ _ | .split _ _ _ | .comment _ _ _ => true
  | .detect _ _ | .prompt _ _ _ | .sample _ | .settings _ | .completions _ => false

namespace Machine

def source (machine : Machine) (input : Option Text) : Except FileError Text :=
  match input.filter (!isHyphen ·) with
  | some path => machine.tree.read machine.directory path
  | none =>
    match machine.input with
    | .text text => .ok text
    | .bytes => .error .notText

/-- What makes a run of a command end before it does anything: settings that are there but
do not parse, input that is no text, blank input where code is needed, and names that
cannot be used for the files of a split page. -/
inductive Rejects (machine : Machine) (path? : Option Text) (command : Command) : Prop where
  | settings {failure : Failure} : machine.settings path? = .error failure →
      Rejects machine path? command
  | unreadable {input : Option Text} {cause : FileError} : input ∈ command.inputs →
      machine.source input = .error cause → Rejects machine path? command
  | blank {input : Option Text} {code : Text} : command.needsCode → input ∈ command.inputs →
      machine.source input = .ok code → Text.allBlank code → Rejects machine path? command
  | names {input : Option Text} {directory code : Text} {settings : Settings}
      {cause : FileNameError} : command = .split input directory false →
      machine.source input = .ok code → (Category.of code).isMarkup →
      machine.settings path? = .ok settings → settings.names.resolve = .error cause →
      Rejects machine path? command

end Machine

namespace Program

open Machine (Untouched)

variable {α β : Type} {machine before after : Machine} {input : Option Text} {code : Text}

def Refuses (run : Run (StateM Machine) α) (machine : Machine) : Prop :=
  ∃ failure after, outcome run machine = (.error failure, after) ∧ Untouched machine after

theorem refuses_throw (failure : Failure) (machine : Machine) :
    Refuses (throw failure : Run (StateM Machine) α) machine :=
  ⟨failure, machine, outcome_throw failure machine, .refl machine⟩

theorem Refuses.bind {first : Run (StateM Machine) α} (refuses : Refuses first machine)
    (second : α → Run (StateM Machine) β) : Refuses (first >>= second) machine := by
  obtain ⟨failure, after, failed, untouched⟩ := refuses
  exact ⟨failure, after, by rw [outcome_bind, failed], untouched⟩

theorem refuses_bind {first : Run (StateM Machine) α} {second : α → Run (StateM Machine) β}
    (reads : LeavesNoTrace first)
    (onward : ∀ a middle, Runs first machine a middle → Refuses (second a) middle) :
    Refuses (first >>= second) machine := by
  obtain failed | ⟨a, middle, began, untouched⟩ := reads.ends machine
  · exact Refuses.bind failed second
  · obtain ⟨failure, after, failed, further⟩ := onward a middle began
    exact ⟨failure, after, by rw [outcome_bind, began]; exact failed, untouched.trans further⟩

/-! ## Input -/

theorem runs_readSource (runs : Runs (readSource Machine.host input) before code after) :
    before.source input = .ok code ∧
      (after = before ∨ (∃ text, before.input = .text text) ∧
        after = { before with input := .text [] }) := by
  rw [readSource] at runs
  split at runs
  · next path named =>
    obtain ⟨read, rfl⟩ := Prod.mk.inj (runs_attempt.mp runs)
    exact ⟨by rw [Machine.source, named]; exact read, .inl rfl⟩
  · next unnamed =>
    have read := runs_attempt.mp runs
    rw [answer_readInput] at read
    rw [Machine.source, unnamed]
    split at read
    · cases (Prod.mk.inj read).1
    · next text held =>
      obtain ⟨same, rfl⟩ := Prod.mk.inj read
      cases same
      exact ⟨by rw [held], .inr ⟨⟨code, held⟩, rfl⟩⟩

theorem refuses_readSource (unread : ∀ code, machine.source input ≠ .ok code) :
    Refuses (readSource Machine.host input) machine := by
  obtain failed | ⟨code, _, runs, -⟩ := (leavesNoTrace_readSource input).ends machine
  · exact failed
  · exact absurd (runs_readSource runs).1 (unread code)

theorem source_of_readCode {verb : Text}
    (runs : Runs (readCode Machine.host input verb) before code after) :
    before.source input = .ok code := by
  obtain ⟨given, middle, read, required⟩ := runs_bind.mp runs
  have same : requireCode verb given = .ok code := (Prod.mk.inj required).1
  rw [requireCode] at same
  split at same
  · cases same
  · obtain rfl := Except.ok.inj same
    exact (runs_readSource read).1

theorem refuses_readCode (blank : ∀ code, machine.source input = .ok code → Text.allBlank code)
    (verb : Text) : Refuses (readCode Machine.host input verb) machine := by
  refine refuses_bind (leavesNoTrace_readSource input) fun code middle runs => ?_
  refine ⟨.blankInput verb, middle, ?_, .refl middle⟩
  have refused : requireCode verb code = .error (.blankInput verb) :=
    if_pos (blank code (runs_readSource runs).1)
  rw [refused]
  rfl

theorem unread_of_runs {other : Option Text}
    (runs : Runs (readSource Machine.host other) before code after)
    (unread : ∀ text, before.source input ≠ .ok text) : ∀ text, after.source input ≠ .ok text := by
  obtain ⟨-, rfl | ⟨⟨held, isText⟩, rfl⟩⟩ := runs_readSource runs
  · exact unread
  · intro text
    have before := unread
    rw [Machine.source] at before ⊢
    split
    · next path named => simpa [named] using before text
    · next unnamed => simp [unnamed, isText] at before

/-! ## Commands -/

variable {context : Context (StateM Machine)}

def readGiven (host : Host (StateM Machine)) : Option Text → Run (StateM Machine) (Option Text)
  | some path => some <$> readSource host (some path)
  | none => pure none

theorem promptCommand_eq (context : Context (StateM Machine)) (kind : PromptKind)
    (code? existing? : Option Text) : promptCommand context kind code? existing? = (do
      let existing ← readGiven context.host existing?
      let code ← readGiven context.host code?
      emit context (Prompt.build (Text.dropTrailingBlanks (existing.getD [])) kind code) none
        "prompt".toList) := by
  cases existing? <;> cases code? <;> simp [promptCommand, readGiven]

theorem leavesNoTrace_readGiven (path? : Option Text) :
    LeavesNoTrace (readGiven Machine.host path?) := by
  cases path? with
  | none => exact leavesNoTrace_pure none
  | some path =>
    rw [readGiven, map_eq_pure_bind]
    exact (leavesNoTrace_readSource (some path)).bind fun text => leavesNoTrace_pure (some text)

theorem refuses_readGiven {path : Text} (unread : ∀ text, machine.source (some path) ≠ .ok text) :
    Refuses (readGiven Machine.host (some path)) machine := by
  rw [readGiven, map_eq_pure_bind]
  exact (refuses_readSource unread).bind _

theorem unread_of_readGiven {path? text? : Option Text}
    (runs : Runs (readGiven Machine.host path?) before text? after)
    (unread : ∀ text, before.source input ≠ .ok text) : ∀ text, after.source input ≠ .ok text := by
  cases path? with
  | none =>
    obtain ⟨-, rfl⟩ := runs_pure.mp runs
    exact unread
  | some path =>
    rw [readGiven, map_eq_pure_bind] at runs
    obtain ⟨text, middle, read, ended⟩ := runs_bind.mp runs
    obtain ⟨-, rfl⟩ := runs_pure.mp ended
    exact unread_of_runs read unread

theorem refuses_promptCommand (onMachine : context.host = Machine.host) (kind : PromptKind)
    {code? existing? : Option Text} (member : input ∈ (existing?.toList ++ code?.toList).map some)
    (unread : ∀ text, machine.source input ≠ .ok text) :
    Refuses (promptCommand context kind code? existing?) machine := by
  obtain ⟨path, given, rfl⟩ := List.mem_map.mp member
  rw [promptCommand_eq, onMachine]
  rcases List.mem_append.mp given with first | second
  · obtain rfl := Option.mem_toList.mp first
    exact (refuses_readGiven unread).bind _
  · obtain rfl := Option.mem_toList.mp second
    refine refuses_bind (leavesNoTrace_readGiven existing?) fun existing middle runs => ?_
    exact (refuses_readGiven (unread_of_readGiven runs unread)).bind _

/-- A command that needs code reads it before anything else. -/
theorem runCommand_eq_readCode (context : Context (StateM Machine)) (path? : Option Text)
    {command : Command} (needed : command.needsCode) (member : input ∈ command.inputs) :
    ∃ verb next, runCommand context path? command = readCode context.host input verb >>= next := by
  cases command with
  | obfuscate | format | fix | split | comment =>
    obtain rfl := List.mem_singleton.mp member
    exact ⟨_, _, rfl⟩
  | detect | prompt | sample | settings | completions => cases needed

theorem refuses_runCommand (onMachine : context.host = Machine.host) (path? : Option Text)
    {command : Command} (member : input ∈ command.inputs)
    (unusable : ∀ code, machine.source input = .ok code →
      command.needsCode ∧ Text.allBlank code) :
    Refuses (runCommand context path? command) machine := by
  by_cases needed : command.needsCode
  · obtain ⟨verb, next, opened⟩ := runCommand_eq_readCode context path? needed member
    rw [opened, onMachine]
    exact (refuses_readCode (fun code read => (unusable code read).2) verb).bind next
  · have unread (code : Text) : machine.source input ≠ .ok code := fun read =>
      needed (unusable code read).1
    cases command with
    | detect _ json =>
      obtain rfl := List.mem_singleton.mp member
      rw [runCommand, detectCommand, onMachine]
      exact (refuses_readSource unread).bind _
    | prompt kind code? existing? => exact refuses_promptCommand onMachine kind member unread
    | sample | settings | completions => cases member
    | obfuscate | format | fix | split | comment => exact absurd rfl needed

theorem refuses_splitCommand (onMachine : context.host = Machine.host) {cause : FileNameError}
    (read : machine.source input = .ok code) (markup : (Category.of code).isMarkup)
    (unusable : context.settings.names.resolve = .error cause) (directory : Text) :
    Refuses (splitCommand context input directory false) machine := by
  rw [splitCommand, onMachine]
  refine refuses_bind (leavesNoTrace_readCode input _) fun given middle runs => ?_
  obtain rfl : code = given := Except.ok.inj (read.symm.trans (source_of_readCode runs))
  simp only [Bool.false_eq_true, if_false, isEmpty_splitPage markup, unusable]
  exact refuses_throw _ middle

/-! ## The whole program -/

theorem answer_exitCode_of_refuses {run : Run (StateM Machine) Unit} (refuses : Refuses run machine)
    (theme : Theme) :
    ∃ after, answer (exitCode Machine.host theme run) machine = (1, after) ∧
      Untouched machine after := by
  obtain ⟨failure, middle, failed, untouched⟩ := refuses
  rw [answer_exitCode, failed]
  exact ⟨_, rfl, untouched.trans ⟨rfl, rfl, rfl, rfl⟩⟩

/-- Settings come first, then the input, and then the names for a split page. -/
theorem refuses_runInvocation {environment : Environment} {invocation : Invocation}
    (other : ∀ shell, invocation.command ≠ .completions shell)
    (rejected : machine.Rejects (settingsPath? environment invocation.settingsPath)
      invocation.command) :
    Refuses (runInvocation Machine.host environment invocation) machine := by
  obtain ⟨asked, verbose, level, copy, command⟩ := invocation
  have opened : runInvocation Machine.host environment ⟨asked, verbose, level, copy, command⟩ =
      (do
        let settings ← loadSettings Machine.host (settingsPath? environment asked)
        runCommand ⟨Machine.host, environment.theme, settings, copy⟩
          (settingsPath? environment asked) command) := by
    cases command with
    | completions shell => exact absurd rfl (other shell)
    | _ => rfl
  rw [opened]
  have loaded := outcome_loadSettings (settingsPath? environment asked) machine
  rcases rejected with broken | ⟨member, unread⟩ | ⟨needed, member, read, blank⟩ |
    ⟨rfl, read, markup, found, unusable⟩
  · exact Refuses.bind ⟨_, machine, by rw [loaded, broken], .refl machine⟩ _
  all_goals
    refine refuses_bind (leavesNoTrace_loadSettings _) fun settings middle runs => ?_
    rw [Runs, loaded] at runs
    obtain ⟨loadedSettings, rfl⟩ := Prod.mk.inj runs
  · refine refuses_runCommand rfl _ member fun code read => ?_
    cases unread.symm.trans read
  · refine refuses_runCommand rfl _ member fun code again => ?_
    obtain rfl := Except.ok.inj (read.symm.trans again)
    exact ⟨needed, blank⟩
  · obtain rfl := Except.ok.inj (found.symm.trans loadedSettings)
    apply refuses_splitCommand rfl read markup
    exact unusable

end Program

open Program (settingsPath?)

/-- A run that is rejected ends with the exit code 1 and leaves no trace, whatever it was to
write or to copy. -/
theorem Machine.run_rejected (machine : Machine) (environment : Environment)
    (arguments : List Text) (invocation : Invocation)
    (read : CommandLine.read environment.settingsVariable arguments = .ok invocation)
    (other : ∀ shell, invocation.command ≠ .completions shell)
    (rejected : machine.Rejects (settingsPath? environment invocation.settingsPath)
      invocation.command) :
    ∃ after, machine.run environment arguments = (1, after) ∧ Untouched machine after := by
  rw [Machine.run, Program.main, read]
  exact Program.answer_exitCode_of_refuses (Program.refuses_runInvocation other rejected) _

/-- The style file has the wrong extension, so neither the directory nor any of the files is
written and the clipboard tool is not run. -/
theorem Machine.run_rejected_names :
    let machine : Machine :=
      { tree := ⟨[(["home".toList], .directory),
          (["home".toList, "kit.toml".toList],
            .file (.text "[split]\ncss_file = 'style.txt'".toList)),
          (["home".toList, "page.html".toList], .file (.text "<p></p><style>a</style>".toList))]⟩
        directory := ["home".toList]
        input := .text []
        output := []
        error := []
        now := ⟨2024, 1, 1, 0, 0, 0⟩
        tools := [(.xclip, 0)]
        copied := [] }
    ∃ after, machine.run ⟨none, none, .plain⟩
        ["--config".toList, "kit.toml".toList, "split".toList, "page.html".toList,
          "--out-dir".toList, "site/new".toList, "--copy".toList] = (1, after) ∧
      Untouched machine after := by
  intro machine
  have page : machine.source (some "page.html".toList) = .ok "<p></p><style>a</style>".toList := by
    decide +kernel
  have loaded : machine.settings (some "kit.toml".toList) =
      .ok { Settings.default with
        names := { PartNames.default with css := "style.txt".toList } } := by
    decide +kernel
  have unusable : PartNames.resolve { PartNames.default with css := "style.txt".toList } =
      .error (.wrongExtension "style.txt".toList "css".toList) := by
    decide +kernel
  refine run_rejected machine ⟨none, none, .plain⟩ _
    ⟨some "kit.toml".toList, false, none, true,
      .split (some "page.html".toList) "site/new".toList false⟩ (by decide +kernel) ?_ ?_
  · intro shell same
    cases same
  · exact .names rfl page (by decide +kernel) loaded unusable

end Snippet
