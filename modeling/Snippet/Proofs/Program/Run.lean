import Snippet.Program.Machine

/-! Runs of the program on a machine.

A run that goes well is taken apart into its steps, each with its result and the machine
after it. What only reads is told apart from what leaves a trace: files, output or texts
on the clipboard.
-/

set_option autoImplicit false

namespace Snippet

namespace Machine

/-- Nothing that outlasts a run differs: what is left of the input and the messages on the
error stream do not count. -/
structure Untouched (before after : Machine) : Prop where
  tree : after.tree = before.tree
  directory : after.directory = before.directory
  output : after.output = before.output
  copied : after.copied = before.copied

theorem Untouched.refl (machine : Machine) : Untouched machine machine := ⟨rfl, rfl, rfl, rfl⟩

theorem Untouched.trans {before middle after : Machine} (first : Untouched before middle)
    (second : Untouched middle after) : Untouched before after :=
  ⟨second.tree.trans first.tree, second.directory.trans first.directory,
    second.output.trans first.output, second.copied.trans first.copied⟩

/-- The settings at a path: the defaults where there is no file, and a failure where there
is one that cannot be read or parsed. -/
def settings (machine : Machine) (path? : Option Text) : Except Failure Settings :=
  match path? with
  | none => .ok .default
  | some path =>
    if machine.tree.pathExists machine.directory path then
      match machine.tree.read machine.directory path with
      | .error e => .error (.readSettings path e)
      | .ok document =>
        match Settings.parse document with
        | .error e => .error (.parseSettings path e)
        | .ok settings => .ok settings
    else .ok .default

end Machine

namespace Program

open Machine (Untouched)

variable {α β ε : Type} {before after : Machine} {a : α} {b : β}

/-! ## What comes of a run -/

def answer (step : StateM Machine α) (machine : Machine) : α × Machine := step.run machine

def outcome (run : Run (StateM Machine) α) (machine : Machine) : Except Failure α × Machine :=
  answer run.run machine

theorem outcome_bind (first : Run (StateM Machine) α) (second : α → Run (StateM Machine) β)
    (machine : Machine) :
    outcome (first >>= second) machine =
      match outcome first machine with
      | (.ok a, middle) => outcome (second a) middle
      | (.error failure, middle) => (.error failure, middle) := by
  have unfolded : outcome (first >>= second) machine =
      match outcome first machine with
      | (result, middle) => (ExceptT.bindCont second result).run middle := rfl
  rw [unfolded]
  rcases outcome first machine with ⟨_ | _, _⟩ <;> rfl

theorem outcome_pure (a : α) (machine : Machine) :
    outcome (pure a) machine = (.ok a, machine) := rfl

theorem outcome_throw (failure : Failure) (machine : Machine) :
    outcome (throw failure : Run (StateM Machine) α) machine = (.error failure, machine) := rfl

theorem outcome_perform (step : StateM Machine α) (machine : Machine) :
    outcome (perform step) machine = (.ok (answer step machine).1, (answer step machine).2) := rfl

theorem outcome_attempt (failure : ε → Failure) (step : StateM Machine (Except ε α))
    (machine : Machine) :
    outcome (attempt failure step) machine =
      match answer step machine with
      | (.ok a, after) => (.ok a, after)
      | (.error e, after) => (.error (failure e), after) := by
  change answer (step >>= _) machine = _
  simp only [answer, StateT.run_bind]
  rcases step.run machine with ⟨_ | _, _⟩ <;> rfl

/-! ## Runs that go well -/

def Runs (run : Run (StateM Machine) α) (before : Machine) (a : α) (after : Machine) : Prop :=
  outcome run before = (.ok a, after)

theorem Runs.result_unique {run : Run (StateM Machine) α} {other : α} {afterOther : Machine}
    (runs : Runs run before a after) (again : Runs run before other afterOther) :
    a = other ∧ after = afterOther := by
  have same := Prod.mk.inj (runs.symm.trans again)
  exact ⟨Except.ok.inj same.1, same.2⟩

theorem runs_bind {first : Run (StateM Machine) α} {second : α → Run (StateM Machine) β} :
    Runs (first >>= second) before b after ↔
      ∃ a middle, Runs first before a middle ∧ Runs (second a) middle b after := by
  constructor
  · intro runs
    rw [Runs, outcome_bind] at runs
    split at runs
    · next a middle began => exact ⟨a, middle, began, runs⟩
    · cases runs
  · rintro ⟨a, middle, began, runs⟩
    rw [Runs, outcome_bind, began]
    exact runs

theorem runs_pure {other : α} : Runs (pure a) before other after ↔ a = other ∧ before = after := by
  simp [Runs, outcome_pure]

theorem not_runs_throw {failure : Failure} : ¬ Runs (throw failure) before a after := by
  simp [Runs, outcome_throw]

theorem runs_perform {step : StateM Machine α} :
    Runs (perform step) before a after ↔ answer step before = (a, after) := by
  simp [Runs, outcome_perform, Prod.ext_iff]

theorem runs_attempt {failure : ε → Failure} {step : StateM Machine (Except ε α)} :
    Runs (attempt failure step) before a after ↔ answer step before = (.ok a, after) := by
  rw [Runs, outcome_attempt]
  rcases answer step before with ⟨_ | _, _⟩ <;> simp

/-! ## Runs that leave no trace -/

/-- Whatever comes of the run, it only reads, or tells people something. -/
def LeavesNoTrace (run : Run (StateM Machine) α) : Prop :=
  ∀ machine, Untouched machine (outcome run machine).2

theorem leavesNoTrace_pure (a : α) : LeavesNoTrace (pure a : Run (StateM Machine) α) := .refl

theorem LeavesNoTrace.ends {run : Run (StateM Machine) α} (reads : LeavesNoTrace run)
    (machine : Machine) :
    (∃ failure after, outcome run machine = (.error failure, after) ∧ Untouched machine after) ∨
      ∃ a after, Runs run machine a after ∧ Untouched machine after := by
  have untouched := reads machine
  cases result : outcome run machine with
  | mk ended after =>
    rw [result] at untouched
    cases ended with
    | error failure => exact .inl ⟨failure, after, rfl, untouched⟩
    | ok a => exact .inr ⟨a, after, result, untouched⟩

theorem LeavesNoTrace.bind {first : Run (StateM Machine) α} {second : α → Run (StateM Machine) β}
    (begins : LeavesNoTrace first) (ends : ∀ a, LeavesNoTrace (second a)) :
    LeavesNoTrace (first >>= second) := by
  intro machine
  rw [outcome_bind]
  obtain ⟨failure, after, failed, untouched⟩ | ⟨a, middle, began, untouched⟩ := begins.ends machine
  · rw [failed]
    exact untouched
  · rw [began]
    exact untouched.trans (ends a middle)

theorem leavesNoTrace_perform {step : StateM Machine α}
    (reads : ∀ machine, Untouched machine (answer step machine).2) : LeavesNoTrace (perform step) :=
  reads

theorem leavesNoTrace_attempt {failure : ε → Failure} {step : StateM Machine (Except ε α)}
    (reads : ∀ machine, Untouched machine (answer step machine).2) :
    LeavesNoTrace (attempt failure step) := by
  intro machine
  have untouched := reads machine
  rw [outcome_attempt]
  cases answered : answer step machine with
  | mk result after =>
    rw [answered] at untouched
    cases result <;> exact untouched

theorem LeavesNoTrace.untouched {run : Run (StateM Machine) α} (reads : LeavesNoTrace run)
    (runs : Runs run before a after) : Untouched before after := by
  have untouched := reads before
  rwa [runs] at untouched

/-! ## Steps of the commands -/

theorem outcome_loadSettings (path? : Option Text) (machine : Machine) :
    outcome (loadSettings Machine.host path?) machine = (machine.settings path?, machine) := by
  cases path? with
  | none => rfl
  | some path =>
    have present : answer (Machine.host.pathExists path) machine =
      (machine.tree.pathExists machine.directory path, machine) := rfl
    have content : answer (Machine.host.readFile path) machine =
      (machine.tree.read machine.directory path, machine) := rfl
    rw [loadSettings, outcome_bind, outcome_perform, present, Machine.settings]
    dsimp only
    split
    · rw [outcome_bind, outcome_attempt, content]
      cases machine.tree.read machine.directory path with
      | error e => rfl
      | ok document =>
        dsimp only
        cases Settings.parse document <;> rfl
    · rfl

theorem leavesNoTrace_loadSettings (path? : Option Text) :
    LeavesNoTrace (loadSettings Machine.host path?) := by
  intro machine
  rw [outcome_loadSettings]
  exact .refl machine

/-- Input that is no text stays where it is; text is read to its end. -/
theorem answer_readInput (machine : Machine) :
    answer Machine.host.readInput machine =
      match machine.input with
      | .bytes => (.error .notText, machine)
      | .text text => (.ok text, { machine with input := .text [] }) := by
  obtain ⟨tree, directory, input, output, error, now, tools, copied⟩ := machine
  cases input <;> rfl

theorem leavesNoTrace_readSource (path? : Option Text) :
    LeavesNoTrace (readSource Machine.host path?) := by
  rw [readSource]
  split
  · exact leavesNoTrace_attempt fun machine => .refl machine
  · refine leavesNoTrace_attempt fun machine => ?_
    rw [answer_readInput]
    split
    · exact .refl machine
    · exact ⟨rfl, rfl, rfl, rfl⟩

theorem leavesNoTrace_readCode (path? : Option Text) (verb : Text) :
    LeavesNoTrace (readCode Machine.host path? verb) :=
  (leavesNoTrace_readSource path?).bind fun _ => .refl

theorem leavesNoTrace_notify {context : Context (StateM Machine)}
    (onMachine : context.host = Machine.host) (role : Role) (message : Text) :
    LeavesNoTrace (notify context role message) := by
  rw [notify, onMachine]
  exact leavesNoTrace_perform fun machine => ⟨rfl, rfl, rfl, rfl⟩

theorem runs_print {context : Context (StateM Machine)} (onMachine : context.host = Machine.host)
    {text : Text} {u : Unit} (runs : Runs (print context text) before u after) :
    after = { before with output := before.output ++ text } := by
  rw [print, onMachine] at runs
  exact (Prod.mk.inj (runs_perform.mp runs)).2.symm

theorem answer_changeTree {change : Machine → Except FileError FileTree} {u : Unit}
    (changed : answer (Machine.changeTree change) before = (.ok u, after)) :
    ∃ tree, change before = .ok tree ∧ after = { before with tree := tree } := by
  simp only [answer, Machine.changeTree, StateT.run_bind, StateT.run_get, pure_bind] at changed
  cases found : change before with
  | error e =>
    rw [found] at changed
    cases changed
  | ok tree =>
    rw [found] at changed
    exact ⟨tree, rfl, (Prod.mk.inj changed).2.symm⟩

/-! ## The whole program -/

theorem answer_exitCode (theme : Theme) (run : Run (StateM Machine) Unit) (machine : Machine) :
    answer (exitCode Machine.host theme run) machine =
      match outcome run machine with
      | (.ok (), after) => (0, after)
      | (.error failure, after) =>
        (1, (answer (Machine.host.writeError
          (theme.paint .error ("Error: ".toList ++ failure.message) ++ ['\n'])) after).2) := by
  change answer (run.run >>= _) machine = _
  simp only [outcome, answer, StateT.run_bind]
  rcases run.run.run machine with ⟨_ | _, _⟩ <;> rfl

theorem exitCode_eq_zero {theme : Theme} {run : Run (StateM Machine) Unit} :
    answer (exitCode Machine.host theme run) before = (0, after) ↔ Runs run before () after := by
  rw [answer_exitCode, Runs]
  rcases outcome run before with ⟨_ | _, _⟩ <;> simp

end Program

end Snippet
