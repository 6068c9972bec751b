import Snippet.Proofs.Page
import Snippet.Proofs.Page.Files
import Snippet.Proofs.Page.Relink
import Snippet.Proofs.Program.FileTree
import Snippet.Proofs.Program.Run

/-! The files that a split page is written to.

The names of the parts were made safe, so each is one step from the directory, and they
differ from each other. One file is therefore written for each part that is not blank,
and a later file never takes the place of an earlier one.
-/

set_option autoImplicit false

namespace Snippet

open FileName (IsComponent)
open FileTree (AddsDirectories KeepsDirectories Place)

variable {configured names : PartNames} {code : Text}

/-! ## Names -/

theorem PartNames.resolve_get (resolved : configured.resolve = .ok names) (part : Part) :
    FileName.resolve (configured.get part) part.defaultName = .ok (names.get part) := by
  obtain ⟨html, htmlResolved, others⟩ := bind_eq_ok.mp resolved
  obtain ⟨css, cssResolved, others⟩ := bind_eq_ok.mp others
  obtain ⟨js, jsResolved, all⟩ := bind_eq_ok.mp others
  obtain rfl : (⟨html, css, js⟩ : PartNames) = names := Except.ok.inj all
  cases part
  · exact htmlResolved
  · exact cssResolved
  · exact jsResolved

theorem PartNames.lower_get_ne {part other : Part} (resolved : configured.resolve = .ok names)
    (different : part ≠ other) : (names.get part).lower ≠ (names.get other).lower :=
  FileName.lower_ne_of_resolve different (resolve_get resolved part) (resolve_get resolved other)

theorem PartNames.get_ne {part other : Part} (resolved : configured.resolve = .ok names)
    (different : part ≠ other) : names.get part ≠ names.get other :=
  fun same => lower_get_ne resolved different (congrArg Text.lower same)

theorem PartNames.isComponent_get (resolved : configured.resolve = .ok names) (part : Part) :
    IsComponent (names.get part) :=
  FileName.isComponent_of_resolve (resolve_get resolved part)

theorem PartNames.target_injective (resolved : configured.resolve = .ok names) (place : Place) :
    Function.Injective fun part => place ++ [names.get part] := by
  intro part other same
  by_contra different
  exact get_ne resolved different (List.cons.inj (List.append_cancel_left same)).1

/-! ## Parts -/

theorem SplitPage.nodup_files (split : SplitPage) : (split.files.map Prod.fst).Nodup := by
  have parts : Part.all.Nodup := by decide
  have kept : (split.files.map Prod.fst).Sublist
      ((Part.all.map fun part => (part, split.content part)).map Prod.fst) :=
    List.filter_sublist.map Prod.fst
  rw [List.map_map] at kept
  exact parts.sublist kept

theorem Embedded.not_allBlank_reference (kind : Embedded) (file : Text) :
    ¬ Text.allBlank (kind.reference file) := by
  have angle : '<' ∈ kind.reference file := by
    cases kind <;> exact List.mem_append_left _ (List.mem_append_left _ (by decide))
  intro blank
  exact absurd (List.all_eq_true.mp blank '<' angle) (by decide)

theorem Embedded.reference_ne_nil (kind : Embedded) (file : Text) : kind.reference file ≠ [] := by
  intro none
  exact not_allBlank_reference kind file (by rw [none]; rfl)

/-- A page that was split leaves markup, whatever its files are called. -/
theorem SplitPage.files_relink_ne_nil (markup : (Category.of code).isMarkup) (cssFile jsFile : Text) :
    ((splitPage code).relink cssFile jsFile).files ≠ [] := by
  have visible := not_allBlank_of_isMarkup (isMarkup_splitPage markup)
  have relinked :
      ¬ Text.allBlank (((splitPage code).relink cssFile jsFile).content .html) := by
    intro blank
    have styled := Text.allBlank_of_replaceAll (Embedded.script.reference_ne_nil _)
      (Embedded.script.not_allBlank_reference _) blank
    exact visible (Text.allBlank_of_replaceAll (Embedded.style.reference_ne_nil _)
      (Embedded.style.not_allBlank_reference _) styled)
  intro none
  have member := SplitPage.mem_files.mpr relinked
  rw [none] at member
  cases member

/-! ## Writing -/

/-- The files hold their texts at their places, and every other place is as it was. -/
structure FileTree.Wrote (before after : FileTree) (target : Part → Place)
    (files : List (Part × Text)) : Prop where
  holds : ∀ part text, (part, text) ∈ files → after.get? (target part) = some (.file (.text text))
  others : ∀ place, (∀ part text, (part, text) ∈ files → place ≠ target part) →
    after.get? place = before.get? place

/-- The parts that are not blank were written and nothing else: each directly inside a
directory, under its own name and with its own text, and no two at one place. Beyond that,
there may be new directories. -/
structure WritesExactly (before after : FileTree) (place : Place) (names : PartNames)
    (split : SplitPage) : Prop where
  holds : ∀ part, ¬ Text.allBlank (split.content part) →
    after.get? (place ++ [names.get part]) = some (.file (.text (split.content part)))
  apart : ∀ part other, part ≠ other → place ++ [names.get part] ≠ place ++ [names.get other]
  others : ∀ other,
    (∀ part, ¬ Text.allBlank (split.content part) → other ≠ place ++ [names.get part]) →
      after.get? other = before.get? other ∨
        before.get? other = none ∧ after.get? other = some .directory

theorem FileTree.Wrote.writesExactly {before prepared after : FileTree} {place : Place}
    {split : SplitPage} (resolved : configured.resolve = .ok names)
    (adds : AddsDirectories before prepared)
    (wrote : prepared.Wrote after (fun part => place ++ [names.get part]) split.files) :
    WritesExactly before after place names split where
  holds part visible := wrote.holds part _ (SplitPage.mem_files_iff.mpr ⟨visible, rfl⟩)
  apart _ _ different same := different (PartNames.target_injective resolved place same)
  others other untargeted := by
    rw [wrote.others other fun part text member =>
      untargeted part (SplitPage.mem_files_iff.mp member).1]
    exact adds other

namespace Program

variable {before after : Machine} {path : Text} {paths : List Text} {place : Place}

theorem runs_writeFile {name text : Text} {u : Unit} {failure : FileError → Failure}
    (component : IsComponent name)
    (runs : Runs (attempt failure (Machine.host.writeFile (joinPath path name) text)) before u after) :
    ∃ place, before.tree.placeOf before.directory path = .ok place ∧
      before.tree.get? (place ++ [name]) ≠ some .directory ∧
        after = { before with tree := before.tree.set (place ++ [name]) (.file (.text text)) } := by
  obtain ⟨tree, written, rfl⟩ := answer_changeTree (runs_attempt.mp runs)
  obtain ⟨place, placed, free, rfl⟩ := FileTree.write_joinPath component written
  exact ⟨place, placed, free, rfl⟩

/-- The files are written one after the other, and the directory is found again each time. -/
theorem runs_writeParts (resolved : configured.resolve = .ok names)
    (files : List (Part × Text)) (distinct : (files.map Prod.fst).Nodup) :
    ∀ {before after paths}, before.tree.placeOf before.directory path = .ok place →
      Runs (writeParts Machine.host path names files) before paths after →
      KeepsDirectories before.tree after.tree ∧
        before.tree.Wrote after.tree (fun part => place ++ [names.get part]) files := by
  induction files with
  | nil =>
    intro before after paths _ runs
    obtain ⟨-, rfl⟩ := runs_pure.mp runs
    exact ⟨fun _ => id, by simp, fun _ _ => rfl⟩
  | cons file files ih =>
    obtain ⟨part, text⟩ := file
    intro before after paths placed runs
    obtain ⟨_, middle, written, behind⟩ := runs_bind.mp runs
    obtain ⟨others, last, writtenOthers, ended⟩ := runs_bind.mp behind
    obtain ⟨-, rfl⟩ := runs_pure.mp ended
    obtain ⟨found, again, free, rfl⟩ := runs_writeFile (PartNames.isComponent_get resolved part) written
    obtain rfl : place = found := Except.ok.inj (placed.symm.trans again)
    have keeps := FileTree.keepsDirectories_set free (.file (.text text))
    simp only [List.map_cons, List.nodup_cons] at distinct
    obtain ⟨keepsOthers, wrote⟩ := ih distinct.2 (keeps.placeOf placed) writtenOthers
    refine ⟨fun place isDirectory => keepsOthers place (keeps place isDirectory), ?_, ?_⟩
    · intro other written member
      rcases List.mem_cons.mp member with same | member
      · obtain ⟨rfl, rfl⟩ := Prod.mk.inj same
        -- The parts behind this one have other names, so its file stays.
        have kept := wrote.others (place ++ [names.get other]) fun later laterText member same => by
          have again := PartNames.target_injective resolved place same
          exact distinct.1 (List.mem_map.mpr ⟨_, member, again.symm⟩)
        rw [kept]
        exact FileTree.get?_set_self _ (by simp) _
      · exact wrote.holds other written member
    · intro other untouched
      rw [wrote.others other fun part text member =>
        untouched part text (List.mem_cons_of_mem _ member)]
      exact FileTree.get?_set_of_ne _ (untouched part text (List.mem_cons_self ..)) _

theorem exists_place_of_writeParts (resolved : configured.resolve = .ok names)
    {files : List (Part × Text)} (some_file : files ≠ [])
    (runs : Runs (writeParts Machine.host path names files) before paths after) :
    ∃ place, before.tree.placeOf before.directory path = .ok place := by
  obtain ⟨⟨part, text⟩, others, rfl⟩ := List.exists_cons_of_ne_nil some_file
  obtain ⟨_, middle, written, -⟩ := runs_bind.mp runs
  obtain ⟨place, placed, -⟩ := runs_writeFile (PartNames.isComponent_get resolved part) written
  exact ⟨place, placed⟩

theorem runs_splitCommand {context : Context (StateM Machine)} {input : Option Text} {u : Unit}
    (onMachine : context.host = Machine.host)
    (runs : Runs (splitCommand context input path false) before u after) :
    ∃ code read, Runs (readCode Machine.host input "split".toList) before code read ∧
      ((Category.of code).isMarkup →
        ∃ names place, context.settings.names.resolve = .ok names ∧
          after.tree.placeOf before.directory path = .ok place ∧
          WritesExactly before.tree after.tree place names
            ((splitPage code).relink names.css names.js)) := by
  rw [splitCommand, onMachine] at runs
  obtain ⟨code, read, codeRead, runs⟩ := runs_bind.mp runs
  refine ⟨code, read, codeRead, fun markup => ?_⟩
  simp only [Bool.false_eq_true, if_false, isEmpty_splitPage markup] at runs
  split at runs
  · exact absurd runs not_runs_throw
  next names resolved =>
  obtain ⟨_, prepared, created, runs⟩ := runs_bind.mp runs
  obtain ⟨paths, wrote, written, runs⟩ := runs_bind.mp runs
  obtain ⟨_, printed, prints, told⟩ := runs_bind.mp runs
  -- Reading left everything as it was, and creating directories changed the tree alone.
  have untouched := (leavesNoTrace_readCode input _).untouched codeRead
  obtain ⟨tree, added, rfl⟩ := answer_changeTree (runs_attempt.mp created)
  have adds : AddsDirectories read.tree tree := FileTree.addsDirectories_createFrom _ _ added
  obtain ⟨place, placed⟩ := exists_place_of_writeParts resolved
    (SplitPage.files_relink_ne_nil markup _ _) written
  have distinct := SplitPage.nodup_files ((splitPage code).relink names.css names.js)
  obtain ⟨keeps, files⟩ := runs_writeParts resolved _ distinct placed written
  -- What is told in the end changes no file.
  have same : after.tree = wrote.tree := by
    obtain rfl := runs_print onMachine prints
    split at told
    · exact ((leavesNoTrace_notify onMachine _ _).untouched told).tree
    · obtain ⟨-, rfl⟩ := runs_pure.mp told
      rfl
  refine ⟨names, place, resolved, ?_, ?_⟩
  · rw [same, ← untouched.directory]
    exact keeps.placeOf placed
  · rw [same, ← untouched.tree]
    exact files.writesExactly resolved adds

end Program

open Program (Runs loadSettings readCode settingsPath?)

/-- Names that could be made safe differ even where case does not count, and a run that
splits markup into files writes exactly the parts that are not blank: directly inside the
directory, each under its own name and with its own text. -/
theorem Machine.run_split :
    (∀ configured names : PartNames, configured.resolve = .ok names →
      ∀ part other : Part, part ≠ other → (names.get part).lower ≠ (names.get other).lower) ∧
    ∀ (machine after : Machine) (environment : Environment) (arguments : List Text)
      (invocation : Invocation) (input : Option Text) (path : Text),
      CommandLine.read environment.settingsVariable arguments = .ok invocation →
      invocation.command = .split input path false →
      machine.run environment arguments = (0, after) →
      ∃ settings loaded code read,
        Runs (loadSettings host (settingsPath? environment invocation.settingsPath)) machine
            settings loaded ∧
          Runs (readCode host input "split".toList) loaded code read ∧
          ((Category.of code).isMarkup →
            ∃ names place, settings.names.resolve = .ok names ∧
              after.tree.placeOf machine.directory path = .ok place ∧
              WritesExactly machine.tree after.tree place names
                ((splitPage code).relink names.css names.js)) := by
  refine ⟨fun configured names resolved part other => PartNames.lower_get_ne resolved, ?_⟩
  intro machine after environment arguments invocation input path read asked success
  have run : Program.answer (Program.exitCode host environment.theme
      (Program.runInvocation host environment invocation)) machine = (0, after) := by
    rw [Machine.run, Program.main, read] at success
    exact success
  have runs := Program.exitCode_eq_zero.mp run
  rw [Program.runInvocation, asked] at runs
  obtain ⟨settings, loaded, load, runs⟩ := Program.runs_bind.mp runs
  obtain ⟨code, readMachine, codeRead, written⟩ := Program.runs_splitCommand rfl runs
  have untouched := (Program.leavesNoTrace_loadSettings _).untouched load
  rw [untouched.tree, untouched.directory] at written
  exact ⟨settings, loaded, code, readMachine, load, codeRead, written⟩

theorem Machine.run_split_page :
    let page := "<p></p><style>a</style><script> </script>".toList
    let machine : Machine :=
      { tree := ⟨[(["home".toList], .directory),
          (["home".toList, "page.html".toList], .file (.text page)),
          (["home".toList, "conf".toList],
            .file (.text "split.css_file = '../My Style.css'".toList))]⟩
        directory := ["home".toList]
        input := .text []
        output := []
        error := []
        now := ⟨2024, 1, 1, 0, 0, 0⟩
        tools := []
        copied := [] }
    let environment : Environment := ⟨some "conf".toList, none, .plain⟩
    let arguments := ["split".toList, "page.html".toList, "--out-dir".toList, "site/new".toList]
    let names : PartNames := ⟨"index.html".toList, "My-Style.css".toList, "script.js".toList⟩
    let site : Place := ["home".toList, "site".toList, "new".toList]
    let split : SplitPage :=
      { html := ("<p></p><link rel=\"stylesheet\" href=\"My-Style.css\">" ++
          "<script src=\"script.js\"></script>").toList
        css := "a\n".toList
        js := " \n".toList }
    (∀ part other : Part, part ≠ other → (names.get part).lower ≠ (names.get other).lower) ∧
    ∃ after, machine.run environment arguments = (0, after) ∧
      after.tree.placeOf machine.directory "site/new".toList = .ok site ∧
      WritesExactly machine.tree after.tree site names split ∧
      after.tree.get? (site ++ ["index.html".toList]) = some (.file (.text split.html)) ∧
      after.tree.get? (site ++ ["My-Style.css".toList]) = some (.file (.text split.css)) ∧
      after.tree.get? (site ++ ["script.js".toList]) = none := by
  intro page machine environment arguments names site split
  let configured : PartNames := ⟨"index.html".toList, "../My Style.css".toList, "script.js".toList⟩
  have resolved : configured.resolve = .ok names := by decide +kernel
  have computed : (machine.run environment arguments).1 = 0 ∧
      (machine.run environment arguments).2.tree.placeOf machine.directory "site/new".toList =
        .ok site ∧
      (machine.run environment arguments).2.tree.get? (site ++ ["script.js".toList]) = none := by
    decide +kernel
  -- For any run, so that this one is not computed again.
  have ended {run : Nat × Machine} (success : run.1 = 0) : run = (0, run.2) := by rw [← success]
  obtain ⟨success, inSite, unwritten⟩ := computed
  have run := ended success
  -- The run gives the settings and the code as unknowns; here they can be computed.
  obtain ⟨settings, loaded, code, read, load, codeRead, wrote⟩ :=
    run_split.2 machine _ environment arguments ⟨some "conf".toList, false, none, false,
      .split (some "page.html".toList) "site/new".toList false⟩ _ _ (by decide +kernel) rfl run
  have set : machine.settings (settingsPath? environment (some "conf".toList)) =
      .ok { Settings.default with names := configured } := by decide +kernel
  rw [Runs, Program.outcome_loadSettings, set] at load
  obtain ⟨rfl, rfl⟩ : { Settings.default with names := configured } = settings ∧ machine = loaded :=
    ⟨Except.ok.inj (Prod.mk.inj load).1, (Prod.mk.inj load).2⟩
  have found : Runs (readCode host (some "page.html".toList) "split".toList) machine page machine :=
    rfl
  obtain ⟨rfl, -⟩ := codeRead.result_unique found
  have relinked : (splitPage page).relink names.css names.js = split := by decide +kernel
  obtain ⟨own, place, same, placed, delivered⟩ := wrote (by decide +kernel)
  obtain rfl : names = own := Except.ok.inj (resolved.symm.trans same)
  obtain rfl : site = place := Except.ok.inj (inSite.symm.trans placed)
  rw [relinked] at delivered
  exact ⟨run_split.1 configured names resolved, _, run, inSite, delivered,
    delivered.holds .html (by decide +kernel), delivered.holds .css (by decide +kernel), unwritten⟩

end Snippet
