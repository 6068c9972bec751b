import Snippet.Program.FileTree
import Snippet.Proofs.FileName

/-! What happens to a tree of files.

A path with a single name at its end leads to a place directly inside the directory
that stands in front of it. Nothing the program does takes a directory away, so a path
that leads to a place leads to it for the rest of a run.
-/

set_option autoImplicit false

namespace Snippet

namespace Text

variable {separator : Char} {s : Text}

theorem splitOn_of_not_mem (absent : separator ∉ s) : splitOn separator s = [s] := by
  induction s with
  | nil => rfl
  | cons c s ih =>
    simp only [List.mem_cons, not_or] at absent
    rw [splitOn, if_neg (Ne.symm absent.1), ih absent.2]

theorem splitOn_append_cons (separator : Char) (s t : Text) :
    splitOn separator (s ++ separator :: t) = splitOn separator s ++ splitOn separator t := by
  induction s with
  | nil => simp [splitOn]
  | cons c s ih =>
    rw [List.cons_append, splitOn, splitOn, ih]
    split
    · rfl
    · cases parts : splitOn separator s with
      | nil => exact absurd parts (splitOn_ne_nil separator s)
      | cons first others => rfl

end Text

theorem bind_eq_ok {α β ε : Type} {first : Except ε α} {second : α → Except ε β} {b : β} :
    first >>= second = .ok b ↔ ∃ a, first = .ok a ∧ second a = .ok b := by
  cases first with
  | error e => simp [bind, Except.bind]
  | ok a => simp [bind, Except.bind]

open FileName (IsComponent)

/-! ## Paths -/

theorem exists_eq_joinPath (path name : Text) : ∃ behind, joinPath path name = path ++ behind ++ name := by
  rw [joinPath]
  split
  · exact ⟨[], by simp⟩
  · exact ⟨['/'], by simp⟩

theorem bytes_le_joinPath (path name : Text) :
    Text.bytes path ≤ Text.bytes (joinPath path name) := by
  obtain ⟨behind, whole⟩ := exists_eq_joinPath path name
  rw [whole, Text.bytes_append, Text.bytes_append, Nat.add_assoc]
  exact Nat.le_add_right _ _

theorem joinPath_slash (rest name : Text) : joinPath ('/' :: rest) name = '/' :: joinPath rest name := by
  cases rest with
  | nil => rfl
  | cons c rest =>
    simp only [joinPath, List.isEmpty_cons, Bool.false_or, List.getLast?_cons_cons]
    split <;> rfl

/-- The steps of a joined path are those to the directory and one more. Behind a slash at
the end of the directory, that one takes the place of a step that leads nowhere. -/
theorem exists_splitOn_joinPath {name : Text} (slashless : '/' ∉ name) (path : Text) :
    ∃ steps, Text.splitOn '/' (joinPath path name) = steps ++ [name] ∧
      (path ≠ [] ∧ Text.splitOn '/' path = steps ∨ Text.splitOn '/' path = steps ++ [[]]) := by
  have single := Text.splitOn_of_not_mem slashless
  by_cases none_left : path = []
  · subst none_left
    exact ⟨[], single, .inr rfl⟩
  by_cases slash : path.getLast? = some '/'
  · obtain ⟨front, rfl⟩ := List.getLast?_eq_some_iff.mp slash
    refine ⟨Text.splitOn '/' front, ?_, .inr (Text.splitOn_append_cons '/' front [])⟩
    rw [joinPath, if_pos (by simp), List.append_assoc, List.singleton_append,
      Text.splitOn_append_cons, single]
  · refine ⟨Text.splitOn '/' path, ?_, .inl ⟨none_left, rfl⟩⟩
    rw [joinPath, if_neg (by simp [none_left, slash]), Text.splitOn_append_cons, single]

namespace FileTree

variable {tree before middle after : FileTree} {directory place next : Place}
  {path name text : Text}

/-! ## Steps -/

def KeepsDirectories (before after : FileTree) : Prop :=
  ∀ place, before.get? place = some .directory → after.get? place = some .directory

theorem get?_of_step (stepped : tree.step place name = .ok next) :
    tree.get? place = some .directory := by
  unfold step at stepped
  split at stepped
  · cases stepped
  · cases stepped
  · assumption

theorem step_of_component (component : IsComponent name)
    (stepped : tree.step place name = .ok next) : next = place ++ [name] := by
  have isDirectory := get?_of_step stepped
  simp only [step, isDirectory] at stepped
  split at stepped
  · next stays =>
    simp only [Bool.or_eq_true, List.isEmpty_iff, beq_iff_eq] at stays
    exact absurd stays (not_or.mpr ⟨component.some_text, component.not_here⟩)
  · split at stepped
    · next up => exact absurd (beq_iff_eq.mp up) component.not_above
    · split at stepped
      · cases stepped
      · exact (Except.ok.inj stepped).symm

theorem step_nil (isDirectory : tree.get? place = some .directory) :
    tree.step place [] = .ok place := by
  simp [step, isDirectory]

theorem foldlM_step_append {names others : List Text} :
    (names ++ others).foldlM tree.step place = .ok next ↔
      ∃ middle, names.foldlM tree.step place = .ok middle ∧
        others.foldlM tree.step middle = .ok next := by
  rw [List.foldlM_append, bind_eq_ok]

theorem KeepsDirectories.step (keeps : KeepsDirectories before after)
    (stepped : before.step place name = .ok next) : after.step place name = .ok next := by
  have isDirectory := get?_of_step stepped
  simp only [FileTree.step, isDirectory, keeps place isDirectory] at stepped ⊢
  exact stepped

theorem KeepsDirectories.steps (keeps : KeepsDirectories before after) (names : List Text) :
    ∀ {place}, names.foldlM before.step place = .ok next →
      names.foldlM after.step place = .ok next := by
  induction names with
  | nil => exact id
  | cons name names ih =>
    intro place stepped
    rw [List.foldlM_cons, bind_eq_ok] at stepped ⊢
    obtain ⟨inner, first, others⟩ := stepped
    exact ⟨inner, keeps.step first, ih others⟩

/-! ## Places -/

/-- The place of a directory that the program is told to write into: no path at all
stands for the directory in which the program runs. -/
def placeOf (tree : FileTree) (directory : Place) (path : Text) : Except FileError Place :=
  if path.isEmpty then .ok directory else tree.resolve directory path

def start (directory : Place) (path : Text) : Place :=
  if path.head? = some '/' then [] else directory

def steps (path : Text) : List Text :=
  Text.splitOn '/' (if path.head? = some '/' then path.tail else path)

theorem resolve_eq_ok :
    tree.resolve directory path = .ok place ↔
      Text.bytes path ≤ maxPath ∧ path ≠ [] ∧
        (steps path).foldlM tree.step (start directory path) = .ok place := by
  unfold resolve
  split
  · next long => simp [Nat.not_le_of_lt long]
  · next short =>
    split
    · simp
    · simp [steps, start, Nat.le_of_not_lt short]
    · next some_text noSlash =>
      have relative : path.head? ≠ some '/' := by
        intro slash
        obtain ⟨rest, rfl⟩ := List.head?_eq_some_iff.mp slash
        exact noSlash rest rfl
      have some_path : path ≠ [] := some_text
      simp [steps, start, relative, some_path, Nat.le_of_not_lt short]

theorem KeepsDirectories.placeOf (keeps : KeepsDirectories before after)
    (found : before.placeOf directory path = .ok place) :
    after.placeOf directory path = .ok place := by
  by_cases none_left : path.isEmpty
  · rw [FileTree.placeOf, if_pos none_left] at found ⊢
    exact found
  · rw [FileTree.placeOf, if_neg none_left] at found ⊢
    obtain ⟨short, some_text, stepped⟩ := resolve_eq_ok.mp found
    exact resolve_eq_ok.mpr ⟨short, some_text, keeps.steps _ stepped⟩

theorem exists_steps_joinPath (slashless : '/' ∉ name) (directory : Place)
    (path : Text) :
    ∃ front, steps (joinPath path name) = front ++ [name] ∧
      start directory (joinPath path name) = start directory path ∧
        (path ≠ [] ∧ steps path = front ∨ steps path = front ++ [[]]) := by
  -- From the root the steps are those behind the first slash.
  by_cases slash : path.head? = some '/'
  · obtain ⟨rest, rfl⟩ := List.head?_eq_some_iff.mp slash
    obtain ⟨front, joined, same⟩ := exists_splitOn_joinPath slashless rest
    refine ⟨front, ?_, ?_, ?_⟩
    · simpa [steps, joinPath_slash] using joined
    · simp [start, joinPath_slash]
    · exact same.imp (fun same => ⟨by simp, by simpa [steps] using same.2⟩) (by simpa [steps] using ·)
  · obtain ⟨front, joined, same⟩ := exists_splitOn_joinPath slashless path
    have relative : (joinPath path name).head? ≠ some '/' := by
      cases path with
      | nil =>
        intro first
        exact slashless (List.mem_of_mem_head? (by simpa [joinPath] using first))
      | cons c path =>
        rw [joinPath]
        split <;> simpa using slash
    refine ⟨front, ?_, ?_, ?_⟩
    · simpa [steps, relative] using joined
    · simp [start, relative, slash]
    · simpa [steps, slash] using same

/-- A joined path leads directly inside the directory in front of its last name. -/
theorem resolve_joinPath (component : IsComponent name)
    (resolved : tree.resolve directory (joinPath path name) = .ok place) :
    ∃ parent, tree.placeOf directory path = .ok parent ∧ place = parent ++ [name] := by
  obtain ⟨short, -, stepped⟩ := resolve_eq_ok.mp resolved
  obtain ⟨front, joined, origin, same⟩ :=
    exists_steps_joinPath component.slashless directory path
  rw [joined, origin] at stepped
  obtain ⟨parent, inner, final⟩ := foldlM_step_append.mp stepped
  rw [List.foldlM_cons, bind_eq_ok] at final
  obtain ⟨reached, final, ended⟩ := final
  obtain rfl : reached = place := Except.ok.inj ended
  refine ⟨parent, ?_, step_of_component component final⟩
  by_cases none_left : path = []
  · -- No path leads to where the program runs, as no steps do.
    subst none_left
    rcases same with ⟨some_path, -⟩ | same
    · exact absurd rfl some_path
    · obtain rfl : front = [] := by simpa [steps, Text.splitOn] using same
      exact inner
  · rw [placeOf, if_neg (by simpa using none_left)]
    refine resolve_eq_ok.mpr ⟨Nat.le_trans (bytes_le_joinPath path name) short, none_left, ?_⟩
    rcases same with ⟨-, same⟩ | same
    · rw [same, inner]
    · rw [same]
      exact foldlM_step_append.mpr ⟨parent, inner, bind_eq_ok.mpr
        ⟨parent, step_nil (get?_of_step final), rfl⟩⟩

/-! ## Changes -/

/-- Where there was nothing, there may be directories; all else is as it was. -/
def AddsDirectories (before after : FileTree) : Prop :=
  ∀ place, after.get? place = before.get? place ∨
    before.get? place = none ∧ after.get? place = some .directory

theorem AddsDirectories.refl (tree : FileTree) : AddsDirectories tree tree := fun _ => .inl rfl

theorem AddsDirectories.trans (first : AddsDirectories before middle)
    (second : AddsDirectories middle after) : AddsDirectories before after := by
  intro place
  rcases first place with same | ⟨absent, added⟩
  · rw [← same]
    exact second place
  · rcases second place with same | ⟨still, -⟩
    · exact .inr ⟨absent, same.trans added⟩
    · rw [added] at still
      cases still

theorem addsDirectories_set (absent : tree.get? place = none) :
    AddsDirectories tree (tree.set place .directory) := by
  intro other
  by_cases same : other = place
  · subst same
    have below : other ≠ [] := by
      rintro rfl
      cases absent
    exact .inr ⟨absent, get?_set_self tree below .directory⟩
  · exact .inl (get?_set_of_ne tree same .directory)

theorem addsDirectories_createDirectory
    (created : tree.createDirectory directory path = .ok after) : AddsDirectories tree after := by
  obtain ⟨place, -, created⟩ := bind_eq_ok.mp created
  split at created
  · cases created
  · next free =>
    obtain ⟨-, -, created⟩ := bind_eq_ok.mp created
    obtain rfl : tree.set place .directory = after := Except.ok.inj created
    exact addsDirectories_set (Option.not_isSome_iff_eq_none.mp free)

/-- A directory is created with those above it, and nothing else is. -/
theorem addsDirectories_createFrom (directory : Place) (fuel : Nat) :
    ∀ {tree after : FileTree} {path : Text}, createFrom directory fuel tree path = .ok after →
      AddsDirectories tree after := by
  induction fuel with
  | zero =>
    intro tree after path created
    obtain rfl := Except.ok.inj created
    exact .refl tree
  | succ fuel ih =>
    intro tree after path created
    rw [createFrom] at created
    split at created
    · obtain rfl := Except.ok.inj created
      exact .refl tree
    split at created
    · next new single =>
      obtain rfl := Except.ok.inj created
      exact addsDirectories_createDirectory single
    · -- The directory above is missing: it is made first, and then this one.
      split at created
      · cases created
      · next parent _ =>
        obtain ⟨middle, above, created⟩ := bind_eq_ok.mp created
        refine (ih above).trans ?_
        split at created
        · next new single =>
          obtain rfl := Except.ok.inj created
          exact addsDirectories_createDirectory single
        · split at created
          · obtain rfl := Except.ok.inj created
            exact .refl middle
          · cases created
    · split at created
      · obtain rfl := Except.ok.inj created
        exact .refl tree
      · cases created

theorem getLast?_joinPath (component : IsComponent name) (path : Text) :
    (joinPath path name).getLast? ≠ some '/' := by
  obtain ⟨behind, whole⟩ := exists_eq_joinPath path name
  obtain none_left | ⟨front, c, rfl⟩ := List.eq_nil_or_concat name
  · exact absurd none_left component.some_text
  · rw [whole, List.concat_eq_append, ← List.append_assoc, List.getLast?_concat]
    rintro ⟨⟩
    exact component.slashless (by simp)

theorem write_joinPath (component : IsComponent name)
    (written : tree.write directory (joinPath path name) text = .ok after) :
    ∃ parent, tree.placeOf directory path = .ok parent ∧
      tree.get? (parent ++ [name]) ≠ some .directory ∧
        after = tree.set (parent ++ [name]) (.file (.text text)) := by
  have noSlash := getLast?_joinPath component path
  simp only [write, beq_iff_eq, noSlash, if_false] at written
  obtain ⟨place, found, written⟩ := bind_eq_ok.mp written
  obtain ⟨parent, placed, rfl⟩ := resolve_joinPath component found
  split at written
  · cases written
  · next free =>
    obtain ⟨-, -, written⟩ := bind_eq_ok.mp written
    exact ⟨parent, placed, free, (Except.ok.inj written).symm⟩

theorem keepsDirectories_set (free : tree.get? place ≠ some .directory) (entry : FileEntry) :
    KeepsDirectories tree (tree.set place entry) := by
  intro other isDirectory
  rw [get?_set_of_ne tree (by rintro rfl; exact free isDirectory)]
  exact isDirectory

end FileTree

end Snippet
