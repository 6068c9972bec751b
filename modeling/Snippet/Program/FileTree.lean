import Snippet.Program.Host
import Snippet.Text.Units

/-! A tree of files and directories as a value, with the errors that a Unix system
gives for paths that lead nowhere. -/

set_option autoImplicit false

namespace Snippet

inductive Content where
  | text (text : Text)
  /-- Bytes that are not valid UTF-8. -/
  | bytes
  deriving DecidableEq, Repr

inductive FileEntry where
  | directory
  | file (content : Content)
  deriving DecidableEq, Repr

/-- Entries by the names that lead to them from the root, which is a directory. -/
structure FileTree where
  entries : List (List Text × FileEntry)
  deriving DecidableEq, Repr

namespace FileTree

abbrev Place := List Text

def empty : FileTree := ⟨[]⟩

def get? (tree : FileTree) (place : Place) : Option FileEntry :=
  if place.isEmpty then some .directory
  else (tree.entries.find? (·.1 == place)).map (·.2)

def put (place : Place) (entry : FileEntry) :
    List (Place × FileEntry) → List (Place × FileEntry)
  | [] => [(place, entry)]
  | old :: others =>
    if old.1 = place then (place, entry) :: others else old :: put place entry others

def set (tree : FileTree) (place : Place) (entry : FileEntry) : FileTree :=
  ⟨put place entry tree.entries⟩

theorem get?_set_self (tree : FileTree) {place : Place} (below : place ≠ [])
    (entry : FileEntry) : (tree.set place entry).get? place = some entry := by
  obtain ⟨entries⟩ := tree
  simp only [get?, set, List.isEmpty_iff, below, if_false]
  induction entries with
  | nil => simp [put]
  | cons old others ih =>
    rw [put]
    split
    · simp
    · next other => simpa [other] using ih

theorem get?_set_of_ne (tree : FileTree) {place other : Place} (different : other ≠ place)
    (entry : FileEntry) : (tree.set place entry).get? other = tree.get? other := by
  obtain ⟨entries⟩ := tree
  simp only [get?, set]
  split
  · rfl
  · induction entries with
    | nil => simp [put, different.symm]
    | cons old others ih =>
      rw [put]
      split
      · next same => simp [same, different.symm]
      · next => simp only [List.find?_cons]; split <;> simp_all

def maxName : Nat := 255

/-- One step from a place, which has to be a directory. An empty name and a dot stay,
two dots go up. -/
def step (tree : FileTree) (place : Place) (name : Text) : Except FileError Place :=
  match tree.get? place with
  | none => .error .notFound
  | some (.file _) => .error .notDirectory
  | some .directory =>
    if name.isEmpty || name == ['.'] then .ok place
    else if name == ['.', '.'] then .ok place.dropLast
    else if maxName < Text.bytes name then .error .nameTooLong
    else .ok (place ++ [name])

def maxPath : Nat := 4095

/-- The place to which a path leads from a directory. There need be nothing at it. -/
def resolve (tree : FileTree) (directory : Place) (path : Text) : Except FileError Place :=
  if maxPath < Text.bytes path then .error .nameTooLong
  else
    match path with
    | [] => .error .notFound
    | '/' :: rest => (Text.splitOn '/' rest).foldlM tree.step []
    | _ => (Text.splitOn '/' path).foldlM tree.step directory

def pathExists (tree : FileTree) (directory : Place) (path : Text) : Bool :=
  match tree.resolve directory path with
  | .ok place => (tree.get? place).isSome
  | .error _ => false

def isDirectory (tree : FileTree) (directory : Place) (path : Text) : Bool :=
  match tree.resolve directory path with
  | .ok place => tree.get? place == some .directory
  | .error _ => false

def read (tree : FileTree) (directory : Place) (path : Text) : Except FileError Text := do
  match tree.get? (← tree.resolve directory path) with
  | none => throw .notFound
  | some .directory => throw .isDirectory
  | some (.file .bytes) => throw .notText
  | some (.file (.text text)) => return text

def checkParent (tree : FileTree) (place : Place) : Except FileError Unit :=
  match tree.get? place.dropLast with
  | none => .error .notFound
  | some (.file _) => .error .notDirectory
  | some .directory => .ok ()

def dropSlashes (path : Text) : Text := (path.reverse.dropWhile (· == '/')).reverse

/-- A file written anew. A path that ends in a slash names no file, whatever is there. -/
def write (tree : FileTree) (directory : Place) (path text : Text) : Except FileError FileTree := do
  if path.getLast? == some '/' then
    let parent := ((dropSlashes path).reverse.dropWhile (· != '/')).reverse
    let _ ← tree.resolve directory (parent ++ ['.'])
    throw .isDirectory
  let place ← tree.resolve directory path
  match tree.get? place with
  | some .directory => throw .isDirectory
  | _ =>
    tree.checkParent place
    return tree.set place (.file (.text text))

/-- One new directory; slashes at the end of its path mean nothing. -/
def createDirectory (tree : FileTree) (directory : Place) (path : Text) :
    Except FileError FileTree := do
  let bare := dropSlashes path
  let place ← tree.resolve directory (if bare.isEmpty then path else bare)
  if (tree.get? place).isSome then throw .alreadyExists
  tree.checkParent place
  return tree.set place .directory

/-- A directory with those above it, `fuel` levels at most. -/
def createFrom (directory : Place) : (fuel : Nat) → FileTree → Text → Except FileError FileTree
  | 0, tree, _ => .ok tree
  | fuel + 1, tree, path =>
    if path.isEmpty then .ok tree
    else
      match tree.createDirectory directory path with
      | .ok tree => .ok tree
      | .error .notFound =>
        match parentPath? path with
        | none => .error .notFound
        | some parent => do
          let tree ← createFrom directory fuel tree parent
          match tree.createDirectory directory path with
          | .ok tree => return tree
          | .error e => if tree.isDirectory directory path then return tree else throw e
      | .error e => if tree.isDirectory directory path then .ok tree else .error e

def createDirectories (tree : FileTree) (directory : Place) (path : Text) :
    Except FileError FileTree :=
  createFrom directory (path.length + 1) tree path

end FileTree

end Snippet
