import Snippet.Text.Basic

/-! Scanning a text from left to right for the parts that a reader accepts.

A reader looks at the front of a text. A scan tries it at every place in turn,
goes on behind what it accepted, and keeps every other character. -/

set_option autoImplicit false

namespace Snippet

variable {α σ : Type}

/-- Accepts a part at the front of a text and gives its meaning and the text
behind it. What it accepts is never empty. -/
structure Reader (α : Type) where
  read : Text → Option (α × Text)
  shorter : ∀ {s : Text} {a : α} {rest : Text}, read s = some (a, rest) → rest.length < s.length

inductive Segment (α : Type) where
  | plain : Char → Segment α
  | found : α → Segment α
  deriving DecidableEq, Repr

namespace Reader

def segments (reader : Reader α) : Text → List (Segment α)
  | [] => []
  | c :: r =>
    match _h : reader.read (c :: r) with
    | some (a, rest) => .found a :: reader.segments rest
    | none => .plain c :: reader.segments r
  termination_by s => s.length
  decreasing_by
    · exact reader.shorter _h
    · simp

@[simp] theorem segments_nil (reader : Reader α) : reader.segments [] = [] := by
  rw [segments]

theorem segments_some (reader : Reader α) {s rest : Text} {a : α}
    (h : reader.read s = some (a, rest)) :
    reader.segments s = .found a :: reader.segments rest := by
  cases s with
  | nil => exact absurd (reader.shorter h) (by simp)
  | cons c r =>
    rw [segments]
    split
    · simp_all
    · simp_all

theorem segments_none (reader : Reader α) {c : Char} {r : Text}
    (h : reader.read (c :: r) = none) :
    reader.segments (c :: r) = .plain c :: reader.segments r := by
  rw [segments]
  split
  · simp_all
  · rfl

end Reader

def Segment.render (write : α → Text) : Segment α → Text
  | .plain c => [c]
  | .found a => write a

namespace Reader

def replace (reader : Reader α) (write : α → Text) (s : Text) : Text :=
  (reader.segments s).flatMap (Segment.render write)

def erase (reader : Reader α) : Text → Text := reader.replace fun _ => []

def findAll (reader : Reader α) (s : Text) : List α :=
  (reader.segments s).filterMap fun
    | .plain _ => none
    | .found a => some a

@[simp] theorem replace_nil (reader : Reader α) (write : α → Text) :
    reader.replace write [] = [] := by
  simp [replace]

theorem replace_some (reader : Reader α) (write : α → Text) {s rest : Text} {a : α}
    (h : reader.read s = some (a, rest)) :
    reader.replace write s = write a ++ reader.replace write rest := by
  simp [replace, reader.segments_some h, Segment.render]

theorem replace_none (reader : Reader α) (write : α → Text) {c : Char} {r : Text}
    (h : reader.read (c :: r) = none) :
    reader.replace write (c :: r) = c :: reader.replace write r := by
  simp [replace, reader.segments_none h, Segment.render]

@[simp] theorem findAll_nil (reader : Reader α) : reader.findAll [] = [] := by
  simp [findAll]

theorem findAll_some (reader : Reader α) {s rest : Text} {a : α}
    (h : reader.read s = some (a, rest)) : reader.findAll s = a :: reader.findAll rest := by
  simp [findAll, reader.segments_some h]

theorem findAll_none (reader : Reader α) {c : Char} {r : Text}
    (h : reader.read (c :: r) = none) : reader.findAll (c :: r) = reader.findAll r := by
  simp [findAll, reader.segments_none h]

@[simp] theorem erase_nil (reader : Reader α) : reader.erase [] = [] := replace_nil _ _

theorem erase_some (reader : Reader α) {s rest : Text} {a : α}
    (h : reader.read s = some (a, rest)) : reader.erase s = reader.erase rest :=
  reader.replace_some _ h

theorem erase_none (reader : Reader α) {c : Char} {r : Text} (h : reader.read (c :: r) = none) :
    reader.erase (c :: r) = c :: reader.erase r :=
  reader.replace_none _ h

end Reader

/-- Write pieces one after the other while a state passes through the found ones. -/
def Segment.renderWith (write : σ → α → Text × σ) : σ → List (Segment α) → Text
  | _, [] => []
  | state, .plain c :: rest => c :: renderWith write state rest
  | state, .found a :: rest =>
    let (text, next) := write state a
    text ++ renderWith write next rest

def Reader.literal (first : Char) (others : Text) : Reader Unit where
  read s := (Text.after? (first :: others) s).map fun rest => ((), rest)
  shorter := by
    intro s a rest h
    simp only [Option.map_eq_some_iff] at h
    obtain ⟨t, found, same⟩ := h
    cases same
    rw [Text.after?_eq_some] at found
    subst found
    simp only [List.cons_append, List.length_cons, List.length_append]
    omega

/-- Every occurrence of one text in another replaced. An empty text occurs nowhere. -/
def Text.replaceAll (old new : Text) (s : Text) : Text :=
  match old with
  | [] => s
  | first :: others => (Reader.literal first others).replace (fun _ => new) s

end Snippet
