/-! Text as the list of its characters.

The library works on text by looking at its front, so a list is the
form in which its functions are defined. `String` appears only where text enters
or leaves a program. -/

set_option autoImplicit false

namespace Snippet

abbrev Text := List Char

namespace Text

/-- What follows `marker`, if the text begins with it. -/
def after? : (marker text : Text) → Option Text
  | [], s => some s
  | _ :: _, [] => none
  | m :: ms, c :: s => if m = c then after? ms s else none

theorem after?_eq_some {marker s rest : Text} :
    after? marker s = some rest ↔ s = marker ++ rest := by
  induction marker generalizing s with
  | nil => simp [after?]
  | cons m ms ih =>
    cases s with
    | nil => simp [after?]
    | cons c s =>
      by_cases same : m = c
      · simp [after?, same, ih]
      · simp [after?, same, Ne.symm same]

/-- The parts around the earliest place where `skip` leads past something: what
stands before that place, and where `skip` leads. -/
def cutAt? (skip : Text → Option Text) (s : Text) : Option (Text × Text) :=
  match skip s with
  | some rest => some ([], rest)
  | none =>
    match s with
    | [] => none
    | c :: r => (cutAt? skip r).map fun (before, rest) => (c :: before, rest)

theorem eq_append_of_cutAt? {skip : Text → Option Text} {s before rest : Text}
    (h : cutAt? skip s = some (before, rest)) : ∃ t, s = before ++ t ∧ skip t = some rest := by
  induction s generalizing before with
  | nil =>
    rw [cutAt?] at h
    split at h
    · next found => simp_all
    · simp at h
  | cons c r ih =>
    rw [cutAt?] at h
    split at h
    · next found => simp_all
    · simp only [Option.map_eq_some_iff, Prod.mk.injEq, Prod.exists] at h
      obtain ⟨inner, tail, found, rfl, rfl⟩ := h
      obtain ⟨t, rfl, reached⟩ := ih found
      exact ⟨t, rfl, reached⟩

/-- The parts before and after the first occurrence of `marker`. -/
def cut? (marker : Text) : Text → Option (Text × Text) := cutAt? (after? marker)

theorem eq_append_of_cut? {marker s before rest : Text} (h : cut? marker s = some (before, rest)) :
    s = before ++ marker ++ rest := by
  obtain ⟨t, rfl, found⟩ := eq_append_of_cutAt? h
  rw [after?_eq_some] at found
  simp [found]

def anyEnd (test : Text → Bool) : Text → Bool
  | [] => test []
  | c :: r => test (c :: r) || anyEnd test r

/-- The parts between the occurrences of `separator`; one more than there are of it. -/
def splitOn (separator : Char) : Text → List Text
  | [] => [[]]
  | c :: r =>
    if c = separator then [] :: splitOn separator r
    else
      match splitOn separator r with
      | [] => [[c]]
      | first :: others => (c :: first) :: others

theorem splitOn_ne_nil (separator : Char) (s : Text) : splitOn separator s ≠ [] := by
  induction s with
  | nil => simp [splitOn]
  | cons c r ih =>
    rw [splitOn]
    split
    · simp
    · split <;> simp

theorem not_mem_of_mem_splitOn {separator : Char} {s part : Text}
    (h : part ∈ splitOn separator s) : separator ∉ part := by
  induction s generalizing part with
  | nil => simp_all [splitOn]
  | cons c r ih =>
    rw [splitOn] at h
    split at h
    · rcases List.mem_cons.mp h with rfl | later
      · simp
      · exact ih later
    · next other =>
      split at h
      · simp_all [Ne.symm other]
      · next first others parts =>
        rcases List.mem_cons.mp h with rfl | later
        · have : separator ∉ first := ih (by simp [parts])
          simp [this, Ne.symm other]
        · exact ih (by simp [parts, later])

def join (separator : Text) : List Text → Text
  | [] => []
  | [part] => part
  | part :: others => part ++ separator ++ join separator others

theorem join_splitOn (separator : Char) (s : Text) :
    join [separator] (splitOn separator s) = s := by
  induction s with
  | nil => rfl
  | cons c r ih =>
    rw [splitOn]
    split
    · next same =>
      subst same
      cases parts : splitOn c r with
      | nil => exact absurd parts (splitOn_ne_nil c r)
      | cons first others => simpa [join, parts] using ih
    · split
      · next parts => exact absurd parts (splitOn_ne_nil separator r)
      · next first others parts =>
        rw [parts] at ih
        cases others with
        | nil => simp_all [join]
        | cons second rest => simp_all [join]

def cutLast? (separator : Char) (s : Text) : Option (Text × Text) :=
  if s.contains separator then
    let tail := (s.reverse.takeWhile (· != separator)).reverse
    some (s.take (s.length - tail.length - 1), tail)
  else none

def lower (s : Text) : Text := s.map Char.toLower

def upper (s : Text) : Text := s.map Char.toUpper

def sameLetters (s t : Text) : Bool := lower s == lower t

def ofNat (n : Nat) : Text := Nat.toDigits 10 n

def ofNatPadded (width n : Nat) : Text :=
  let digits := ofNat n
  List.replicate (width - digits.length) '0' ++ digits

end Text

end Snippet
