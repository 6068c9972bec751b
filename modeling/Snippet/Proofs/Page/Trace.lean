import Snippet.Proofs.Rewriting
import Snippet.Proofs.Scanning

/-! Scanning a text whose characters carry labels.

A label says where a character comes from. The scan is the one of the plain text;
the labels only tell afterwards which characters were kept and which lay in an
accepted part.
-/

set_option autoImplicit false

namespace Snippet

variable {α L : Type}

abbrev Labelled (L : Type) := List (Char × L)

namespace Labelled

def text (t : Labelled L) : Text := t.map Prod.fst

variable {t u : Labelled L} {x : Char × L}

@[simp] theorem text_nil : text ([] : Labelled L) = [] := rfl

@[simp] theorem text_cons : text (x :: t) = x.1 :: text t := rfl

@[simp] theorem text_append : text (t ++ u) = text t ++ text u := List.map_append

@[simp] theorem length_text : (text t).length = t.length := List.length_map ..

end Labelled

open Labelled (text)

/-- A piece of a scanned labelled text: a character that was kept, or what was accepted
with the characters that it was read from. -/
inductive Stretch (α L : Type) where
  | kept : Char × L → Stretch α L
  | part : α → Labelled L → Stretch α L

namespace Reader

variable {reader : Reader α} {t rest part : Labelled L} {x : Char × L} {a : α}

def stretches (reader : Reader α) : Labelled L → List (Stretch α L)
  | [] => []
  | x :: t =>
    match _h : reader.read (text (x :: t)) with
    | some (a, rest) =>
      let size := t.length + 1 - rest.length
      .part a ((x :: t).take size) :: reader.stretches ((x :: t).drop size)
    | none => .kept x :: reader.stretches t
  termination_by t => t.length
  decreasing_by
    · have := reader.shorter _h
      simp only [Labelled.length_text, List.length_cons, List.length_drop] at this ⊢
      omega
    · simp

@[simp] theorem stretches_nil : reader.stretches ([] : Labelled L) = [] := by
  rw [stretches]

theorem stretches_none (kept : reader.read (x.1 :: text t) = none) :
    reader.stretches (x :: t) = .kept x :: reader.stretches t := by
  rw [stretches]
  split
  · simp_all
  · rfl

theorem stretches_some (found : reader.read (text part ++ text rest) = some (a, text rest)) :
    reader.stretches (part ++ rest) = .part a part :: reader.stretches rest := by
  rw [← Labelled.text_append] at found
  cases whole : part ++ rest with
  | nil =>
    rw [whole] at found
    exact absurd (reader.shorter found) (by simp)
  | cons x t =>
    rw [whole] at found
    have size : t.length + 1 - (text rest).length = part.length := by
      have lengths := congrArg List.length whole
      simp only [List.length_append, List.length_cons] at lengths
      simp only [Labelled.length_text]
      omega
    rw [stretches]
    split
    · next a' rest' found' =>
      obtain ⟨rfl, rfl⟩ := Prod.mk.inj (Option.some.inj (found.symm.trans found'))
      simp only [size, ← whole, List.take_left, List.drop_left]
    · simp_all

theorem split_of_read (faithful : reader.Faithful) {behind : Text}
    (found : reader.read (text t) = some (a, behind)) :
    ∃ part rest, t = part ++ rest ∧ part ≠ [] ∧ text rest = behind := by
  obtain ⟨front, whole⟩ := faithful found
  obtain ⟨part, rest, rfl, -, rfl⟩ := List.map_eq_append_iff.mp whole.symm
  refine ⟨part, rest, rfl, ?_, rfl⟩
  rintro rfl
  exact absurd (reader.shorter found) (Nat.lt_irrefl _)

/-- A labelled scan step by step. -/
@[elab_as_elim]
theorem trace_induction (reader : Reader α) (faithful : reader.Faithful)
    {motive : Labelled L → Prop} (t : Labelled L) (done : motive [])
    (keep : ∀ x t, reader.read (x.1 :: text t) = none → motive t → motive (x :: t))
    (take : ∀ a part rest, reader.read (text part ++ text rest) = some (a, text rest) →
      motive rest → motive (part ++ rest)) :
    motive t := by
  obtain ⟨n, size⟩ : ∃ n, t.length ≤ n := ⟨t.length, Nat.le_refl _⟩
  induction n generalizing t with
  | zero => rwa [List.length_eq_zero_iff.mp (Nat.le_zero.mp size)]
  | succ n ih =>
    cases t with
    | nil => exact done
    | cons x t =>
      cases found : reader.read (text (x :: t)) with
      | none => exact keep x t found (ih t (Nat.le_of_succ_le_succ size))
      | some accepted =>
        obtain ⟨a, behind⟩ := accepted
        obtain ⟨part, rest, whole, -, rfl⟩ := split_of_read faithful found
        have shrinks := reader.shorter found
        simp only [List.length_cons, Labelled.length_text] at shrinks size
        rw [whole] at found ⊢
        rw [Labelled.text_append] at found
        exact take a part rest found (ih rest (by omega))

/-! ## Parts and rewritten text -/

def parts (reader : Reader α) (t : Labelled L) : List (Labelled L) :=
  (reader.stretches t).filterMap fun
    | .kept _ => none
    | .part _ characters => some characters

def rewrite (reader : Reader α) (write : Labelled L → Labelled L) (t : Labelled L) : Labelled L :=
  (reader.stretches t).flatMap fun
    | .kept x => [x]
    | .part _ characters => write characters

def outside (reader : Reader α) : Labelled L → Labelled L := reader.rewrite fun _ => []

section
variable (write : Labelled L → Labelled L)

@[simp] theorem parts_nil : reader.parts ([] : Labelled L) = [] := by
  simp [parts]

theorem parts_none (kept : reader.read (x.1 :: text t) = none) :
    reader.parts (x :: t) = reader.parts t := by
  simp [parts, stretches_none kept]

theorem parts_some (found : reader.read (text part ++ text rest) = some (a, text rest)) :
    reader.parts (part ++ rest) = part :: reader.parts rest := by
  simp [parts, stretches_some found]

@[simp] theorem rewrite_nil : reader.rewrite write ([] : Labelled L) = [] := by
  simp [rewrite]

theorem rewrite_none (kept : reader.read (x.1 :: text t) = none) :
    reader.rewrite write (x :: t) = x :: reader.rewrite write t := by
  simp [rewrite, stretches_none kept]

theorem rewrite_some (found : reader.read (text part ++ text rest) = some (a, text rest)) :
    reader.rewrite write (part ++ rest) = write part ++ reader.rewrite write rest := by
  simp [rewrite, stretches_some found]

end

theorem text_rewrite (faithful : reader.Faithful) {write : Labelled L → Labelled L}
    {plainly : α → Text} (t : Labelled L)
    (same : ∀ a (part rest : Labelled L),
      reader.read (text part ++ text rest) = some (a, text rest) → text (write part) = plainly a) :
    text (reader.rewrite write t) = reader.replace plainly (text t) := by
  induction t using reader.trace_induction faithful with
  | done => simp
  | keep x t kept ih =>
    rw [rewrite_none write kept, Labelled.text_cons, Labelled.text_cons,
      reader.replace_none plainly kept, ih]
  | take a part rest found ih =>
    rw [rewrite_some write found, Labelled.text_append, Labelled.text_append,
      reader.replace_some plainly found, ih, same a part rest found]

/-- Nothing of the text is lost or doubled by the scan. -/
theorem perm_outside_parts (faithful : reader.Faithful) (t : Labelled L) :
    (reader.outside t ++ (reader.parts t).flatten).Perm t := by
  induction t using reader.trace_induction faithful with
  | done => simp [outside]
  | keep x t kept ih =>
    rw [outside, rewrite_none _ kept, parts_none kept]
    exact ih.cons x
  | take a part rest found ih =>
    rw [outside, rewrite_some _ found, parts_some found, List.flatten_cons, List.nil_append]
    refine List.Perm.trans ?_ (ih.append_left part)
    exact List.perm_append_comm_assoc _ part _

section
variable [DecidableEq L]

theorem count_outside (faithful : reader.Faithful) (t : Labelled L) (x : Char × L) :
    (reader.outside t).count x + (reader.parts t).flatten.count x = t.count x := by
  rw [← List.count_append]
  exact (perm_outside_parts faithful t).count_eq x

theorem count_rewrite (faithful : reader.Faithful) (new t : Labelled L) (x : Char × L) :
    (reader.rewrite (fun _ => new) t).count x =
      (reader.outside t).count x + (reader.parts t).length * new.count x := by
  induction t using reader.trace_induction faithful with
  | done => simp [outside]
  | keep y t kept ih =>
    simp only [outside, rewrite_none _ kept, parts_none kept, List.count_cons] at ih ⊢
    omega
  | take a part rest found ih =>
    simp only [outside, rewrite_some _ found, parts_some found, List.count_append,
      List.count_nil, List.length_cons, Nat.add_mul] at ih ⊢
    omega

end

/-! ## Stretches without parts -/

theorem stretches_passes (passes : reader.Passes (text t) (text part)) :
    reader.stretches (part ++ t) = part.map .kept ++ reader.stretches t := by
  induction part with
  | nil => rfl
  | cons x part ih =>
    have kept : reader.read (x.1 :: text (part ++ t)) = none := by
      rw [Labelled.text_append]
      exact passes.1
    rw [List.cons_append, stretches_none kept, ih passes.2]
    rfl

theorem parts_passes (passes : reader.Passes (text t) (text part)) :
    reader.parts (part ++ t) = reader.parts t := by
  simp [parts, stretches_passes passes]

theorem rewrite_passes (write : Labelled L → Labelled L)
    (passes : reader.Passes (text t) (text part)) :
    reader.rewrite write (part ++ t) = part ++ reader.rewrite write t := by
  simp [rewrite, stretches_passes passes, List.flatMap_map]

theorem passes_of_not_mem (faithful : reader.Faithful)
    (apart : ∀ x ∈ part, x ∉ (reader.parts (part ++ t)).flatten) :
    reader.Passes (text t) (text part) := by
  induction part with
  | nil => trivial
  | cons x part ih =>
    have kept : reader.read (text (x :: (part ++ t))) = none := by
      by_contra found
      obtain ⟨⟨a, behind⟩, found⟩ := Option.ne_none_iff_exists'.mp found
      obtain ⟨taken, rest, whole, some_taken, rfl⟩ := split_of_read faithful found
      rw [whole, Labelled.text_append] at found
      -- What is accepted here begins with the character in question.
      obtain ⟨y, taken, rfl⟩ := List.exists_cons_of_ne_nil some_taken
      obtain ⟨rfl, -⟩ := List.cons.inj whole
      refine apart x (by simp) ?_
      rw [List.cons_append, whole, parts_some found]
      simp
    refine ⟨?_, ih fun y member => ?_⟩
    · rwa [Labelled.text_cons, Labelled.text_append] at kept
    have outside := apart y (by simp [member])
    rwa [List.cons_append, parts_none kept] at outside

end Reader

end Snippet
