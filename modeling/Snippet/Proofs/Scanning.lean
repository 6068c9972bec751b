import Mathlib.Data.List.Infix
import Snippet.Text.Reader

/-! Searching a text for a marker, and passing text in which nothing is found.

A search stops at the earliest place it can, and text without the marker may be put
in front of it. The one thing to mind is a marker that would begin in that text and
end behind it.
-/

set_option autoImplicit false

namespace Snippet

variable {α : Type} {s rest : Text}

namespace Text

/-! ## The earliest place -/

theorem cutAt?_eq_some {skip : Text → Option Text} {before : Text} :
    cutAt? skip s = some (before, rest) ↔ ∃ t, s = before ++ t ∧ skip t = some rest ∧
      ∀ front back, before = front ++ back → back ≠ [] → skip (back ++ t) = none := by
  constructor
  · intro found
    obtain ⟨t, rfl, reached⟩ := eq_append_of_cutAt? found
    refine ⟨t, rfl, reached, ?_⟩
    -- The search comes to every place in front of the one it stops at.
    rintro front back rfl some_back
    induction front with
    | nil =>
      cases back with
      | nil => exact absurd rfl some_back
      | cons c back =>
        rw [List.nil_append, List.cons_append, cutAt?] at found
        split at found
        · cases found
        · next unreached => exact unreached
    | cons c front ih =>
      rw [List.cons_append, List.cons_append, cutAt?] at found
      split at found
      · cases found
      · simp only [Option.map_eq_some_iff, Prod.mk.injEq, Prod.exists] at found
        obtain ⟨_, _, inner, same, rfl⟩ := found
        exact ih ((List.cons.inj same).2 ▸ inner)
  · rintro ⟨t, rfl, reached, earliest⟩
    induction before with
    | nil => cases t <;> simp_all [cutAt?]
    | cons c before ih =>
      rw [List.cons_append, cutAt?, ← List.cons_append,
        earliest [] (c :: before) rfl (by simp)]
      simp only [Option.map_eq_some_iff, Prod.mk.injEq, Prod.exists]
      refine ⟨before, rest, ih fun front back same => ?_, rfl, rfl⟩
      exact earliest (c :: front) back (by simp [same])

theorem cutAt?_isSome {skip : Text → Option Text} {t : Text} (tail : t <:+ s)
    (reached : (skip t).isSome) : (cutAt? skip s).isSome := by
  induction s with
  | nil =>
    obtain rfl := List.suffix_nil.mp tail
    obtain ⟨rest, found⟩ := Option.isSome_iff_exists.mp reached
    simp [cutAt?, found]
  | cons c r ih =>
    rw [cutAt?]
    split
    · rfl
    · next unreached =>
      rcases List.suffix_cons_iff.mp tail with rfl | tail
      · simp [unreached] at reached
      · simp [ih tail]

theorem cut?_isSome_iff (marker s : Text) : (cut? marker s).isSome ↔ marker <:+: s := by
  induction s with
  | nil =>
    cases marker <;> simp [cut?, cutAt?, after?]
  | cons c r ih =>
    rw [List.infix_cons_iff, ← ih, cut?, cutAt?]
    cases found : after? marker (c :: r) with
    | some rest => simp [after?_eq_some.mp found]
    | none =>
      have apart : ¬ marker <+: c :: r := by
        rintro ⟨rest, same⟩
        rw [after?_eq_some.mpr same.symm] at found
        simp at found
      simp [apart]

theorem cut?_eq_none_iff {marker : Text} : cut? marker s = none ↔ ¬ marker <:+: s := by
  rw [← cut?_isSome_iff, Option.not_isSome_iff_eq_none]

theorem cut?_eq_some_iff {marker before : Text} : cut? marker s = some (before, rest) ↔
    s = before ++ (marker ++ rest) ∧
      ∀ front back, s = front ++ (marker ++ back) → before.length ≤ front.length := by
  rw [cut?, cutAt?_eq_some]
  constructor
  · rintro ⟨t, rfl, reached, earliest⟩
    obtain rfl := after?_eq_some.mp reached
    refine ⟨rfl, fun front back same => ?_⟩
    by_contra shorter
    -- The marker would begin inside the part in front of the place.
    have inside : front <+: before :=
      List.prefix_of_prefix_length_le ⟨_, same.symm⟩ (List.prefix_append _ _) (by omega)
    obtain ⟨part, rfl⟩ := inside
    rw [List.append_assoc] at same
    have missed := earliest front part rfl (by rintro rfl; simp at shorter)
    rw [after?_eq_some.mpr (List.append_cancel_left same)] at missed
    cases missed
  · rintro ⟨rfl, first⟩
    refine ⟨marker ++ rest, rfl, after?_eq_some.mpr rfl, ?_⟩
    rintro front back rfl some_back
    by_contra found
    obtain ⟨behind, found⟩ := Option.ne_none_iff_exists'.mp found
    have shorter := first front behind (by rw [List.append_assoc, after?_eq_some.mp found])
    rw [List.length_append] at shorter
    have positive := List.length_pos_iff.mpr some_back
    omega

/-! ## Text in front of a search -/

/-- The text goes on with the rest of a marker that begins in front of it. -/
def Completes (marker s : Text) : Prop :=
  ∃ front back, marker = front ++ back ∧ front ≠ [] ∧ back ≠ [] ∧ back <+: s

variable {marker : Text}

theorem not_completes_of_head (other : ∀ c ∈ s.head?, c ∉ marker.tail) : ¬ Completes marker s := by
  rintro ⟨front, back, rfl, some_front, some_back, behind, rfl⟩
  obtain ⟨c, front, rfl⟩ := List.exists_cons_of_ne_nil some_front
  obtain ⟨d, back, rfl⟩ := List.exists_cons_of_ne_nil some_back
  exact other d rfl (by simp)

/-- A marker completes none in front of it unless it ends as it begins. -/
theorem not_completes_marker
    (borderless : ∀ back ∈ marker.tail.tails, back ≠ [] → ¬ back <+: marker) (s : Text) :
    ¬ Completes marker (marker ++ s) := by
  rintro ⟨front, back, whole, some_front, some_back, first⟩
  have shorter : back.length ≤ marker.length := by simp [whole]
  have start : back <+: marker := List.prefix_of_prefix_length_le first (List.prefix_append _ _) shorter
  refine borderless back ?_ some_back start
  obtain ⟨c, front, rfl⟩ := List.exists_cons_of_ne_nil some_front
  rw [List.mem_tails, whole]
  exact List.suffix_append front back

theorem after?_append_eq_none {t part : Text} (absent : ¬ marker <:+: t)
    (apart : ¬ Completes marker s) (tail : part <:+ t) (some_part : part ≠ []) :
    after? marker (part ++ s) = none := by
  by_contra found
  obtain ⟨rest, found⟩ := Option.ne_none_iff_exists'.mp found
  rcases List.append_eq_append_iff.mp (after?_eq_some.mp found) with
    ⟨back, same, rfl⟩ | ⟨back, rfl, -⟩
  · -- The marker begins in the part: it ends there as well, or behind it.
    by_cases whole : back = []
    · subst whole
      rw [List.append_nil] at same
      exact absent (same ▸ tail.isInfix)
    · exact apart ⟨part, back, same, some_part, whole, List.prefix_append back rest⟩
  · exact absent ((List.prefix_append marker back).isInfix.trans tail.isInfix)

theorem cut?_append {t : Text} (absent : ¬ marker <:+: t) (apart : ¬ Completes marker s) :
    cut? marker (t ++ s) = (cut? marker s).map fun (before, rest) => (t ++ before, rest) := by
  induction t with
  | nil => simp
  | cons c t ih =>
    have passed := after?_append_eq_none absent apart List.suffix_rfl (by simp)
    rw [List.cons_append] at passed
    rw [List.cons_append, cut?, cutAt?, passed]
    rw [cut?] at ih
    rw [ih fun inside => absent (inside.trans (List.suffix_cons c t).isInfix)]
    simp [Option.map_map, Function.comp_def]

theorem cut?_append_of_found {before : Text} (found : cut? marker s = some (before, rest))
    (behind : Text) : cut? marker (s ++ behind) = some (before, rest ++ behind) := by
  obtain ⟨t, rfl, reached, earliest⟩ := cutAt?_eq_some.mp found
  obtain rfl := after?_eq_some.mp reached
  refine cutAt?_eq_some.mpr ⟨marker ++ (rest ++ behind), by simp, after?_eq_some.mpr rfl, ?_⟩
  intro front back same some_back
  by_contra sooner
  obtain ⟨left, sooner⟩ := Option.ne_none_iff_exists'.mp sooner
  have start : marker <+: back ++ (marker ++ (rest ++ behind)) :=
    ⟨left, (after?_eq_some.mp sooner).symm⟩
  have front_part : back ++ (marker ++ rest) <+: back ++ (marker ++ (rest ++ behind)) :=
    ⟨behind, by simp⟩
  obtain ⟨left, same_start⟩ := List.prefix_of_prefix_length_le start front_part (by simp; omega)
  have missed := earliest front back same some_back
  rw [after?_eq_some.mpr same_start.symm] at missed
  cases missed

theorem cut?_front (marker s : Text) : cut? marker (marker ++ s) = some ([], s) := by
  refine cutAt?_eq_some.mpr ⟨marker ++ s, rfl, after?_eq_some.mpr rfl, fun front back same => ?_⟩
  simp [(List.append_eq_nil_iff.mp same.symm).2]

theorem cut?_at_marker {t : Text} (absent : ¬ marker <:+: t)
    (apart : ¬ Completes marker (marker ++ s)) : cut? marker (t ++ (marker ++ s)) = some (t, s) := by
  rw [cut?_append absent apart, cut?_front]
  simp

end Text

namespace Reader

/-! ## Stretches without parts -/

/-- Nothing is accepted that begins in the front of a text, `behind` standing behind it. -/
def Passes (reader : Reader α) (behind : Text) : Text → Prop
  | [] => True
  | c :: front => reader.read (c :: (front ++ behind)) = none ∧ reader.Passes behind front

variable {reader : Reader α} {front back behind : Text}

theorem passes_of_unread
    (unread : ∀ part, part <:+ front → part ≠ [] → reader.read (part ++ behind) = none) :
    reader.Passes behind front := by
  induction front with
  | nil => trivial
  | cons c front ih =>
    refine ⟨unread _ List.suffix_rfl (by simp), ih fun part tail => ?_⟩
    exact unread part (tail.trans (List.suffix_cons c front))

theorem Passes.append (passes : reader.Passes (back ++ behind) front)
    (further : reader.Passes behind back) : reader.Passes behind (front ++ back) := by
  induction front with
  | nil => exact further
  | cons c front ih =>
    refine ⟨?_, ih passes.2⟩
    have first := passes.1
    rwa [← List.append_assoc] at first

theorem Passes.of_append (passes : reader.Passes behind (front ++ back)) :
    reader.Passes behind back := by
  induction front with
  | nil => exact passes
  | cons c front ih => exact ih passes.2

theorem segments_passes (passes : reader.Passes behind front) :
    reader.segments (front ++ behind) = front.map .plain ++ reader.segments behind := by
  induction front with
  | nil => rfl
  | cons c front ih =>
    rw [List.cons_append, reader.segments_none passes.1, ih passes.2]
    rfl

theorem replace_passes (write : α → Text) (passes : reader.Passes behind front) :
    reader.replace write (front ++ behind) = front ++ reader.replace write behind := by
  induction front with
  | nil => rfl
  | cons c front ih => rw [List.cons_append, reader.replace_none write passes.1, ih passes.2]; rfl

theorem replace_eq_self (write : α → Text) (passes : reader.Passes [] front) :
    reader.replace write front = front := by
  simpa using replace_passes write passes

theorem findAll_passes (passes : reader.Passes behind front) :
    reader.findAll (front ++ behind) = reader.findAll behind := by
  induction front with
  | nil => rfl
  | cons c front ih => rw [List.cons_append, reader.findAll_none passes.1, ih passes.2]

end Reader

end Snippet
