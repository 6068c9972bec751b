import Snippet.Proofs.Comment

/-! Script comments in one scan.

Line comments are removed from the whole text before block comments are looked for,
so two slashes hide the rest of their line wherever they stand, also inside a block
comment. One scan for both kinds does the same if it looks for the end of a block
comment only where no slashes hide it. A scan in which the first closer ends a block
comment, wherever it stands, finds the same unless slashes stand on the line on which
a block comment ends.
-/

set_option autoImplicit false

namespace Snippet.Comment

variable {s r rest : Text} {c : Char}

/-! ## One scan for both kinds of comment -/

inductive Found where
  | line
  | block (inside behind : Text)
  deriving DecidableEq, Repr

structure Closing where
  cut? : Text → Option (Text × Text)
  not_longer : ∀ {s inside behind : Text}, cut? s = some (inside, behind) →
    behind.length ≤ s.length

/-- A comment of either kind, whichever opens first. -/
def either (closing : Closing) : Reader Found where
  read
    | '/' :: '/' :: r => some (.line, r.dropWhile (!isLineEnd ·))
    | '/' :: '*' :: r => (closing.cut? r).map fun (inside, behind) => (.block inside behind, behind)
    | _ => none
  shorter := by
    intro s a rest h
    split at h
    · next r =>
      cases h
      have := (List.dropWhile_sublist (!isLineEnd ·) (l := r)).length_le
      simp only [List.length_cons]
      omega
    · next r =>
      simp only [Option.map_eq_some_iff, Prod.mk.injEq, Prod.exists] at h
      obtain ⟨inside, behind, found, -, rfl⟩ := h
      have := closing.not_longer found
      simp only [List.length_cons]
      omega
    · simp at h

variable {closing : Closing} {found : Found}

theorem either_read_eq_some : (either closing).read s = some (found, rest) ↔
    (found = .line ∧ ∃ r, s = '/' :: '/' :: r ∧ r.dropWhile (!isLineEnd ·) = rest) ∨
    ∃ inside q, found = .block inside rest ∧ s = '/' :: '*' :: q ∧
      closing.cut? q = some (inside, rest) := by
  simp only [either]
  split
  · simp [eq_comm]
  · next r =>
    simp only [Option.map_eq_some_iff, Prod.mk.injEq, Prod.exists]
    constructor
    · rintro ⟨inside, behind, cut, rfl, rfl⟩
      exact .inr ⟨inside, r, rfl, rfl, cut⟩
    · rintro (⟨-, _, same, -⟩ | ⟨inside, q, rfl, same, cut⟩)
      · simp at same
      · obtain rfl := (List.cons.inj (List.cons.inj same).2).2
        exact ⟨inside, rest, cut, rfl, rfl⟩
  · next noLine noBlock =>
    simp only [reduceCtorEq, false_iff, not_or, not_and, not_exists]
    exact ⟨fun _ r same => absurd same (noLine r), fun _ q _ same => absurd same (noBlock q)⟩

def firstCloser : Closing where
  cut? := Text.cut? "*/".toList
  not_longer found := by
    rw [Text.eq_append_of_cut? found, List.length_append]
    exact Nat.le_add_left _ _

/-- What follows a closer at the front, unless its slash is the first of two. -/
def closerAt? : Text → Option Text
  | '*' :: '/' :: r => if r.head? = some '/' then none else some r
  | _ => none

def startsLine : Text → Bool
  | '/' :: '/' :: _ => true
  | _ => false

/-- The parts around the first closer that no two slashes on its line hide; `hidden`
tells whether they do so at the front of the text. -/
def cutExposed? : (hidden : Bool) → Text → Option (Text × Text)
  | _, [] => none
  | true, c :: r =>
    (cutExposed? (!isLineEnd c) r).map fun (inside, behind) => (c :: inside, behind)
  | false, c :: r =>
    match closerAt? (c :: r) with
    | some behind => some ([], behind)
    | none =>
      (cutExposed? (startsLine (c :: r)) r).map fun (inside, behind) => (c :: inside, behind)

theorem closerAt?_eq_some : closerAt? s = some rest ↔
    s = '*' :: '/' :: rest ∧ rest.head? ≠ some '/' := by
  constructor
  · intro found
    unfold closerAt? at found
    split at found
    · split at found
      · cases found
      · next other =>
        cases found
        exact ⟨rfl, other⟩
    · cases found
  · rintro ⟨rfl, other⟩
    exact if_neg other

theorem eq_append_of_cutExposed? {hidden : Bool} {inside : Text}
    (found : cutExposed? hidden s = some (inside, rest)) : s = inside ++ "*/".toList ++ rest := by
  induction s generalizing hidden inside with
  | nil => simp [cutExposed?] at found
  | cons c r ih =>
    cases hidden with
    | true =>
      simp only [cutExposed?, Option.map_eq_some_iff, Prod.mk.injEq, Prod.exists] at found
      obtain ⟨_, _, further, rfl, rfl⟩ := found
      rw [ih further]
      rfl
    | false =>
      rw [cutExposed?] at found
      split at found
      · next here =>
        cases found
        rw [(closerAt?_eq_some.mp here).1]
        rfl
      · simp only [Option.map_eq_some_iff, Prod.mk.injEq, Prod.exists] at found
        obtain ⟨_, _, further, rfl, rfl⟩ := found
        rw [ih further]
        rfl

/-- A closer behind two slashes on its line ends nothing. -/
def exposedCloser : Closing where
  cut? := cutExposed? false
  not_longer found := by
    rw [eq_append_of_cutExposed? found, List.length_append]
    exact Nat.le_add_left _ _

/-! ## Behind the removal of line comments -/

theorem line_read_eq_none : line.read s = none ↔ startsLine s = false := by
  unfold startsLine
  cases found : line.read s with
  | some accepted =>
    obtain ⟨r, rfl, -⟩ := line_read_eq_some.mp found
    simp
  | none =>
    split
    · cases found
    · simp

theorem startsLine_iff : startsLine s ↔ ∃ r, s = '/' :: '/' :: r := by
  unfold startsLine
  split
  · simp
  · next other => simpa using other

theorem startsLine_slash : startsLine ('/' :: r) = false ↔ r.head? ≠ some '/' := by
  cases r with
  | nil => simp [startsLine]
  | cons d r =>
    by_cases slash : d = '/'
    · simp [startsLine, slash]
    · simp [startsLine, slash]

theorem eraseLine_cons (kept : startsLine (c :: r) = false) :
    line.erase (c :: r) = c :: line.erase r :=
  line.erase_none (line_read_eq_none.mpr kept)

theorem head?_eraseLine (first : '/' ∈ (line.erase s).head?) :
    '/' ∈ s.head? ∧ startsLine s = false := by
  have before {t : Text} (first : '/' ∈ (line.erase t).head?) : '/' ∈ t.head? := by
    refine Reader.head?_erase (fun s a rest found => ?_) first
    obtain ⟨r, rfl, -⟩ := line_read_eq_some.mp found
    rfl
  refine ⟨before first, ?_⟩
  rw [← line_read_eq_none, Option.eq_none_iff_forall_ne_some]
  rintro ⟨a, rest⟩ found
  obtain ⟨r, rfl, -, behind⟩ := line_read_eq_some.mp found
  -- A removed comment leaves the end of its line in front.
  rw [line.erase_some found] at first
  have stopped := List.head?_dropWhile_not (!isLineEnd ·) r
  rw [behind, Option.mem_def.mp (before first)] at stopped
  exact absurd stopped (by decide)

theorem cutExposed?_cons (open_ : closerAt? (c :: r) = none) :
    (cutExposed? false (c :: r)).map Prod.snd =
      (cutExposed? (startsLine (c :: r)) r).map Prod.snd := by
  rw [cutExposed?, open_, Option.map_map]
  rfl

theorem cutExposed?_hidden (s : Text) : (cutExposed? true s).map Prod.snd =
    (cutExposed? false (s.dropWhile (!isLineEnd ·))).map Prod.snd := by
  induction s with
  | nil => rfl
  | cons c r ih =>
    rw [cutExposed?, Option.map_map, List.dropWhile_cons]
    cases lineEnd : isLineEnd c with
    | false => simpa [Function.comp_def] using ih
    | true =>
      -- A line end begins neither a closer nor a comment.
      have star : c ≠ '*' := by
        rintro rfl
        exact absurd lineEnd (by decide)
      have slash : c ≠ '/' := by
        rintro rfl
        exact absurd lineEnd (by decide)
      have plain : startsLine (c :: r) = false := by simp [startsLine, slash]
      have open_ : closerAt? (c :: r) = none := by simp [closerAt?, star]
      rw [Bool.not_true, if_neg (by decide), cutExposed?_cons open_, plain]
      rfl

/-- Removing line comments leaves the closers that no slashes hide. -/
theorem cut?_eraseLine (s : Text) :
    (Text.cut? "*/".toList (line.erase s)).map Prod.snd =
      (cutExposed? false s).map fun (_, behind) => line.erase behind := by
  rw [← Function.comp_def line.erase Prod.snd, ← Option.map_map]
  induction s using line.scan_induction with
  | done =>
    rw [line.erase_nil]
    rfl
  | keep c r kept ih =>
    have plain := line_read_eq_none.mp kept
    rw [eraseLine_cons plain]
    cases here : closerAt? (c :: r) with
    | some behind =>
      obtain ⟨same, other⟩ := closerAt?_eq_some.mp here
      obtain ⟨rfl, rfl⟩ := List.cons.inj same
      have closed : Text.cut? "*/".toList ('*' :: '/' :: line.erase behind) =
          some ([], line.erase behind) := Text.cut?_front "*/".toList _
      rw [eraseLine_cons (startsLine_slash.mpr other), closed, cutExposed?, here]
      rfl
    | none =>
      rw [cutExposed?_cons here, plain, ← ih]
      -- A slash behind a star would have stood there before, and closed the comment.
      have other : Text.after? "*/".toList (c :: line.erase r) = none := by
        rw [Option.eq_none_iff_forall_ne_some]
        intro rest found
        have same : c :: line.erase r = '*' :: '/' :: rest := Text.after?_eq_some.mp found
        obtain ⟨rfl, behind⟩ := List.cons.inj same
        obtain ⟨first, plain⟩ := head?_eraseLine (s := r) (by rw [behind]; rfl)
        obtain ⟨q, rfl⟩ : ∃ q, r = '/' :: q := List.head?_eq_some_iff.mp first
        have closes := closerAt?_eq_some.mpr ⟨rfl, startsLine_slash.mp plain⟩
        cases here.symm.trans closes
      rw [Text.cut?, Text.cutAt?, other, Option.map_map]
      rfl
  | take s a rest taken ih =>
    obtain ⟨r, rfl, -, rfl⟩ := line_read_eq_some.mp taken
    rw [line.erase_some taken, ih, cutExposed?_cons rfl, startsLine, cutExposed?_hidden,
      List.dropWhile_cons_of_pos (by decide)]

theorem either_read_eq_none : (either closing).read s = none ↔
    startsLine s = false ∧ ∀ q, s = '/' :: '*' :: q → closing.cut? q = none := by
  rw [← line_read_eq_none, Option.eq_none_iff_forall_ne_some, Option.eq_none_iff_forall_ne_some]
  constructor
  · refine fun unread => ⟨?_, fun q same => ?_⟩
    · rintro ⟨a, rest⟩ found
      obtain ⟨r, same, -, behind⟩ := line_read_eq_some.mp found
      exact unread (.line, rest) (either_read_eq_some.mpr (.inl ⟨rfl, r, same, behind⟩))
    · rw [Option.eq_none_iff_forall_ne_some]
      rintro ⟨inside, rest⟩ cut
      exact unread _ (either_read_eq_some.mpr (.inr ⟨inside, q, rfl, same, cut⟩))
  · rintro ⟨noLine, unclosed⟩ ⟨found, rest⟩ read
    rcases either_read_eq_some.mp read with ⟨-, r, same, behind⟩ | ⟨inside, q, -, same, cut⟩
    · exact noLine _ (line_read_eq_some.mpr ⟨r, same, rfl, behind⟩)
    · cases (unclosed q same).symm.trans cut

/-- Removing both kinds of comment one after the other is one scan. -/
theorem eraseBlock_eraseLine (s : Text) :
    block.erase (line.erase s) = (either exposedCloser).erase s := by
  induction s using (either exposedCloser).scan_induction with
  | done => simp
  | keep c r kept ih =>
    obtain ⟨plain, unclosed⟩ := either_read_eq_none.mp kept
    -- A block comment that is read now would have been read before.
    have unread : block.read (c :: line.erase r) = none := by
      rw [Option.eq_none_iff_forall_ne_some]
      rintro ⟨inside, rest⟩ found
      obtain ⟨q, same, cut⟩ := block_read_eq_some.mp found
      obtain ⟨rfl, star⟩ := List.cons.inj same
      obtain ⟨d, r, rfl⟩ : ∃ d q, r = d :: q :=
        List.exists_cons_of_ne_nil (by rintro rfl; simp at star)
      have slash : d ≠ '/' := fun slash => startsLine_slash.mp plain (by simp [slash])
      rw [eraseLine_cons (by simp [startsLine, slash])] at star
      obtain ⟨rfl, rfl⟩ := List.cons.inj star
      have left := cut?_eraseLine r
      rw [show cutExposed? false r = none from unclosed r rfl, cut] at left
      cases left
    rw [eraseLine_cons plain, block.erase_none unread, ih, Reader.erase_none _ kept]
  | take s found rest taken ih =>
    rw [Reader.erase_some _ taken, ← ih]
    rcases either_read_eq_some.mp taken with ⟨-, r, rfl, rfl⟩ | ⟨inside, q, -, rfl, cut⟩
    · rw [line.erase_some rfl]
    · have left := cut?_eraseLine q
      rw [show cutExposed? false q = some (inside, rest) from cut, Option.map_some] at left
      simp only [Option.map_eq_some_iff, Prod.exists, exists_eq_right] at left
      obtain ⟨inner, left⟩ := left
      have read : block.read ('/' :: '*' :: line.erase q) = some (inner, line.erase rest) :=
        block_read_eq_some.mpr ⟨_, rfl, left⟩
      rw [eraseLine_cons rfl, eraseLine_cons (by simp [startsLine]), block.erase_some read]

/-! ## Where the first closer ends a comment -/

def lastLine : Text → Text
  | [] => []
  | c :: r => if (c :: r).any isLineEnd then lastLine r else c :: r

/-- No two slashes stand together on the line on which a block comment ends. -/
def EndsInSight (inside behind : Text) : Prop :=
  ¬ "//".toList <:+: lastLine inside ++ "*/".toList ++ behind.take 1

instance (inside behind : Text) : Decidable (EndsInSight inside behind) :=
  inferInstanceAs (Decidable (¬ _))

theorem lastLine_of_not_any (oneLine : s.any isLineEnd = false) : lastLine s = s := by
  cases s with
  | nil => rfl
  | cons c r => rw [lastLine, if_neg (by simp [oneLine])]

theorem lastLine_suffix_cons (c : Char) (s : Text) : lastLine s <:+ lastLine (c :: s) := by
  rw [lastLine]
  split
  · exact List.suffix_rfl
  · next oneLine =>
    simp only [List.any_cons, Bool.not_eq_true, Bool.or_eq_false_iff] at oneLine
    rw [lastLine_of_not_any oneLine.2]
    exact List.suffix_cons c s

theorem EndsInSight.tail {inside : Text} (inSight : EndsInSight (c :: inside) rest) :
    EndsInSight inside rest := by
  intro slashes
  obtain ⟨front, whole⟩ := lastLine_suffix_cons c inside
  refine inSight (slashes.trans ⟨front, [], ?_⟩)
  rw [← whole]
  simp

theorem EndsInSight.line_ends {inside : Text} (inSight : EndsInSight (c :: inside) rest)
    (cut : Text.cut? "*/".toList r = some (inside, rest)) (slashes : startsLine (c :: r)) :
    inside.any isLineEnd := by
  by_contra oneLine
  obtain ⟨q, same⟩ := startsLine_iff.mp slashes
  obtain ⟨rfl, rfl⟩ := List.cons.inj same
  have whole := Text.eq_append_of_cut? cut
  cases inside with
  | nil => simp at whole
  | cons d inside =>
    obtain ⟨rfl, -⟩ := List.cons.inj whole
    rw [EndsInSight, lastLine_of_not_any] at inSight
    · exact inSight ⟨[], _, rfl⟩
    · simpa [show isLineEnd '/' = false by decide] using oneLine

/-- A comment that ends in sight ends at the first closer, also where the scan comes to it
on a hidden line, if that line ends inside. -/
theorem cutExposed?_of_inSight {hidden : Bool} {inside : Text}
    (cut : Text.cut? "*/".toList s = some (inside, rest)) (inSight : EndsInSight inside rest)
    (shown : hidden → inside.any isLineEnd) : cutExposed? hidden s = some (inside, rest) := by
  induction s generalizing hidden inside with
  | nil => exact absurd (Text.eq_append_of_cut? cut) (by simp)
  | cons c r ih =>
    rw [Text.cut?, Text.cutAt?] at cut
    split at cut
    · next here =>
      cases cut
      have same : c :: r = '*' :: '/' :: rest := Text.after?_eq_some.mp here
      have other : rest.head? ≠ some '/' := by
        intro slash
        obtain ⟨behind, rfl⟩ := List.head?_eq_some_iff.mp slash
        exact inSight ⟨['*'], [], rfl⟩
      cases hidden with
      | true => exact absurd (shown rfl) (by simp)
      | false => rw [cutExposed?, closerAt?_eq_some.mpr ⟨same, other⟩]
    · next elsewhere =>
      simp only [Option.map_eq_some_iff, Prod.mk.injEq, Prod.exists] at cut
      obtain ⟨inner, _, further, rfl, rfl⟩ := cut
      cases hidden with
      | true =>
        have step : (!isLineEnd c) → inner.any isLineEnd := fun inLine => by
          simpa [show isLineEnd c = false by simpa using inLine] using shown rfl
        rw [cutExposed?, ih further inSight.tail step]
        rfl
      | false =>
        have open_ : closerAt? (c :: r) = none := by
          rw [Option.eq_none_iff_forall_ne_some]
          intro behind closes
          have same : c :: r = "*/".toList ++ behind := (closerAt?_eq_some.mp closes).1
          cases elsewhere.symm.trans (Text.after?_eq_some.mpr same)
        rw [cutExposed?, open_]
        dsimp only
        rw [ih further inSight.tail (inSight.line_ends further)]
        rfl

theorem cutExposed?_eq_none (unclosed : Text.cut? "*/".toList s = none) :
    cutExposed? false s = none := by
  rw [Option.eq_none_iff_forall_ne_some]
  rintro ⟨inside, rest⟩ found
  exact Text.cut?_eq_none_iff.mp unclosed ⟨inside, rest, (eq_append_of_cutExposed? found).symm⟩

theorem erase_of_inSight (inSight : ∀ inside behind,
      .block inside behind ∈ (either firstCloser).findAll s → EndsInSight inside behind) :
    (either exposedCloser).erase s = (either firstCloser).erase s := by
  induction s using (either firstCloser).scan_induction with
  | done => simp
  | keep c r kept ih =>
    obtain ⟨plain, unclosed⟩ := either_read_eq_none.mp kept
    have still : (either exposedCloser).read (c :: r) = none :=
      either_read_eq_none.mpr ⟨plain, fun q same => cutExposed?_eq_none (unclosed q same)⟩
    rw [Reader.findAll_none _ kept] at inSight
    rw [Reader.erase_none _ still, Reader.erase_none _ kept, ih inSight]
  | take s found rest taken ih =>
    rw [Reader.findAll_some _ taken] at inSight
    have still : (either exposedCloser).read s = some (found, rest) := by
      rcases either_read_eq_some.mp taken with line | ⟨inside, q, rfl, same, cut⟩
      · exact either_read_eq_some.mpr (.inl line)
      · have exposed : cutExposed? false q = some (inside, rest) :=
          cutExposed?_of_inSight cut (inSight inside rest (by simp)) (by simp)
        exact either_read_eq_some.mpr (.inr ⟨inside, q, rfl, same, exposed⟩)
    rw [Reader.erase_some _ still, Reader.erase_some _ taken,
      ih fun inside behind member => inSight inside behind (by simp [member])]

/-- Line comments and block comments are removed as if one scan went for both, in which
slashes hide the closers behind them on their line. Where they hide none, every block
comment ends at the first closer, and nothing else is removed. -/
theorem removeComments_script (code : Text) :
    removeComments .javascript code = (either exposedCloser).erase code ∧
    ((∀ inside behind, .block inside behind ∈ (either firstCloser).findAll code →
        EndsInSight inside behind) →
      removeComments .javascript code = (either firstCloser).erase code) := by
  have scan : removeComments .javascript code = (either exposedCloser).erase code :=
    eraseBlock_eraseLine code
  exact ⟨scan, fun inSight => scan.trans (erase_of_inSight inSight)⟩

theorem removeComments_script_license :
    let code := "/* see http://a\n */ f(); // b".toList
    (∀ inside behind, .block inside behind ∈ (either firstCloser).findAll code →
      EndsInSight inside behind) ∧
    removeComments .javascript code = " f(); ".toList ∧
    removeComments .javascript code = (either firstCloser).erase code := by
  have found : (either firstCloser).findAll "/* see http://a\n */ f(); // b".toList =
      [.block " see http://a\n ".toList " f(); // b".toList, .line] := by decide +kernel
  have inSight : ∀ inside behind, .block inside behind ∈
      (either firstCloser).findAll "/* see http://a\n */ f(); // b".toList →
        EndsInSight inside behind := by
    intro inside behind member
    rw [found] at member
    simp only [List.mem_cons, Found.block.injEq, reduceCtorEq, List.not_mem_nil, or_false] at member
    obtain ⟨rfl, rfl⟩ := member
    decide +kernel
  exact ⟨inSight, by decide +kernel, (removeComments_script _).2 inSight⟩

/-- Where slashes hide the closer of a block comment, the code behind it goes with it. -/
theorem removeComments_address :
    let code := "/* http://a */ f();".toList
    (∀ c ∈ code, c ∉ "\"'\x60".toList) ∧
    removeComments .javascript code = "/* http:".toList ∧
    (either firstCloser).erase code = " f();".toList ∧
    removeComments .javascript code ≠ (either firstCloser).erase code := by
  refine ⟨?_, by decide +kernel⟩
  simp

end Snippet.Comment
