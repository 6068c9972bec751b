import Snippet.Proofs.Comment.Scan
import Snippet.Proofs.Layout.Gaps

/-! Comments of texts that are spaced anew.

A removal looks at the marks that stand side by side and at the gaps in which a line ends.
Two texts that agree in both, and in their visible characters, still agree when comments are
removed from them: only where a line ends, and whether marks are parted, does matter.
-/

set_option autoImplicit false

namespace Snippet

variable {α : Type} {s t r rest gap other : Text} {c d : Char} {front behind : Option Char}

namespace Reader

def BeginsWith (reader : Reader α) (mark : Char) : Prop :=
  ∀ s a rest, reader.read s = some (a, rest) → mark ∈ s.head?

namespace BeginsWith

variable {reader : Reader α} {mark : Char}

theorem read_eq_none (begins : reader.BeginsWith mark) (other : c ≠ mark) :
    reader.read (c :: s) = none := by
  rw [Option.eq_none_iff_forall_ne_some]
  rintro ⟨a, rest⟩ found
  exact other (by simpa using begins _ _ _ found)

theorem erase_append (begins : reader.BeginsWith mark) (plain : mark ∉ s) (t : Text) :
    reader.erase (s ++ t) = s ++ reader.erase t := by
  refine Reader.replace_passes _ (Reader.passes_of_unread fun part tail some_part => ?_)
  obtain ⟨d, part, rfl⟩ := List.exists_cons_of_ne_nil some_part
  refine begins.read_eq_none ?_
  rintro rfl
  exact plain (tail.subset (by simp))

theorem erase_eq_self (begins : reader.BeginsWith mark) (plain : mark ∉ s) :
    reader.erase s = s := by
  simpa using begins.erase_append plain []

end BeginsWith

end Reader

namespace Comment

theorem line_begins : line.BeginsWith '/' := by
  intro s a rest found
  obtain ⟨r, rfl, -⟩ := line_read_eq_some.mp found
  rfl

theorem block_begins : block.BeginsWith '/' := by
  intro s a rest found
  obtain ⟨r, rfl, -⟩ := block_read_eq_some.mp found
  rfl

theorem isBlank_of_isMark (mark : isMark c) : isBlank c = false := by
  have marks : c = '/' ∨ c = '*' := by simpa [isMark] using mark
  rcases marks with rfl | rfl <;> decide

theorem slash_notMem_of_blank (blank : ∀ c ∈ gap, isBlank c) : '/' ∉ gap := fun member =>
  absurd (blank '/' member) (by decide)

theorem isLineEnd_of_visible (visible : isBlank c = false) : isLineEnd c = false := by
  by_contra line_end
  rw [isBlank_of_isLineEnd (by simpa using line_end)] at visible
  cases visible

/-! ## Readers that read alike -/

def left? (reader : Reader α) (s : Text) : Option Text := (reader.read s).map Prod.snd

/-- A reader of comments, which begin with a slash: behind one, it reads something of both of
two related texts or of neither, and leaves related texts. -/
structure ReadsAlike (rel : Text → Text → Prop) (reader : Reader α) : Prop where
  begins : reader.BeginsWith '/'
  alike : ∀ {s t : Text}, rel s t → Option.Rel rel (left? reader ('/' :: s)) (left? reader ('/' :: t))

namespace ReadsAlike

variable {rel : Text → Text → Prop} {reader : Reader α}

theorem erase_append_of_blank (reads : ReadsAlike rel reader) (blank : ∀ c ∈ gap, isBlank c)
    (s : Text) : reader.erase (gap ++ s) = gap ++ reader.erase s :=
  reads.begins.erase_append (slash_notMem_of_blank blank) s

/-- A visible character is kept in front of both texts, or a comment begins in both. -/
theorem erase_cases (reads : ReadsAlike rel reader) (related : c = '/' → rel s t) :
    (reader.erase (c :: s) = c :: reader.erase s ∧ reader.erase (c :: t) = c :: reader.erase t) ∨
      c = '/' ∧ ∃ rest left, reader.erase (c :: s) = reader.erase rest ∧
        reader.erase (c :: t) = reader.erase left ∧ rel rest left ∧ rest.length ≤ s.length := by
  by_cases slash : c = '/'
  · subst slash
    have both := reads.alike (related rfl)
    rw [left?, left?] at both
    cases found : reader.read ('/' :: s) with
    | none =>
      cases read : reader.read ('/' :: t) with
      | none => exact .inl ⟨reader.erase_none found, reader.erase_none read⟩
      | some accepted =>
        rw [found, read] at both
        cases both
    | some accepted =>
      cases read : reader.read ('/' :: t) with
      | none =>
        rw [found, read] at both
        cases both
      | some accepted_other =>
        rw [found, read] at both
        have shrinks := reader.shorter found
        have further : rel accepted.2 accepted_other.2 := by
          cases both with
          | some further => exact further
        exact .inr ⟨rfl, _, _, reader.erase_some found, reader.erase_some read, further,
          Nat.le_of_lt_succ shrinks⟩
  · exact .inl ⟨reader.erase_none (reads.begins.read_eq_none slash),
      reader.erase_none (reads.begins.read_eq_none slash)⟩

end ReadsAlike

def behindCloser? (s : Text) : Option Text := (Text.cut? "*/".toList s).map Prod.snd

/-- Related texts have the same marks in front, and what stands behind them is related. -/
structure KeepsMarks (rel : Text → Text → Prop) : Prop where
  head : ∀ {s t : Text} {c : Char}, rel s t → isMark c → (c ∈ s.head? ↔ c ∈ t.head?)
  tail : ∀ {s t : Text} {c : Char}, rel (c :: s) (c :: t) → isMark c → rel s t

namespace KeepsMarks

variable {rel : Text → Text → Prop}

theorem readsAlike_line (keeps : KeepsMarks rel) (rest_of_line : ∀ {s t : Text}, rel s t →
    rel (s.dropWhile (!isLineEnd ·)) (t.dropWhile (!isLineEnd ·))) : ReadsAlike rel line where
  begins := line_begins
  alike {s t} related := by
    have none {s : Text} (apart : '/' ∉ s.head?) : left? line ('/' :: s) = none := by
      rw [left?, line_read_eq_none.mpr (startsLine_slash.mpr apart)]
      rfl
    by_cases first : '/' ∈ s.head?
    · obtain ⟨r, rfl⟩ := List.head?_eq_some_iff.mp first
      obtain ⟨u, rfl⟩ := List.head?_eq_some_iff.mp ((keeps.head related rfl).mp first)
      exact .some (rest_of_line (keeps.tail related rfl))
    · rw [none first, none (mt (keeps.head related rfl).mpr first)]
      exact .none

theorem readsAlike_block (keeps : KeepsMarks rel) (behind_closer : ∀ {s t : Text}, rel s t →
    Option.Rel rel (behindCloser? s) (behindCloser? t)) : ReadsAlike rel block where
  begins := block_begins
  alike {s t} related := by
    have none {s : Text} (apart : '*' ∉ s.head?) : left? block ('/' :: s) = none := by
      rw [left?, Option.map_eq_none_iff, block_read_eq_none]
      rintro body same
      obtain ⟨-, rfl⟩ := List.cons.inj same
      exact absurd rfl apart
    by_cases first : '*' ∈ s.head?
    · obtain ⟨r, rfl⟩ := List.head?_eq_some_iff.mp first
      obtain ⟨u, rfl⟩ := List.head?_eq_some_iff.mp ((keeps.head related rfl).mp first)
      exact behind_closer (keeps.tail related rfl)
    · rw [none first, none (mt (keeps.head related rfl).mpr first)]
      exact .none

end KeepsMarks

/-! ## Texts spaced alike -/

/-- Two gaps in front of a visible character: both part marks or neither does, and, if
`lined`, a line ends in both or in neither. -/
structure SameGap (lined : Bool) (front : Option Char) (c : Char) (gap other : Text) : Prop where
  blank : ∀ d ∈ gap, isBlank d
  blank_other : ∀ d ∈ other, isBlank d
  lines : lined → front.isSome → gap.any isLineEnd = other.any isLineEnd
  parted : front.any isMark → isMark c → (gap = [] ↔ other = [])

/-- The same visible characters behind `front` with gaps that are the same. -/
inductive Respaced (lined : Bool) : (front : Option Char) → Text → Text → Prop where
  | ends {front : Option Char} {s t : Text} : (∀ c ∈ s, isBlank c) → (∀ c ∈ t, isBlank c) →
      Respaced lined front s t
  | next {front : Option Char} {c : Char} {gap other s t : Text} :
      SameGap lined front c gap other → isBlank c = false → Respaced lined (some c) s t →
      Respaced lined front (gap ++ c :: s) (other ++ c :: t)

variable {lined : Bool}

theorem SameGap.symm (same : SameGap lined front c gap other) :
    SameGap lined front c other gap :=
  ⟨same.blank_other, same.blank, fun line front => (same.lines line front).symm,
    fun front mark => (same.parted front mark).symm⟩

theorem SameGap.append {gap' other' : Text} (first : SameGap lined front d gap other)
    (second : SameGap lined (some d) c gap' other') (mark : isMark d) :
    SameGap lined front c (gap ++ gap') (other ++ other') where
  blank := List.forall_mem_append.mpr ⟨first.blank, second.blank⟩
  blank_other := List.forall_mem_append.mpr ⟨first.blank_other, second.blank_other⟩
  lines line some_front := by
    rw [List.any_append, List.any_append, first.lines line some_front, second.lines line rfl]
  parted front_mark last_mark := by
    rw [List.append_eq_nil_iff, List.append_eq_nil_iff, first.parted front_mark mark,
      second.parted (by simpa using mark) last_mark]

namespace Respaced

theorem symm (respaced : Respaced lined front s t) : Respaced lined front t s := by
  induction respaced with
  | ends blank blank_other => exact .ends blank_other blank
  | next same visible _ ih => exact .next same.symm visible ih

theorem visible_eq (respaced : Respaced lined front s t) : s.visible = t.visible := by
  induction respaced with
  | ends blank blank_other => rw [Text.visible_of_blank blank, Text.visible_of_blank blank_other]
  | @next front c gap other s t same visible _ ih =>
    rw [Text.visible_append, Text.visible_append, Text.visible_of_blank same.blank,
      Text.visible_of_blank same.blank_other, Text.visible_cons, ih, ← Text.visible_cons]

theorem append (same : SameGap lined front d gap other) (mark : isMark d)
    (respaced : Respaced lined (some d) s t) :
    Respaced lined front (gap ++ s) (other ++ t) := by
  cases respaced with
  | ends blank blank_other =>
    exact .ends (List.forall_mem_append.mpr ⟨same.blank, blank⟩)
      (List.forall_mem_append.mpr ⟨same.blank_other, blank_other⟩)
  | next inner visible behind =>
    rw [← List.append_assoc, ← List.append_assoc]
    exact .next (same.append inner mark) visible behind

theorem behind_mark (respaced : Respaced lined (some c) s t) (mark : isMark c) (d : Char) :
    Respaced lined (some d) s t := by
  cases respaced with
  | ends blank blank_other => exact .ends blank blank_other
  | next same visible behind =>
    exact .next ⟨same.blank, same.blank_other, fun line _ => same.lines line rfl,
      fun _ => same.parted (by simpa using mark)⟩ visible behind

theorem cons_mark (respaced : Respaced lined (some d) (c :: s) t) (front_mark : isMark d)
    (mark : isMark c) : ∃ u, t = c :: u ∧ Respaced lined (some c) s u := by
  have visible := isBlank_of_isMark mark
  generalize whole : c :: s = text at respaced
  cases respaced with
  | ends blank _ =>
    subst whole
    simp [blank c (by simp)] at visible
  | @next _ e gap other inner behind same _ further =>
    cases gap with
    | nil =>
      obtain ⟨rfl, rfl⟩ := List.cons.inj whole
      obtain rfl := (same.parted (by simpa using front_mark) mark).mp rfl
      exact ⟨behind, rfl, further⟩
    | cons b gap =>
      obtain ⟨rfl, -⟩ := List.cons.inj whole
      simp [same.blank c (by simp)] at visible

theorem head?_mark (respaced : Respaced lined (some d) s t) (front_mark : isMark d)
    (mark : isMark c) : c ∈ s.head? ↔ c ∈ t.head? := by
  have forth {s t : Text} (respaced : Respaced lined (some d) s t) (first : c ∈ s.head?) :
      c ∈ t.head? := by
    obtain ⟨r, rfl⟩ := List.head?_eq_some_iff.mp first
    obtain ⟨u, rfl, -⟩ := respaced.cons_mark front_mark mark
    rfl
  exact ⟨forth respaced, forth respaced.symm⟩

theorem erase {reader : Reader α} (reads : ReadsAlike (Respaced lined (some '/')) reader)
    (respaced : Respaced lined front s t) :
    Respaced lined front (reader.erase s) (reader.erase t) := by
  -- A comment may be of any length, so the induction is on that of the text.
  induction size : s.length using Nat.strong_induction_on generalizing front s t with
  | _ n ih =>
    subst size
    cases respaced with
    | ends blank blank_other =>
      rw [reads.begins.erase_eq_self (slash_notMem_of_blank blank),
        reads.begins.erase_eq_self (slash_notMem_of_blank blank_other)]
      exact .ends blank blank_other
    | @next _ c gap other s t same visible behind =>
      rw [reads.erase_append_of_blank same.blank, reads.erase_append_of_blank same.blank_other]
      have related (slash : c = '/') : Respaced lined (some '/') s t := slash ▸ behind
      rcases reads.erase_cases related with
        ⟨kept, kept_other⟩ | ⟨rfl, rest, left, passed, passed_other, further, shrinks⟩
      · rw [kept, kept_other]
        exact .next same visible (ih _ (by simp; omega) behind rfl)
      · rw [passed, passed_other]
        exact append same rfl (ih _ (by simp; omega) further rfl)

end Respaced

/-! ## The two kinds of comment -/

theorem dropWhile_of_any (ends : gap.any isLineEnd) (s : Text) :
    (gap ++ s).dropWhile (!isLineEnd ·) = gap.dropWhile (!isLineEnd ·) ++ s ∧
      (gap.dropWhile (!isLineEnd ·)).any isLineEnd := by
  induction gap with
  | nil => simp at ends
  | cons e gap ih =>
    cases line_end : isLineEnd e with
    | true => simp [line_end]
    | false => simpa [line_end] using ih (by simpa [line_end] using ends)

theorem dropWhile_of_inLine (inLine : gap.any isLineEnd = false) (s : Text) :
    (gap ++ s).dropWhile (!isLineEnd ·) = s.dropWhile (!isLineEnd ·) :=
  List.dropWhile_append_of_pos fun c member => by simpa using List.any_eq_false.mp inLine c member

theorem eraseLine_append {e : Char} (line_end : isLineEnd e) (s r : Text) :
    line.erase (s ++ e :: r) = line.erase s ++ e :: line.erase r := by
  have other : e ≠ '/' := by
    rintro rfl
    cases line_end
  rw [Reader.erase_append line_faithful, eraseLine_cons (by simp [startsLine, other])]
  · rintro t rest a - found
    obtain ⟨q, rfl, rfl, rfl⟩ := line_read_eq_some.mp found
    refine ⟨_, line_read_eq_some.mpr ⟨q ++ e :: r, rfl, rfl, ?_⟩⟩
    rw [List.dropWhile_append]
    split
    · next none => simp [List.isEmpty_iff.mp none, line_end]
    · rfl
  · intro c q _ unread
    rw [line_read_eq_none] at unread ⊢
    by_contra starts
    obtain ⟨u, same⟩ := startsLine_iff.mp (by simpa using starts)
    obtain ⟨rfl, first⟩ := List.cons.inj same
    cases q with
    | nil => exact other (List.cons.inj first).1
    | cons d q =>
      obtain ⟨rfl, -⟩ := List.cons.inj first
      simp [startsLine] at unread

theorem behindCloser?_eq_none_iff : behindCloser? s = none ↔ ¬ "*/".toList <:+: s := by
  rw [behindCloser?, Option.map_eq_none_iff, Text.cut?_eq_none_iff]

theorem behindCloser?_front (r : Text) : behindCloser? ('*' :: '/' :: r) = some r := rfl

theorem behindCloser?_cons (apart : c = '*' → '/' ∉ r.head?) :
    behindCloser? (c :: r) = behindCloser? r := by
  have passed : Text.after? "*/".toList (c :: r) = none := by
    rw [Option.eq_none_iff_forall_ne_some]
    intro rest found
    have same : c :: r = '*' :: '/' :: rest := Text.after?_eq_some.mp found
    obtain ⟨rfl, rfl⟩ := List.cons.inj same
    exact apart rfl rfl
  rw [behindCloser?, Text.cut?, Text.cutAt?, passed, Option.map_map]
  rfl

theorem behindCloser?_append (blank : ∀ c ∈ gap, isBlank c) (s : Text) :
    behindCloser? (gap ++ s) = behindCloser? s := by
  induction gap with
  | nil => rfl
  | cons c gap ih =>
    have star : c ≠ '*' := by
      rintro rfl
      exact absurd (blank '*' (by simp)) (by decide)
    rw [List.cons_append, behindCloser?_cons fun same => absurd same star]
    exact ih fun d member => blank d (by simp [member])

theorem behindCloser?_of_blank (blank : ∀ c ∈ gap, isBlank c) : behindCloser? gap = none := by
  have passed := behindCloser?_append blank []
  rwa [List.append_nil] at passed

theorem KeepsMarks.behindCloser?_cons {rel : Text → Text → Prop} (keeps : KeepsMarks rel)
    (related : c = '*' → rel s t) (onward : Option.Rel rel (behindCloser? s) (behindCloser? t)) :
    Option.Rel rel (behindCloser? (c :: s)) (behindCloser? (c :: t)) := by
  by_cases closer : c = '*' ∧ '/' ∈ s.head?
  · obtain ⟨rfl, slash⟩ := closer
    have behind := related rfl
    obtain ⟨r, rfl⟩ := List.head?_eq_some_iff.mp slash
    obtain ⟨u, rfl⟩ := List.head?_eq_some_iff.mp ((keeps.head behind rfl).mp slash)
    rw [behindCloser?_front, behindCloser?_front]
    exact .some (keeps.tail behind rfl)
  · have still : c = '*' → '/' ∉ t.head? := fun star first =>
      closer ⟨star, (keeps.head (related star) rfl).mpr first⟩
    rw [Comment.behindCloser?_cons fun star slash => closer ⟨star, slash⟩,
      Comment.behindCloser?_cons still]
    exact onward

namespace Respaced

theorem dropWhile (respaced : Respaced true (some c) s t) (d : Char) :
    Respaced true (some d) (s.dropWhile (!isLineEnd ·)) (t.dropWhile (!isLineEnd ·)) := by
  generalize spot : some c = front at respaced
  induction respaced generalizing c with
  | ends blank blank_other =>
    exact .ends (fun e member => blank e (List.dropWhile_subset _ member))
      fun e member => blank_other e (List.dropWhile_subset _ member)
  | @next front e gap other s t same visible behind ih =>
    subst spot
    have lines := same.lines rfl rfl
    cases ends : gap.any isLineEnd with
    | true =>
      obtain ⟨left, still⟩ := dropWhile_of_any ends (e :: s)
      obtain ⟨left_other, still_other⟩ := dropWhile_of_any (lines ▸ ends) (e :: t)
      have some_gap {gap : Text} (ends : gap.any isLineEnd) : gap ≠ [] := by
        rintro rfl
        cases ends
      rw [left, left_other]
      refine .next ⟨fun d member => same.blank d (List.dropWhile_subset _ member),
        fun d member => same.blank_other d (List.dropWhile_subset _ member), fun _ _ => ?_,
        fun _ _ => iff_of_false (some_gap still) (some_gap still_other)⟩ visible behind
      rw [still, still_other]
    | false =>
      have inLine := isLineEnd_of_visible visible
      rw [dropWhile_of_inLine ends, dropWhile_of_inLine (lines ▸ ends),
        List.dropWhile_cons_of_pos (by simp [inLine]), List.dropWhile_cons_of_pos (by simp [inLine])]
      exact ih rfl

theorem keepsMarks (lined : Bool) : KeepsMarks (Respaced lined (some '/')) where
  head respaced mark := respaced.head?_mark rfl mark
  tail respaced mark := by
    obtain ⟨u, same, behind⟩ := respaced.cons_mark rfl mark
    obtain ⟨-, rfl⟩ := List.cons.inj same
    exact behind.behind_mark mark '/'

theorem rel_behindCloser? (respaced : Respaced lined (some d) s t) :
    Option.Rel (Respaced lined (some '/')) (behindCloser? s) (behindCloser? t) := by
  generalize spot : some d = front at respaced
  induction respaced generalizing d with
  | ends blank blank_other =>
    rw [behindCloser?_of_blank blank, behindCloser?_of_blank blank_other]
    exact .none
  | next same _ behind ih =>
    rw [behindCloser?_append same.blank, behindCloser?_append same.blank_other]
    refine (keepsMarks lined).behindCloser?_cons ?_ (ih rfl)
    rintro rfl
    exact behind.behind_mark rfl '/'

theorem eraseLine (respaced : Respaced true front s t) :
    Respaced true front (line.erase s) (line.erase t) :=
  respaced.erase ((keepsMarks true).readsAlike_line fun behind => behind.dropWhile '/')

theorem eraseBlock (respaced : Respaced lined front s t) :
    Respaced lined front (block.erase s) (block.erase t) :=
  respaced.erase ((keepsMarks lined).readsAlike_block rel_behindCloser?)

theorem removeComments (respaced : Respaced true front s t) :
    Respaced true front (removeComments .javascript s) (removeComments .javascript t) :=
  respaced.eraseLine.eraseBlock

end Respaced

/-! ## Gaps that are filled by rules -/

open Layout (GapRule)

theorem respaced_fillFrom {rule next : GapRule} (writes : rule.WritesBlanks)
    (writes_other : next.WritesBlanks)
    (same : ∀ {front : Option Char} {c : Char} {gap : Text}, (∀ d ∈ gap, isBlank d) →
      SameGap lined front c (rule front gap (some c)) (next front gap (some c)))
    (blank : ∀ d ∈ gap, isBlank d) (s : Text) :
    Respaced lined front (rule.fillFrom front gap s) (next.fillFrom front gap s) := by
  induction s generalizing front gap with
  | nil => exact .ends (writes front none gap blank) (writes_other front none gap blank)
  | cons c r ih =>
    simp only [GapRule.fillFrom]
    split
    · next isGap =>
      exact ih (List.forall_mem_append.mpr ⟨blank, List.forall_mem_singleton.mpr isGap⟩)
    · next visible => exact .next (same blank) (by simpa using visible) (ih (by simp))

def asGiven : GapRule := fun _ gap _ => gap

theorem fill_asGiven (s : Text) : asGiven.fill s = s :=
  (GapRule.eq_fill (fun _ s => s) (fun _ _ _ => rfl) (fun _ _ _ _ _ _ => rfl) s).symm

theorem writesBlanks_asGiven : asGiven.WritesBlanks := fun _ _ _ blank => blank

/-! ## Gaps as compression writes them -/

/-- A space for a gap between two characters that are not tight, and no other blanks. -/
def tightGaps : GapRule := fun front gap behind =>
  if front.any (!Compression.isTight ·) ∧ behind.any (!Compression.isTight ·) ∧ gap ≠ [] then [' ']
  else []

def frontOf : Option Char → Compression.Front
  | none => .tight
  | some c => if Compression.isTight c then .tight else .loose

open Compression (isTight tightenFrom)

theorem tightGaps_of_mark (front_mark : front.any isMark) (mark : isMark c) (gap : Text) :
    tightGaps front gap (some c) = if gap = [] then [] else [' '] := by
  have loose {a : Char} (mark : isMark a) : isTight a = false := by
    have marks : a = '/' ∨ a = '*' := by simpa [isMark] using mark
    rcases marks with rfl | rfl <;> rfl
  obtain ⟨b, rfl, mark_before⟩ := (Option.any_eq_true _ _).mp front_mark
  simp [tightGaps, loose mark, loose mark_before, ite_not]

theorem writesBlanks_tightGaps : tightGaps.WritesBlanks := by
  intro front behind gap _ c member
  rw [tightGaps] at member
  split at member
  · rw [List.mem_singleton.mp member]
    rfl
  · simp at member

theorem tightenFrom_eq_fill (s : Text) : tightenFrom .tight s = tightGaps.fill s := by
  refine GapRule.eq_fill (fun front s => tightenFrom (frontOf front) s) (fun front gap blank => ?_)
    (fun front gap c r blank visible => ?_) s
  · have none : tightenFrom (frontOf front) ([] ++ gap) = [] :=
      Compression.tightenFrom_trailing blank []
    simpa [tightGaps] using none
  · by_cases tight : isTight c
    · have behind : frontOf (some c) = .tight := if_pos tight
      rw [Compression.tightenFrom_gap_tight blank tight, behind]
      simp [tightGaps, tight]
    · have loose : isTight c = false := by simpa using tight
      have behind : frontOf (some c) = .loose := if_neg tight
      cases gap with
      | nil =>
        rw [List.nil_append, Compression.tightenFrom_loose visible loose, behind]
        cases front with
        | none => rfl
        | some b => by_cases tight_before : isTight b <;>
            simp [frontOf, tight_before, tightGaps, Compression.Front.space]
      | cons e gap =>
        rw [Compression.tightenFrom_gap blank (by simp), Compression.tightenFrom_loose visible loose,
          behind]
        cases front with
        | none => rfl
        | some b => by_cases tight_before : isTight b <;>
            simp [frontOf, tight_before, tightGaps, loose, Compression.Front.space,
              Compression.Front.behindBlank]

/-- A rule that neither closes gaps nor opens any agrees with it on marks. -/
theorem sameGap_tightGaps {rule : GapRule} (writes : rule.WritesBlanks)
    (keeps : ∀ front gap behind, rule front gap behind = [] ↔ gap = [])
    (lineless : lined → ∀ front gap behind, (rule front gap behind).any isLineEnd = false)
    (blank : ∀ d ∈ gap, isBlank d) :
    SameGap lined front c (rule front gap (some c)) (tightGaps front gap (some c)) where
  blank := writes front (some c) gap blank
  blank_other := writesBlanks_tightGaps front (some c) gap blank
  lines line _ := by
    rw [lineless line, tightGaps]
    split <;> rfl
  parted front_mark mark := by
    rw [tightGaps_of_mark front_mark mark, keeps]
    split <;> simp_all

theorem respaced_tightenFrom (s : Text) : Respaced false none s (tightenFrom .tight s) := by
  have respaced : Respaced false none (asGiven.fill s) (tightGaps.fill s) :=
    respaced_fillFrom writesBlanks_asGiven writesBlanks_tightGaps
      (sameGap_tightGaps writesBlanks_asGiven (fun _ _ _ => Iff.rfl) (by simp)) (by simp) s
  rwa [fill_asGiven, ← tightenFrom_eq_fill] at respaced

/-- Without line comments, texts that are tightened to the same text have the same code. -/
theorem visible_eraseBlock (same : tightenFrom .tight s = tightenFrom .tight t) :
    (block.erase s).visible = (block.erase t).visible := by
  rw [(respaced_tightenFrom s).eraseBlock.visible_eq, same,
    ← (respaced_tightenFrom t).eraseBlock.visible_eq]

end Comment

end Snippet
