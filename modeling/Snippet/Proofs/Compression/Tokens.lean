import Snippet.Proofs.Compression.Spacing

/-! What compression writes, told by the visible characters of a text.

Each visible character is taken with the number of blanks in front of it, so that two of
them are parted by blanks exactly if these numbers differ. Compression leaves out
semicolons before a closing brace and writes a space where blanks part two characters
that are not tight; the texts of this kind are those that it does not change.
-/

set_option autoImplicit false

namespace Snippet.Compression

/-- A visible character of a text, and how many blanks stand anywhere in front of it. -/
structure Token where
  blanks : Nat
  char : Char
  deriving DecidableEq, Repr

def tokensFrom (blanks : Nat) : Text → List Token
  | [] => []
  | c :: r => if isBlank c then tokensFrom (blanks + 1) r else ⟨blanks, c⟩ :: tokensFrom blanks r

def tokens : Text → List Token := tokensFrom 0

def closes (behind : Text) : Bool := (behind.dropWhile (· == ';')).head? == some '}'

/-- The characters without the runs of semicolons that a closing brace directly follows. -/
def unterminated : List Token → List Token
  | [] => []
  | token :: r =>
    if token.char = ';' ∧ closes (r.map Token.char) then unterminated r
    else token :: unterminated r

/-- The space between two characters that stand one after the other: there if blanks
part them and neither is tight. -/
def Token.space (before token : Token) : Text :=
  if before.blanks < token.blanks ∧ isTight before.char = false ∧ isTight token.char = false
  then [' '] else []

def writeBehind (before : Token) : List Token → Text
  | [] => []
  | token :: r => before.space token ++ token.char :: writeBehind token r

def write : List Token → Text
  | [] => []
  | token :: r => token.char :: writeBehind token r

variable {s : Text} {blanks : Nat} {r : List Token}

theorem char_tokensFrom (blanks : Nat) (s : Text) :
    (tokensFrom blanks s).map Token.char = s.visible := by
  induction s generalizing blanks with
  | nil => rfl
  | cons c r ih =>
    rw [Text.visible] at ih ⊢
    by_cases blank : isBlank c
    · simpa [tokensFrom, blank] using ih (blanks + 1)
    · simpa [tokensFrom, blank] using ih blanks

theorem isBlank_of_mem_tokensFrom {token : Token} (member : token ∈ tokensFrom blanks s) :
    isBlank token.char = false := by
  have inside := List.mem_map_of_mem (f := Token.char) member
  rw [char_tokensFrom] at inside
  simpa using (List.mem_filter.mp inside).2

/-! ## Spaces -/

def Token.front (token : Token) (blanks : Nat) : Front :=
  if isTight token.char then .tight else if token.blanks < blanks then .apart else .loose

theorem Token.behindBlank_front {token : Token} (behind : token.blanks ≤ blanks) :
    (token.front blanks).behindBlank = token.front (blanks + 1) := by
  rw [front, front, if_pos (Nat.lt_succ_of_le behind)]
  split
  · rfl
  · split <;> rfl

theorem Token.space_eq_nil {before token : Token}
    (tight : isTight before.char ∨ isTight token.char) :
    before.space token = [] := by
  rw [space, if_neg]
  rintro ⟨-, loose, looseBehind⟩
  simp [loose, looseBehind] at tight

theorem Token.space_loose (before token : Token) (loose : isTight token.char = false) :
    before.space token = (before.front token.blanks).space := by
  rw [space, front]
  split
  · next parted => simp [parted.1, parted.2.1, Front.space]
  · next close =>
    split
    · rfl
    · next looseBefore =>
      have near : ¬ before.blanks < token.blanks := fun parted =>
        close ⟨parted, by simpa using looseBefore, loose⟩
      rw [if_neg near, Front.space]

theorem tightenFrom_front (before : Token) (behind : before.blanks ≤ blanks) (s : Text) :
    tightenFrom (before.front blanks) s = writeBehind before (tokensFrom blanks s) := by
  induction s generalizing before blanks with
  | nil => rfl
  | cons c r ih =>
    rw [tokensFrom]
    split
    · next blank =>
      rw [tightenFrom_blank blank, Token.behindBlank_front behind,
        ih before (Nat.le_succ_of_le behind)]
    · next visible =>
      rw [writeBehind, ← ih ⟨blanks, c⟩ (Nat.le_refl blanks)]
      by_cases tight : isTight c
      · have none : before.space ⟨blanks, c⟩ = [] := Token.space_eq_nil (.inr tight)
        have own : Token.front ⟨blanks, c⟩ blanks = .tight := if_pos tight
        rw [tightenFrom_tight tight, none, own, List.nil_append]
      · have loose : isTight c = false := by simpa using tight
        have own : Token.front ⟨blanks, c⟩ blanks = .loose := by simp [Token.front, loose]
        rw [tightenFrom_loose (by simpa using visible) loose,
          Token.space_loose before ⟨blanks, c⟩ loose, own]

theorem writeBehind_tight {before : Token}
    (tight : isTight before.char ∨ ∀ token ∈ r.head?, isTight token.char) :
    writeBehind before r = write r := by
  cases r with
  | nil => rfl
  | cons token r =>
    have none : before.space token = [] :=
      Token.space_eq_nil (tight.imp_right fun first => first token rfl)
    rw [writeBehind, write, none, List.nil_append]

theorem tightenFrom_tokens (s : Text) : tightenFrom .tight s = write (tokens s) := by
  -- At the beginning it is as behind any tight character.
  have behind : tightenFrom .tight s = writeBehind ⟨0, ';'⟩ (tokensFrom 0 s) :=
    tightenFrom_front ⟨0, ';'⟩ (Nat.le_refl 0) s
  rwa [writeBehind_tight (.inl rfl)] at behind

/-! ## Semicolons -/

theorem closes_cons {c : Char} {behind : Text} :
    closes (c :: behind) = if c = ';' then closes behind else c == '}' := by
  rw [closes, List.dropWhile_cons]
  split
  · next same => rw [if_pos (by simpa using same), closes]
  · next other => simp [show c ≠ ';' by simpa using other]

theorem head?_unterminated (closing : closes (r.map Token.char)) :
    ∀ token ∈ (unterminated r).head?, isTight token.char := by
  induction r with
  | nil => simp [unterminated]
  | cons first r ih =>
    rw [List.map_cons, closes_cons] at closing
    rw [unterminated]
    split at closing
    · next semicolon =>
      rw [if_pos ⟨semicolon, closing⟩]
      exact ih closing
    · next other =>
      rw [if_neg fun dropped => other dropped.1]
      rintro token same
      cases same
      simp [isTight, closing]

/-- Behind a semicolon nothing but semicolons is passed on the way to a brace. -/
theorem terminators_read_isSome {before : Token} (semicolon : before.char = ';')
    (visible : ∀ token ∈ r, isBlank token.char = false) :
    (terminators.read (';' :: writeBehind before r)).isSome ↔ closes (r.map Token.char) := by
  have leads : (terminators.read (';' :: writeBehind before r)).isSome ↔
      ((writeBehind before r).dropWhile fun c => c == ';' || isBlank c).head? = some '}' := by
    rw [Option.isSome_iff_exists, List.head?_eq_some_iff]
    simp [Prod.exists, terminators_read_eq_some]
  rw [leads]
  clear leads
  induction r generalizing before with
  | nil => simp [writeBehind, closes]
  | cons token r ih =>
    have none : before.space token = [] := Token.space_eq_nil (.inl (by simp [semicolon, isTight]))
    rw [writeBehind, none, List.nil_append, List.map_cons, closes_cons, List.dropWhile_cons]
    by_cases same : token.char = ';'
    · simpa [same] using ih same fun other member => visible other (by simp [member])
    · simp [same, visible token (by simp)]

/-- A semicolon of a run before a brace goes, and the scan does with the rest what it
does without it. -/
theorem terminators_replace_semicolon {c : Char} {t : Text} (visible : isBlank c = false)
    (found : (terminators.read (';' :: c :: t)).isSome) :
    terminators.replace (fun _ => ['}']) (';' :: c :: t) =
      terminators.replace (fun _ => ['}']) (c :: t) := by
  obtain ⟨⟨a, rest⟩, found⟩ := Option.isSome_iff_exists.mp found
  rw [terminators.replace_some _ found]
  obtain ⟨_, same, leads⟩ := terminators_read_eq_some.mp found
  obtain ⟨-, rfl⟩ := List.cons.inj same
  by_cases semicolon : c = ';'
  · subst semicolon
    rw [List.dropWhile_cons_of_pos (by rfl)] at leads
    rw [terminators.replace_some _ (terminators_read_eq_some (a := a) |>.mpr ⟨t, rfl, leads⟩)]
  · rw [List.dropWhile_cons_of_neg (by simp [semicolon, visible])] at leads
    obtain ⟨rfl, rfl⟩ := List.cons.inj leads
    rw [terminators.replace_none _ rfl]
    rfl

theorem terminators_dropped {token : Token} (semicolon : token.char = ';')
    (visible : ∀ other ∈ r, isBlank other.char = false) (closing : closes (r.map Token.char)) :
    terminators.replace (fun _ => ['}']) (token.char :: writeBehind token r) =
      terminators.replace (fun _ => ['}']) (writeBehind token r) := by
  obtain ⟨next, others, rfl⟩ : ∃ next others, r = next :: others :=
    List.exists_cons_of_ne_nil (by rintro rfl; simp [closes] at closing)
  have found := (terminators_read_isSome semicolon visible).mpr closing
  have none : token.space next = [] := Token.space_eq_nil (.inl (by simp [semicolon, isTight]))
  rw [writeBehind, none, List.nil_append] at found ⊢
  rw [semicolon]
  exact terminators_replace_semicolon (visible next (by simp)) found

theorem terminators_kept {token : Token}
    (visible : ∀ other ∈ r, isBlank other.char = false)
    (kept : ¬ (token.char = ';' ∧ closes (r.map Token.char))) :
    terminators.replace (fun _ => ['}']) (token.char :: writeBehind token r) =
      token.char :: terminators.replace (fun _ => ['}']) (writeBehind token r) := by
  apply terminators.replace_none
  by_cases semicolon : token.char = ';'
  · rw [semicolon, ← Option.not_isSome_iff_eq_none, terminators_read_isSome semicolon visible]
    exact fun closing => kept ⟨semicolon, closing⟩
  · exact terminators_read_of_ne semicolon _

theorem terminators_space (before token : Token) (s : Text) :
    terminators.replace (fun _ => ['}']) (before.space token ++ s) =
      before.space token ++ terminators.replace (fun _ => ['}']) s := by
  rw [Token.space]
  split
  · exact terminators.replace_none _ (terminators_read_of_ne (by decide) s)
  · rfl

theorem terminators_writeBehind (before : Token)
    (visible : ∀ token ∈ r, isBlank token.char = false) :
    terminators.replace (fun _ => ['}']) (writeBehind before r) =
      writeBehind before (unterminated r) := by
  induction r generalizing before with
  | nil => exact terminators.replace_nil _
  | cons token r ih =>
    have behind : ∀ other ∈ r, isBlank other.char = false := fun other member =>
      visible other (by simp [member])
    have inner := ih token behind
    rw [unterminated, writeBehind, terminators_space]
    split
    · next dropped =>
      obtain ⟨semicolon, closing⟩ := dropped
      have none : before.space token = [] :=
        Token.space_eq_nil (.inr (by simp [semicolon, isTight]))
      -- What is left begins with the brace, before which no space goes.
      have brace := head?_unterminated closing
      rw [terminators_dropped semicolon behind closing, inner, none, List.nil_append,
        writeBehind_tight (.inr brace), writeBehind_tight (.inr brace)]
    · next kept => rw [terminators_kept behind kept, inner, writeBehind]

theorem terminators_write (visible : ∀ token ∈ r, isBlank token.char = false) :
    terminators.replace (fun _ => ['}']) (write r) = write (unterminated r) := by
  have behind := terminators_writeBehind ⟨0, ';'⟩ visible
  rwa [writeBehind_tight (.inl rfl), writeBehind_tight (.inl rfl)] at behind

/-! ## Compressed text -/

theorem compress_tokens (s : Text) : compress s = write (unterminated (tokens s)) := by
  have visible : ∀ token ∈ tokens s, isBlank token.char = false := fun _ =>
    isBlank_of_mem_tokensFrom
  rw [compress_eq, tightenFrom_tokens, terminators_write visible]

example : write (unterminated (tokens " a  b ;; \x7d c : d".toList)) = "a b\x7dc:d".toList := by
  decide

theorem compress_eq_self_iff : compress s = s ↔ IsCompressed s :=
  ⟨fun same => same ▸ isCompressed_compress s, IsCompressed.compress_eq_self⟩

theorem compress_compress (s : Text) : compress (compress s) = compress s :=
  (isCompressed_compress s).compress_eq_self

/-- Compression writes the visible characters of a text, in order and without semicolons
before a closing brace, with a space where blanks parted two that are not tight. Its
results are the texts in which nothing is left to compress, and these it does not change. -/
theorem compress_written (s : Text) :
    (tokens s).map Token.char = s.visible ∧
    compress s = write (unterminated (tokens s)) ∧
    (compress s = s ↔ IsCompressed s) ∧
    compress (compress s) = compress s :=
  ⟨char_tokensFrom 0 s, compress_tokens s, compress_eq_self_iff, compress_compress s⟩

end Snippet.Compression
