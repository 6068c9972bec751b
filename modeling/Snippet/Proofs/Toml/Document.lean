import Snippet.Proofs.Blanks
import Snippet.Proofs.Toml.Quoted
import Snippet.Toml.Reading

/-! Documents of sections with bare keys.

A text is read line by line, so what is in front of a line does not matter to what is
read behind it: a document is proved readable from its last line upward. Sections and
keys that differ from each other then become the entries of the document in the order
in which they stand.
-/

set_option autoImplicit false

namespace Snippet.Toml

variable {key written s t tail rest : Text} {value : Value} {statements : List Statement}

/-! ## Lines -/

def IsRead (s : Text) (statements : List Statement) : Prop :=
  ∀ fuel, s.length < fuel → readStatements fuel s = some statements

/-- What follows a line, and what follows its end. -/
inductive EndsLine : Text → Text → Prop
  | last : EndsLine [] []
  | broken (rest : Text) : EndsLine ('\n' :: rest) rest

theorem EndsLine.afterLine (ends : EndsLine tail rest) : afterLine? tail = some rest := by
  cases ends <;> rfl

theorem EndsLine.apart {quote : Char} (ends : EndsLine tail rest) (other : quote ≠ '\n') :
    Apart quote tail := by
  cases ends with
  | last => simp [Apart]
  | broken => simpa [Apart] using other.symm

theorem EndsLine.length_le (ends : EndsLine tail rest) : rest.length ≤ tail.length := by
  cases ends with
  | last => exact Nat.le_refl _
  | broken rest => exact Nat.le_succ _

theorem isRead_nil : IsRead [] [] := by
  rintro (_ | fuel) enough
  · simp at enough
  · rfl

theorem IsRead.emptyLine (behind : IsRead s statements) : IsRead ('\n' :: s) statements := by
  rintro (_ | fuel) enough
  · simp at enough
  · have read := behind (fuel + 1) (Nat.lt_of_succ_lt enough)
    rw [readStatements] at read ⊢
    exact read

theorem IsRead.statement {c : Char} {added : Statement} (visible : isSpace c = false)
    (noComment : c ≠ '#') (plain : isControl c = false)
    (read : readStatement (c :: s) = some (added, rest)) (shorter : rest.length ≤ s.length)
    (behind : IsRead rest statements) : IsRead (c :: s) (added :: statements) := by
  rintro (_ | fuel) enough
  · simp at enough
  -- The line begins at once, so that no filler is passed over.
  have front : dropFiller (c :: s).length (c :: s) = c :: s := by
    simp [dropFiller, visible, noComment, afterLineBreak?_cons plain]
  have others := behind fuel (by simp only [List.length_cons] at enough; omega)
  simp only [readStatements, front, read, others, Option.bind_eq_bind, Option.bind_some]

/-! ## Keys -/

structure IsBare (key : Text) : Prop where
  some_text : key ≠ []
  bare : key.all isBareKey

theorem visible_of_isBareKey {c : Char} (bare : isBareKey c) :
    isSpace c = false ∧ c ≠ '#' ∧ isControl c = false ∧ c ≠ '[' ∧ c ≠ '"' ∧ c ≠ '\'' := by
  have control : isControl c = false := by
    simp only [isBareKey, Bool.or_eq_true, beq_iff_eq] at bare
    rcases bare with word | rfl
    · have range := toNat_of_isWord word
      simp only [isControl, Bool.or_eq_false_iff, Bool.and_eq_false_iff, decide_eq_false_iff_not,
        beq_eq_false_iff_ne]
      omega
    · decide
  have space : isSpace c = false := by
    simp only [isSpace, Bool.or_eq_false_iff, beq_eq_false_iff_ne]
    constructor <;> rintro rfl <;> exact absurd bare (by decide)
  refine ⟨space, ?_, control, ?_, ?_, ?_⟩ <;> rintro rfl <;> exact absurd bare (by decide)

theorem IsBare.first (isBare : IsBare key) : ∃ c t, key = c :: t ∧ isBareKey c := by
  obtain ⟨c, t, rfl⟩ := List.exists_cons_of_ne_nil isBare.some_text
  have bare := isBare.bare
  simp only [List.all_cons, Bool.and_eq_true] at bare
  exact ⟨c, t, rfl, bare.1⟩

theorem dropSpaces_cons {c : Char} (visible : isSpace c = false) (s : Text) :
    dropSpaces (c :: s) = c :: s := by
  simp [dropSpaces, visible]

/-- A bare key ends where something follows that is neither part of it nor a dot. -/
theorem readKey_bare (isBare : IsBare key) (stops : ∀ c ∈ tail.head?, isBareKey c = false)
    (noDot : Apart '.' (dropSpaces tail)) :
    readKey (key ++ tail) = some ([key], dropSpaces tail) := by
  obtain ⟨c, t, same, bare⟩ := isBare.first
  obtain ⟨visible, -, -, -, noQuote, noApostrophe⟩ := visible_of_isBareKey bare
  have word : (key ++ tail).takeWhile isBareKey = key := by
    rw [List.takeWhile_append_of_pos fun d member => List.all_eq_true.mp isBare.bare d member]
    cases tail with
    | nil => simp
    | cons d tail => simp [stops d rfl]
  have behind : (key ++ tail).dropWhile isBareKey = tail := by
    have parts := List.takeWhile_append_dropWhile (p := isBareKey) (l := key ++ tail)
    rw [word] at parts
    exact List.append_cancel_left parts
  have part : readKeyPart (key ++ tail) = some (key, tail) := by
    unfold readKeyPart
    split
    · next first => exact absurd (List.cons.inj (same ▸ first)).1 noQuote
    · next first => exact absurd (List.cons.inj (same ▸ first)).1 noApostrophe
    · simp [word, behind, isBare.some_text]
  have front : dropSpaces (key ++ tail) = key ++ tail := by
    rw [same, List.cons_append, dropSpaces_cons visible]
  have parts (fuel : Nat) :
      readKeyParts (fuel + 1) (key ++ tail) = some ([key], dropSpaces tail) := by
    simp only [readKeyParts, front, part, Option.bind_eq_bind, Option.bind_some]
    split
    · next dot => exact absurd rfl (noDot '.' (by simp [dot]))
    · rfl
  simp [readKey, parts, nesting]

/-! ## Values -/

/-- A value that is read back in front of the end of a line. -/
structure IsWritten (written : Text) (value : Value) : Prop where
  visible : ∀ tail, dropSpaces (written ++ tail) = written ++ tail
  reads : ∀ {tail rest}, EndsLine tail rest →
    readValue nesting (written ++ tail) = some (value, tail)

theorem writeString_cons (s : Text) :
    ∃ t, writeString s = '"' :: t ∨ writeString s = '\'' :: t := by
  unfold writeString
  cases StringForm.ofText s with
  | basic => exact ⟨_, .inl rfl⟩
  | literal => exact ⟨_, .inr rfl⟩
  | basicLines => exact ⟨_, .inl rfl⟩
  | literalLines => exact ⟨_, .inr rfl⟩

theorem isWritten_string (s : Text) : IsWritten (writeString s) (.string s) := by
  have read {tail rest : Text} (ends : EndsLine tail rest) :
      readString (writeString s ++ tail) = some (s, tail) :=
    readString_writeString s (ends.apart (by decide)) (ends.apart (by decide))
  obtain ⟨t, first | first⟩ := writeString_cons s
  all_goals
    refine ⟨fun tail => by rw [first]; rfl, fun ends => ?_⟩
    have whole := read ends
    rw [first] at whole ⊢
    simp only [List.cons_append] at whole ⊢
    rw [readValue]
    · simp only [readScalar, whole, Option.map_some]
    · simp
    · simp

theorem isWritten_true : IsWritten "true".toList (.boolean true) :=
  ⟨fun _ => rfl, fun ends => by cases ends <;> rfl⟩

theorem isWritten_false : IsWritten "false".toList (.boolean false) :=
  ⟨fun _ => rfl, fun ends => by cases ends <;> rfl⟩

/-! ## Statements -/

theorem IsRead.pair (isBare : IsBare key) (isWritten : IsWritten written value)
    (ends : EndsLine tail rest) (behind : IsRead rest statements) :
    IsRead (key ++ " = ".toList ++ written ++ tail) (.pair [key] value :: statements) := by
  obtain ⟨c, t, same, bare⟩ := isBare.first
  obtain ⟨visible, noComment, plain, noHeader, -⟩ := visible_of_isBareKey bare
  have keyRead : readKey (key ++ (" = ".toList ++ (written ++ tail))) =
      some ([key], '=' :: ' ' :: (written ++ tail)) :=
    readKey_bare isBare (by simp [isBareKey, isWord]) (by simp [Apart, dropSpaces, isSpace])
  have spaced : dropSpaces (' ' :: (written ++ tail)) = written ++ tail := isWritten.visible tail
  have pairRead : readKeyValue (readValue nesting) (key ++ (" = ".toList ++ (written ++ tail))) =
      some (([key], value), tail) := by
    simp only [readKeyValue, keyRead, spaced, isWritten.reads ends, Option.bind_eq_bind,
      Option.bind_some]
  rw [List.append_assoc, List.append_assoc, same, List.cons_append]
  refine behind.statement visible noComment plain ?_ ?_
  · rw [readStatement]
    · rw [← List.cons_append, ← same]
      simp only [pairRead, ends.afterLine, Option.bind_eq_bind, Option.bind_some]
    · exact fun _ double => noHeader (List.cons.inj double).1
    · exact fun _ single => noHeader (List.cons.inj single).1
  · have shorter := ends.length_le
    simp only [List.length_append]
    omega

theorem IsRead.header {name : Text} (isBare : IsBare name) (ends : EndsLine tail rest)
    (behind : IsRead rest statements) :
    IsRead ('[' :: (name ++ ']' :: tail)) (.header [name] :: statements) := by
  obtain ⟨c, t, same, bare⟩ := isBare.first
  obtain ⟨-, -, -, noHeader, -⟩ := visible_of_isBareKey bare
  have nameRead : readKey (name ++ ']' :: tail) = some ([name], ']' :: tail) :=
    readKey_bare isBare (by simp [isBareKey, isWord]) (by simp [Apart, dropSpaces, isSpace])
  refine behind.statement (by decide) (by decide) (by decide) ?_ ?_
  · rw [readStatement]
    · simp [nameRead, Text.after?, ends.afterLine]
    · rw [same]
      exact fun _ double => noHeader (List.cons.inj double).1
  · have shorter := ends.length_le
    simp only [List.length_append, List.length_cons]
    omega

/-! ## Sections -/

structure Group where
  name : Text
  pairs : List (Text × Value)

namespace Group

def lines (group : Group) : List Statement :=
  .header [group.name] :: group.pairs.map fun pair => .pair [pair.1] pair.2

def toSection (group : Group) : Section :=
  ⟨false, [group.name], group.pairs.map fun pair => ([pair.1], pair.2)⟩

def node (group : Group) : Text × Node :=
  (group.name, .table .header (group.pairs.map fun pair => (pair.1, .value pair.2)))

def entry (group : Group) : Text × Value := (group.name, .table group.pairs)

end Group

theorem sections_pairs (pairs : List (Text × Value)) (statements : List Statement) :
    sections (pairs.map (fun pair => .pair [pair.1] pair.2) ++ statements) =
      (pairs.map (fun pair => ([pair.1], pair.2)) ++ (sections statements).1,
        (sections statements).2) := by
  induction pairs with
  | nil => rfl
  | cons pair pairs ih => simp only [List.map_cons, List.cons_append, sections, ih]

theorem sections_groups (groups : List Group) :
    sections (groups.flatMap Group.lines) = ([], groups.map Group.toSection) := by
  induction groups with
  | nil => rfl
  | cons group groups ih =>
    simp only [List.flatMap_cons, Group.lines, List.cons_append, sections, sections_pairs, ih,
      List.append_nil, List.map_cons, Group.toSection]

theorem Entries.find?_eq_none {entries : Entries} (absent : key ∉ entries.map (·.1)) :
    entries.find? key = none := by
  rw [Entries.find?, Option.map_eq_none_iff, List.find?_eq_none]
  intro entry member same
  exact absent (List.mem_map.mpr ⟨entry, member, by simpa using same⟩)

theorem Entries.set_of_absent {entries : Entries} (absent : key ∉ entries.map (·.1))
    (node : Node) : entries.set key node = entries ++ [(key, node)] := by
  have fresh : (entries.any fun entry => entry.1 == key) = false := by
    rw [List.any_eq_false]
    intro entry member same
    exact absent (List.mem_map.mpr ⟨entry, member, by simpa using same⟩)
  simp [Entries.set, fresh]

theorem entriesOf_pairs (pairs : List (Text × Value)) :
    ∀ entries : Entries, (entries.map (·.1) ++ pairs.map (·.1)).Nodup →
      entriesOf entries (pairs.map fun pair => ([pair.1], pair.2)) =
        some (entries ++ pairs.map fun pair => (pair.1, .value pair.2)) := by
  induction pairs with
  | nil => exact fun entries _ => by simp [entriesOf]
  | cons pair pairs ih =>
    intro entries distinct
    rw [List.map_cons] at distinct
    -- The key is none of those in front of it, whose entries are there already.
    have absent : pair.1 ∉ entries.map (·.1) := fun member =>
      (List.nodup_append.mp distinct).2.2 _ member _ (List.mem_cons_self ..) rfl
    have others := ih (entries ++ [(pair.1, .value pair.2)]) (by simpa using distinct)
    have added : entries.insert [pair.1] (.value pair.2) =
        some (entries ++ [(pair.1, .value pair.2)]) := by
      simp [Entries.insert, Entries.insertDotted, Entries.find?_eq_none absent]
    simp only [entriesOf, List.map_cons, List.foldlM_cons, added, Option.bind_eq_bind,
      Option.bind_some] at others ⊢
    simpa using others

theorem finishEntries_values (pairs : List (Text × Value)) :
    finishEntries (pairs.map fun pair => (pair.1, .value pair.2)) = pairs := by
  induction pairs with
  | nil => rw [List.map_nil, finishEntries]
  | cons pair pairs ih => rw [List.map_cons, finishEntries, Node.finish, ih]

theorem finishEntries_groups (groups : List Group) :
    finishEntries (groups.map Group.node) = groups.map Group.entry := by
  induction groups with
  | nil => simp only [List.map_nil, finishEntries]
  | cons group groups ih =>
    simp only [List.map_cons, Group.node, finishEntries, Node.finish, finishEntries_values]
    exact congrArg _ ih

theorem addTo_toSection {root : Entries} {group : Group} (absent : group.name ∉ root.map (·.1))
    (distinct : (group.pairs.map (·.1)).Nodup) :
    group.toSection.addTo root = some (root ++ [group.node]) := by
  have entries := entriesOf_pairs group.pairs [] (by simpa using distinct)
  simp only [List.nil_append] at entries
  simp [Section.addTo, Group.toSection, Entries.alongHeader, Section.place,
    Entries.find?_eq_none absent, entries, Entries.set_of_absent absent, Group.node]

theorem foldlM_addTo (groups : List Group)
    (distinct : ∀ group ∈ groups, (group.pairs.map (·.1)).Nodup) :
    ∀ root : Entries, (root.map (·.1) ++ groups.map Group.name).Nodup →
      (groups.map Group.toSection).foldlM Section.addTo root =
        some (root ++ groups.map Group.node) := by
  induction groups with
  | nil => exact fun root _ => by simp
  | cons group groups ih =>
    intro root names
    rw [List.map_cons] at names
    have absent : group.name ∉ root.map (·.1) := fun member =>
      (List.nodup_append.mp names).2.2 _ member _ (List.mem_cons_self ..) rfl
    have added := addTo_toSection absent (distinct group (List.mem_cons_self ..))
    have others := ih (fun other member => distinct other (List.mem_cons_of_mem _ member))
      (root ++ [group.node]) (by simpa [Group.node] using names)
    simp only [List.map_cons, List.foldlM_cons, added, Option.bind_eq_bind, Option.bind_some]
    simpa using others

/-- A document of sections with names of their own, each with keys of its own, is read as
these sections. -/
theorem read?_groups {groups : List Group} (noMark : dropMark s = s)
    (isRead : IsRead s (groups.flatMap Group.lines))
    (names : (groups.map Group.name).Nodup)
    (distinct : ∀ group ∈ groups, (group.pairs.map (·.1)).Nodup) :
    read? s = some (groups.map Group.entry) := by
  have statements := isRead (s.length + 1) (Nat.lt_succ_self _)
  have root := foldlM_addTo groups distinct [] (by simpa using names)
  simp only [List.nil_append] at root
  simp only [read?, noMark, statements, sections_groups, Option.bind_eq_bind, Option.bind_some,
    entriesOf, List.foldlM_nil, Option.pure_def, root, finishEntries_groups]

end Snippet.Toml
