import QueryWorkload.Proofs.Numeral
import QueryWorkload.Sql.Tag

set_option autoImplicit false

namespace QueryWorkload.Sql

inductive Piece where
  | code (text : List Char)
  | literal (value : List Char)
  deriving DecidableEq, Repr

-- The pieces of a text whose first piece has been read up to here. A literal has to end.
def scan : Piece → List Char → Option (List Piece)
  | .code text, [] => some [.code text]
  | .code text, c :: rest =>
    if c = '\'' then (scan (.literal []) rest).map (.code text :: ·)
    else scan (.code (text ++ [c])) rest
  | .literal _, [] => none
  | .literal value, '\'' :: '\'' :: rest => scan (.literal (value ++ ['\''])) rest
  | .literal value, c :: rest =>
    if c = '\'' then (scan (.code []) rest).map (.literal value :: ·)
    else scan (.literal (value ++ [c])) rest

def pieces (text : String) : Option (List Piece) :=
  scan (.code []) text.toList

-- What a reader sees of a text who does not look into its literals.
def Piece.skeleton : Piece → Option (List Char)
  | .code text => some text
  | .literal _ => none

def skeleton (text : String) : Option (List (Option (List Char))) :=
  (pieces text).map (List.map Piece.skeleton)

section Scan

theorem scan_code {run : List Char} (quiet : '\'' ∉ run) (text rest : List Char) :
    scan (.code text) (run ++ rest) = scan (.code (text ++ run)) rest := by
  induction run generalizing text with
  | nil => simp
  | cons c run ih =>
    rw [List.mem_cons, not_or] at quiet
    have later := ih quiet.2 (text ++ [c])
    simpa [scan, Ne.symm quiet.1] using later

-- The quotes inside come in pairs, so none of them is taken for the end.
theorem scan_quoteChars (value s rest : List Char) :
    scan (.literal value) (quoteChars s ++ rest) = scan (.literal (value ++ s)) rest := by
  induction s generalizing value with
  | nil => simp [quoteChars]
  | cons c s ih =>
    have later := ih (value ++ [c])
    by_cases quoted : c = '\''
    · subst quoted
      simpa [quoteChars, scan] using later
    · simpa [quoteChars, scan, quoted] using later

theorem scan_closing {rest : List Char} (apart : rest.head? ≠ some '\'') (value : List Char) :
    scan (.literal value) ('\'' :: rest) = (scan (.code []) rest).map (.literal value :: ·) := by
  cases rest with
  | nil => simp [scan]
  | cons c rest =>
    have other : c ≠ '\'' := by simpa using apart
    simp [scan, other]

theorem scan_quote {run rest : List Char} (quiet : '\'' ∉ run) (apart : rest.head? ≠ some '\'')
    (s : String) :
    scan (.code []) (run ++ ((quote s).toList ++ rest)) =
      (scan (.code []) rest).map (fun later => .code run :: .literal s.toList :: later) := by
  have opened : (quote s).toList ++ rest = '\'' :: (quoteChars s.toList ++ '\'' :: rest) := by
    simp [quote]
  rw [scan_code quiet, opened, List.nil_append]
  simp only [scan, if_true, scan_quoteChars, List.nil_append, scan_closing apart, Option.map_map]
  rfl

structure Parting (text : List Char) : Prop where
  ne_nil : text ≠ []
  quiet : '\'' ∉ text

theorem Parting.head?_append {text : List Char} (parting : Parting text) (rest : List Char) :
    (text ++ rest).head? ≠ some '\'' := by
  obtain ⟨c, text, rfl⟩ := List.exists_cons_of_ne_nil parting.ne_nil
  have other := parting.quiet
  rw [List.mem_cons, not_or] at other
  simpa using Ne.symm other.1

-- Names behind a first one, each after a separator, and what closes the list.
def furtherNames (separator closing : List Char) (names : List String) : List Char :=
  names.flatMap (fun n => separator ++ (quote n).toList) ++ closing

def furtherPieces (separator closing : List Char) (names : List String) : List Piece :=
  names.flatMap (fun n => [.code separator, .literal n.toList]) ++ [.code closing]

theorem scan_names {opening separator closing : List Char} (quiet : '\'' ∉ opening)
    (parting : Parting separator) (last : Parting closing) (n : String) (names : List String) :
    scan (.code []) (opening ++ ((quote n).toList ++ furtherNames separator closing names)) =
      some (.code opening :: .literal n.toList :: furtherPieces separator closing names) := by
  induction names generalizing opening n with
  | nil =>
    have apart := last.head?_append []
    have ended := scan_code last.quiet [] []
    rw [List.append_nil] at apart ended
    rw [furtherNames, List.flatMap_nil, List.nil_append, scan_quote quiet apart, ended]
    rfl
  | cons m names ih =>
    have next : furtherNames separator closing (m :: names) =
        separator ++ ((quote m).toList ++ furtherNames separator closing names) := by
      simp [furtherNames]
    rw [next, scan_quote quiet (parting.head?_append _), ih parting.quiet]
    rfl

theorem skeleton_furtherPieces (separator closing : List Char) (names : List String) :
    (furtherPieces separator closing names).map Piece.skeleton =
      (List.replicate names.length [some separator, none]).flatten ++ [some closing] := by
  induction names with
  | nil => rfl
  | cons n names ih => simpa [furtherPieces, List.replicate_succ, Piece.skeleton] using ih

end Scan

theorem toList_intercalate_map {α : Type} (separator : String) (f : α → String) (a : α)
    (rest : List α) :
    (separator.intercalate ((a :: rest).map f)).toList =
      (f a).toList ++ rest.flatMap fun b => separator.toList ++ (f b).toList := by
  induction rest generalizing a with
  | nil => simp
  | cons b rest ih =>
    rw [List.map_cons, List.map_cons, String.intercalate_cons_cons, ← List.map_cons,
      String.toList_append, ih]
    simp

section Reading

def wordIn (before after : String) (code : List Char) : Option String := do
  let rest ← code.dropPrefix? before.toList
  if rest.dropWhile Char.isAlpha = after.toList then
    some (String.ofList (rest.takeWhile Char.isAlpha))
  else none

-- What a filter tests: the tag set that a row refers to, or columns of the row itself.
inductive TagTest where
  | ofTagSet (column : String) (values : List String)
  | ofRow (alternatives : List (String × String))
  deriving DecidableEq, Repr

def readValues : List Piece → Option (List String)
  | [.literal v, .code closing] =>
    if closing = "))".toList then some [String.ofList v] else none
  | .literal v :: .code separator :: rest =>
    if separator = ",".toList then (readValues rest).map (String.ofList v :: ·) else none
  | _ => none

def readAlternatives (before : String) : List Piece → Option (List (String × String))
  | [.code start, .literal v, .code closing] =>
    if closing = ")".toList then
      (wordIn before " = " start).map fun column => [(column, String.ofList v)]
    else none
  | .code start :: .literal v :: rest => do
    let column ← wordIn before " = " start
    let later ← readAlternatives " OR " rest
    some ((column, String.ofList v) :: later)
  | _ => none

def TagTest.ofPieces? : List Piece → Option TagTest
  | .code start :: rest =>
    match wordIn "tags_id IN (SELECT id FROM tags WHERE " " IN (" start with
    | some column => (readValues rest).map (.ofTagSet column)
    | none => (readAlternatives "(" (.code start :: rest)).map .ofRow
  | _ => none

def TagTest.read (text : String) : Option TagTest :=
  (pieces text).bind ofPieces?

theorem wordIn_append {before after column : String} (letters : ∀ c ∈ column.toList, c.isAlpha = true)
    (ends : Text.Ends Char.isAlpha after.toList) :
    wordIn before after (before ++ column ++ after).toList = some column := by
  have rest : (before ++ column ++ after).toList.dropPrefix? before.toList =
      some (column.toList ++ after.toList) := by
    rw [String.toList_append, String.toList_append, List.append_assoc]
    exact List.dropPrefix?_append_of_beq _ (by simp)
  rw [wordIn, rest]
  simp [Text.takeWhile_run letters ends, Text.dropWhile_run letters ends]

theorem readValues_names (n : String) (names : List String) :
    readValues (.literal n.toList :: furtherPieces ",".toList "))".toList names) =
      some (n :: names) := by
  induction names generalizing n with
  | nil => simp [furtherPieces, readValues]
  | cons m names ih =>
    have next : furtherPieces ",".toList "))".toList (m :: names) =
        .code ",".toList :: .literal m.toList :: furtherPieces ",".toList "))".toList names := rfl
    rw [next, readValues, ih]
    · simp
    · exact nofun

theorem readAlternatives_names {before column : String}
    (letters : ∀ c ∈ column.toList, c.isAlpha = true) (n : String) (names : List String) :
    readAlternatives before
        (.code (before ++ column ++ " = ").toList :: .literal n.toList ::
          furtherPieces (" OR " ++ column ++ " = ").toList ")".toList names) =
      some ((n :: names).map fun m => (column, m)) := by
  have ends : Text.Ends Char.isAlpha " = ".toList := by simp [Text.Ends]
  induction names generalizing before n with
  | nil =>
    rw [furtherPieces, List.flatMap_nil, List.nil_append, readAlternatives, if_pos rfl,
      wordIn_append letters ends]
    simp
  | cons m names ih =>
    have next : furtherPieces (" OR " ++ column ++ " = ").toList ")".toList (m :: names) =
        .code (" OR " ++ column ++ " = ").toList :: .literal m.toList ::
          furtherPieces (" OR " ++ column ++ " = ").toList ")".toList names := rfl
    rw [next, readAlternatives, ih, wordIn_append letters ends]
    · simp
    · intro closing single
      cases single

end Reading

-- A row of a host has the tags of the host in its columns, or the number of a tag set that has them.
structure Row where
  tagsId : Nat
  column : String → String

def Row.RefersIn (row : Row) (tagSets : List (Nat × (String → String))) : Prop :=
  ∀ tags, (row.tagsId, tags) ∈ tagSets ↔ tags = row.column

def TagTest.Selects (tagSets : List (Nat × (String → String))) (row : Row) : TagTest → Prop
  | .ofTagSet column values =>
    ∃ tags, (row.tagsId, tags) ∈ tagSets ∧ tags column ∈ values
  | .ofRow alternatives => ∃ a ∈ alternatives, row.column a.1 = a.2

section Filters

variable {column n : String} {names : List String} {text : String}

theorem toList_separate (made : TagLayout.separate.entityFilter column (n :: names) = .ok text) :
    text.toList =
      ("tags_id IN (SELECT id FROM tags WHERE " ++ column ++ " IN (").toList ++
        ((quote n).toList ++ furtherNames ",".toList "))".toList names) := by
  unfold TagLayout.entityFilter at made
  rw [if_neg (List.cons_ne_nil n names)] at made
  have same := Except.ok.inj made
  subst same
  simp only [String.toList_append, toList_intercalate_map, furtherNames, List.append_assoc]

theorem toList_inlined (made : TagLayout.inlined.entityFilter column (n :: names) = .ok text) :
    text.toList =
      ("(" ++ column ++ " = ").toList ++
        ((quote n).toList ++ furtherNames (" OR " ++ column ++ " = ").toList ")".toList names) := by
  unfold TagLayout.entityFilter at made
  rw [if_neg (List.cons_ne_nil n names)] at made
  have same := Except.ok.inj made
  subst same
  simp only [String.toList_append, toList_intercalate_map, furtherNames, List.append_assoc]

theorem quiet_of_letters (letters : ∀ c ∈ column.toList, c.isAlpha = true) :
    '\'' ∉ column.toList :=
  fun quote => absurd (letters _ quote) (by decide)

variable (letters : ∀ c ∈ column.toList, c.isAlpha = true)

include letters

theorem pieces_separate (made : TagLayout.separate.entityFilter column (n :: names) = .ok text) :
    pieces text =
      some (.code ("tags_id IN (SELECT id FROM tags WHERE " ++ column ++ " IN (").toList ::
        .literal n.toList :: furtherPieces ",".toList "))".toList names) := by
  have quiet := quiet_of_letters letters
  rw [pieces, toList_separate made]
  exact scan_names (by simp [quiet]) ⟨by simp, by simp⟩ ⟨by simp, by simp⟩ n names

theorem pieces_inlined (made : TagLayout.inlined.entityFilter column (n :: names) = .ok text) :
    pieces text =
      some (.code ("(" ++ column ++ " = ").toList :: .literal n.toList ::
        furtherPieces (" OR " ++ column ++ " = ").toList ")".toList names) := by
  have quiet := quiet_of_letters letters
  rw [pieces, toList_inlined made]
  exact scan_names (by simp [quiet]) ⟨by simp, by simp [quiet]⟩ ⟨by simp, by simp⟩ n names

theorem read_separate (made : TagLayout.separate.entityFilter column (n :: names) = .ok text) :
    TagTest.read text = some (.ofTagSet column (n :: names)) := by
  have ends : Text.Ends Char.isAlpha " IN (".toList := by simp [Text.Ends]
  rw [TagTest.read, pieces_separate letters made, Option.bind_some, TagTest.ofPieces?,
    wordIn_append letters ends]
  simp only [readValues_names, Option.map_some]

theorem read_inlined (made : TagLayout.inlined.entityFilter column (n :: names) = .ok text) :
    TagTest.read text = some (.ofRow ((n :: names).map fun m => (column, m))) := by
  have other : wordIn "tags_id IN (SELECT id FROM tags WHERE " " IN ("
      ("(" ++ column ++ " = ").toList = none := by
    simp [wordIn, List.dropPrefix?]
  rw [TagTest.read, pieces_inlined letters made, Option.bind_some, TagTest.ofPieces?, other]
  simp only [readAlternatives_names letters, Option.map_some]

theorem skeleton_eq_of_length_eq {layout : TagLayout} {n' text' : String} {names' : List String}
    (length : names'.length = names.length)
    (made : layout.entityFilter column (n :: names) = .ok text)
    (made' : layout.entityFilter column (n' :: names') = .ok text') :
    skeleton text' = skeleton text := by
  cases layout with
  | separate =>
    simp only [skeleton, pieces_separate letters made, pieces_separate letters made',
      Option.map_some, List.map_cons, skeleton_furtherPieces, Piece.skeleton, length]
  | inlined =>
    simp only [skeleton, pieces_inlined letters made, pieces_inlined letters made',
      Option.map_some, List.map_cons, skeleton_furtherPieces, Piece.skeleton, length]

end Filters

theorem TagLayout.entityFilter_ok (layout : TagLayout) (column : String) {names : List String}
    (named : names ≠ []) : ∃ text, layout.entityFilter column names = .ok text := by
  cases layout <;> exact ⟨_, by simp only [entityFilter, named, if_false]; rfl⟩

theorem selects_ofTagSet {row : Row} {tagSets : List (Nat × (String → String))}
    (refers : row.RefersIn tagSets) (column : String) (values : List String) :
    (TagTest.ofTagSet column values).Selects tagSets row ↔ row.column column ∈ values := by
  constructor
  · intro selected
    obtain ⟨tags, member, listed⟩ := selected
    rw [(refers tags).1 member] at listed
    exact listed
  · intro listed
    exact ⟨row.column, (refers _).2 rfl, listed⟩

theorem selects_ofRow (row : Row) (tagSets : List (Nat × (String → String))) (column : String)
    (values : List String) :
    (TagTest.ofRow (values.map fun v => (column, v))).Selects tagSets row ↔
      row.column column ∈ values := by
  simp [TagTest.Selects]

/-- A filter is read as a test for the names that it was made from, in their order. What stands
outside its literals depends on the number of names only. The filters of both layouts select a row
just if its tag is one of the names. -/
theorem entityFilter_reads_back {column : String} {names : List String}
    (letters : ∀ c ∈ column.toList, c.isAlpha = true) (named : names ≠ []) :
    (∃ text, TagLayout.separate.entityFilter column names = .ok text ∧
      TagTest.read text = some (.ofTagSet column names)) ∧
    (∃ text, TagLayout.inlined.entityFilter column names = .ok text ∧
      TagTest.read text = some (.ofRow (names.map fun n => (column, n)))) ∧
    (∀ (layout : TagLayout) (names' : List String), names'.length = names.length →
      ∃ text text', layout.entityFilter column names = .ok text ∧
        layout.entityFilter column names' = .ok text' ∧ skeleton text' = skeleton text) ∧
    ∀ (row : Row) (tagSets : List (Nat × (String → String))), row.RefersIn tagSets →
      ((TagTest.ofTagSet column names).Selects tagSets row ↔ row.column column ∈ names) ∧
      ((TagTest.ofRow (names.map fun n => (column, n))).Selects tagSets row ↔
        row.column column ∈ names) := by
  obtain ⟨n, names, rfl⟩ := List.exists_cons_of_ne_nil named
  obtain ⟨separate, separated⟩ := TagLayout.separate.entityFilter_ok column named
  obtain ⟨inlined, inlines⟩ := TagLayout.inlined.entityFilter_ok column named
  refine ⟨⟨separate, separated, read_separate letters separated⟩,
    ⟨inlined, inlines, read_inlined letters inlines⟩, ?_, ?_⟩
  · intro layout others length
    obtain ⟨n', names', rfl⟩ := List.exists_cons_of_length_eq_add_one length
    obtain ⟨text, made⟩ := layout.entityFilter_ok column named
    obtain ⟨text', made'⟩ := layout.entityFilter_ok column (List.cons_ne_nil n' names')
    have lengths : names'.length = names.length := Nat.succ.inj length
    exact ⟨text, text', made, made', skeleton_eq_of_length_eq letters lengths made made'⟩
  · intro row tagSets refers
    exact ⟨selects_ofTagSet refers column _, selects_ofRow row tagSets column _⟩

-- A name that ends the literal, one that looks like further code, one that is a quote, an empty one.
-- The row is that of a host whose name is a quote.
theorem entityFilter_of_quotes :
    let names := ["o'neil')) --", "a' OR 'a' = 'a", "'", "", "x','y"]
    let row : Row := ⟨1, fun _ => "'"⟩
    ∃ text text' test test', TagLayout.separate.entityFilter "hostname" names = .ok text ∧
      TagTest.read text = some test ∧ test = .ofTagSet "hostname" names ∧
      TagLayout.inlined.entityFilter "hostname" names = .ok text' ∧
      TagTest.read text' = some test' ∧ test' = .ofRow (names.map fun n => ("hostname", n)) ∧
      test.Selects [(1, row.column)] row ∧ test'.Selects [(1, row.column)] row := by
  intro names row
  have letters : ∀ c ∈ "hostname".toList, c.isAlpha = true := by simp
  have named : names ≠ [] := List.cons_ne_nil _ _
  obtain ⟨⟨text, made, read⟩, ⟨text', made', read'⟩, _, selects⟩ :=
    entityFilter_reads_back letters named
  have refers : row.RefersIn [(1, row.column)] := by simp [Row.RefersIn, row]
  have listed : row.column "hostname" ∈ names := by simp [row, names]
  obtain ⟨selected, selected'⟩ := selects row [(1, row.column)] refers
  exact ⟨text, text', _, _, made, read, rfl, made', read', rfl, selected.2 listed,
    selected'.2 listed⟩

end QueryWorkload.Sql
