/-
Statements are read back, whatever the names in them.

Between its quotes a name is read character by character, and a quote in it, which is
written twice, neither ends it nor is lost.  So the pieces of a statement are those that
it was put together from: a comma, a bracket or a word inside a name never counts as one
of the statement's own.  The commas and the closing bracket that are left then mark the
columns.
-/
import DatasetSync.Database.Scanner

namespace DatasetSync.Statement

/-! ### Reading piece by piece -/

/-- The scanner reads some pieces in front of the rest of a text, and goes on with the rest. -/
def Reads (text : List Char) (tokens : List Token) (rest : List Char) : Prop :=
  scan .nothing text = (scan .nothing rest).map (tokens ++ ·)

/-- The character ends a word or a name in front of it. -/
structure Ends (c : Char) : Prop where
  noQuote : c ≠ '"'
  noPart : isNamePart c = false

/-- The text stands without quotes, as one word. -/
structure IsWord (word : String) : Prop where
  ne_empty : word ≠ ""
  parts : word.toList.all isNamePart = true

instance (word : String) : Decidable (IsWord word) :=
  decidable_of_iff (word ≠ "" ∧ word.toList.all isNamePart = true)
    ⟨fun h => ⟨h.1, h.2⟩, fun h => ⟨h.1, h.2⟩⟩

section

variable {text middle rest : List Char} {before behind : List Token} {c : Char}

theorem Reads.refl (text : List Char) : Reads text [] text := by
  simp [Reads]

theorem Reads.trans (h : Reads text before middle) (h' : Reads middle behind rest) :
    Reads text (before ++ behind) rest := by
  unfold Reads at h h' ⊢
  rw [h, h', Option.map_map]
  congr 1
  funext tokens
  exact (List.append_assoc before behind tokens).symm

theorem Reads.scan_eq (h : Reads text before []) : scan .nothing text = some before := by
  simpa [Reads, scan, Inside.ended] using h

/-! ### Marks and spaces -/

theorem reads_of_begin (h : begin? c = some (before, .nothing)) (rest : List Char) :
    Reads (c :: rest) before rest := by
  simp [Reads, scan, Inside.step, h]

theorem reads_space (h : isSpace c = true) (rest : List Char) : Reads (c :: rest) [] rest := by
  have hspace : c = ' ' ∨ c = '\t' ∨ c = '\n' ∨ c = '\x0c' ∨ c = '\r' := by
    simpa [isSpace, or_assoc] using h
  refine reads_of_begin ?_ rest
  rcases hspace with rfl | rfl | rfl | rfl | rfl <;> rfl

theorem reads_spaces {spaces : List Char} (h : spaces.all isSpace = true)
    (rest : List Char) : Reads (spaces ++ rest) [] rest := by
  induction spaces with
  | nil => exact Reads.refl rest
  | cons c others ih =>
      rw [List.all_cons, Bool.and_eq_true] at h
      exact (reads_space h.1 (others ++ rest)).trans (ih h.2)

theorem reads_blank (rest : List Char) : Reads (' ' :: rest) [] rest :=
  reads_space (by decide) rest

theorem reads_newline (rest : List Char) : Reads ('\n' :: rest) [] rest :=
  reads_space (by decide) rest

theorem reads_opening (rest : List Char) : Reads ('(' :: rest) [.opening] rest :=
  reads_of_begin rfl rest

theorem reads_closing (rest : List Char) : Reads (')' :: rest) [.closing] rest :=
  reads_of_begin rfl rest

theorem reads_place (rest : List Char) : Reads ('?' :: rest) [.place] rest :=
  reads_of_begin rfl rest

/-! ### Names and words -/

/-- A character that completes no piece only changes what the scanner is in. -/
theorem scan_of_step {inside next : Inside} (h : inside.step c = some ([], next))
    (rest : List Char) : scan inside (c :: rest) = scan next rest := by
  simp [scan, h]

/-- A word or a name ends in front of a character that is read as if nothing came before it. -/
theorem scan_of_leave {inside : Inside} (hstep : inside.step c = inside.leave c)
    (hended : inside.ended = some before) (rest : List Char) :
    scan inside (c :: rest) = (scan .nothing (c :: rest)).map (before ++ ·) := by
  have hnothing : Inside.nothing.step c = begin? c := rfl
  cases hbegin : begin? c with
  | none => simp [scan, hstep, hnothing, Inside.leave, hended, hbegin]
  | some first =>
      simp [scan, hstep, hnothing, Inside.leave, hended, hbegin, Function.comp_def]

/-- A name with its quotes written twice is kept character by character. -/
theorem scan_doubleQuotes (name done rest : List Char) :
    scan (.name done) (doubleQuotes name ++ rest) = scan (.name (name.reverse ++ done)) rest := by
  induction name generalizing done with
  | nil => rfl
  | cons c others ih =>
      by_cases hc : c = '"'
      · subst hc
        have hopened : (Inside.name done).step '"' = some ([], .quoteSeen done) := rfl
        have hdoubled : (Inside.quoteSeen done).step '"' = some ([], .name ('"' :: done)) := rfl
        rw [doubleQuotes, if_pos rfl, List.cons_append, List.cons_append, scan_of_step hopened,
          scan_of_step hdoubled, ih]
        simp
      · have hkept : (Inside.name done).step c = some ([], .name (c :: done)) := by
          simp [Inside.step, hc]
        rw [doubleQuotes, if_neg hc, List.cons_append, scan_of_step hkept, ih]
        simp

/-- **A quoted name is read back**, whatever characters it has. -/
theorem reads_quoteName (name : String) (hc : Ends c) (rest : List Char) :
    Reads ((quoteName name).toList ++ c :: rest) [.name name] (c :: rest) := by
  have hopened : Inside.nothing.step '"' = some ([], .name []) := rfl
  have hclosed : (Inside.name name.toList.reverse).step '"' =
      some ([], .quoteSeen name.toList.reverse) := rfl
  have hleft : (Inside.quoteSeen name.toList.reverse).step c =
      (Inside.quoteSeen name.toList.reverse).leave c := by
    simp [Inside.step, hc.noQuote]
  have hended : (Inside.quoteSeen name.toList.reverse).ended = some [.name name] := by
    simp [Inside.ended]
  have htext : (quoteName name).toList ++ c :: rest =
      '"' :: (doubleQuotes name.toList ++ '"' :: c :: rest) := by
    simp [quoteName]
  unfold Reads
  rw [htext, scan_of_step hopened, scan_doubleQuotes, List.append_nil, scan_of_step hclosed,
    scan_of_leave hleft hended]

theorem begin?_of_isNamePart (h : isNamePart c = true) : begin? c = some ([], .word [c]) := by
  have hother : ∀ d, isNamePart d = false → c ≠ d := by
    rintro d hd rfl
    rw [h] at hd
    contradiction
  have hspace : isSpace c = false := by
    simp [isSpace, hother ' ' (by decide), hother '\t' (by decide), hother '\n' (by decide),
      hother '\x0c' (by decide), hother '\r' (by decide)]
  simp [begin?, hother '"' (by decide), hother '(' (by decide), hother ')' (by decide),
    hother ',' (by decide), hother '?' (by decide), hspace, h]

theorem scan_wordParts {word : List Char} (h : word.all isNamePart = true)
    (done rest : List Char) :
    scan (.word done) (word ++ rest) = scan (.word (word.reverse ++ done)) rest := by
  induction word generalizing done with
  | nil => rfl
  | cons c others ih =>
      rw [List.all_cons, Bool.and_eq_true] at h
      have hkept : (Inside.word done).step c = some ([], .word (c :: done)) := by
        simp [Inside.step, h.1]
      rw [List.cons_append, scan_of_step hkept, ih h.2]
      simp

/-- A word is read up to the character that ends it. -/
theorem reads_word {word : String} (h : IsWord word) (hc : isNamePart c = false)
    (rest : List Char) : Reads (word.toList ++ c :: rest) [.word word] (c :: rest) := by
  have hparts := h.parts
  cases hword : word.toList with
  | nil => exact absurd (String.toList_eq_nil_iff.mp hword) h.ne_empty
  | cons first others =>
      rw [hword, List.all_cons, Bool.and_eq_true] at hparts
      have hbegun : Inside.nothing.step first = some ([], .word [first]) :=
        begin?_of_isNamePart hparts.1
      have hleft : (Inside.word (others.reverse ++ [first])).step c =
          (Inside.word (others.reverse ++ [first])).leave c := by
        simp [Inside.step, hc]
      have hended : (Inside.word (others.reverse ++ [first])).ended = some [.word word] := by
        simp [Inside.ended, ← hword]
      unfold Reads
      rw [List.cons_append, scan_of_step hbegun,
        scan_wordParts hparts.2, scan_of_leave hleft hended]

/-- A word in front of a blank is read with the blank. -/
theorem reads_keyword {word : String} (h : IsWord word) (rest : List Char) :
    Reads (word.toList ++ ' ' :: rest) [.word word] rest :=
  (reads_word h (by decide) rest).trans (reads_blank rest)

/-! ### Lists -/

theorem ends_blank : Ends ' ' := ⟨by decide, by decide⟩

theorem ends_comma : Ends ',' := ⟨by decide, by decide⟩

theorem ends_closing : Ends ')' := ⟨by decide, by decide⟩

theorem ends_newline : Ends '\n' := ⟨by decide, by decide⟩

/-- Texts with commas between them are read one after the other. -/
theorem reads_intercalate {α : Type} (separator : String) {spaces : List Char}
    (hseparator : separator.toList = ',' :: spaces) (hspaces : spaces.all isSpace = true)
    {written : α → String} {pieces : α → List Token} {items : List α}
    (hitems : ∀ a ∈ items, ∀ d rest, Ends d →
      Reads ((written a).toList ++ d :: rest) (pieces a) (d :: rest))
    (hc : Ends c) (rest : List Char) :
    Reads ((separator.intercalate (items.map written)).toList ++ c :: rest)
      ([Token.comma].intercalate (items.map pieces)) (c :: rest) := by
  induction items with
  | nil => exact Reads.refl (c :: rest)
  | cons a others ih =>
      cases others with
      | nil => simpa using hitems a (by simp) c rest hc
      | cons next more =>
          have hfirst := hitems a (by simp) ',' (spaces ++
            ((separator.intercalate ((next :: more).map written)).toList ++ c :: rest)) ends_comma
          have hcomma : begin? ',' = some ([Token.comma], .nothing) := rfl
          have hmore := ih fun b hb => hitems b (by simp [hb])
          have hread := hfirst.trans ((reads_of_begin hcomma _).trans
            ((reads_spaces hspaces _).trans hmore))
          simpa [String.intercalate_cons_cons, List.intercalate_cons_cons, hseparator] using hread

/-- Pieces that a list in brackets takes for one part. -/
structure IsPart (part : List Token) : Prop where
  ne_nil : part ≠ []
  noComma : Token.comma ∉ part
  noClosing : Token.closing ∉ part

theorem closing_not_mem_intercalate {parts : List (List Token)}
    (hparts : ∀ part ∈ parts, IsPart part) : Token.closing ∉ [Token.comma].intercalate parts := by
  induction parts with
  | nil => simp
  | cons part others ih =>
      have hpart : Token.closing ∉ part := (hparts part (by simp)).noClosing
      have hothers := ih fun other hother => hparts other (by simp [hother])
      cases others with
      | nil => simpa using hpart
      | cons next more =>
          rw [List.intercalate_cons_cons, List.mem_append, List.mem_append]
          rintro ((hmem | hmem) | hmem)
          · exact hpart hmem
          · exact absurd (List.mem_singleton.mp hmem) (by decide)
          · exact hothers hmem

theorem intercalate_ne_nil {parts : List (List Token)} (hsome : parts ≠ [])
    (hparts : ∀ part ∈ parts, IsPart part) : [Token.comma].intercalate parts ≠ [] := by
  cases parts with
  | nil => exact absurd rfl hsome
  | cons part others =>
      have hpart : part ≠ [] := (hparts part (by simp)).ne_nil
      cases others with
      | nil => simpa using hpart
      | cons next more => simp

/-- **The parts of a list in brackets** are those that were put between its commas. -/
theorem takeList?_intercalate {parts : List (List Token)} (hparts : ∀ part ∈ parts, IsPart part)
    (behind : List Token) :
    takeList? (.opening :: ([Token.comma].intercalate parts ++ .closing :: behind)) =
      some (parts, behind) := by
  have hinside : ∀ token ∈ [Token.comma].intercalate parts,
      decide (token ≠ .closing) = true := by
    intro token htoken
    rw [decide_eq_true_eq]
    rintro rfl
    exact closing_not_mem_intercalate hparts htoken
  have htaken : ([Token.comma].intercalate parts ++ .closing :: behind).takeWhile
      (· ≠ .closing) = [Token.comma].intercalate parts := by
    rw [List.takeWhile_append_of_pos hinside]
    simp
  have hleft : ([Token.comma].intercalate parts ++ .closing :: behind).dropWhile
      (· ≠ .closing) = .closing :: behind := by
    rw [List.dropWhile_append_of_pos hinside]
    simp
  simp only [takeList?, htaken, hleft]
  by_cases hsome : parts = []
  · simp [hsome]
  · rw [if_neg (intercalate_ne_nil hsome hparts),
      List.splitOn_intercalate _ (fun part hpart => (hparts part hpart).noComma) hsome]

/-! ### Definitions of tables -/

/-- The pieces of the definition of a column. -/
def columnTokens (column : Column) : List Token :=
  [.name column.name, .word column.type.word] ++
    if column.nullable then [] else [.word "NOT", .word "NULL"]

/-- The pieces of the statement that creates a table. -/
def createTableTokens (s : Schema) : List Token :=
  [.word "CREATE", .word "TABLE", .name s.name] ++
    .opening :: ([Token.comma].intercalate (s.columns.map columnTokens) ++ [.closing])

theorem isWord_typeWord (type : ColumnType) : IsWord type.word := by
  cases type <;> decide

theorem reads_columnDefinition (column : Column) (hc : Ends c) (rest : List Char) :
    Reads ((columnDefinition column).toList ++ c :: rest) (columnTokens column) (c :: rest) := by
  have hindent : [' ', ' ', ' ', ' '].all isSpace = true := by decide
  have htype := isWord_typeWord column.type
  -- What stands in front of the type, whatever follows it.
  have hname (more : List Char) : Reads
      ([' ', ' ', ' ', ' '] ++ ((quoteName column.name).toList ++ ' ' :: more))
      [.name column.name] more :=
    ((reads_spaces hindent _).trans (reads_quoteName column.name ends_blank more)).trans
      (reads_blank more)
  cases hnullable : column.nullable with
  | true =>
      have hread := (hname _).trans (reads_word htype hc.noPart rest)
      simpa [columnDefinition, columnTokens, hnullable] using hread
  | false =>
      have hnull := reads_word (show IsWord "NULL" by decide) hc.noPart rest
      have hnot := (reads_keyword (show IsWord "NOT" by decide) _).trans hnull
      have hread := (hname _).trans ((reads_keyword htype _).trans hnot)
      simpa [columnDefinition, columnTokens, hnullable] using hread

theorem toList_createTable (s : Schema) :
    (createTable s).toList = "CREATE".toList ++ ' ' :: ("TABLE".toList ++ ' ' ::
      ((quoteName s.name).toList ++ ' ' :: '(' :: '\n' ::
        ((",\n".intercalate (s.columns.map columnDefinition)).toList ++ ['\n', ')']))) := by
  unfold createTable
  simp

/-- **The pieces of a definition** are those that it was put together from. -/
theorem tokens?_createTable (s : Schema) : tokens? (createTable s) = some (createTableTokens s) := by
  have hend : Reads ['\n', ')'] [.closing] [] :=
    (reads_newline [')']).trans (reads_closing [])
  have hcolumns := (reads_intercalate ",\n" rfl (by decide)
    (fun column (_ : column ∈ s.columns) d rest hd => reads_columnDefinition column hd rest)
    ends_newline [')']).trans hend
  have hopened := (reads_opening _).trans ((reads_newline _).trans hcolumns)
  have htable := (reads_quoteName s.name ends_blank _).trans
    ((reads_blank _).trans hopened)
  have hcreate := (reads_keyword (show IsWord "CREATE" by decide) _).trans
    ((reads_keyword (show IsWord "TABLE" by decide) _).trans htable)
  rw [tokens?, toList_createTable]
  exact hcreate.scan_eq

/-! ### Insertions -/

/-- The pieces of the statement that inserts a row. -/
def insertRowTokens (s : Schema) : List Token :=
  [.word "INSERT", .word "INTO", .name s.name] ++
    .opening :: ([Token.comma].intercalate (s.columnNames.map fun name => [.name name]) ++
      .closing :: .word "VALUES" ::
        .opening :: ([Token.comma].intercalate (s.columns.map fun _ => [.place]) ++ [.closing]))

theorem toList_insertRow (s : Schema) :
    (insertRow s).toList = "INSERT".toList ++ ' ' :: ("INTO".toList ++ ' ' ::
      ((quoteName s.name).toList ++ ' ' :: '(' ::
        ((", ".intercalate (s.columnNames.map quoteName)).toList ++ ')' :: ' ' ::
          ("VALUES".toList ++ ' ' :: '(' ::
            ((", ".intercalate (s.columns.map fun _ => "?")).toList ++ [')']))))) := by
  unfold insertRow
  simp [Schema.columnNames, Function.comp_def]

theorem tokens?_insertRow (s : Schema) : tokens? (insertRow s) = some (insertRowTokens s) := by
  have hplace : ∀ column ∈ s.columns, ∀ d rest, Ends d →
      Reads ("?".toList ++ d :: rest) [.place] (d :: rest) :=
    fun _ _ d rest _ => reads_place (d :: rest)
  have hplaces := (reads_intercalate ", " rfl (by decide) hplace ends_closing []).trans
    (reads_closing [])
  have hvalues := (reads_keyword (show IsWord "VALUES" by decide) _).trans
    ((reads_opening _).trans hplaces)
  have hcolumns := (reads_intercalate ", " rfl (by decide)
    (fun name (_ : name ∈ s.columnNames) d rest hd => reads_quoteName name hd rest)
    ends_closing _).trans ((reads_closing _).trans ((reads_blank _).trans hvalues))
  have htable := (reads_quoteName s.name ends_blank _).trans
    ((reads_blank _).trans ((reads_opening _).trans hcolumns))
  have hinsert := (reads_keyword (show IsWord "INSERT" by decide) _).trans
    ((reads_keyword (show IsWord "INTO" by decide) _).trans htable)
  rw [tokens?, toList_insertRow]
  exact hinsert.scan_eq

end

/-! ### Reading statements back -/

theorem typeOf?_word (type : ColumnType) : typeOf? type.word = some type := by
  cases type <;> decide

theorem columnOf?_columnTokens (column : Column) : columnOf? (columnTokens column) = some column := by
  obtain ⟨name, type, nullable⟩ := column
  cases nullable <;> simp [columnTokens, columnOf?, typeOf?_word]

theorem isPart_columnTokens (column : Column) : IsPart (columnTokens column) := by
  constructor <;> cases h : column.nullable <;> simp [columnTokens, h]

/-- What is read of each item is the item. -/
theorem mapM_map_eq_some {α β : Type} {read : β → Option α} {written : α → β}
    (h : ∀ a, read (written a) = some a) (items : List α) :
    (items.map written).mapM read = some items := by
  induction items with
  | nil => rfl
  | cons a others ih => simp [h, ih]

theorem schemaOf?_createTable (s : Schema) : schemaOf? (createTable s) = some s := by
  have hparts : ∀ part ∈ s.columns.map columnTokens, IsPart part := by
    intro part hpart
    obtain ⟨column, -, rfl⟩ := List.mem_map.mp hpart
    exact isPart_columnTokens column
  have hlist := takeList?_intercalate hparts []
  have hcolumns := mapM_map_eq_some columnOf?_columnTokens s.columns
  simp [schemaOf?, tokens?_createTable, createTableTokens, hlist, hcolumns]

theorem insertionOf?_insertRow (s : Schema) :
    insertionOf? (insertRow s) = some ⟨s.name, s.columnNames, s.columns.length⟩ := by
  have hnameParts : ∀ part ∈ s.columnNames.map fun name => [Token.name name], IsPart part := by
    intro part hpart
    obtain ⟨name, -, rfl⟩ := List.mem_map.mp hpart
    constructor <;> simp
  have hplaceParts : ∀ part ∈ s.columns.map fun _ => [Token.place], IsPart part := by
    intro part hpart
    obtain ⟨column, -, rfl⟩ := List.mem_map.mp hpart
    constructor <;> simp
  have hname : ∀ name, nameOf? [.name name] = some name := fun _ => rfl
  have hnames := mapM_map_eq_some hname s.columnNames
  have hvalues := takeList?_intercalate hplaceParts []
  have hplaces : (s.columns.map fun _ => [Token.place]).all (· = [.place]) = true := by
    rw [List.all_eq_true]
    intro part hpart
    obtain ⟨column, -, rfl⟩ := List.mem_map.mp hpart
    rfl
  simp only [insertionOf?, tokens?_insertRow, insertRowTokens, List.cons_append, List.nil_append,
    Option.bind_eq_bind, Option.bind_some, takeList?_intercalate hnameParts, hvalues, hplaces,
    hnames, if_true, List.length_map, Option.pure_def]

/-- **Statements are read back**, whatever characters the names have: a definition gives its schema,
and an insertion its table, its columns in order and one place for each.  So no two schemas have one
definition. -/
theorem statements_read_back :
    (∀ s : Schema, schemaOf? (createTable s) = some s ∧
      insertionOf? (insertRow s) = some ⟨s.name, s.columnNames, s.columns.length⟩) ∧
    Function.Injective createTable := by
  refine ⟨fun s => ⟨schemaOf?_createTable s, insertionOf?_insertRow s⟩, ?_⟩
  intro s t heq
  have hs := schemaOf?_createTable s
  rw [heq, schemaOf?_createTable t] at hs
  exact (Option.some.inj hs).symm

example :
    schemaOf? "CREATE TABLE \"t\" (\"a\"\" TEXT,\n  \"\"b\" REAL NOT NULL)" =
      some ⟨"t", [⟨"a\" TEXT,\n  \"b", .real, false⟩]⟩ := by
  decide

end DatasetSync.Statement
