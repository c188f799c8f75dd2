import SymbolAtlas.Export.Format
import SymbolAtlas.Proofs.Export.Groups
import SymbolAtlas.Proofs.Store.Listing
import SymbolAtlas.Proofs.Text.Delimited
import SymbolAtlas.Proofs.Text.Split

/-!
# The Markdown export can be read back

As long as no text holds a line feed, two exports are equal just when they show the same.
Every symbol then has one line, and the bare pipes of that line, those that no backslash
stands directly before, are the five around its four cells. Only pipes are escaped, and
backslashes are not. A text may therefore end in a backslash; what keeps the pipe behind
it bare is the blank that pads every cell.

Nothing in an export is closed. A table ends where a line does not begin with a pipe, and
a file ends where neither a table nor the heading of a type follows, so each part is told
apart only before what can come behind it.
-/

namespace SymbolAtlas

/-- None of the texts of a symbol that an export shows holds a line feed. -/
structure Symbol.IsUnbroken (symbol : Symbol) : Prop where
  filePath : '\n' ∉ symbol.filePath.toList
  className : ∀ name ∈ symbol.className, '\n' ∉ name.toList
  name : '\n' ∉ symbol.name.toList
  signature : ∀ text ∈ symbol.signature, '\n' ∉ text.toList

/-- None of the texts that a group shows holds a line feed. -/
structure ClassGroup.IsUnbroken (group : ClassGroup) : Prop where
  className : ∀ name ∈ group.className, '\n' ∉ name.toList
  members : ∀ symbol ∈ group.members, symbol.IsUnbroken

/-- None of the texts that a file shows holds a line feed. -/
structure FileGroup.IsUnbroken (file : FileGroup) : Prop where
  path : '\n' ∉ file.path.toList
  classes : ∀ group ∈ file.classes, group.IsUnbroken

/-- Files and groups have their texts from symbols. -/
theorem isUnbroken_groupByFile {symbols : List Symbol}
    (unbroken : ∀ symbol ∈ symbols, symbol.IsUnbroken) :
    ∀ file ∈ groupByFile symbols, file.IsUnbroken := by
  intro file inside
  obtain ⟨nonempty, members⟩ := fits_groupByFile symbols file inside
  have given {group : ClassGroup} {symbol : Symbol} (among : group ∈ file.classes)
      (within : symbol ∈ group.members) : symbol.IsUnbroken := by
    apply unbroken
    rw [← (perm_groupByFile symbols).mem_iff]
    exact List.mem_flatMap.2 ⟨file, inside, List.mem_flatMap.2 ⟨group, among, within⟩⟩
  have filled {group : ClassGroup} (among : group ∈ file.classes) :
      ∃ symbol ∈ group.members, True := by
    simpa using List.exists_mem_of_ne_nil _
      ((grouped_groupByFile symbols file inside).nonempty group among)
  constructor
  · obtain ⟨group, among⟩ := List.exists_mem_of_ne_nil _ nonempty
    obtain ⟨symbol, within, -⟩ := filled among
    rw [← (members group among symbol within).1]
    exact (given among within).filePath
  · intro group among
    obtain ⟨symbol, within, -⟩ := filled among
    refine ⟨?_, fun symbol within => given among within⟩
    rw [← (members group among symbol within).2]
    exact (given among within).className

namespace Markdown

open Text

/-- The pieces of a line between its bare pipes, given whether a backslash stands
directly before it. -/
def barePieces (guarded : Bool) : List Char → List (List Char)
  | [] => [[]]
  | c :: rest =>
    if c = '|' && !guarded then [] :: barePieces false rest
    else match barePieces (c = '\\') rest with
      | [] => [[c]]
      | piece :: pieces => (c :: piece) :: pieces

/-- A text from inside a cell without the backslash that stands before each pipe. -/
def uncell : List Char → List Char
  | '\\' :: '|' :: rest => '|' :: uncell rest
  | c :: rest => c :: uncell rest
  | [] => []

/-- A cell with the blanks that pad it. -/
def padded (content : String) : List Char :=
  ' ' :: content.toList ++ [' ']

/-- The line of a symbol, without its line feed. -/
def rowLine (symbol : Symbol) : String :=
  "| " ++ symbol.kind.text ++ " | " ++ cell symbol.name ++ " | " ++ toString symbol.line ++
    " | " ++ signatureCell symbol.signature ++ " |"

/-- The first line of a table. -/
def headerLine : String := "| Kind | Name | Line | Signature |"

/-- Whether a line is that of a symbol: it begins like one and is not the first of a
table. -/
def isRowLine (line : List Char) : Bool :=
  "| ".toList.isPrefixOf line && line != headerLine.toList

/-- The lines of a text that are those of symbols. -/
def rowLines (text : List Char) : List (List Char) :=
  (splitWhen (· = '\n') text).filter isRowLine

/-- A text inside a cell, character by character. -/
theorem toList_cell (text : String) :
    (cell text).toList = replaceChar '|' ['\\', '|'] text.toList := by
  rw [cell, String.toList_ofList]

/-- What is written of a text begins with no pipe. -/
theorem head?_replaceChar_ne (text : List Char) :
    (replaceChar '|' ['\\', '|'] text).head? ≠ some '|' := by
  cases text with
  | nil => simp [replaceChar]
  | cons c rest =>
    by_cases pipe : c = '|'
    · simp [replaceChar, pipe]
    · simp [replaceChar, pipe]

/-- Only a backslash before a pipe is taken away. -/
theorem uncell_cons {c : Char} {rest : List Char} (bare : c ≠ '\\' ∨ rest.head? ≠ some '|') :
    uncell (c :: rest) = c :: uncell rest := by
  conv_lhs => unfold uncell
  split
  next behind same =>
    obtain ⟨rfl, rfl⟩ := List.cons.inj same
    simp at bare
  next d others _ same =>
    obtain ⟨rfl, rfl⟩ := List.cons.inj same
    rfl
  next same => cases same

/-- What is written in a cell reads back. -/
theorem uncell_cell (text : String) : uncell (cell text).toList = text.toList := by
  rw [toList_cell]
  induction text.toList with
  | nil => rfl
  | cons c rest hypothesis =>
    have later : replaceChar '|' ['\\', '|'] (c :: rest) =
        (if c = '|' then ['\\', '|'] else [c]) ++ replaceChar '|' ['\\', '|'] rest := rfl
    rw [later]
    by_cases pipe : c = '|'
    · subst pipe
      simp [uncell, hypothesis]
    · rw [if_neg pipe, List.singleton_append, uncell_cons (.inr (head?_replaceChar_ne rest)),
        hypothesis]

/-- A text without pipes has no bare ones. -/
theorem barePieces_of_notMem {text : List Char} (free : '|' ∉ text) (guarded : Bool) :
    barePieces guarded text = [text] := by
  induction text generalizing guarded with
  | nil => rfl
  | cons c rest hypothesis =>
    obtain ⟨first, others⟩ := not_or.1 (List.mem_cons.not.1 free)
    simp [barePieces, Ne.symm first, hypothesis others]

/-- No pipe of a text in a cell is bare. -/
theorem barePieces_cell (text : String) (guarded : Bool) :
    barePieces guarded (cell text).toList = [(cell text).toList] := by
  rw [toList_cell]
  induction text.toList generalizing guarded with
  | nil => rfl
  | cons c rest hypothesis =>
    have later : replaceChar '|' ['\\', '|'] (c :: rest) =
        (if c = '|' then ['\\', '|'] else [c]) ++ replaceChar '|' ['\\', '|'] rest := rfl
    rw [later]
    by_cases pipe : c = '|'
    · subst pipe
      simp [barePieces, hypothesis]
    · simp [barePieces, pipe, hypothesis]

/-- There is always a piece. -/
theorem barePieces_ne_nil (guarded : Bool) (text : List Char) : barePieces guarded text ≠ [] := by
  cases text with
  | nil => simp [barePieces]
  | cons c rest =>
    rw [barePieces]
    split
    · simp
    · split <;> simp

/-- A text without bare pipes goes to the first piece of what follows it, unless that
begins with a pipe. -/
theorem barePieces_append {text rest piece : List Char} {pieces : List (List Char)}
    {guarded : Bool} {c : Char} (whole : barePieces guarded text = [text]) (plain : c ≠ '|')
    (pieced : barePieces (c = '\\') rest = piece :: pieces) :
    barePieces guarded (text ++ c :: rest) = (text ++ c :: piece) :: pieces := by
  induction text generalizing guarded with
  | nil => simp [barePieces, plain, pieced]
  | cons first others hypothesis =>
    rw [barePieces] at whole
    split at whole
    · simp at whole
    · rename_i kept
      have later : barePieces (first = '\\') others = [others] := by
        obtain ⟨found, more, split⟩ :=
          List.exists_cons_of_ne_nil (barePieces_ne_nil (first = '\\') others)
        rw [split] at whole ⊢
        simpa using whole
      rw [List.cons_append, barePieces, if_neg kept, hypothesis later]
      rfl

/-- The pipe behind a padded text is bare, whatever the text ends in. -/
theorem barePieces_padded {content : String} (whole : barePieces false content.toList =
    [content.toList]) (rest : List Char) :
    barePieces false (padded content ++ '|' :: rest) = padded content :: barePieces false rest := by
  have blank : barePieces false (' ' :: content.toList) = [' ' :: content.toList] := by
    simp [barePieces, whole]
  have behind : barePieces false ('|' :: rest) = [] :: barePieces false rest := by
    simp [barePieces]
  have cut := barePieces_append blank (by decide : ' ' ≠ '|') behind
  simpa [padded] using cut

/-- A line number is written with digits and a sign. -/
theorem notMem_toString {c : Char} (plain : c.isDigit = false) (unsigned : c ≠ '-')
    (line : Int) : c ∉ (toString line).toList := by
  have digits (number : Nat) : c ∉ number.repr.toList := by
    intro inside
    rw [Nat.repr_eq_ofList_toDigits, String.toList_ofList] at inside
    have digit := Nat.isDigit_of_mem_toDigits (by decide) (by decide) inside
    simp [plain] at digit
  change c ∉ line.repr.toList
  rw [Int.repr_eq_if]
  split
  · exact digits _
  · simpa [unsigned] using digits _

/-- No pipe of a signature in its cell is bare. -/
theorem barePieces_signatureCell (signature : Option String) :
    barePieces false (signatureCell signature).toList = [(signatureCell signature).toList] := by
  cases signature with
  | none => rfl
  | some text =>
    have opened : barePieces false ('`' :: (cell text).toList) = ['`' :: (cell text).toList] := by
      simp [barePieces, barePieces_cell]
    have closed := barePieces_append opened (by decide : '`' ≠ '|')
      (rfl : barePieces false [] = [[]])
    simpa [signatureCell] using closed

/-- The line of a symbol as its padded cells between pipes. -/
theorem toList_rowLine (symbol : Symbol) :
    (rowLine symbol).toList =
      '|' :: (padded symbol.kind.text ++ '|' :: (padded (cell symbol.name) ++
        '|' :: (padded (toString symbol.line) ++
          '|' :: (padded (signatureCell symbol.signature) ++ ['|'])))) := by
  simp [rowLine, padded]

/-- Between its bare pipes the line of a symbol has four cells. -/
theorem barePieces_rowLine (symbol : Symbol) :
    barePieces false (rowLine symbol).toList =
      [[], padded symbol.kind.text, padded (cell symbol.name), padded (toString symbol.line),
        padded (signatureCell symbol.signature), []] := by
  have kind : '|' ∉ symbol.kind.text.toList := by
    cases symbol.kind <;> decide
  have line : '|' ∉ (toString symbol.line).toList := notMem_toString (by decide) (by decide) _
  rw [toList_rowLine, barePieces, if_pos (by decide),
    barePieces_padded (barePieces_of_notMem kind false),
    barePieces_padded (barePieces_cell symbol.name false),
    barePieces_padded (barePieces_of_notMem line false),
    barePieces_padded (barePieces_signatureCell symbol.signature)]
  rfl

/-- A padded cell tells its content. -/
theorem padded_inj {content other : String} (same : padded content = padded other) :
    content = other := by
  have tails := (List.cons.inj same).2
  exact String.toList_inj.1 (List.append_cancel_right tails)

/-- The cell of a text tells the text. -/
theorem cell_inj {text other : String} (same : cell text = cell other) : text = other := by
  rw [← String.toList_inj, ← uncell_cell text, ← uncell_cell other, same]

/-- The cell of a signature tells the signature, and whether there is one. -/
theorem signatureCell_inj {signature other : Option String}
    (same : signatureCell signature = signatureCell other) : signature = other := by
  cases signature with
  | none =>
    cases other with
    | none => rfl
    | some text => simp [signatureCell, ← String.toList_inj] at same
  | some text =>
    cases other with
    | none => simp [signatureCell, ← String.toList_inj] at same
    | some written =>
      rw [signatureCell, signatureCell, String.append_left_inj, String.append_right_inj] at same
      rw [cell_inj same]

/-- The line of a symbol tells what an export shows of it. -/
theorem shown_eq_of_rowLine_eq {symbol other : Symbol} (same : rowLine symbol = rowLine other) :
    symbol.shown = other.shown := by
  have pieces := congrArg (fun line => barePieces false line.toList) same
  simp only [barePieces_rowLine, List.cons.injEq, true_and, and_true] at pieces
  obtain ⟨kind, name, line, signature⟩ := pieces
  rw [Symbol.shown, Symbol.shown, Kind.text_inj.1 (padded_inj kind), cell_inj (padded_inj name),
    eq_of_toString_eq (padded_inj line), signatureCell_inj (padded_inj signature)]

/-- A text in a cell has a line feed only of its own. -/
theorem newline_notMem_cell {text : String} (unbroken : '\n' ∉ text.toList) :
    '\n' ∉ (cell text).toList := by
  rw [toList_cell, replaceChar, List.mem_flatMap]
  rintro ⟨c, inside, written⟩
  split at written
  · simp at written
  · obtain rfl := List.mem_singleton.1 written
    exact unbroken inside

/-- The line of a symbol is one line. -/
theorem newline_notMem_rowLine {symbol : Symbol} (unbroken : symbol.IsUnbroken) :
    '\n' ∉ (rowLine symbol).toList := by
  have kind : '\n' ∉ symbol.kind.text.toList := by
    cases symbol.kind <;> decide
  have line : '\n' ∉ (toString symbol.line).toList := notMem_toString (by decide) (by decide) _
  have name := newline_notMem_cell unbroken.name
  have signature : '\n' ∉ (signatureCell symbol.signature).toList := by
    cases written : symbol.signature with
    | none => simp [signatureCell]
    | some text => simpa [signatureCell] using newline_notMem_cell (unbroken.signature text written)
  rw [toList_rowLine]
  simpa [padded, kind, name, signature] using line

/-- A line in front of others. -/
theorem splitWhen_line {line : List Char} (unbroken : '\n' ∉ line) (rest : List Char) :
    splitWhen (· = '\n') (line ++ '\n' :: rest) = line :: splitWhen (· = '\n') rest := by
  have uncut : ∀ c ∈ line, decide (c = '\n') = false := by
    intro c inside
    exact decide_eq_false fun feed => unbroken (feed ▸ inside)
  rw [splitWhen_append (by decide), splitWhen_of_uncut uncut, List.singleton_append]

/-- Lines are told apart by the line feeds at their ends. -/
theorem line_eq_of_append_eq {line other rest others : List Char} (unbroken : '\n' ∉ line)
    (unbrokenToo : '\n' ∉ other) (same : line ++ '\n' :: rest = other ++ '\n' :: others) :
    line = other ∧ rest = others := by
  have pieces := congrArg (splitWhen (· = '\n')) same
  rw [splitWhen_line unbroken, splitWhen_line unbrokenToo] at pieces
  obtain rfl := (List.cons.inj pieces).1
  exact ⟨rfl, (List.cons.inj (List.append_cancel_left same)).2⟩

/-- The line of a symbol with its line feed, as characters. -/
def rowText (symbol : Symbol) : List Char :=
  (row symbol).toList

/-- It is the line and the line feed. -/
theorem rowText_eq (symbol : Symbol) : rowText symbol = (rowLine symbol).toList ++ ['\n'] := by
  simp [rowText, row, rowLine]

/-- The lines of symbols are told apart by what they show. -/
theorem delimited_rowText {symbol other : Symbol} (unbroken : symbol.IsUnbroken)
    (unbrokenToo : other.IsUnbroken) : Delimited rowText Symbol.shown symbol other := by
  intro rest others same
  rw [rowText_eq, rowText_eq, List.append_assoc, List.append_assoc] at same
  obtain ⟨lines, behind⟩ := line_eq_of_append_eq (newline_notMem_rowLine unbroken)
    (newline_notMem_rowLine unbrokenToo) same
  exact ⟨shown_eq_of_rowLine_eq (String.toList_inj.1 lines), behind⟩

/-- The first two lines of a table, and the empty one before them. -/
def tableHead : String :=
  "\n" ++ headerLine ++ "\n|------|------|------|-----------|\n"

/-- The part of a group, as characters. -/
def classText (group : ClassGroup) : List Char :=
  (classPart group).toList

/-- The part of a group has a heading, if the group has a type, and a table. -/
theorem classText_eq (group : ClassGroup) :
    classText group = (classHeading group.className).toList ++
      (tableHead.toList ++ group.members.flatMap rowText) := by
  simp only [classText, classPart, tableHead, headerLine, String.toList_append,
    String.toList_join, List.flatMap_map, List.append_assoc]
  rfl

/-- Whether a text goes on with the part of a group. -/
def BeginsClass (text : List Char) : Prop :=
  "\n###".toList <+: text ∨ "\n|".toList <+: text

/-- The part of a group begins like one. -/
theorem beginsClass_classText (group : ClassGroup) (rest : List Char) :
    BeginsClass (classText group ++ rest) := by
  rw [classText_eq]
  cases group.className with
  | none => exact .inr (by simp [classHeading, tableHead, headerLine])
  | some name => exact .inl (by simp [classHeading])

/-- A table tells its symbols before whatever does not go on like it. -/
theorem shown_eq_of_rowTexts {left right : List Symbol} (unbroken : ∀ symbol ∈ left,
    symbol.IsUnbroken) (unbrokenToo : ∀ symbol ∈ right, symbol.IsUnbroken)
    {rest others : List Char} (ends : rest.head? ≠ some '|') (stops : others.head? ≠ some '|')
    (same : left.flatMap rowText ++ rest = right.flatMap rowText ++ others) :
    left.map Symbol.shown = right.map Symbol.shown ∧ rest = others := by
  refine map_eq_of_flatMap_append_eq (fun text => text.head? = some '|') ?_ ?_ ends stops same
  · intro symbol rest
    simp [rowText_eq, toList_rowLine]
  · intro symbol inside other among
    exact delimited_rowText (unbroken symbol inside) (unbrokenToo other among)

/-- Groups are told apart before whatever does not go on with their tables. -/
theorem delimited_classText {group other : ClassGroup} (unbroken : group.IsUnbroken)
    (unbrokenToo : other.IsUnbroken) :
    DelimitedBefore (fun text => text.head? ≠ some '|') classText ClassGroup.shown group other := by
  intro rest others ends stops same
  simp only [classText_eq, List.append_assoc] at same
  have tables {rest others : List Char} (ends : rest.head? ≠ some '|')
      (stops : others.head? ≠ some '|') := shown_eq_of_rowTexts unbroken.members
        unbrokenToo.members ends stops
  cases named : group.className with
  | none =>
    cases namedToo : other.className with
    | none =>
      rw [named, namedToo] at same
      obtain ⟨members, behind⟩ :=
        tables ends stops (List.append_cancel_left (List.append_cancel_left same))
      exact ⟨by rw [ClassGroup.shown, ClassGroup.shown, members, named, namedToo], behind⟩
    | some called => simp [named, namedToo, classHeading, tableHead, headerLine] at same
  | some name =>
    cases namedToo : other.className with
    | none => simp [named, namedToo, classHeading, tableHead, headerLine] at same
    | some called =>
      simp only [named, namedToo, classHeading, String.toList_append, List.append_assoc] at same
      obtain ⟨names, opened⟩ := line_eq_of_append_eq (unbroken.className name named)
        (unbrokenToo.className called namedToo) (List.append_cancel_left same)
      obtain ⟨members, behind⟩ := tables ends stops (List.append_cancel_left opened)
      refine ⟨?_, behind⟩
      rw [ClassGroup.shown, ClassGroup.shown, members, named, namedToo, String.toList_inj.1 names]

/-- The part of a file, as characters. -/
def fileText (group : FileGroup) : List Char :=
  (filePart group).toList

/-- The part of a file has a heading and the parts of its groups. -/
theorem fileText_eq (group : FileGroup) :
    fileText group = "\n## File: ".toList ++ (group.path.toList ++
      '\n' :: group.classes.flatMap classText) := by
  simp only [fileText, filePart, String.toList_append, String.toList_join, List.flatMap_map,
    List.append_assoc]
  rfl

/-- Whether a text can stand behind the part of a file: it goes on neither with a table
nor with another group. -/
def EndsFile (text : List Char) : Prop :=
  ¬ BeginsClass text ∧ text.head? ≠ some '|'

/-- The part of a file begins like one, and can stand behind that of another. -/
theorem begins_fileText (file : FileGroup) (rest : List Char) :
    "\n## File: ".toList <+: fileText file ++ rest ∧ EndsFile (fileText file ++ rest) := by
  rw [fileText_eq]
  refine ⟨by simp, ?_, by simp⟩
  rintro (heading | table)
  · simp at heading
  · simp at table

/-- Files are told apart before whatever can stand behind them. -/
theorem delimited_fileText {file other : FileGroup} (unbroken : file.IsUnbroken)
    (unbrokenToo : other.IsUnbroken) :
    DelimitedBefore EndsFile fileText FileGroup.shown file other := by
  intro rest others ends stops same
  simp only [fileText_eq, List.append_assoc] at same
  obtain ⟨paths, opened⟩ := line_eq_of_append_eq unbroken.path unbrokenToo.path
    (List.append_cancel_left same)
  have groups : file.classes.map ClassGroup.shown = other.classes.map ClassGroup.shown ∧
      rest = others := by
    refine map_eq_of_flatMap_append_eq_before BeginsClass (fun text => text.head? ≠ some '|') ?_ ?_
      ends stops opened
    · intro group rest
      refine ⟨beginsClass_classText group rest, ?_⟩
      rw [classText_eq]
      cases group.className <;> simp [classHeading, tableHead]
    · intro group inside another among
      exact delimited_classText (unbroken.classes group inside) (unbrokenToo.classes another among)
  exact ⟨by rw [FileGroup.shown, FileGroup.shown, String.toList_inj.1 paths, groups.1], groups.2⟩

/-- An export is its title and the parts of its files. -/
theorem toList_render (files : List FileGroup) :
    (render files).toList = "# Project Symbol Index\n".toList ++ files.flatMap fileText := by
  have parts : (String.join (files.map filePart)).toList = files.flatMap fileText := by
    rw [String.toList_join, List.flatMap_map]
    rfl
  rw [← parts]
  exact String.toList_append

/-- Symbols that show the same have the same line. -/
theorem rowText_eq_of_shown_eq (symbol other : Symbol) (same : symbol.shown = other.shown) :
    rowText symbol = rowText other := by
  simp only [Symbol.shown, Prod.mk.injEq] at same
  obtain ⟨kind, name, line, signature⟩ := same
  rw [rowText, rowText, row, row, kind, name, line, signature]

/-- Groups that show the same have the same part. -/
theorem classText_eq_of_shown_eq (group other : ClassGroup) (same : group.shown = other.shown) :
    classText group = classText other := by
  obtain ⟨name, members⟩ := Prod.mk.inj same
  rw [classText_eq, classText_eq, name, flatMap_eq_of_map_eq rowText_eq_of_shown_eq members]

/-- Files that show the same have the same part. -/
theorem fileText_eq_of_shown_eq (file other : FileGroup) (same : file.shown = other.shown) :
    fileText file = fileText other := by
  obtain ⟨path, classes⟩ := Prod.mk.inj same
  rw [fileText_eq, fileText_eq, path, flatMap_eq_of_map_eq classText_eq_of_shown_eq classes]

/-- Files without line feeds have equal exports just when they show the same. -/
theorem render_eq_render_iff {left right : List FileGroup}
    (unbroken : ∀ file ∈ left, file.IsUnbroken) (unbrokenToo : ∀ file ∈ right, file.IsUnbroken) :
    render left = render right ↔ left.map FileGroup.shown = right.map FileGroup.shown := by
  rw [← String.toList_inj, toList_render, toList_render, List.append_cancel_left_eq]
  constructor
  · intro same
    have nothing : ¬ "\n## File: ".toList <+: [] ∧ EndsFile [] := by
      simp [EndsFile, BeginsClass]
    exact (map_eq_of_flatMap_append_eq_before _ EndsFile begins_fileText
      (fun file inside other among =>
        delimited_fileText (unbroken file inside) (unbrokenToo other among))
      nothing nothing (congrArg (· ++ []) same)).1
  · intro same
    exact flatMap_eq_of_map_eq fileText_eq_of_shown_eq same

/-- The lines of symbols in a text that begins with some line. -/
theorem rowLines_line {line : List Char} (unbroken : '\n' ∉ line) (rest : List Char) :
    rowLines (line ++ '\n' :: rest) =
      if isRowLine line then line :: rowLines rest else rowLines rest := by
  rw [rowLines, splitWhen_line unbroken, List.filter_cons]
  rfl

/-- The line of a symbol is one of a symbol: no kind is called as the first line of a
table calls it. -/
theorem isRowLine_rowLine (symbol : Symbol) : isRowLine (rowLine symbol).toList = true := by
  have different : (rowLine symbol).toList ≠ headerLine.toList := by
    intro same
    have pieces := congrArg (barePieces false) same
    rw [barePieces_rowLine] at pieces
    have kinds : padded symbol.kind.text = padded "Kind" :=
      (List.cons.inj (List.cons.inj pieces).2).1
    have kind := padded_inj kinds
    cases held : symbol.kind <;> rw [held] at kind <;> exact absurd kind (by decide)
  have begins : "| ".toList <+: (rowLine symbol).toList := by
    simp [toList_rowLine, padded]
  rw [isRowLine, Bool.and_eq_true, List.isPrefixOf_iff_prefix, bne_iff_ne]
  exact ⟨begins, different⟩

/-- The lines of symbols in a table, and behind it. -/
theorem rowLines_rowTexts {symbols : List Symbol}
    (unbroken : ∀ symbol ∈ symbols, symbol.IsUnbroken) (rest : List Char) :
    rowLines (symbols.flatMap rowText ++ rest) =
      symbols.map (fun symbol => (rowLine symbol).toList) ++ rowLines rest := by
  induction symbols with
  | nil => rfl
  | cons symbol others hypothesis =>
    obtain ⟨first, later⟩ := List.forall_mem_cons.1 unbroken
    rw [List.flatMap_cons, rowText_eq, List.append_assoc, List.append_assoc, List.singleton_append,
      rowLines_line (newline_notMem_rowLine first), if_pos (isRowLine_rowLine symbol),
      hypothesis later]
    rfl

/-- The first lines of a table are none of symbols. -/
theorem rowLines_tableHead (rest : List Char) :
    rowLines (tableHead.toList ++ rest) = rowLines rest := by
  have lines : tableHead.toList ++ rest = [] ++ '\n' :: (headerLine.toList ++
      '\n' :: ("|------|------|------|-----------|".toList ++ '\n' :: rest)) := by
    simp [tableHead]
  rw [lines, rowLines_line (by simp), if_neg (by decide), rowLines_line (by decide),
    if_neg (by decide), rowLines_line (by decide), if_neg (by decide)]

/-- A heading and the empty line before it are none of symbols. -/
theorem rowLines_heading {title : String} (marked : title.toList.head? = some '#')
    (single : '\n' ∉ title.toList) {name : List Char} (unbroken : '\n' ∉ name)
    (rest : List Char) :
    rowLines ('\n' :: (title.toList ++ (name ++ '\n' :: rest))) = rowLines rest := by
  obtain ⟨others, written⟩ := List.head?_eq_some_iff.1 marked
  have heading : isRowLine (title.toList ++ name) = false := by
    simp [isRowLine, written]
  have line : '\n' ∉ title.toList ++ name := by
    simp [single, unbroken]
  have blank := rowLines_line (List.not_mem_nil : '\n' ∉ [])
    (title.toList ++ (name ++ '\n' :: rest))
  rw [if_neg (by decide), List.nil_append] at blank
  rw [blank, ← List.append_assoc, rowLines_line line, heading]
  rfl

/-- The lines of symbols in the part of a group, and behind it. -/
theorem rowLines_classText {group : ClassGroup} (unbroken : group.IsUnbroken)
    (rest : List Char) :
    rowLines (classText group ++ rest) =
      group.members.map (fun symbol => (rowLine symbol).toList) ++ rowLines rest := by
  have table := rowLines_rowTexts unbroken.members rest
  rw [classText_eq, List.append_assoc, List.append_assoc]
  cases named : group.className with
  | none =>
    rw [classHeading, String.toList_empty, List.nil_append, rowLines_tableHead, table]
  | some name =>
    have heading := rowLines_heading (by decide : "### Class: ".toList.head? = some '#')
      (by decide) (unbroken.className name named)
      (tableHead.toList ++ (group.members.flatMap rowText ++ rest))
    have written : (classHeading (some name)).toList ++
        (tableHead.toList ++ (group.members.flatMap rowText ++ rest)) =
        '\n' :: ("### Class: ".toList ++ (name.toList ++
          '\n' :: (tableHead.toList ++ (group.members.flatMap rowText ++ rest)))) := by
      simp [classHeading]
    rw [written, heading, rowLines_tableHead, table]

/-- The lines of symbols in the parts of groups, and behind them. -/
theorem rowLines_classTexts {classes : List ClassGroup}
    (unbroken : ∀ group ∈ classes, group.IsUnbroken) (rest : List Char) :
    rowLines (classes.flatMap classText ++ rest) =
      (ClassGroup.allMembers classes).map (fun symbol => (rowLine symbol).toList) ++
        rowLines rest := by
  induction classes with
  | nil => rfl
  | cons group others hypothesis =>
    obtain ⟨first, later⟩ := List.forall_mem_cons.1 unbroken
    rw [List.flatMap_cons, List.append_assoc, rowLines_classText first, hypothesis later]
    simp [ClassGroup.allMembers]

/-- The lines of symbols in the parts of files. -/
theorem rowLines_fileTexts {files : List FileGroup}
    (unbroken : ∀ file ∈ files, file.IsUnbroken) :
    rowLines (files.flatMap fileText) =
      (FileGroup.allMembers files).map fun symbol => (rowLine symbol).toList := by
  induction files with
  | nil => rfl
  | cons file others hypothesis =>
    obtain ⟨first, later⟩ := List.forall_mem_cons.1 unbroken
    have heading := rowLines_heading (by decide : "## File: ".toList.head? = some '#')
      (by decide) first.path (file.classes.flatMap classText ++ others.flatMap fileText)
    have written : fileText file ++ others.flatMap fileText =
        '\n' :: ("## File: ".toList ++ (file.path.toList ++
          '\n' :: (file.classes.flatMap classText ++ others.flatMap fileText))) := by
      simp [fileText_eq]
    rw [List.flatMap_cons, written, heading, rowLines_classTexts first.classes, hypothesis later]
    simp [FileGroup.allMembers]

/-- An export has one line for each symbol in its files, in their order. -/
theorem rowLines_render {files : List FileGroup} (unbroken : ∀ file ∈ files, file.IsUnbroken) :
    rowLines (render files).toList =
      (FileGroup.allMembers files).map fun symbol => (rowLine symbol).toList := by
  have title : "# Project Symbol Index\n".toList ++ files.flatMap fileText =
      "# Project Symbol Index".toList ++ '\n' :: files.flatMap fileText := by
    simp
  rw [toList_render, title, rowLines_line (by decide), if_neg (by decide),
    rowLines_fileTexts unbroken]

/-- Symbols without line feeds are shown without loss. Two exports are equal just when
their files show the same. An export has one line for each symbol, and the symbols listed
so are those given. The bare pipes of such a line bound the four cells for kind, name,
line and signature, and what is written of a text in a cell reads back. -/
theorem render_loses_nothing {left right : List Symbol}
    (unbroken : ∀ symbol ∈ left, symbol.IsUnbroken)
    (unbrokenToo : ∀ symbol ∈ right, symbol.IsUnbroken) :
    (Format.markdown.render left = Format.markdown.render right ↔
      (groupByFile left).map FileGroup.shown = (groupByFile right).map FileGroup.shown) ∧
    (rowLines (Format.markdown.render left).toList =
        (FileGroup.allMembers (groupByFile left)).map (fun symbol => (rowLine symbol).toList) ∧
      (FileGroup.allMembers (groupByFile left)).Perm left) ∧
    (∀ symbol ∈ left, '\n' ∉ (rowLine symbol).toList ∧
      barePieces false (rowLine symbol).toList =
        [[], padded symbol.kind.text, padded (cell symbol.name), padded (toString symbol.line),
          padded (signatureCell symbol.signature), []]) ∧
    ∀ text, uncell (cell text).toList = text.toList := by
  have files := isUnbroken_groupByFile unbroken
  refine ⟨render_eq_render_iff files (isUnbroken_groupByFile unbrokenToo),
    ⟨rowLines_render files, perm_groupByFile left⟩, ?_, uncell_cell⟩
  intro symbol inside
  exact ⟨newline_notMem_rowLine (unbroken symbol inside), barePieces_rowLine symbol⟩

/-- A name that ends in a backslash, and one with a backslash before a pipe: the pipes
behind them stay bare, and the exports differ. -/
theorem render_loses_nothing_backslashes :
    let symbol (name : String) (signature : Option String) : Symbol :=
      { name := name, kind := .method, filePath := "a.py", line := 3, signature := signature }
    let left := [symbol "a\\" (some "b | c"), symbol "|" none]
    let right := [symbol "a\\" (some "b | c"), symbol "\\|" none]
    ((∀ symbol ∈ left, symbol.IsUnbroken) ∧ ∀ symbol ∈ right, symbol.IsUnbroken) ∧
      Format.markdown.render left ≠ Format.markdown.render right ∧
      (rowLines (Format.markdown.render left).toList).length = 2 ∧
      barePieces false (rowLine (symbol "a\\" (some "b | c"))).toList =
        [[], " METHOD ".toList, " a\\ ".toList, " 3 ".toList, " `b \\| c` ".toList, []] := by
  intro symbol left right
  have unbroken : ∀ symbol ∈ left, symbol.IsUnbroken := by
    simp only [left, symbol, List.mem_cons, List.not_mem_nil, or_false]
    rintro _ (rfl | rfl) <;> exact ⟨by decide, by simp, by decide, by simp⟩
  have unbrokenToo : ∀ symbol ∈ right, symbol.IsUnbroken := by
    simp only [right, symbol, List.mem_cons, List.not_mem_nil, or_false]
    rintro _ (rfl | rfl) <;> exact ⟨by decide, by simp, by decide, by simp⟩
  obtain ⟨equal, ⟨lines, listed⟩, cells, -⟩ := render_loses_nothing unbroken unbrokenToo
  refine ⟨⟨unbroken, unbrokenToo⟩, ?_, ?_, ?_⟩
  · rw [Ne, equal]
    simp [left, right, symbol, groupByFile, addToFiles, addToClasses, FileGroup.shown,
      ClassGroup.shown, Symbol.shown]
  · rw [lines, List.length_map, listed.length_eq]
    rfl
  · rw [(cells _ List.mem_cons_self).2]
    decide

end Markdown

end SymbolAtlas
