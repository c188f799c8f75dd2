import SymbolAtlas.Export.Format
import SymbolAtlas.Proofs.Export.Groups
import SymbolAtlas.Proofs.Store.Listing
import SymbolAtlas.Proofs.Text.Delimited

/-!
# The XML export can be read back

Two exports are equal just when they show the same: the same files, each with the same
groups, each with the same symbols. The texts of the symbols are arbitrary. They cannot
end an attribute, since a quote is written as an entity, and the entities are a code of
which no word begins another. Above the attributes every element tells by its first
characters what it is: its indent and name differ from those of what may follow a
sequence of its kind.

Groups are the one thing that is not written. Symbols without a type stand in the element
of their file, so two such groups in a row would run together; see `Grouped` for why there
is at most one of them, and why it shows.
-/

namespace SymbolAtlas.Xml

open Text

/-- The characters that are written as entities. -/
def reserved : List Char := ['&', '<', '>', '"', '\'']

/-- The characters that can end an attribute or an element. -/
def endings : List Char := ['<', '>', '"']

/-- The characters that are written as entities, one by one. -/
theorem mem_reserved {c : Char} :
    c ∈ reserved ↔ c = '&' ∨ c = '<' ∨ c = '>' ∨ c = '"' ∨ c = '\'' := by
  simp [reserved]

/-- The others are written as they are. -/
theorem attributeChar_of_notMem {c : Char} (plain : c ∉ reserved) : attributeChar c = [c] := by
  simp only [mem_reserved, not_or] at plain
  obtain ⟨ampersand, less, greater, quote, apostrophe⟩ := plain
  rw [attributeChar, if_neg ampersand, if_neg less, if_neg greater, if_neg quote,
    if_neg apostrophe]

/-- Every entity begins with an ampersand. -/
theorem head?_attributeChar {c : Char} (special : c ∈ reserved) :
    (attributeChar c).head? = some '&' := by
  rcases mem_reserved.1 special with rfl | rfl | rfl | rfl | rfl <;> rfl

/-- What is written of a character ends nothing. -/
theorem notMem_endings {c written : Char} (member : written ∈ attributeChar c) :
    written ∉ endings := by
  by_cases special : c ∈ reserved
  · intro ending
    simp only [endings, List.mem_cons, List.not_mem_nil, or_false] at ending
    revert member
    rcases mem_reserved.1 special with rfl | rfl | rfl | rfl | rfl <;>
      rcases ending with rfl | rfl | rfl <;> decide
  · rw [attributeChar_of_notMem special, List.mem_singleton] at member
    subst member
    exact fun ending => special (List.mem_cons_of_mem _ (List.mem_append_left ['\''] ending))

/-- What is written of a character begins nothing else that is written of one. -/
theorem eq_of_attributeChar_begins {c other : Char}
    (begins : attributeChar c <+: attributeChar other) : c = other := by
  by_cases special : c ∈ reserved
  · by_cases specialToo : other ∈ reserved
    · revert begins
      rcases mem_reserved.1 special with rfl | rfl | rfl | rfl | rfl <;>
        rcases mem_reserved.1 specialToo with rfl | rfl | rfl | rfl | rfl <;> decide
    · rw [attributeChar_of_notMem specialToo] at begins
      have ampersand : '&' ∈ attributeChar c := List.mem_of_mem_head? (head?_attributeChar special)
      obtain rfl := List.mem_singleton.1 (begins.subset ampersand)
      exact absurd (by decide) specialToo
  · rw [attributeChar_of_notMem special] at begins
    obtain ⟨rest, written⟩ := begins
    have first : (attributeChar other).head? = some c := by rw [← written]; rfl
    by_cases specialToo : other ∈ reserved
    · rw [head?_attributeChar specialToo] at first
      obtain rfl := Option.some.inj first
      exact absurd (by decide) special
    · rw [attributeChar_of_notMem specialToo] at first
      exact (Option.some.inj first).symm

/-- Characters inside an attribute are told apart. -/
theorem delimited_attributeChar (c other : Char) : Delimited attributeChar id c other := by
  intro rest others same
  have either : attributeChar c <+: attributeChar other ∨
      attributeChar other <+: attributeChar c :=
    List.prefix_or_prefix_of_prefix (List.prefix_append _ rest) (same ▸ List.prefix_append _ others)
  have equal : c = other :=
    either.elim eq_of_attributeChar_begins fun begins => (eq_of_attributeChar_begins begins).symm
  subst equal
  exact ⟨rfl, List.append_cancel_left same⟩

/-- What is written of a character begins with no quote. -/
theorem head?_attributeChar_append (c : Char) (rest : List Char) :
    (attributeChar c ++ rest).head? ≠ some '"' := by
  cases written : attributeChar c with
  | nil =>
    have nothing : attributeChar c <+: attributeChar '&' := written ▸ List.nil_prefix
    obtain rfl := eq_of_attributeChar_begins nothing
    cases written
  | cons first others =>
    have plain : first ∉ endings := notMem_endings (written ▸ List.mem_cons_self)
    rintro ⟨⟩
    exact plain (by decide)

/-- An attribute ends at its second quote, whatever its value. -/
theorem value_eq_of_attributePart {name value other : String} {rest others : List Char}
    (same : (attributePart name value).toList ++ rest =
      (attributePart name other).toList ++ others) : value = other ∧ rest = others := by
  simp only [attributePart, escaped, String.toList_append, String.toList_ofList,
    List.append_assoc] at same
  have values := List.append_cancel_left (List.append_cancel_left (List.append_cancel_left same))
  obtain ⟨characters, quoted⟩ :=
    map_eq_of_flatMap_append_eq (fun text => text.head? ≠ some '"')
      head?_attributeChar_append (fun c _ other _ => delimited_attributeChar c other)
      (by simp) (by simp) values
  exact ⟨String.toList_inj.1 (by simpa using characters), List.append_cancel_left quoted⟩

/-- The element of a symbol ends the same way whether or not there is a signature, and
tells the two apart. -/
theorem signature_eq_of_signaturePart {signature other : Option String} {rest others : List Char}
    (same : (signaturePart signature).toList ++ ("/>\n".toList ++ rest) =
      (signaturePart other).toList ++ ("/>\n".toList ++ others)) :
    signature = other ∧ rest = others := by
  cases signature with
  | none =>
    cases other with
    | none => exact ⟨rfl, by simpa [signaturePart] using same⟩
    | some other => simp [signaturePart, attributePart] at same
  | some signature =>
    cases other with
    | none => simp [signaturePart, attributePart] at same
    | some other =>
      obtain ⟨equal, behind⟩ := value_eq_of_attributePart same
      exact ⟨congrArg some equal, List.append_cancel_left behind⟩

/-- The element of a symbol behind an indent, as characters. -/
def symbolText (indent : String) (symbol : Symbol) : List Char :=
  (symbolPart indent symbol).toList

/-- The elements of symbols are told apart by what they show. -/
theorem delimited_symbolText (indent : String) (symbol other : Symbol) :
    Delimited (symbolText indent) Symbol.shown symbol other := by
  intro rest others same
  simp only [symbolText, symbolPart, String.toList_append, List.append_assoc] at same
  have attributes := List.append_cancel_left (List.append_cancel_left same)
  obtain ⟨kind, names⟩ := value_eq_of_attributePart attributes
  obtain ⟨name, lines⟩ := value_eq_of_attributePart names
  obtain ⟨line, signatures⟩ := value_eq_of_attributePart lines
  obtain ⟨signature, behind⟩ := signature_eq_of_signaturePart signatures
  refine ⟨?_, behind⟩
  rw [Symbol.shown, Symbol.shown, Kind.text_inj.1 kind, name, eq_of_toString_eq line, signature]

/-- The elements of symbols with an indent, in front of a text that begins with none. -/
theorem shown_eq_of_symbolTexts (indent : String) {left right : List Symbol}
    {rest others : List Char} (ends : ¬ (indent ++ "<symbol").toList <+: rest)
    (stops : ¬ (indent ++ "<symbol").toList <+: others)
    (same : left.flatMap (symbolText indent) ++ rest =
      right.flatMap (symbolText indent) ++ others) :
    left.map Symbol.shown = right.map Symbol.shown ∧ rest = others := by
  refine map_eq_of_flatMap_append_eq ((indent ++ "<symbol").toList <+: ·) ?_
    (fun symbol _ other _ => delimited_symbolText indent symbol other) ends stops same
  intro symbol rest
  simp [symbolText, symbolPart]

/-- The elements of a group, as characters. -/
def classText (group : ClassGroup) : List Char :=
  (classPart group).toList

/-- The elements of a group without a type. -/
theorem classText_of_none {group : ClassGroup} (free : group.className = none) :
    classText group = group.members.flatMap (symbolText "    ") := by
  rw [classText, classPart, free, String.toList_join, List.flatMap_map]
  rfl

/-- The elements of a group with a type. -/
theorem classText_of_some {group : ClassGroup} {name : String}
    (named : group.className = some name) :
    classText group = "    <class".toList ++ (attributePart "name" name).toList ++ ">\n".toList ++
      group.members.flatMap (symbolText "      ") ++ "    </class>\n".toList := by
  rw [classText, classPart, named]
  simp only [String.toList_append, String.toList_join, List.flatMap_map]
  rfl

/-- Groups with types are told apart. -/
theorem delimited_classText {group other : ClassGroup} {name called : String}
    (named : group.className = some name) (namedToo : other.className = some called) :
    Delimited classText ClassGroup.shown group other := by
  intro rest others same
  simp only [classText_of_some named, classText_of_some namedToo, List.append_assoc] at same
  obtain ⟨equal, opened⟩ := value_eq_of_attributePart (List.append_cancel_left same)
  obtain ⟨members, closed⟩ := shown_eq_of_symbolTexts "      " (by simp) (by simp)
    (List.append_cancel_left opened)
  refine ⟨?_, List.append_cancel_left closed⟩
  rw [ClassGroup.shown, ClassGroup.shown, members, named, namedToo, equal]

/-- A group without a type begins with a symbol. -/
theorem symbol_prefix_classText {group : ClassGroup} (free : group.className = none)
    (nonempty : group.members ≠ []) : "    <symbol".toList <+: classText group := by
  obtain ⟨first, others, members⟩ := List.exists_cons_of_ne_nil nonempty
  simp [classText_of_none free, members, symbolText, symbolPart]

/-- A group begins with the indent of a symbol or class in a file. -/
theorem prefix_classText {group : ClassGroup} (nonempty : group.members ≠ []) :
    "    <".toList <+: classText group := by
  cases named : group.className with
  | none => exact List.IsPrefix.trans (by simp) (symbol_prefix_classText named nonempty)
  | some name => simp [classText_of_some named]

/-- A group without a type does not begin like one with a type. -/
theorem classText_append_ne {group other : ClassGroup} {name : String}
    (free : group.className = none) (nonempty : group.members ≠ [])
    (named : other.className = some name) (rest others : List Char) :
    classText group ++ rest ≠ classText other ++ others := by
  intro same
  have begins := (symbol_prefix_classText free nonempty).trans (List.prefix_append _ rest)
  rw [same, classText_of_some named] at begins
  simp at begins

/-- Behind a group without a type, no further symbol follows directly. -/
theorem not_prefix_of_forall_some {classes : List ClassGroup} {rest : List Char}
    (named : none ∉ classes.map ClassGroup.className) (ends : ¬ "    <".toList <+: rest) :
    ¬ "    <symbol".toList <+: classes.flatMap classText ++ rest := by
  cases classes with
  | nil => exact fun begins => ends (List.IsPrefix.trans (by simp) begins)
  | cons group others =>
    cases name : group.className with
    | none => exact absurd (List.mem_map.2 ⟨group, List.mem_cons_self, name⟩) named
    | some name => simp [classText_of_some name]

/-- The groups of a file, in front of a text that begins with none, are told apart. -/
theorem shown_eq_of_classTexts {left right : List ClassGroup} (grouped : Grouped left)
    (groupedToo : Grouped right) {rest others : List Char} (ends : ¬ "    <".toList <+: rest)
    (stops : ¬ "    <".toList <+: others)
    (same : left.flatMap classText ++ rest = right.flatMap classText ++ others) :
    left.map ClassGroup.shown = right.map ClassGroup.shown ∧ rest = others := by
  induction left generalizing right with
  | nil =>
    cases right with
    | nil => exact ⟨rfl, same⟩
    | cons other after =>
      obtain ⟨-, nonempty, -⟩ := grouped_cons.1 groupedToo
      rw [List.flatMap_nil, List.nil_append, List.flatMap_cons, List.append_assoc] at same
      exact absurd (same ▸ (prefix_classText nonempty).trans (List.prefix_append _ _)) ends
  | cons group before hypothesis =>
    obtain ⟨fresh, nonempty, earlier⟩ := grouped_cons.1 grouped
    cases right with
    | nil =>
      rw [List.flatMap_nil, List.nil_append, List.flatMap_cons, List.append_assoc] at same
      exact absurd (same ▸ (prefix_classText nonempty).trans (List.prefix_append _ _)) stops
    | cons other after =>
      obtain ⟨freshToo, nonemptyToo, later⟩ := grouped_cons.1 groupedToo
      simp only [List.flatMap_cons, List.append_assoc] at same
      have heads : group.shown = other.shown ∧
          before.flatMap classText ++ rest = after.flatMap classText ++ others := by
        cases named : group.className with
        | none =>
          cases namedToo : other.className with
          | none =>
            rw [classText_of_none named, classText_of_none namedToo] at same
            obtain ⟨members, behind⟩ := shown_eq_of_symbolTexts "    "
              (not_prefix_of_forall_some (named ▸ fresh) ends)
              (not_prefix_of_forall_some (namedToo ▸ freshToo) stops) same
            exact ⟨by rw [ClassGroup.shown, ClassGroup.shown, named, namedToo, members], behind⟩
          | some name => exact absurd same (classText_append_ne named nonempty namedToo _ _)
        | some name =>
          cases namedToo : other.className with
          | none => exact absurd same.symm (classText_append_ne namedToo nonemptyToo named _ _)
          | some called => exact delimited_classText named namedToo _ _ same
      obtain ⟨shown, behind⟩ := hypothesis earlier later heads.2
      exact ⟨by rw [List.map_cons, List.map_cons, heads.1, shown], behind⟩

/-- The element of a file, as characters. -/
def fileText (group : FileGroup) : List Char :=
  (filePart group).toList

/-- The element of a file holds those of its groups. -/
theorem fileText_eq (group : FileGroup) :
    fileText group = "  <file".toList ++ (attributePart "path" group.path).toList ++
      ">\n".toList ++ group.classes.flatMap classText ++ "  </file>\n".toList := by
  simp only [fileText, filePart, String.toList_append, String.toList_join, List.flatMap_map]
  rfl

/-- The elements of files are told apart by what they show. -/
theorem delimited_fileText {file other : FileGroup} (grouped : Grouped file.classes)
    (groupedToo : Grouped other.classes) : Delimited fileText FileGroup.shown file other := by
  intro rest others same
  simp only [fileText_eq, List.append_assoc] at same
  obtain ⟨path, opened⟩ := value_eq_of_attributePart (List.append_cancel_left same)
  obtain ⟨classes, closed⟩ := shown_eq_of_classTexts grouped groupedToo (by simp) (by simp)
    (List.append_cancel_left opened)
  exact ⟨by rw [FileGroup.shown, FileGroup.shown, path, classes], List.append_cancel_left closed⟩

/-- Exports are equal when the elements of their files are. -/
theorem render_eq_render_iff (left right : List FileGroup) :
    render left = render right ↔ left.flatMap fileText = right.flatMap fileText := by
  unfold render
  rw [String.append_left_inj, String.append_right_inj, ← String.toList_inj, String.toList_join,
    String.toList_join, List.flatMap_map, List.flatMap_map]
  rfl

/-- Symbols that show the same are written the same. -/
theorem symbolText_eq_of_shown_eq (indent : String) (symbol other : Symbol)
    (same : symbol.shown = other.shown) : symbolText indent symbol = symbolText indent other := by
  simp only [Symbol.shown, Prod.mk.injEq] at same
  obtain ⟨kind, name, line, signature⟩ := same
  rw [symbolText, symbolText, symbolPart, symbolPart, kind, name, line, signature]

/-- Groups that show the same are written the same. -/
theorem classText_eq_of_shown_eq (group other : ClassGroup) (same : group.shown = other.shown) :
    classText group = classText other := by
  obtain ⟨name, members⟩ := Prod.mk.inj same
  have written (indent : String) := flatMap_eq_of_map_eq (symbolText_eq_of_shown_eq indent) members
  cases named : group.className with
  | none => rw [classText_of_none named, classText_of_none (name ▸ named), written]
  | some called => rw [classText_of_some named, classText_of_some (name ▸ named), written]

/-- Files that show the same are written the same. -/
theorem fileText_eq_of_shown_eq (file other : FileGroup) (same : file.shown = other.shown) :
    fileText file = fileText other := by
  obtain ⟨path, classes⟩ := Prod.mk.inj same
  rw [fileText_eq, fileText_eq, path, flatMap_eq_of_map_eq classText_eq_of_shown_eq classes]

/-- What is written of a text ends neither an attribute nor an element, and two exports
are equal just when their files show the same. The symbols listed so are those given, each in
a group of its own file and type. -/
theorem render_uniquely_decodable :
    (∀ text, ∀ c ∈ (escaped text).toList, c ≠ '"' ∧ c ≠ '<' ∧ c ≠ '>') ∧
      (∀ symbols, (FileGroup.allMembers (groupByFile symbols)).Perm symbols ∧
        ∀ file ∈ groupByFile symbols, file.Fits ∧ Grouped file.classes) ∧
      ∀ left right : List Symbol, Format.xml.render left = Format.xml.render right ↔
        (groupByFile left).map FileGroup.shown = (groupByFile right).map FileGroup.shown := by
  refine ⟨?_, ?_, ?_⟩
  · intro text c member
    rw [escaped, String.toList_ofList] at member
    obtain ⟨_, -, written⟩ := List.mem_flatMap.1 member
    obtain ⟨less, greater, quote⟩ : c ≠ '<' ∧ c ≠ '>' ∧ c ≠ '"' := by
      simpa [endings] using notMem_endings written
    exact ⟨quote, less, greater⟩
  · intro symbols
    refine ⟨perm_groupByFile symbols, fun file inside => ?_⟩
    exact ⟨fits_groupByFile symbols file inside, grouped_groupByFile symbols file inside⟩
  · intro left right
    refine (render_eq_render_iff _ _).trans ⟨fun same => ?_, flatMap_eq_of_map_eq ?_⟩
    · refine (map_eq_of_flatMap_append_eq ("  <file".toList <+: ·) ?_ ?_ (by simp) (by simp)
        (congrArg (· ++ []) same)).1
      · intro file rest
        simp [fileText_eq]
      · intro file inside other among
        exact delimited_fileText (grouped_groupByFile left file inside)
          (grouped_groupByFile right other among)
    · exact fileText_eq_of_shown_eq

end SymbolAtlas.Xml
