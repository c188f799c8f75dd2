import SymbolAtlas.Text.Wildcard

/-!
# What patterns match

A contains pattern is made to find a term literally. Its quoting is read back as the
characters of the term between two runs, whatever wildcards are among them, and
such a pattern matches just the texts in which the term occurs. Characters are
compared without regard to ASCII case, after two code points that stand for no
character have been read as the replacement character.

A glob begins with its stem, which it takes literally. A text that begins with the
stem meets a glob of the stem and one star; and a text that meets a glob begins with
the stem, unless one of the two code points is involved.
-/

namespace SymbolAtlas.Text

/-- A term occurs in a text, up to the case of ASCII letters, when characters are
compared as they are read. -/
def Contains (read : Char → Char) (term text : List Char) : Prop :=
  term.map (fun c => (read c).toLower) <:+: text.map fun c => (read c).toLower

instance (read : Char → Char) (term text : List Char) : Decidable (Contains read term text) :=
  inferInstanceAs (Decidable (_ <:+: _))

/-- Literals and a run behind them match the texts that begin with the literals. -/
theorem matchesWhole_literals_run (fold : Char → Char) (term text : List Char) :
    matchesWhole fold (term.map .literal ++ [.run]) text = true ↔
      term.map fold <+: text.map fold := by
  induction term generalizing text with
  | nil =>
    have empty : [] ∈ suffixes text := mem_suffixes_iff.2 List.nil_suffix
    simpa [matchesWhole] using empty
  | cons c rest hypothesis =>
    cases text with
    | nil => simp [matchesWhole]
    | cons d after => simp [matchesWhole, hypothesis, List.cons_prefix_cons]

/-- Literals between two runs match the texts that contain the literals. -/
theorem matchesWhole_run_literals_run (fold : Char → Char) (term text : List Char) :
    matchesWhole fold (.run :: (term.map .literal ++ [.run])) text = true ↔
      term.map fold <:+: text.map fold := by
  simp only [matchesWhole, List.any_eq_true, mem_suffixes_iff, matchesWhole_literals_run]
  rw [List.infix_iff_prefix_suffix]
  constructor
  · rintro ⟨ending, isEnding, begins⟩
    exact ⟨ending.map fold, begins, isEnding.map fold⟩
  · rintro ⟨ending, begins, isEnding⟩
    rw [List.suffix_iff_eq_drop] at isEnding
    rw [isEnding, ← List.map_drop] at begins
    exact ⟨_, List.drop_suffix _ text, begins⟩

/-- A text without a null character is read as a whole. -/
theorem upToNull_of_complete {text : String} (complete : null ∉ text.toList) :
    upToNull text = text.toList := by
  have all : ∀ c ∈ text.toList, (c != null) = true := by
    rintro c member
    have different : c ≠ null := by
      rintro rfl
      exact complete member
    simpa using different
  rw [upToNull, ← List.append_nil text.toList, List.takeWhile_append_of_pos all]
  rfl

/-- Quoting brings in nothing but backslashes. -/
theorem mem_of_mem_likeQuoted {c : Char} {term : List Char} (member : c ∈ likeQuoted term) :
    c = '\\' ∨ c ∈ term := by
  obtain ⟨d, inTerm, inQuoted⟩ := List.mem_flatMap.1 member
  split at inQuoted
  · rcases List.mem_cons.1 inQuoted with backslash | same
    · exact .inl backslash
    · exact .inr (List.mem_singleton.1 same ▸ inTerm)
  · exact .inr (List.mem_singleton.1 inQuoted ▸ inTerm)

/-- The two code points apart, characters are compared as they are, so no character
turns into a wildcard or a backslash. -/
theorem comparedChar_special_iff (c : Char) :
    (comparedChar c = '%' ∨ comparedChar c = '_' ∨ comparedChar c = '\\') ↔
      (c = '%' ∨ c = '_' ∨ c = '\\') := by
  unfold comparedChar
  split
  · rename_i reserved
    constructor
    · intro special
      exact absurd special (by decide)
    · rintro (rfl | rfl | rfl) <;> exact absurd reserved (by decide)
  · rfl

/-- A backslash is compared as it is. -/
theorem comparedChar_backslash : comparedChar '\\' = '\\' := by
  decide

/-- Quoting can be done before characters are read for comparison, or after. -/
theorem map_comparedChar_likeQuoted (term : List Char) :
    (likeQuoted term).map comparedChar = likeQuoted (term.map comparedChar) := by
  induction term with
  | nil => rfl
  | cons c rest hypothesis =>
    simp only [likeQuoted, List.flatMap_cons, List.map_append, List.map_cons] at hypothesis ⊢
    rw [hypothesis]
    by_cases special : c = '%' ∨ c = '_' ∨ c = '\\'
    · simp [special, (comparedChar_special_iff c).2 special, comparedChar_backslash]
    · simp [special, mt (comparedChar_special_iff c).1 special]

/-- What has been quoted is read as literals, the wildcards among them included. -/
theorem likeElements_likeQuoted (term rest : List Char) :
    likeElements (likeQuoted term ++ rest) =
      (likeElements rest).map (term.map .literal ++ ·) := by
  induction term with
  | nil => simp [likeQuoted]
  | cons c others hypothesis =>
    simp only [likeQuoted, List.flatMap_cons, List.append_assoc] at hypothesis ⊢
    by_cases special : c = '%' ∨ c = '_' ∨ c = '\\'
    · simp [special, likeElements, hypothesis, Function.comp_def]
    · have ordinary := special
      simp only [not_or] at ordinary
      rw [if_neg special, List.singleton_append, likeElements]
      · simp [hypothesis, Function.comp_def]
      all_goals simp_all

/-- The pattern for a term is read as its characters between two runs. -/
theorem likeElements_containsPattern {term : List Char} (complete : null ∉ term) :
    likeElements (comparedChars (containsPattern term)) =
      some (.run :: ((term.map comparedChar).map .literal ++ [.run])) := by
  have all : null ∉ '%' :: likeQuoted term ++ ['%'] := by
    have quoted := mt mem_of_mem_likeQuoted (show ¬ (null = '\\' ∨ null ∈ term) by
      simpa [complete] using (by decide : null ≠ '\\'))
    simpa [quoted] using (by decide : null ≠ '%')
  have run : comparedChar '%' = '%' := by decide
  rw [comparedChars, containsPattern, upToNull_of_complete (by simpa using all)]
  simp [run, map_comparedChar_likeQuoted, likeElements, likeElements_likeQuoted]

/-- The pattern for a term matches the texts that contain the term. -/
theorem likeMatches_containsPattern {term : List Char} {text : String}
    (completeTerm : null ∉ term) (completeText : null ∉ text.toList) :
    likeMatches (containsPattern term) text = true ↔
      Contains comparedChar term text.toList := by
  rw [likeMatches, likeElements_containsPattern completeTerm]
  simp only [decide_eq_true_eq, attempt_eq_met_iff, matchesWhole_run_literals_run,
    comparedChars, upToNull_of_complete completeText]
  rw [Contains, List.map_map, List.map_map]
  rfl

/-- Quoting takes no character away. -/
theorem length_le_length_likeQuoted (term : List Char) :
    term.length ≤ (likeQuoted term).length := by
  induction term with
  | nil => simp
  | cons c rest hypothesis =>
    rw [likeQuoted] at hypothesis ⊢
    rw [List.flatMap_cons, List.length_append, List.length_cons]
    split <;> simp only [List.length_cons, List.length_nil] <;> omega

/-- Every character takes a byte at least. -/
theorem length_le_byteSize (text : List Char) : text.length ≤ byteSize text := by
  induction text with
  | nil => simp [byteSize]
  | cons c rest hypothesis =>
    have size : byteSize (c :: rest) = c.utf8Size + byteSize rest := rfl
    have positive := c.utf8Size_pos
    rw [List.length_cons, size]
    omega

/-- The pattern for a term that fills the limit but for one character is too long. -/
theorem isOverlong_containsPattern {term : List Char} (long : patternLimit ≤ term.length + 1) :
    isOverlong (containsPattern term) = true := by
  have quoted := length_le_length_likeQuoted term
  have size := length_le_byteSize (containsPattern term).toList
  have length : (containsPattern term).toList.length = (likeQuoted term).length + 2 := by
    simp [containsPattern]
  rw [isOverlong, decide_eq_true_iff]
  omega

/-- Two code points that are compared as the replacement character occur nowhere in a
text. -/
def IsPlain (text : List Char) : Prop :=
  ∀ c ∈ text, comparedChar c = c

instance (text : List Char) : Decidable (IsPlain text) :=
  inferInstanceAs (Decidable (∀ c ∈ text, comparedChar c = c))

/-- A text without the two code points is compared as it is. -/
theorem IsPlain.map_comparedChar {text : List Char} (plain : IsPlain text) :
    text.map comparedChar = text :=
  (List.map_congr_left plain).trans (List.map_id' text)

/-- Among texts without the two code points a term is contained just when it is
contained literally. -/
theorem contains_plain {term text : List Char} (plainTerm : IsPlain term)
    (plainText : IsPlain text) : Contains comparedChar term text ↔ Contains id term text := by
  have folded {list : List Char} (plain : IsPlain list) :
      list.map (fun c => (comparedChar c).toLower) = list.map fun c => (id c).toLower :=
    List.map_congr_left fun c member => congrArg Char.toLower (plain c member)
  rw [Contains, Contains, folded plainTerm, folded plainText]

/-- A glob matches a text, when characters are compared as they are read. -/
def MatchesGlob (read : Char → Char) (pattern text : List Char) : Prop :=
  (globFrom none (pattern.map read)).any
    (fun elements => matchesWhole id elements (text.map read)) = true

instance (read : Char → Char) (pattern text : List Char) :
    Decidable (MatchesGlob read pattern text) :=
  inferInstanceAs (Decidable (_ = true))

/-- A character that a glob takes literally wherever it stands outside of a set. -/
def isOrdinary (c : Char) : Bool :=
  !(c = '*' || c = '?' || c = '[')

/-- The ordinary characters that a glob begins with. -/
def stem (pattern : List Char) : List Char :=
  pattern.takeWhile isOrdinary

/-- The stem of a glob without a null character. -/
theorem globStem_of_complete {pattern : String} (complete : null ∉ pattern.toList) :
    globStem pattern = stem pattern.toList := by
  rw [globStem, upToNull_of_complete complete]
  rfl

/-- Among texts without the two code points a glob is met just when it is met by the
characters as they are. -/
theorem matchesGlob_plain {pattern text : List Char} (plainPattern : IsPlain pattern)
    (plainText : IsPlain text) :
    MatchesGlob comparedChar pattern text ↔ MatchesGlob id pattern text := by
  rw [MatchesGlob, MatchesGlob, plainPattern.map_comparedChar, plainText.map_comparedChar,
    List.map_id, List.map_id]

/-- Matching without retries decides whether a glob matches. -/
theorem globMatches_iff {pattern text : String} (completePattern : null ∉ pattern.toList)
    (completeText : null ∉ text.toList) :
    globMatches pattern text = true ↔ MatchesGlob comparedChar pattern.toList text.toList := by
  rw [globMatches, MatchesGlob, comparedChars, comparedChars,
    upToNull_of_complete completePattern, upToNull_of_complete completeText]
  cases globFrom none (pattern.toList.map comparedChar) with
  | none => simp
  | some elements => simp [attempt_eq_met_iff]

/-- Ordinary characters are compared as ordinary characters. -/
theorem isOrdinary_comparedChar {c : Char} (ordinary : isOrdinary c = true) :
    isOrdinary (comparedChar c) = true := by
  unfold comparedChar
  split
  · decide
  · exact ordinary

/-- Ordinary characters in front of a glob are read as literals. -/
theorem globFrom_ordinary {literals : List Char} (rest : List Char)
    (ordinary : ∀ c ∈ literals, isOrdinary c = true) :
    globFrom none (literals ++ rest) =
      (globFrom none rest).map (literals.map .literal ++ ·) := by
  induction literals with
  | nil => simp
  | cons c others hypothesis =>
    obtain ⟨first, remaining⟩ := List.forall_mem_cons.1 ordinary
    simp only [isOrdinary, Bool.not_eq_true', Bool.or_eq_false_iff, decide_eq_false_iff_not]
      at first
    rw [List.cons_append, globFrom]
    · simp [hypothesis remaining, Function.comp_def]
    all_goals simp_all

/-- What literals begin a pattern with, they begin every text with that it matches. -/
theorem prefix_of_matchesWhole {fold : Char → Char} {term text : List Char}
    {others : List Wild} (matched : matchesWhole fold (term.map .literal ++ others) text = true) :
    term.map fold <+: text.map fold := by
  induction term generalizing text with
  | nil => exact List.nil_prefix
  | cons c rest hypothesis =>
    cases text with
    | nil => simp [matchesWhole] at matched
    | cons d after =>
      simp only [List.map_cons, List.cons_append, matchesWhole, Bool.and_eq_true,
        beq_iff_eq] at matched
      simpa [List.cons_prefix_cons, matched.1] using hypothesis matched.2

/-- The stem and what stands behind it are read one after the other. -/
theorem globFrom_stem (pattern : List Char) :
    ∃ rest, pattern = stem pattern ++ rest ∧
      globFrom none (pattern.map comparedChar) =
        (globFrom none (rest.map comparedChar)).map
          (((stem pattern).map comparedChar).map .literal ++ ·) := by
  refine ⟨pattern.dropWhile isOrdinary, List.takeWhile_append_dropWhile.symm, ?_⟩
  have ordinary : ∀ c ∈ (stem pattern).map comparedChar, isOrdinary c = true := by
    intro c member
    obtain ⟨d, inStem, rfl⟩ := List.mem_map.1 member
    exact isOrdinary_comparedChar (List.all_eq_true.1 List.all_takeWhile d inStem)
  rw [← globFrom_ordinary _ ordinary, ← List.map_append, stem,
    List.takeWhile_append_dropWhile]

/-- A glob of its stem and one star matches what begins with the stem. -/
theorem matchesGlob_of_stemAndStar {pattern text : List Char}
    (whole : pattern = stem pattern ++ ['*']) (begins : stem pattern <+: text) :
    MatchesGlob comparedChar pattern text := by
  obtain ⟨rest, cut, read⟩ := globFrom_stem pattern
  obtain rfl : rest = ['*'] := List.append_cancel_left (cut.symm.trans whole)
  have star : globFrom none ((['*'] : List Char).map comparedChar) = some [.run] := by decide
  rw [MatchesGlob, read, star]
  exact (matchesWhole_literals_run id _ _).2 (by simpa using begins.map comparedChar)

/-- So does a glob whose part up to the first null character is such a glob, whatever
stands behind null characters in the text. -/
theorem globMatches_of_stemAndStar {pattern text : String}
    (decided : isStemAndStar pattern = true) (begins : globStem pattern <+: text.toList) :
    globMatches pattern text = true := by
  have whole : upToNull pattern = stem (upToNull pattern) ++ ['*'] := beq_iff_eq.1 decided
  -- The stem has no null character, so the text is read at least as far.
  have shown : globStem pattern <+: upToNull text := by
    obtain ⟨rest, cut⟩ := begins
    have present : ∀ c ∈ globStem pattern, (c != null) = true := fun c member =>
      List.all_eq_true.1 List.all_takeWhile c (List.takeWhile_subset _ member)
    rw [upToNull, ← cut, List.takeWhile_append_of_pos present]
    exact List.prefix_append _ _
  have matched := matchesGlob_of_stemAndStar whole shown
  rw [globMatches, comparedChars, comparedChars]
  rw [MatchesGlob] at matched
  cases read : globFrom none ((upToNull pattern).map comparedChar) with
  | none => simp [read] at matched
  | some elements => simpa [read, attempt_eq_met_iff] using matched

/-- A text that a glob matches begins with its stem, when neither has one of the two
code points. -/
theorem stem_prefix_of_matchesGlob {pattern text : List Char} (plainPattern : IsPlain pattern)
    (plainText : IsPlain text) (matched : MatchesGlob comparedChar pattern text) :
    stem pattern <+: text := by
  obtain ⟨rest, cut, read⟩ := globFrom_stem pattern
  have plainStem : IsPlain (stem pattern) :=
    fun c member => plainPattern c (List.takeWhile_subset _ member)
  rw [MatchesGlob, read, plainText.map_comparedChar, plainStem.map_comparedChar] at matched
  cases behind : globFrom none (rest.map comparedChar) with
  | none => simp [behind] at matched
  | some others =>
    simp only [behind, Option.map_some, Option.any_some] at matched
    simpa using prefix_of_matchesWhole matched

end SymbolAtlas.Text
