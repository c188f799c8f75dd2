import SymbolAtlas.Proofs.Files.Crawling

/-!
# Reading what was crawled

Between a crawl and the reading of the files that it found, the files may have
changed: links and files may be gone, directories are still there. A path that was
found is then read as what its names hold now; or the path of the root no longer
leads to its directory, and then no path below it can be read at all.

`Files.Later` compares two such later file systems that differ in a regular file.
Every other file that was found is read alike in both, since the two follow the path
of the root alike.
-/

namespace SymbolAtlas

/-- What a reader finds in a regular file. -/
def Content.reading (content : Content) : Except FileError (String × Option Tree) :=
  match content.surface with
  | .text found tree => .ok (found, tree)
  | _ => .error .invalidText

/-- What a reader finds where a path leads to an entry. -/
def Entry.reading : Entry → Except FileError (String × Option Tree)
  | .file content => content.reading
  | .directory _ => .error .isDirectory
  | .link _ => .error .notFound

namespace Files

variable {files before after other full lacking : Files} {root path : String}
  {names below gone : List String} {content : Content} {left : Nat}

/-- There is an entry where a path arrives. -/
theorem exists_entryAt_of_leads {purpose : Purpose} {links : Nat} {start : List String}
    {steps : List PathStep} (leads : Leads files.sight purpose links start steps (.arrived names)) :
    ∃ entry, entryAt names files.entries = some entry := by
  obtain ⟨look, seen⟩ := Option.ne_none_iff_exists'.1 leads.seen
  obtain ⟨entry, there, -⟩ := Option.map_eq_some_iff.1 seen
  exact ⟨entry, there⟩

/-- A path that cannot be followed cannot be read. -/
theorem read_of_textError {error : FileError} (refused : textError? path = some error) :
    files.read path = .error error := by
  simp [read, place, find, refused]

/-- A path that leads to an entry is read as what the entry holds. -/
theorem read_of_leads_entry {entry : Entry} (sound : textError? path = none)
    (leads : Leads files.sight .target linkLimit files.current (steps path) (.arrived names))
    (there : entryAt names files.entries = some entry) :
    files.read path = entry.reading := by
  rw [read, place_eq_present_iff.2 ⟨sound, leads, there⟩]
  cases entry <;> rfl

/-- A path that leads to a missing name cannot be read. -/
theorem read_of_leads_missing {name : String} (sound : textError? path = none)
    (leads : Leads files.sight .target linkLimit files.current (steps path)
      (.missing names name)) :
    files.read path = .error .notFound := by
  rw [read, place, find, sound]
  dsimp only
  rw [(placeOf_eq_absent_iff (by simp)).2 leads]

/-- A path that fails cannot be read. -/
theorem read_of_leads_failed {error : FileError} (sound : textError? path = none)
    (leads : Leads files.sight .target linkLimit files.current (steps path) (.failed error)) :
    files.read path = .error error := by
  rw [read, place, find, sound]
  dsimp only
  rw [(placeOf_eq_failed_iff (by simp)).2 leads]

/-- Without a file, a path is read as with it, unless it cannot be read: then it could not be
read before either, or it was read as the file. -/
theorem Lacks.read_cases (lacks : Lacks gone content full lacking) (path : String) :
    lacking.read path = full.read path ∨
      (∃ error, lacking.read path = .error error) ∧
        ((∃ error, full.read path = .error error) ∨ full.read path = content.reading) := by
  cases sound : textError? path with
  | some error => exact .inl (by rw [read_of_textError sound, read_of_textError sound])
  | none =>
    have notWriting : Purpose.target ≠ .creation := by simp
    have parts := lacks.parts notWriting (isRooted_steps path)
    have leads := (leads_iff notWriting).2 (@rfl _ (full.placeOf .target (steps path)).verdict)
    have onward := (leads_iff notWriting).2
      (@rfl _ (lacking.placeOf .target (steps path)).verdict)
    generalize (full.placeOf .target (steps path)).verdict = verdict at parts leads
    generalize (lacking.placeOf .target (steps path)).verdict = arrival at parts onward
    cases parts with
    | same elsewhere =>
      left
      cases verdict with
      | missing found name =>
        rw [read_of_leads_missing sound leads, read_of_leads_missing sound onward]
      | failed error =>
        rw [read_of_leads_failed sound leads, read_of_leads_failed sound onward]
      | arrived found =>
        have different : found ≠ gone := fun same => elsewhere (by rw [same])
        obtain ⟨entry, there⟩ := exists_entryAt_of_leads leads
        obtain ⟨otherEntry, otherThere⟩ := exists_entryAt_of_leads onward
        rw [read_of_leads_entry sound leads there, read_of_leads_entry sound onward otherThere]
        by_cases directory : full.sight found = some .directory
        · -- A directory may have lost the file, but neither can be read.
          have still := lacks.sight_of_ne different
          rw [directory] at still
          obtain ⟨inner, inside⟩ := sightAt_eq_directory.1 directory
          obtain ⟨otherInner, otherInside⟩ := sightAt_eq_directory.1 still
          rw [there] at inside
          rw [otherThere] at otherInside
          rw [Option.some.inj inside, Option.some.inj otherInside]
          rfl
        · rw [lacks.entryAt_of_closed different directory, there] at otherThere
          rw [Option.some.inj otherThere]
    | lost needed nowhere =>
      refine .inr ⟨?_, ?_⟩
      · rcases nowhere with rfl | ⟨found, name, rfl⟩
        · exact ⟨_, read_of_leads_failed sound onward⟩
        · exact ⟨_, read_of_leads_missing sound onward⟩
      · rcases needed with rfl | rfl
        · exact .inr (read_of_leads_entry sound leads lacks.held)
        · exact .inl ⟨_, read_of_leads_failed sound leads⟩

/-- Names below a directory that its path still leads to are read as what they hold. -/
theorem read_of_continues (nonempty : root ≠ "")
    (continues : Continues files.sight linkLimit files.current (entrySteps root) left names)
    (filled : below ≠ []) (usable : ∀ name ∈ below, isUsableName name = true)
    (sound : textError? (writtenBelow root below) = none) :
    (∀ content, entryAt (names ++ below) files.entries = some (.file content) →
      files.read (writtenBelow root below) = content.reading) ∧
    (files.sight (names ++ below.dropLast) = some .directory →
      files.sight (names ++ below) = none →
      files.read (writtenBelow root below) = .error .notFound) := by
  have steps := steps_foldl_join nonempty filled usable
  rw [← writtenBelow] at steps
  have short : ∀ name ∈ below, name.utf8ByteSize ≤ nameLimit :=
    fun name inside => short_of_usable (usable name inside)
  have further : downSteps below = [] → Purpose.target ≠ .entry := by simp
  constructor
  · intro content there
    have isFile : files.sight (names ++ below) = some .file :=
      sightAt_eq_file.2 ⟨content, there⟩
    have leads := continues .target _ _ further (leads_down filled short (.inl isFile))
    rw [← steps] at leads
    exact read_of_leads_entry sound leads there
  · intro room unseen
    have leads := continues .target _ _ further (leads_down_missing filled short room unseen)
    rw [← steps] at leads
    exact read_of_leads_missing sound leads

/-- Below a path that breaks nothing can be read. -/
theorem read_of_breaks {error : FileError} (nonempty : root ≠ "")
    (breaks : Breaks files.sight linkLimit files.current (entrySteps root) error)
    (filled : below ≠ []) (usable : ∀ name ∈ below, isUsableName name = true)
    (sound : textError? (writtenBelow root below) = none) :
    files.read (writtenBelow root below) = .error error := by
  have steps := steps_foldl_join nonempty filled usable
  rw [← writtenBelow] at steps
  have leads := breaks .target (downSteps below) (by simpa [downSteps] using filled)
    (by simp [downSteps])
  rw [← steps] at leads
  exact read_of_leads_failed sound leads

/-- The path of a directory that still leads to it has the same real path. -/
theorem realPath?_of_continues (sound : textError? root = none)
    (continues : Continues files.sight linkLimit files.current (entrySteps root) left names)
    (directory : files.sight names = some .directory) :
    files.realPath? root = some ("/" ++ "/".intercalate names) := by
  obtain ⟨last, written, ending⟩ := exists_steps_eq root
  have leads := continues .target last _ (by simp) (leads_ending directory ending)
  rw [← written] at leads
  obtain ⟨inner, there⟩ := sightAt_eq_directory.1 directory
  rw [realPath?, place_eq_present_iff.2 ⟨sound, leads, there⟩]

/-- Two later file systems that differ in a regular file which was there before. -/
structure Later (gone : List String) (content : Content) (before after other : Files) : Prop where
  current : after.current = before.current
  settles : Settles before.sight after.sight
  held : before.sight gone = some .file
  lacks : Lacks gone content after other

namespace Later

/-- Both follow the path of a directory alike. -/
theorem resumes (later : Later gone content before after other)
    (start : before.CrawlsFrom root names) :
    Resumes before.sight after.sight other.sight linkLimit before.current (entrySteps root)
      names := by
  have elsewhere : ∀ {names look}, before.sight names = some look → look ≠ .file →
      other.sight names = after.sight names := by
    intro names look seen different
    apply later.lacks.sight_of_ne
    rintro rfl
    exact different (Option.some.inj (seen.symm.trans later.held))
  refine start.resumes later.settles ?_ ?_
  · intro names directory
    rw [elsewhere directory (by simp)]
    exact later.settles.directory names directory
  · intro names target link
    exact elsewhere link (by simp)

/-- Every other file that was there before is read alike in both. -/
theorem read_eq (later : Later gone content before after other)
    (start : before.CrawlsFrom root names)
    (isFile : before.sight (names ++ below) = some .file)
    (usable : ∀ name ∈ below, isUsableName name = true) (different : names ++ below ≠ gone) :
    other.read (writtenBelow root below) = after.read (writtenBelow root below) := by
  cases sound : textError? (writtenBelow root below) with
  | some error => rw [read_of_textError sound, read_of_textError sound]
  | none =>
    have filled := start.filled isFile
    have otherCurrent := later.lacks.current
    rw [later.current] at otherCurrent
    cases later.resumes start with
    | broken error first second =>
      rw [← later.current] at first
      rw [← otherCurrent] at second
      rw [read_of_breaks start.nonempty first filled usable sound,
        read_of_breaks start.nonempty second filled usable sound]
    | intact left first second =>
      rw [← later.current] at first
      rw [← otherCurrent] at second
      obtain ⟨held, missing⟩ := read_of_continues start.nonempty first filled usable sound
      obtain ⟨otherHeld, otherMissing⟩ :=
        read_of_continues start.nonempty second filled usable sound
      have same := later.lacks.sight_of_ne different
      rcases later.settles.file _ isFile with absent | present
      · -- The file is gone by now, and its directory is not.
        have room : before.sight (names ++ below.dropLast) = some .directory := by
          have around := @sight_dropLast before (names ++ below) (by simp [filled])
            (by simp [isFile])
          rwa [List.dropLast_append_of_ne_nil filled] at around
        have roomNow := later.settles.directory _ room
        have roomOther : other.sight (names ++ below.dropLast) = some .directory := by
          rw [later.lacks.sight_of_ne, roomNow]
          rintro same
          rw [same, later.held] at room
          simp at room
        rw [missing roomNow absent, otherMissing roomOther (same.trans absent)]
      · obtain ⟨now, there⟩ := sightAt_eq_file.1 present
        have otherThere := later.lacks.entryAt_of_closed different (by simp [present])
        rw [held now there, otherHeld now (otherThere.trans there)]

/-- Either the path of the directory has stayed what it was, or no file below it can be read
any longer. -/
theorem intact_or_unreadable (later : Later gone content before after other)
    (start : before.CrawlsFrom root names) :
    (other.realPath? root = after.realPath? root ∧
      ∀ below, names ++ below = gone → (∀ name ∈ below, isUsableName name = true) →
        textError? (writtenBelow root below) = none →
        after.read (writtenBelow root below) = content.reading) ∨
    ∀ below, before.sight (names ++ below) = some .file →
      (∀ name ∈ below, isUsableName name = true) →
      ∃ error, after.read (writtenBelow root below) = .error error := by
  have otherCurrent := later.lacks.current
  rw [later.current] at otherCurrent
  cases later.resumes start with
  | intact left first second =>
    rw [← later.current] at first
    rw [← otherCurrent] at second
    have directory := later.settles.directory _ start.directory
    have otherDirectory : other.sight names = some .directory := by
      rw [later.lacks.sight_of_ne, directory]
      rintro rfl
      simp [later.lacks.sight_gone] at directory
    refine .inl ⟨?_, ?_⟩
    · rw [realPath?_of_continues start.sound first directory,
        realPath?_of_continues start.sound second otherDirectory]
    · rintro below rfl usable sound
      have filled := start.filled later.held
      exact (read_of_continues start.nonempty first filled usable sound).1 content
        later.lacks.held
  | broken error first =>
    rw [← later.current] at first
    refine .inr fun below isFile usable => ?_
    cases sound : textError? (writtenBelow root below) with
    | some refused => exact ⟨refused, read_of_textError sound⟩
    | none =>
      exact ⟨error, read_of_breaks start.nonempty first (start.filled isFile) usable sound⟩

end Later

end Files

end SymbolAtlas
