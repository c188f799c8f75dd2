import SymbolAtlas.Index.Run
import SymbolAtlas.Proofs.Store.Growth

/-!
# The rows of indexing runs are portable

What a parser reports as the path of a symbol is any text. It passes two places
before it is stored: it is brought to one form, and the symbol is checked. The form
has no backward separator, whatever the text was; everything else that is asked of a
stored path is left to the checks, which judge the text in that form. Together they
leave only paths that mean the same on every machine and stay below the root.

The rows of one file, of one run and of any sequence of runs follow from this one
after another, since tables only grow at their ends.
-/

namespace SymbolAtlas

namespace Text

/-- Two ways to cut that agree on the characters of a text cut it alike. -/
theorem splitWhen_congr {cut other : Char → Bool} {text : List Char}
    (agree : ∀ c ∈ text, cut c = other c) : splitWhen cut text = splitWhen other text := by
  induction text with
  | nil => rfl
  | cons c rest hypothesis =>
    have first := agree c (by simp)
    have later := hypothesis fun d member => agree d (by simp [member])
    simp only [splitWhen, first, later]

/-- No backward separator is left where all of them are turned. -/
theorem backslash_not_mem_forwardSlashes (text : String) :
    '\\' ∉ (forwardSlashes text).toList := by
  simp only [forwardSlashes, String.toList_ofList, List.mem_map, not_exists, not_and]
  intro c _
  split
  · decide
  · assumption

end Text

/-- Skipping current-directory segments brings no character in. -/
theorem skipCurrent_suffix (text : List Char) : skipCurrent text <:+ text := by
  fun_induction skipCurrent text with
  | case1 rest hypothesis => exact hypothesis.trans ⟨['.', '/'], rfl⟩
  | case2 text => exact List.suffix_rfl

/-- The form that is stored has no backward separator, whatever was reported. -/
theorem backslash_not_mem_normalPath {root raw path : String} {realRoot : Option String}
    (normal : normalPath root realRoot raw = .ok path) : '\\' ∉ path.toList := by
  unfold normalPath at normal
  dsimp only at normal
  split at normal
  · simp at normal
  · rename_i relative found
    split at normal
    · simp at normal
    · obtain rfl := Except.ok.inj normal
      split at found
      · obtain ⟨below, -, rfl⟩ := Option.map_eq_some_iff.1 found
        exact Text.backslash_not_mem_forwardSlashes below
      · obtain rfl := Option.some.inj found
        rw [String.toList_ofList]
        intro member
        exact Text.backslash_not_mem_forwardSlashes raw ((skipCurrent_suffix _).subset member)

/-- Every symbol of a file is given the form that is stored. -/
theorem backslash_not_mem_normalSymbols {root : String} {realRoot : Option String}
    {found symbols : List Symbol} (normal : normalSymbols root realRoot found = .ok symbols) :
    ∀ symbol ∈ symbols, '\\' ∉ symbol.filePath.toList := by
  induction found generalizing symbols with
  | nil =>
    obtain rfl := Except.ok.inj normal
    simp
  | cons first rest hypothesis =>
    unfold normalSymbols at normal
    cases path : normalPath root realRoot first.filePath with
    | error error => simp [path] at normal
    | ok stored =>
      cases others : normalSymbols root realRoot rest with
      | error error => simp [path, others] at normal
      | ok normalRest =>
        simp only [path, others, Except.ok.injEq] at normal
        rw [← normal]
        intro symbol member
        rcases List.mem_cons.1 member with rfl | later
        · exact backslash_not_mem_normalPath path
        · exact hypothesis others symbol later

/-- A row that means the same on every machine: it names something, and its path is
relative on every system and does not climb. -/
structure Row.IsPortable (row : Row) : Prop where
  named : ∃ c ∈ row.name.toList, Text.isBlank c = false
  placed : ∃ c ∈ row.filePath.toList, Text.isBlank c = false
  forward : '\\' ∉ row.filePath.toList
  relative : row.filePath.toList.head? ≠ some '/'
  driveless : ∀ letter rest, row.filePath.toList = letter :: ':' :: rest →
    Text.isAsciiLetter letter = false
  unclimbing : ['.', '.'] ∉ Text.splitWhen (· = '/') row.filePath.toList
  line : 1 ≤ row.line ∨ row.line = -1
  /-- Every step of the path goes down from the root or stays. -/
  below : ∀ component ∈ Path.components row.filePath,
    component = .current ∨ ∃ name, component = .name name

/-- A path that is relative and does not climb only goes down. -/
theorem Path.below_of_unclimbing {path : String} (relative : path.toList.head? ≠ some '/')
    (unclimbing : ['.', '.'] ∉ Text.splitWhen (· = '/') path.toList) :
    ∀ component ∈ components path, component = .current ∨ ∃ name, component = .name name := by
  have body : ∀ text : List Char, ['.', '.'] ∉ Text.splitWhen (· = '/') text →
      ∀ component ∈ bodyComponents text,
        component = .current ∨ ∃ name, component = .name name := by
    intro text free component member
    obtain ⟨segment, cut, stands⟩ := List.mem_filterMap.1 member
    unfold segment? at stands
    split at stands
    · simp at stands
    · split at stands
      · rename_i climbs
        exact absurd (climbs ▸ cut) free
      · exact .inr ⟨_, (Option.some.inj stands).symm⟩
  unfold components
  split
  · rename_i rest begins
    simp [begins] at relative
  · simp
  · rename_i rest begins
    have behind : ['.', '.'] ∉ Text.splitWhen (· = '/') rest := by
      rw [begins] at unclimbing
      intro member
      exact unclimbing (by simp [Text.splitWhen, member])
    intro component member
    rcases List.mem_cons.1 member with rfl | later
    · exact .inl rfl
    · exact body rest behind component later
  · exact body _ unclimbing

/-- The row of a sound symbol whose path has no backward separator is portable. -/
theorem Symbol.IsSound.isPortable {symbol : Symbol} (sound : symbol.IsSound)
    (forward : '\\' ∉ symbol.filePath.toList) : (Row.ofSymbol symbol).IsPortable := by
  simp only [Symbol.IsSound, Symbol.checks, List.mem_cons, List.not_mem_nil, or_false,
    forall_eq_or_imp, forall_eq, decide_eq_false_iff_not, not_and_not_right] at sound
  obtain ⟨named, placed, unrooted, unclimbing, line⟩ := sound
  have relative : symbol.filePath.toList.head? ≠ some '/' := by
    intro begins
    obtain ⟨rest, whole⟩ := List.head?_eq_some_iff.1 begins
    simp [isRooted, whole] at unrooted
  -- Without backward separators the segments are those between the forward ones.
  have segments : ['.', '.'] ∉ Text.splitWhen (· = '/') symbol.filePath.toList := by
    have agree : Text.splitWhen (fun c => c = '/' || c = '\\') symbol.filePath.toList =
        Text.splitWhen (· = '/') symbol.filePath.toList := by
      apply Text.splitWhen_congr
      intro c member
      have other : c ≠ '\\' := fun same => forward (same ▸ member)
      simp [other]
    rw [← agree]
    simpa [hasParentSegment] using unclimbing
  refine ⟨?_, ?_, forward, relative, ?_, segments, ?_, Path.below_of_unclimbing relative segments⟩
  · simpa [Text.isBlankText, Row.ofSymbol] using named
  · simpa [Text.isBlankText, Row.ofSymbol] using placed
  · intro letter rest whole
    have whole' : symbol.filePath.toList = letter :: ':' :: rest := whole
    unfold isRooted at unrooted
    rw [whole'] at unrooted
    split at unrooted <;> simp_all
  · by_cases early : symbol.line < 1
    · exact .inr (line early)
    · exact .inl (Int.not_lt.1 early)

/-- A file that is taken to a store adds portable rows, if any. -/
theorem Registry.grows_indexFile (registry : Registry) (store : Store) (root : String)
    (workspace : Workspace) (path : String) :
    Workspace.Grows Row.IsPortable workspace
      (registry.indexFile store root workspace path).1 := by
  unfold indexFile
  split
  · exact .refl workspace
  · exact .refl workspace
  · rename_i symbols extracted
    have normal : ∀ symbol ∈ symbols, '\\' ∉ symbol.filePath.toList := by
      obtain ⟨parser, -, parsed⟩ := Option.map_eq_some_iff.1 extracted
      split at parsed
      · simp at parsed
      · split at parsed
        · simp at parsed
        · rename_i found _ stored brought
          obtain rfl := Except.ok.inj parsed
          exact backslash_not_mem_normalSymbols brought
    have saved := Store.grows_save workspace store symbols fun symbol member sound =>
      sound.isPortable (normal symbol member)
    split
    · rename_i result
      rw [result] at saved
      exact saved
    · rename_i result
      rw [result] at saved
      exact saved

/-- However many files a run takes to its store, the rows they add are portable. -/
theorem Run.grows_foldl (registry : Registry) (store : Store) (root : String) (total : Nat)
    (run : Run) (paths : List String) :
    Workspace.Grows Row.IsPortable run.workspace
      (paths.foldl (Run.step registry store root total) run).workspace := by
  induction paths generalizing run with
  | nil => exact .refl run.workspace
  | cons path rest hypothesis =>
    exact (registry.grows_indexFile store root run.workspace path).trans (hypothesis _)

/-- A run adds portable rows, also where it fails. -/
theorem Indexer.grows_index (indexer : Indexer) (workspace : Workspace) (root : String)
    (classpath : List String) :
    Workspace.Grows Row.IsPortable workspace (indexer.index workspace root classpath).1 := by
  have opens := (Store.opens_openAt workspace indexer.database usualChunkSize).keeps
  unfold index
  dsimp only
  split
  · exact .refl workspace
  · split
    · rename_i opening
      rw [opening] at opens
      exact opens.grows_by
    · rename_i opened store opening
      rw [opening] at opens
      refine opens.grows_by.trans (.trans ?_ (Store.keeps_close _ store).grows_by)
      exact Run.grows_foldl _ store root _ _ _

/-- One of several runs: what has become of the files since the run before, and what is
to be indexed, by which parsers and into which database. -/
structure IndexRequest where
  changes : Files → Files := id
  indexer : Indexer
  root : String
  classpath : List String := []

/-- The workspace after a run that was asked for, whether or not it succeeded. -/
def IndexRequest.perform (workspace : Workspace) (request : IndexRequest) : Workspace :=
  (request.indexer.index (workspace.withFiles (request.changes workspace.files)) request.root
    request.classpath).1

/-- Whatever is indexed, from whatever roots, by whatever parsers, into whatever
databases, and however the files change in between: every row that the runs add to a
table is portable. -/
theorem IndexRequest.added_rows_portable (workspace : Workspace)
    (requests : List IndexRequest) (number : Nat) :
    ∃ added,
      ((requests.foldl IndexRequest.perform workspace).database number).rows.getD [] =
        (workspace.database number).rows.getD [] ++ added ∧
      ∀ row ∈ added, row.IsPortable := by
  have each : ∀ (workspace : Workspace) (request : IndexRequest),
      Workspace.Grows Row.IsPortable workspace (request.perform workspace) := by
    intro workspace request
    exact request.indexer.grows_index _ request.root request.classpath
  exact Workspace.grows_foldl each workspace requests number

end SymbolAtlas
