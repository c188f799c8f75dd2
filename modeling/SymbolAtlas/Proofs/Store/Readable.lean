import SymbolAtlas.Proofs.Store.Scanning

/-!
# Rows that cannot be read

A row written from outside may have any text as its kind. A reader learns of an
unreadable kind only when it comes to the row: a search reads the rows that it gives,
after filters and limits, and a listing the rows that it selects. One unreadable row
among these has the whole reading fail, and one outside of them does no harm.

Kinds are selected by their stored text and read without regard to case and blanks.
So the rows of chosen kinds can always be read, and a row whose text names a kind in
another spelling is found only where no kinds are chosen. The main result is
`Store.reads_fail_iff`, with a pattern that is too long as the other cause for which a
search fails.
-/

namespace SymbolAtlas

/-- The text of a row's kind names a kind. -/
def Row.IsReadable (row : Row) : Prop :=
  ∃ kind, Kind.read row.kindText = .ok kind

instance (row : Row) : Decidable row.IsReadable :=
  match read : Kind.read row.kindText with
  | .ok kind => isTrue ⟨kind, read⟩
  | .error _ => isFalse (by simp [Row.IsReadable, read])

/-- Rows are read as symbols, one each and in their order. -/
def ReadAs (rows : List Row) (symbols : List Symbol) : Prop :=
  List.Forall₂ (fun row symbol => row.symbol = .ok symbol) rows symbols

/-- A reading of rows fails with a report of the database where it is hindered, and
otherwise gives the symbols of the rows. -/
structure ReadsUnless (hindered : Prop) (rows : List Row)
    (result : Except StoreError (List Symbol)) : Prop where
  fails : hindered → ∃ cause, result = .error (.query cause)
  succeeds : ¬ hindered → ∃ symbols, result = .ok symbols ∧ ReadAs rows symbols

namespace ReadsUnless

variable {hindered : Prop} {rows : List Row} {result : Except StoreError (List Symbol)}

/-- Such a reading fails only where it is hindered. -/
theorem hindered_of_error {error : StoreError} (reads : ReadsUnless hindered rows result)
    (failed : result = .error error) : hindered := by
  apply Classical.byContradiction
  intro free
  obtain ⟨symbols, given, -⟩ := reads.succeeds free
  simp [given] at failed

/-- What it gives are the symbols of the rows. -/
theorem readAs_of_ok {symbols : List Symbol} (reads : ReadsUnless hindered rows result)
    (given : result = .ok symbols) : ReadAs rows symbols := by
  have free : ¬ hindered := by
    intro hindrance
    obtain ⟨cause, failed⟩ := reads.fails hindrance
    simp [given] at failed
  obtain ⟨others, same, read⟩ := reads.succeeds free
  rw [given] at same
  exact Except.ok.inj same ▸ read

end ReadsUnless

/-- A row that can be read has a symbol. -/
theorem Row.IsReadable.symbol {row : Row} (readable : row.IsReadable) :
    ∃ symbol, row.symbol = .ok symbol := by
  obtain ⟨kind, read⟩ := readable
  rw [Row.symbol, read]
  exact ⟨_, rfl⟩

/-- Any other row has a report. -/
theorem Row.symbol_of_not_readable {row : Row} (unreadable : ¬ row.IsReadable) :
    ∃ unknown, row.symbol = .error unknown := by
  rw [Row.symbol]
  cases read : Kind.read row.kindText with
  | ok kind => exact absurd ⟨kind, read⟩ unreadable
  | error unknown => exact ⟨unknown, rfl⟩

/-- Rows that can all be read give their symbols. -/
theorem symbolsOf_of_readable {rows : List Row} (readable : ∀ row ∈ rows, row.IsReadable) :
    ∃ symbols, symbolsOf rows = .ok symbols ∧ ReadAs rows symbols := by
  induction rows with
  | nil => exact ⟨[], rfl, .nil⟩
  | cons row rest hypothesis =>
    obtain ⟨first, others⟩ := List.forall_mem_cons.1 readable
    obtain ⟨symbol, read⟩ := first.symbol
    obtain ⟨symbols, all, given⟩ := hypothesis others
    exact ⟨symbol :: symbols, by simp [symbolsOf, read, all], .cons read given⟩

/-- One row that cannot be read has all of them fail. -/
theorem symbolsOf_of_unreadable {rows : List Row}
    (unreadable : ∃ row ∈ rows, ¬ row.IsReadable) :
    ∃ unknown, symbolsOf rows = .error (unreadableKind unknown) := by
  induction rows with
  | nil => simp at unreadable
  | cons row rest hypothesis =>
    rw [symbolsOf]
    by_cases first : row.IsReadable
    · obtain ⟨symbol, read⟩ := first.symbol
      have others : ∃ row ∈ rest, ¬ row.IsReadable := by
        simpa [first] using unreadable
      obtain ⟨unknown, failed⟩ := hypothesis others
      exact ⟨unknown, by rw [read, failed]⟩
    · obtain ⟨unknown, failed⟩ := Row.symbol_of_not_readable first
      exact ⟨unknown, by rw [failed]⟩

/-- A text that is the name of a kind is read as that kind. -/
theorem Row.isReadable_of_named {row : Row} {kind : Kind} (named : row.kindText = kind.text) :
    row.IsReadable :=
  ⟨kind, by rw [named, Kind.read_text]⟩

/-- A text that names a kind in another spelling is the name of no kind. -/
theorem Row.kindText_ne_text {row : Row} {kind : Kind} (other : Kind)
    (read : Kind.read row.kindText = .ok kind) (spelled : row.kindText ≠ kind.text) :
    row.kindText ≠ other.text := by
  intro named
  rw [named, Kind.read_text] at read
  exact spelled (Except.ok.inj read ▸ named)

/-- The rows of chosen kinds have the names of these kinds. -/
theorem named_of_mem_rowsOfKinds {kinds : List Kind} {rows : List Row} {row : Row}
    (chosen : kinds ≠ []) (member : row ∈ rowsOfKinds kinds rows) :
    ∃ kind : Kind, row.kindText = kind.text := by
  have nonempty : kinds.isEmpty = false := by simpa using chosen
  rw [rowsOfKinds, nonempty] at member
  obtain ⟨kind, -, same⟩ := List.any_eq_true.1 (List.mem_filter.1 member).2
  exact ⟨kind, (beq_iff_eq.1 same).symm⟩

/-- A request for some kinds tests for them. -/
theorem Request.kindIn_mem_compile (request : Request) (chosen : request.kinds ≠ []) :
    [.kindIn (Kind.distinct request.kinds)] ∈ request.compile.clauses := by
  obtain ⟨kind, member⟩ := List.exists_mem_of_ne_nil _ chosen
  have nonempty : Kind.distinct request.kinds ≠ [] :=
    List.ne_nil_of_mem (Kind.mem_distinct_iff.2 member)
  refine List.mem_append_right _ ?_
  rw [kindClauses]
  cases distinct : Kind.distinct request.kinds with
  | nil => exact absurd distinct nonempty
  | cons first rest => exact List.mem_singleton.2 rfl

/-- So have the rows that a search for chosen kinds gives. -/
theorem Database.named_of_mem_found {database : Database} {request : Request} {row : Row}
    (chosen : request.kinds ≠ []) (member : row ∈ database.found request.compile) :
    ∃ kind : Kind, row.kindText = kind.text := by
  have held := (List.mem_filter.1 (List.mem_of_mem_take member)).2
  have one := List.all_eq_true.1 held _ (request.kindIn_mem_compile chosen)
  simp only [Clause.holds, List.any_cons, List.any_nil, Bool.or_false, Test.holds,
    List.any_eq_true, beq_iff_eq] at one
  obtain ⟨kind, -, same⟩ := one
  exact ⟨kind, same.symm⟩

/-- A search by a class alone, whose text fills the limit of patterns, comes to apply a
pattern that is too long at its first row. -/
theorem Database.appliesOverlong_className {database : Database} {row : Row} {rows : List Row}
    {term : List Char} (filled : database.rows = some (row :: rows))
    (visible : ∀ c ∈ term, Text.isBlank c = false)
    (long : Text.patternLimit ≤ term.length + 1) :
    database.AppliesOverlong ({ className := some (String.ofList term) } : Request).compile := by
  have kept : Text.trim term = term := Text.trim_of_visible visible
  have nonempty : term ≠ [] := by
    rintro rfl
    exact absurd long (by decide)
  have present : filterText? (some (String.ofList term)) = some (String.ofList term) :=
    Request.filterText?_eq_some_iff.2 ⟨_, rfl, by simpa [kept] using nonempty,
      by simp [Text.trimmed, kept]⟩
  have clauses : ({ className := some (String.ofList term) } : Request).compile.clauses =
      [[Request.containsTest term .className]] := by
    have absent : filterText? none = none := rfl
    have unchosen : Request.kindClauses [] = [] := rfl
    simp [Request.compile, Request.filterClauses, present, absent, unchosen]
  have unstemmed : database.goesBy?
      ({ className := some (String.ofList term) } : Request).compile = none := by
    rw [goesBy?, Request.stem?_compile]
    split <;> rfl
  refine ⟨row, ?_, [], [Request.containsTest term .className], [], ?_, rfl, ?_⟩
  · simp [scanned, unstemmed, filled]
  · simp [tried, unstemmed, clauses]
  · simp [Clause.isApplicable, Request.containsTest, Test.isApplicable,
      Text.isOverlong_containsPattern long]

namespace Store

section Reading

variable {workspace : Workspace} {store : Store} {rows : List Row}
  (isOpen : store.isOpen = true)
  (filled : (workspace.database store.number).rows = some rows)

include isOpen filled

/-- A search is hindered by a pattern that is too long, or by a row that it gives and
cannot read. -/
theorem search_readsUnless (request : Request) :
    ReadsUnless
      ((workspace.database store.number).AppliesOverlong request.compile ∨
        ∃ row ∈ (workspace.database store.number).found request.compile, ¬ row.IsReadable)
      ((workspace.database store.number).found request.compile)
      (store.search workspace request) := by
  rw [search, execute, if_pos isOpen]
  by_cases applied : (workspace.database store.number).AppliesOverlong request.compile
  · have failed := Database.answer_of_appliesOverlong request.compile rfl filled applied
      request.bound_compile_pos
    exact ⟨fun _ => ⟨_, failed⟩, fun free => absurd (.inl applied) free⟩
  · rw [Database.answer_of_not_appliesOverlong request.compile rfl filled applied]
    constructor
    · intro hindrance
      obtain ⟨unknown, failed⟩ := symbolsOf_of_unreadable (hindrance.resolve_left applied)
      exact ⟨_, failed⟩
    · intro free
      apply symbolsOf_of_readable
      exact fun row member => Decidable.byContradiction fun unreadable =>
        free (.inr ⟨row, member, unreadable⟩)

/-- A listing is hindered by too many kinds, or by a row that it selects and cannot read. -/
theorem getAll_readsUnless (kinds : List Kind) :
    ReadsUnless
      (valueLimit < kinds.length ∨ ∃ row ∈ rowsOfKinds kinds rows, ¬ row.IsReadable)
      ((rowsOfKinds kinds rows).mergeSort Row.sourceOrder) (store.getAll workspace kinds) := by
  by_cases many : valueLimit < kinds.length
  · rw [getAll_of_excess isOpen many]
    exact ⟨fun _ => ⟨_, rfl⟩, fun free => absurd (.inl many) free⟩
  · have listed : store.getAll workspace kinds =
        symbolsOf ((rowsOfKinds kinds rows).mergeSort Row.sourceOrder) := by
      rw [getAll, if_pos isOpen, Database.list_of_rows filled (Nat.not_lt.1 many), listing]
    rw [listed]
    constructor
    · intro hindrance
      obtain ⟨row, member, unreadable⟩ := hindrance.resolve_left many
      obtain ⟨unknown, failed⟩ :=
        symbolsOf_of_unreadable ⟨row, List.mem_mergeSort.2 member, unreadable⟩
      exact ⟨_, failed⟩
    · intro free
      apply symbolsOf_of_readable
      exact fun row member => Decidable.byContradiction fun unreadable =>
        free (.inr ⟨row, List.mem_mergeSort.1 member, unreadable⟩)

end Reading

/-- Over rows of any content a search fails with a report of the database just when it
comes to a pattern that is too long or when a row that it gives, after its filters and
both limits, cannot be read; a listing fails so just when it is asked for more kinds than a
statement takes values or when a row that it selects cannot be read. Where kinds are
chosen, every row that is given or selected can. A row whose text names a kind in
another spelling is selected by a listing without kinds, and by no reading of chosen
kinds. -/
theorem reads_fail_iff (workspace : Workspace) (store : Store) (rows : List Row)
    (isOpen : store.isOpen = true)
    (filled : (workspace.database store.number).rows = some rows) :
    let database := workspace.database store.number
    (∀ request : Request,
      let found := database.found request.compile
      ((∃ cause, store.search workspace request = .error (.query cause)) ↔
        database.AppliesOverlong request.compile ∨ ∃ row ∈ found, ¬ row.IsReadable) ∧
      (∀ symbols, store.search workspace request = .ok symbols → ReadAs found symbols) ∧
      (request.kinds ≠ [] → ∀ row ∈ found, row.IsReadable)) ∧
    (∀ kinds : List Kind,
      ((∃ cause, store.getAll workspace kinds = .error (.query cause)) ↔
        valueLimit < kinds.length ∨ ∃ row ∈ rowsOfKinds kinds rows, ¬ row.IsReadable) ∧
      ((∃ error, store.getAll workspace kinds = .error error) →
        ∃ cause, store.getAll workspace kinds = .error (.query cause)) ∧
      (∀ symbols, store.getAll workspace kinds = .ok symbols →
        ReadAs ((rowsOfKinds kinds rows).mergeSort Row.sourceOrder) symbols) ∧
      (kinds ≠ [] → ∀ row ∈ rowsOfKinds kinds rows, row.IsReadable)) ∧
    ∀ row ∈ rows, ∀ kind, Kind.read row.kindText = .ok kind → row.kindText ≠ kind.text →
      row ∈ rowsOfKinds [] rows ∧
      (∀ kinds, kinds ≠ [] → row ∉ rowsOfKinds kinds rows) ∧
      ∀ request : Request, request.kinds ≠ [] → row ∉ database.found request.compile := by
  intro database
  refine ⟨fun request => ⟨⟨?_, ?_⟩, ?_, ?_⟩, fun kinds => ⟨⟨?_, ?_⟩, ?_, ?_, ?_⟩, ?_⟩
  · rintro ⟨cause, failed⟩
    exact (search_readsUnless isOpen filled request).hindered_of_error failed
  · exact (search_readsUnless isOpen filled request).fails
  · intro symbols given
    exact (search_readsUnless isOpen filled request).readAs_of_ok given
  · intro chosen row member
    obtain ⟨kind, named⟩ := Database.named_of_mem_found chosen member
    exact Row.isReadable_of_named named
  · rintro ⟨cause, failed⟩
    exact (getAll_readsUnless isOpen filled kinds).hindered_of_error failed
  · exact (getAll_readsUnless isOpen filled kinds).fails
  · rintro ⟨error, failed⟩
    have reads := getAll_readsUnless isOpen filled kinds
    exact reads.fails (reads.hindered_of_error failed)
  · intro symbols given
    exact (getAll_readsUnless isOpen filled kinds).readAs_of_ok given
  · intro chosen row member
    obtain ⟨kind, named⟩ := named_of_mem_rowsOfKinds chosen member
    exact Row.isReadable_of_named named
  · intro row member kind read spelled
    refine ⟨member, fun kinds chosen selected => ?_, fun request chosen given => ?_⟩
    · obtain ⟨other, named⟩ := named_of_mem_rowsOfKinds chosen selected
      exact Row.kindText_ne_text other read spelled named
    · obtain ⟨other, named⟩ := Database.named_of_mem_found chosen given
      exact Row.kindText_ne_text other read spelled named

/-- The third of three rows cannot be read and the second names its kind in another
spelling. A search that ends before the third row succeeds, a search that gives it
fails, and so does a listing of everything; a listing of the kind that two rows name
selects the row of one, and fails only where the kind is repeated too often. -/
theorem reads_fail_iff_third_row :
    let row (name kind : String) : Row :=
      { name := name, kindText := kind, filePath := "a.py", line := 1 }
    let rows := [row "a" "CLASS", row "b" " class ", row "c" "bogus"]
    let workspace : Workspace := { databases := [{ rows := some rows }] }
    let store : Store := { number := 0 }
    store.isOpen = true ∧
      (¬ ∃ cause, store.search workspace { limit := 2 } = .error (.query cause)) ∧
      (∃ cause, store.search workspace { limit := 3 } = .error (.query cause)) ∧
      (∃ cause, store.getAll workspace [] = .error (.query cause)) ∧
      (¬ ∃ cause, store.getAll workspace [.classLike] = .error (.query cause)) ∧
      (∃ cause, store.getAll workspace (List.replicate 32767 .classLike) =
        .error (.query cause)) ∧
      row "b" " class " ∈ rowsOfKinds [] rows ∧
      row "b" " class " ∉ rowsOfKinds [.classLike] rows := by
  intro row rows workspace store
  obtain ⟨searches, listings, spelled⟩ := reads_fail_iff workspace store rows rfl rfl
  obtain ⟨listed, unlisted, -⟩ :=
    spelled (row "b" " class ") (by decide) .classLike (by decide +kernel) (by decide)
  have unapplied : ¬ (workspace.database store.number).AppliesOverlong
      ({ limit := 2 } : Request).compile := by
    rintro ⟨scanned, -, before, clause, after, cut, -⟩
    have none : (workspace.database store.number).tried ({ limit := 2 } : Request).compile = [] :=
      rfl
    simp [none] at cut
  refine ⟨rfl, ?_, ?_, ?_, ?_, ?_, listed, unlisted [.classLike] (by decide)⟩
  · rw [(searches { limit := 2 }).1]
    exact fun hindered => hindered.elim unapplied (by decide +kernel)
  · exact (searches { limit := 3 }).1.2 (.inr (by decide +kernel))
  · exact (listings []).1.2 (.inr (by decide +kernel))
  · rw [(listings [.classLike]).1]
    exact fun hindered => hindered.elim (by decide) (by decide +kernel)
  · refine (listings _).1.2 (.inl ?_)
    rw [List.length_replicate]
    decide

/-- A search fails though it gives no row that cannot be read: the pattern for the class
is too long to be applied. -/
theorem search_fails_on_readable_rows :
    let symbol : Symbol :=
      { name := "x", kind := .classLike, className := some "A", filePath := "a.py", line := 1 }
    let workspace : Workspace := { databases := [{ rows := some [Row.ofSymbol symbol] }] }
    let store : Store := { number := 0 }
    let request : Request := { className := some (String.ofList (List.replicate 49999 'a')) }
    (∃ cause, store.search workspace request = .error (.query cause)) ∧
      ∀ row ∈ (workspace.database store.number).found request.compile, row.IsReadable := by
  intro symbol workspace store request
  have filled : (workspace.database store.number).rows = some [Row.ofSymbol symbol] := rfl
  constructor
  · have applied := Database.appliesOverlong_className filled
      (fun c member => List.eq_of_mem_replicate member ▸ rfl)
      (by rw [List.length_replicate]; decide : Text.patternLimit ≤
        (List.replicate 49999 'a').length + 1)
    exact (search_readsUnless rfl filled request).fails (.inl applied)
  · intro row member
    have scanned := (List.mem_filter.1 (List.mem_of_mem_take member)).1
    obtain rfl := List.mem_singleton.1 (Database.mem_of_mem_scanned filled scanned)
    exact ⟨.classLike, Kind.read_text .classLike⟩

end Store

end SymbolAtlas
