import SymbolAtlas.Proofs.Store.Readable
import SymbolAtlas.Proofs.Text.Trimming

/-!
# Searching for what is shown of a symbol

A symbol is shown by its name, behind its type and a double colon if it has a type. Given as a
query, this text is trimmed, cut at its first double colon and trimmed again, and each part is
looked for by a pattern. If the type has no colon in it, the cut is where the text was joined, and
the parts are those of the symbol without the blanks around them. So the clauses hold of the symbol.

It is found unless the database refuses the search. There are two causes for this: a part so long
that its pattern is refused, and a row from outside that is found too and whose kind cannot be read.
-/

namespace SymbolAtlas

namespace Symbol

/-- The request for what is shown of a symbol. -/
def displayRequest (symbol : Symbol) (limit : UInt64) : Request where
  query := some symbol.displayName
  limit := limit

/-- The first double colon in what is shown of a symbol, if any, is the one behind its type. -/
def IsShownApart (symbol : Symbol) : Prop :=
  match symbol.className with
  | some owner => ':' ∉ owner.toList
  | none => ¬ Request.separator <:+: symbol.name.toList

/-- The parts of a symbol that are shown have patterns that are not refused. -/
def FitsPatterns (symbol : Symbol) : Prop :=
  ∀ text ∈ symbol.name :: symbol.className.toList,
    Text.isOverlong (Text.containsPattern (Text.trim text.toList)) = false

variable {symbol : Symbol}

/-- There are no clauses but those for the text that is shown. -/
theorem clauses_displayRequest (symbol : Symbol) (limit : UInt64) :
    (symbol.displayRequest limit).compile.clauses =
      Request.filterClauses Request.queryClauses (some symbol.displayName) := by
  have absent : filterText? none = none := rfl
  have unchosen : Request.kindClauses [] = [] := rfl
  simp [displayRequest, Request.compile, Request.filterClauses, absent, unchosen]

/-- The clauses for what is shown of a symbol with a type. -/
theorem clauses_displayRequest_of_owner {owner : String} (owned : symbol.className = some owner)
    (apart : ':' ∉ owner.toList) (limit : UInt64) :
    (symbol.displayRequest limit).compile.clauses =
      [ [Request.containsTest (Text.trim symbol.name.toList) .name]
      , [.className, .packageName].map (Request.containsTest (Text.trim owner.toList)) ] := by
  have kept : Text.trim symbol.displayName.toList =
      Text.trimStart owner.toList ++ [':', ':'] ++ Text.trimEnd symbol.name.toList := by
    have shown : symbol.displayName.toList =
        owner.toList ++ ':' :: ([] ++ ':' :: symbol.name.toList) := by
      simp [displayName, owned]
    rw [shown, Text.trim, Text.trimStart_append_cons rfl, Text.trimEnd_append_cons rfl,
      Text.trimEnd_append_cons rfl]
    simp
  have filled : filterText? (some symbol.displayName) = some (Text.trimmed symbol.displayName) := by
    refine Request.filterText?_eq_some_iff.2 ⟨_, rfl, ?_, rfl⟩
    simp [kept]
  have absent : ':' ∉ Text.trimStart owner.toList :=
    fun member => apart (List.dropWhile_subset _ member)
  have cut := (Text.splitFirst_eq_some_iff (by decide) _ _ _).2
    (Text.firstCut_of_not_mem absent [':'] (Text.trimEnd symbol.name.toList))
  rw [clauses_displayRequest, Request.filterClauses, filled]
  dsimp only [Request.queryClauses]
  rw [Text.trimmed, String.toList_ofList, kept, cut]
  dsimp only
  rw [Text.trim_trimEnd, Text.trim_trimStart]

/-- The clauses for what is shown of a symbol without a type. A blank name asks for nothing. -/
theorem clauses_displayRequest_of_none (free : symbol.className = none)
    (apart : ¬ Request.separator <:+: symbol.name.toList) (limit : UInt64) :
    (symbol.displayRequest limit).compile.clauses =
      if Text.trim symbol.name.toList = [] then []
      else [[.name, .className, .packageName].map
        (Request.containsTest (Text.trim symbol.name.toList))] := by
  have shown : symbol.displayName = symbol.name := by rw [displayName, free]
  rw [clauses_displayRequest, Request.filterClauses, shown]
  split
  · rename_i text found
    obtain ⟨_, same, nonblank, rfl⟩ := Request.filterText?_eq_some_iff.1 found
    obtain rfl := Option.some.inj same
    have uncut : Text.splitFirst [':', ':'] (Text.trim symbol.name.toList) = none :=
      (Text.splitFirst_eq_none_iff (by decide) _).2 fun inside =>
        apart (inside.trans (Text.trim_infix symbol.name.toList))
    rw [if_neg nonblank, Request.queryClauses, Text.trimmed, String.toList_ofList, uncut]
  · rename_i missing
    have blank : Text.trim symbol.name.toList = [] := by
      by_contra nonblank
      rw [Request.filterText?_eq_some_iff.2 ⟨symbol.name, rfl, nonblank, rfl⟩] at missing
      cases missing
    rw [if_pos blank]

section Own

variable (complete : ∀ text ∈ symbol.searchedTexts, Text.null ∉ text.toList)

include complete

/-- A symbol contains each of its texts without the blanks around it. -/
theorem holds_containsTest_trim (text : String) (column : Column)
    (searched : text ∈ symbol.searchedTexts)
    (own : (Row.ofSymbol symbol).column column = some text) :
    (Request.containsTest (Text.trim text.toList) column).holds (.ofSymbol symbol) = true :=
  (Request.holds_containsTest_iff column
    (fun member => complete text searched (Text.mem_of_mem_trim member)) complete).2
    ⟨text, own, (Text.trim_infix text.toList).map _⟩

/-- The clauses for what is shown of a symbol hold of it. -/
theorem all_holds_displayRequest (apart : symbol.IsShownApart) (limit : UInt64) :
    (symbol.displayRequest limit).compile.clauses.all (Clause.holds (.ofSymbol symbol)) = true := by
  have named := holds_containsTest_trim complete symbol.name .name
    (by simp [searchedTexts]) rfl
  unfold IsShownApart at apart
  cases owned : symbol.className with
  | none =>
    rw [owned] at apart
    rw [clauses_displayRequest_of_none owned apart]
    split
    · rfl
    · simp [Clause.holds, named]
  | some owner =>
    rw [owned] at apart
    have contained := holds_containsTest_trim complete owner .className
      (by simp [searchedTexts, owned]) owned
    rw [clauses_displayRequest_of_owner owned apart]
    simp [Clause.holds, named, contained]

end Own

/-- A test for a term can be applied just when its pattern is not refused. -/
theorem isApplicable_containsTest (term : List Char) (column : Column) :
    (Request.containsTest term column).isApplicable =
      !Text.isOverlong (Text.containsPattern term) :=
  rfl

/-- All clauses can be applied just when the parts that are shown fit into patterns. -/
theorem forall_isApplicable_iff (apart : symbol.IsShownApart) (limit : UInt64) :
    (∀ clause ∈ (symbol.displayRequest limit).compile.clauses, clause.isApplicable = true) ↔
      symbol.FitsPatterns := by
  unfold IsShownApart at apart
  unfold FitsPatterns
  cases owned : symbol.className with
  | none =>
    rw [owned] at apart
    rw [clauses_displayRequest_of_none owned apart]
    split
    · rename_i blank
      simp only [Option.toList_none, List.forall_mem_singleton, blank]
      exact iff_of_true (by simp) rfl
    · simp [Clause.isApplicable, isApplicable_containsTest]
  | some owner =>
    rw [owned] at apart
    rw [clauses_displayRequest_of_owner owned apart]
    simp [Clause.isApplicable, isApplicable_containsTest]

end Symbol

/-- The rows that a request matches, if all of its patterns can be applied. -/
def Request.matching (request : Request) (rows : List Row) : List Row :=
  rows.filter fun row => request.compile.clauses.all (Clause.holds row)

/-- A row that meets all clauses comes to each that cannot be applied. -/
theorem reachesOverlong_of_all_holds {row : Row} {clauses : List Clause} {clause : Clause}
    (held : clauses.all (Clause.holds row) = true) (member : clause ∈ clauses)
    (overlong : clause.isApplicable = false) : ReachesOverlong row clauses := by
  obtain ⟨before, after, rfl⟩ := List.append_of_mem member
  rw [List.all_append, Bool.and_eq_true] at held
  exact ⟨before, clause, after, rfl, held.1, overlong⟩

/-- What is read from rows holds the symbol of each of its rows. -/
theorem ReadAs.mem {rows : List Row} {symbols : List Symbol} {symbol : Symbol}
    (read : ReadAs rows symbols) (member : Row.ofSymbol symbol ∈ rows) : symbol ∈ symbols := by
  induction read with
  | nil => cases member
  | cons one _ hypothesis =>
    rcases List.mem_cons.1 member with rfl | later
    · rw [Row.symbol_ofSymbol] at one
      exact Except.ok.inj one ▸ List.mem_cons_self
    · exact List.mem_cons_of_mem _ (hypothesis later)

namespace Database

variable {database : Database} {rows : List Row} {request : Request}

/-- Without a glob a query goes through all rows and tries all clauses. -/
theorem goesBy?_of_no_glob (database : Database) (free : request.fileGlob = none) :
    database.goesBy? request.compile = none := by
  rw [goesBy?, Request.stem?_compile, free]
  split <;> rfl

/-- Where some row meets all clauses, a query without a glob comes to a pattern that is too long
just when there is one. -/
theorem appliesOverlong_iff_of_all_holds (free : request.fileGlob = none)
    (filled : database.rows = some rows) {row : Row} (stored : row ∈ rows)
    (held : request.compile.clauses.all (Clause.holds row) = true) :
    database.AppliesOverlong request.compile ↔
      ¬ ∀ clause ∈ request.compile.clauses, clause.isApplicable = true := by
  have unstemmed := database.goesBy?_of_no_glob free
  have scanned : database.scanned request.compile = rows := by simp [scanned, unstemmed, filled]
  have tried : database.tried request.compile = request.compile.clauses := by
    simp [tried, unstemmed]
  rw [AppliesOverlong, scanned, tried]
  constructor
  · rintro ⟨_, -, before, clause, after, cut, -, overlong⟩ applicable
    rw [applicable clause (by simp [cut])] at overlong
    cases overlong
  · intro some
    simp only [not_forall, Bool.not_eq_true] at some
    obtain ⟨clause, member, overlong⟩ := some
    exact ⟨row, stored, reachesOverlong_of_all_holds held member overlong⟩

/-- Where the limit leaves room for all rows that it matches, a request without a glob finds them.
-/
theorem found_eq_matching (free : request.fileGlob = none) (filled : database.rows = some rows)
    (roomy : (request.matching rows).length ≤ request.compile.bound) :
    database.found request.compile = request.matching rows := by
  have scanned : database.scanned request.compile = rows := by
    simp [scanned, database.goesBy?_of_no_glob free, filled]
  rw [found, scanned]
  exact List.take_of_length_le roomy

end Database

namespace Store

/-- A search for what is shown of a stored symbol reads the rows that it matches, unless a part that
is shown is too long for a pattern or one of the rows cannot be read. -/
theorem search_displayRequest_readsUnless {workspace : Workspace} {store : Store} {rows : List Row}
    {symbol : Symbol} {limit : UInt64} (isOpen : store.isOpen = true)
    (filled : (workspace.database store.number).rows = some rows)
    (stored : Row.ofSymbol symbol ∈ rows)
    (complete : ∀ text ∈ symbol.searchedTexts, Text.null ∉ text.toList)
    (apart : symbol.IsShownApart)
    (roomy : ((symbol.displayRequest limit).matching rows).length ≤
      if limit = 0 then 1000 else limit.toNat) :
    ReadsUnless
      (¬ symbol.FitsPatterns ∨
        ∃ row ∈ (symbol.displayRequest limit).matching rows, ¬ row.IsReadable)
      ((symbol.displayRequest limit).matching rows)
      (store.search workspace (symbol.displayRequest limit)) := by
  have free : (symbol.displayRequest limit).fileGlob = none := rfl
  have held := Symbol.all_holds_displayRequest complete apart limit
  have found := Database.found_eq_matching free filled (by rwa [Request.bound_compile])
  have reads := search_readsUnless isOpen filled (symbol.displayRequest limit)
  rwa [Database.appliesOverlong_iff_of_all_holds free filled stored held,
    Symbol.forall_isApplicable_iff apart, found] at reads

/-- A stored symbol is found by what is shown of it, if the limit leaves room for all rows that the
search matches, unless a part that is shown is too long for a pattern or a row that is matched too
cannot be read; then the search fails with a report of the database. Blanks, wildcards, an empty
type and colons at the start of the name make no difference. -/
theorem search_displayName (workspace : Workspace) (store : Store) (rows : List Row)
    (symbol : Symbol) (limit : UInt64) (isOpen : store.isOpen = true)
    (filled : (workspace.database store.number).rows = some rows)
    (stored : Row.ofSymbol symbol ∈ rows)
    (complete : ∀ text ∈ symbol.searchedTexts, Text.null ∉ text.toList)
    (apart : symbol.IsShownApart)
    (roomy : ((symbol.displayRequest limit).matching rows).length ≤
      if limit = 0 then 1000 else limit.toNat) :
    let result := store.search workspace (symbol.displayRequest limit)
    let harmless := symbol.FitsPatterns ∧
      ∀ row ∈ (symbol.displayRequest limit).matching rows, row.IsReadable
    (harmless → ∃ found, result = .ok found ∧ symbol ∈ found) ∧
      (¬ harmless → ∃ cause, result = .error (.query cause)) := by
  intro result harmless
  have reads := search_displayRequest_readsUnless isOpen filled stored complete apart roomy
  have own : Row.ofSymbol symbol ∈ (symbol.displayRequest limit).matching rows :=
    List.mem_filter.2 ⟨stored, Symbol.all_holds_displayRequest complete apart limit⟩
  constructor
  · rintro ⟨fits, readable⟩
    obtain ⟨symbols, given, read⟩ := reads.succeeds (by
      rintro (unfit | ⟨row, member, unreadable⟩)
      · exact unfit fits
      · exact unreadable (readable row member))
    exact ⟨symbols, given, read.mem own⟩
  · intro harm
    refine reads.fails ?_
    by_contra free
    simp only [not_or, not_not, not_exists, not_and] at free
    exact harm free

/-- A name with a colon in front, all wildcards, and blanks around it and its type; of two other
rows one has another name and one cannot be read. -/
theorem search_displayName_wildcards :
    let symbol : Symbol :=
      { name := " :a_%\\ ", kind := .method, className := some " A ", filePath := "a.py", line := 1 }
    let other : Symbol := { symbol with name := ":ab%\\" }
    let rows := [{ Row.ofSymbol other with kindText := "bogus" }, .ofSymbol symbol, .ofSymbol other]
    let workspace : Workspace := { databases := [{ rows := some rows }] }
    let store : Store := { number := 0 }
    (store.isOpen = true ∧ (workspace.database store.number).rows = some rows ∧
      Row.ofSymbol symbol ∈ rows ∧
      (∀ text ∈ symbol.searchedTexts, Text.null ∉ text.toList) ∧ symbol.IsShownApart ∧
      ((symbol.displayRequest 1).matching rows).length ≤ (1 : UInt64).toNat) ∧
      ∃ found, store.search workspace (symbol.displayRequest 1) = .ok found ∧ symbol ∈ found := by
  intro symbol other rows workspace store
  have stored : Row.ofSymbol symbol ∈ rows := by simp [rows]
  have complete : ∀ text ∈ symbol.searchedTexts, Text.null ∉ text.toList := by decide +kernel
  have apart : symbol.IsShownApart := by
    show ':' ∉ " A ".toList
    decide
  have roomy : ((symbol.displayRequest 1).matching rows).length ≤ (1 : UInt64).toNat := by
    decide +kernel
  have fits : symbol.FitsPatterns := by
    show ∀ text ∈ [" :a_%\\ ", " A "], _
    decide +kernel
  have readable : ∀ row ∈ (symbol.displayRequest 1).matching rows, row.IsReadable := by
    decide +kernel
  exact ⟨⟨rfl, rfl, stored, complete, apart, roomy⟩,
    (search_displayName workspace store rows symbol 1 rfl rfl stored complete apart roomy).1
      ⟨fits, readable⟩⟩

/-- A symbol with a name of 49999 letters is not found by it, and neither is a symbol whose name
stands in a row that cannot be read. -/
theorem search_displayName_refused :
    let long : Symbol :=
      { name := String.ofList (List.replicate 49999 'a'), kind := .classLike, filePath := "a.py"
        line := 1 }
    let short : Symbol := { name := "x", kind := .classLike, filePath := "a.py", line := 1 }
    let foreign : Row := { name := "xy", kindText := "bogus", filePath := "a.py", line := 1 }
    let store : Store := { number := 0 }
    let fails := fun (symbol : Symbol) (rows : List Row) =>
      Row.ofSymbol symbol ∈ rows ∧
        (∀ text ∈ symbol.searchedTexts, Text.null ∉ text.toList) ∧ symbol.IsShownApart ∧
        ((symbol.displayRequest defaultLimit).matching rows).length ≤ defaultLimit.toNat ∧
        ∃ cause, store.search { databases := [{ rows := some rows }] }
          (symbol.displayRequest defaultLimit) = .error (.query cause)
    fails long [.ofSymbol long] ∧ fails short [.ofSymbol short, foreign] := by
  intro long short foreign store fails
  have letters : long.name.toList = List.replicate 49999 'a' := String.toList_ofList
  have longComplete : ∀ text ∈ long.searchedTexts, Text.null ∉ text.toList := by
    refine List.forall_mem_cons.2 ⟨?_, by decide +kernel⟩
    rw [letters]
    exact fun member => absurd (List.eq_of_mem_replicate member) (by decide)
  have longApart : long.IsShownApart := by
    show ¬ Request.separator <:+: long.name.toList
    rw [letters]
    exact fun inside => absurd (List.eq_of_mem_replicate (inside.subset List.mem_cons_self))
      (by decide)
  have longRoomy : ((long.displayRequest defaultLimit).matching [.ofSymbol long]).length ≤
      defaultLimit.toNat :=
    (List.length_filter_le _ _).trans (by decide)
  have unfit : ¬ long.FitsPatterns := by
    intro fits
    have kept : Text.trim long.name.toList = List.replicate 49999 'a' := by
      rw [letters]
      exact Text.trim_of_visible fun c member => List.eq_of_mem_replicate member ▸ rfl
    have short := fits long.name List.mem_cons_self
    rw [kept, Text.isOverlong_containsPattern (by rw [List.length_replicate]; decide)] at short
    cases short
  have shortComplete : ∀ text ∈ short.searchedTexts, Text.null ∉ text.toList := by decide +kernel
  have shortApart : short.IsShownApart := by
    show ¬ Request.separator <:+: "x".toList
    decide
  have shortRoomy : ((short.displayRequest defaultLimit).matching
      [.ofSymbol short, foreign]).length ≤ defaultLimit.toNat :=
    (List.length_filter_le _ _).trans (by decide)
  refine ⟨⟨List.mem_cons_self, longComplete, longApart, longRoomy, ?_⟩,
    List.mem_cons_self, shortComplete, shortApart, shortRoomy, ?_⟩
  · exact (search_displayRequest_readsUnless rfl rfl List.mem_cons_self longComplete longApart
      longRoomy).fails (.inl unfit)
  · exact (search_displayRequest_readsUnless rfl rfl List.mem_cons_self shortComplete shortApart
      shortRoomy).fails (.inr ⟨foreign, by decide +kernel, by decide +kernel⟩)

end Store

end SymbolAtlas
