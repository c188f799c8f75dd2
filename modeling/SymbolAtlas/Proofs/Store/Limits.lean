import Mathlib.Algebra.Group.Nat.Defs
import SymbolAtlas.Proofs.Store.Scanning

/-!
# Limits of a search

A query has two limits: one inside its statement, a signed number of 64 bits, and a cap
on the rows taken from the result. A limit of `2 ^ 63` or more is negative inside the
statement, which is no limit there, and the cap alone is left. Over saved symbols the
two come to one: there is one result for a request, and every query with the clauses of
the request takes so many symbols from its beginning (`Database.answer_eq_take`). The
main result is `Store.search_takes_beginning`.

A pattern that is too long is no exception, since it is reported before any symbol is
given; only a cap of zero keeps it from being applied.
-/

namespace SymbolAtlas

/-- A query with another cap. -/
def Query.capped (query : Query) (cap : UInt64) : Query :=
  { query with cap := cap }

namespace Database

/-- A query goes through the rows of saved symbols, so through the rows of some of
them. -/
theorem scanned_eq_map_ofSymbol {database : Database} {symbols : List Symbol} (query : Query)
    (filled : database.rows = some (symbols.map Row.ofSymbol)) :
    ∃ read : List Symbol,
      database.scanned query = read.map Row.ofSymbol ∧ read.length ≤ symbols.length := by
  unfold scanned
  rw [filled]
  cases database.goesBy? query with
  | none => exact ⟨symbols, rfl, Nat.le_refl _⟩
  | some stem =>
    refine ⟨_, mergeSort_stem_map_ofSymbol stem symbols, ?_⟩
    rw [List.length_mergeSort]
    exact List.length_filter_le _ _

/-- There is one result for a request of which every query with its clauses takes the
beginning, as far as its limits allow. It is no longer than the table, and there is no
report in it where all patterns can be applied. -/
theorem answer_eq_take {database : Database} {symbols : List Symbol} (request : Request)
    (filled : database.rows = some (symbols.map Row.ofSymbol)) :
    ∃ whole : Except StoreError (List Symbol),
      (∀ all, whole = .ok all → all.length ≤ symbols.length) ∧
      (IsApplicable request.compile.clauses → ∃ all, whole = .ok all) ∧
      ∀ query : Query, query.clauses = request.compile.clauses → 0 < query.bound →
        database.answer query = whole.map (List.take query.bound) := by
  by_cases applied : database.AppliesOverlong request.compile
  · refine ⟨.error overlongPattern, nofun, fun applicable => ?_, fun query same positive => ?_⟩
    · obtain ⟨row, -, before, clause, after, cut, -, overlong⟩ := applied
      have tried : clause ∈ database.tried request.compile := by simp [cut]
      have short := List.all_eq_true.2 (applicable clause (mem_of_mem_tried tried))
      exact absurd (short.symm.trans overlong) (by decide)
    · rw [← database.appliesOverlong_congr same] at applied
      exact answer_of_appliesOverlong query same filled applied positive
  · obtain ⟨read, through, count⟩ := scanned_eq_map_ofSymbol request.compile filled
    let met : Row → Bool := fun row => request.compile.clauses.all (Clause.holds row)
    refine ⟨.ok (read.filter (met ∘ Row.ofSymbol)), ?_, fun _ => ⟨_, rfl⟩,
      fun query same _ => ?_⟩
    · rintro all ⟨⟩
      exact Nat.le_trans (List.length_filter_le _ _) count
    · rw [← database.appliesOverlong_congr same] at applied
      rw [answer_of_not_appliesOverlong query same filled applied, found, same,
        database.scanned_congr same, through, List.filter_map, ← List.map_take,
        symbolsOf_map_ofSymbol]
      rfl

/-- A query that may give nothing looks at nothing. -/
theorem answer_of_bound_eq_zero {database : Database} {rows : List Row} {query : Query}
    (filled : database.rows = some rows) (empty : query.bound = 0) :
    database.answer query = .ok [] := by
  rw [answer_eq_scan query filled, empty, scan]

end Database

/-- What was taken from a result is the beginning of a list that it holds. -/
theorem eq_take_of_map_take_eq_ok {limit : Nat} {whole : Except StoreError (List Symbol)}
    {found : List Symbol} (result : whole.map (List.take limit) = .ok found) :
    ∃ all, whole = .ok all ∧ all.take limit = found := by
  cases whole with
  | error => simp [Except.map] at result
  | ok all => exact ⟨all, rfl, Except.ok.inj result⟩

/-- Taking fewer from what was taken is taking fewer at once. -/
theorem map_take_map_take {smaller larger : Nat} (inside : smaller ≤ larger)
    (whole : Except StoreError (List Symbol)) :
    (whole.map (List.take larger)).map (List.take smaller) = whole.map (List.take smaller) := by
  cases whole with
  | error => rfl
  | ok all => simp [Except.map, List.take_take, inside]

namespace Request

/-- With another cap a query is bound by both limits, or by the cap alone where the
limit inside the statement has wrapped. -/
theorem bound_compile_capped (request : Request) (cap : UInt64) :
    (request.compile.capped cap).bound =
      if request.compile.bound < 2 ^ 63 then min request.compile.bound cap.toNat
      else cap.toNat := by
  have limit : (request.compile.capped cap).rowLimit.toNat = request.compile.bound :=
    (bound_compile_eq request).symm
  have half : 2 * request.compile.bound < UInt64.size ↔ request.compile.bound < 2 ^ 63 := by
    rw [UInt64.size]
    omega
  rw [Query.bound_eq, limit]
  simp only [half]
  rfl

/-- Of fewer than `2 ^ 63` symbols, such a query takes from the beginning of what the
request itself takes. -/
theorem take_bound_compile_capped {all : List Symbol} (request : Request) (cap : UInt64)
    (few : all.length < 2 ^ 63) :
    all.take (request.compile.capped cap).bound =
      (all.take request.compile.bound).take cap.toNat := by
  rw [bound_compile_capped, List.take_take, Nat.min_comm]
  split
  · rfl
  · rename_i wrapped
    rw [List.take_eq_take_iff]
    omega

/-- What a query finds with another cap is the beginning of what it finds with its own. -/
theorem answer_capped_of_ok {database : Database} {symbols found : List Symbol}
    (request : Request) (filled : database.rows = some (symbols.map Row.ofSymbol))
    (few : symbols.length < 2 ^ 63) (cap : UInt64)
    (result : database.answer request.compile = .ok found) :
    database.answer (request.compile.capped cap) = .ok (found.take cap.toNat) := by
  obtain ⟨whole, fits, -, answered⟩ := Database.answer_eq_take request filled
  rw [answered _ rfl request.bound_compile_pos] at result
  obtain ⟨all, rfl, rfl⟩ := eq_take_of_map_take_eq_ok result
  rw [← request.take_bound_compile_capped cap (Nat.lt_of_le_of_lt (fits all rfl) few)]
  rcases Nat.eq_zero_or_pos (request.compile.capped cap).bound with empty | positive
  · rw [Database.answer_of_bound_eq_zero filled empty, empty, List.take_zero]
  · exact answered (request.compile.capped cap) rfl positive

/-- Where the query fails, it fails with every other cap, unless that is zero. -/
theorem answer_capped_of_error {database : Database} {symbols : List Symbol}
    {cap : UInt64} {error : StoreError} (request : Request)
    (filled : database.rows = some (symbols.map Row.ofSymbol)) (nonzero : cap ≠ 0)
    (result : database.answer request.compile = .error error) :
    database.answer (request.compile.capped cap) = .error error := by
  obtain ⟨whole, -, -, answered⟩ := Database.answer_eq_take request filled
  have positive : 0 < (request.compile.capped cap).bound := by
    have capped : cap.toNat ≠ 0 := fun zero => nonzero (UInt64.toNat_inj.1 zero)
    have limited := request.bound_compile_pos
    rw [request.bound_compile_capped cap]
    split <;> omega
  rw [answered _ rfl request.bound_compile_pos] at result
  rw [answered (request.compile.capped cap) rfl positive]
  cases whole with
  | ok all => simp [Except.map] at result
  | error report => simpa [Except.map] using result

end Request

namespace Store

/-- Over saved symbols a search with a smaller limit gives the beginning of what a
search with a larger one gives, over all numbers of 64 bits, so it never gives more
than its limit; the limit zero is the limit of a thousand; and the query of a request
with another cap gives so many symbols from the beginning of what the search gives.
Reports agree as well, unless the cap is zero and nothing is looked at. A search
succeeds where all of its patterns can be applied. -/
theorem search_takes_beginning (workspace : Workspace) (store : Store) (symbols : List Symbol)
    (request : Request)
    (filled : (workspace.database store.number).rows = some (symbols.map Row.ofSymbol)) :
    (∀ smaller larger : UInt64, 1 ≤ smaller → smaller ≤ larger →
      store.search workspace { request with limit := smaller } =
        (store.search workspace { request with limit := larger }).map
          (List.take smaller.toNat)) ∧
    (∀ limit : UInt64, 1 ≤ limit → ∀ found,
      store.search workspace { request with limit := limit } = .ok found →
        found.length ≤ limit.toNat) ∧
    store.search workspace { request with limit := 0 } =
      store.search workspace { request with limit := 1000 } ∧
    (symbols.length < 2 ^ 63 → ∀ cap : UInt64,
      (∀ found, store.search workspace request = .ok found →
        store.execute workspace (request.compile.capped cap) =
          .ok (found.take cap.toNat)) ∧
      (cap ≠ 0 → ∀ error, store.search workspace request = .error error →
        store.execute workspace (request.compile.capped cap) = .error error)) ∧
    (store.isOpen = true → IsApplicable request.compile.clauses →
      ∃ found, store.search workspace request = .ok found) := by
  obtain ⟨whole, fits, succeeds, answered⟩ := Database.answer_eq_take request filled
  cases isOpen : store.isOpen with
  | false =>
    have closed (query : Query) : store.execute workspace query = .error .closed := by
      simp [execute, isOpen]
    simp [search, closed, Except.map]
  | true =>
    have executed (query : Query) :
        store.execute workspace query = (workspace.database store.number).answer query := by
      rw [execute, if_pos isOpen]
    have searchedBy (limit : UInt64) : store.search workspace { request with limit := limit } =
        whole.map (List.take (if limit = 0 then 1000 else limit.toNat)) := by
      have sameClauses : { request with limit := limit }.compile.clauses =
          request.compile.clauses := rfl
      rw [search, executed, answered _ sameClauses (Request.bound_compile_pos _),
        Request.bound_compile]
    have nonzero {limit : UInt64} (positive : 1 ≤ limit) :
        (if limit = 0 then 1000 else limit.toNat) = limit.toNat := by
      refine if_neg ?_
      rintro rfl
      exact absurd positive (by decide)
    refine ⟨?_, ?_, ?_, fun few cap => ⟨?_, ?_⟩, ?_⟩
    · intro smaller larger positive inside
      rw [searchedBy, searchedBy, nonzero positive, nonzero (UInt64.le_trans positive inside),
        map_take_map_take (UInt64.le_iff_toNat_le.1 inside)]
    · intro limit positive found result
      rw [searchedBy, nonzero positive] at result
      obtain ⟨all, -, rfl⟩ := eq_take_of_map_take_eq_ok result
      exact List.length_take_le _ _
    · rw [searchedBy, searchedBy]
      rfl
    · intro found result
      rw [search, executed] at result
      rw [executed]
      exact request.answer_capped_of_ok filled few cap result
    · intro nonzeroCap error result
      rw [search, executed] at result
      rw [executed]
      exact request.answer_capped_of_error filled nonzeroCap result
    · intro _ applicable
      obtain ⟨all, rfl⟩ := succeeds applicable
      exact ⟨_, (executed _).trans (answered _ rfl request.bound_compile_pos)⟩

/-- Three symbols are asked for. The largest limit, which is negative inside the
statement, gives all three, a limit of two the first two, and the query of the largest
limit with a cap of one the first. -/
theorem search_takes_beginning_two_of_three :
    let symbol (name : String) (line : Int) : Symbol :=
      { name := name, kind := .method, filePath := "src/a.py", line := line }
    let symbols := [symbol "get_x" 3, symbol "set_y" 1, symbol "get_y" 2, symbol "get_z" 4]
    let workspace : Workspace := { databases := [{ rows := some (symbols.map Row.ofSymbol) }] }
    let store : Store := { number := 0 }
    let request : Request := { query := some "get", limit := 0xFFFFFFFFFFFFFFFF }
    request.compile.signedLimit = -1 ∧
      store.search workspace request =
        .ok [symbol "get_x" 3, symbol "get_y" 2, symbol "get_z" 4] ∧
      store.search workspace { request with limit := 2 } =
        .ok [symbol "get_x" 3, symbol "get_y" 2] ∧
      store.execute workspace (request.compile.capped 1) = .ok [symbol "get_x" 3] := by
  intro symbol symbols workspace store request
  obtain ⟨smaller, -, -, capped, -⟩ :=
    search_takes_beginning workspace store symbols request rfl
  have all : store.search workspace request =
      .ok [symbol "get_x" 3, symbol "get_y" 2, symbol "get_z" 4] := by
    decide +kernel
  refine ⟨by decide +kernel, all, ?_, (capped (by decide) 1).1 _ all⟩
  refine (smaller 2 request.limit (by decide) (by decide)).trans ?_
  exact congrArg (Except.map (List.take 2)) all

end Store

end SymbolAtlas
