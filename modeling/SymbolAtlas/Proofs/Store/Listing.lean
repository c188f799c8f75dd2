import SymbolAtlas.Proofs.Text.ByteOrder
import SymbolAtlas.Store.Basic

/-!
# Listings of saved symbols

A row made from a symbol reads back as that symbol, all eight fields of it. A
listing over such rows is therefore an operation on symbols: those of the chosen
kinds, stably sorted by the bytes of their path and then by line. Each kind it is asked for
is a value of the statement, and too many of them are refused. The main results are
`getAll_of_rows`, `getAll_of_excess` and `count_of_rows`.
-/

namespace SymbolAtlas

/-- The name of a kind is read as that kind. -/
@[simp] theorem Kind.read_text (kind : Kind) : Kind.read kind.text = .ok kind := by
  have found : (Kind.all.find? fun other =>
      Text.sameIgnoringCase other.text (Text.trimmed kind.text)) = some kind := by
    cases kind <;> decide +kernel
  rw [Kind.read, found]

/-- Different kinds have different names. -/
theorem Kind.text_inj {kind other : Kind} : kind.text = other.text ↔ kind = other := by
  cases kind <;> cases other <;> decide

/-- The row of a symbol reads back as the symbol. -/
@[simp] theorem Row.symbol_ofSymbol (symbol : Symbol) :
    (Row.ofSymbol symbol).symbol = .ok symbol := by
  simp [Row.symbol, Row.ofSymbol]

namespace Symbol

/-- Symbols in source order: by the bytes of their path, then by line. -/
def sourceOrder (left right : Symbol) : Bool :=
  decide (Text.bytes left.filePath < Text.bytes right.filePath ∨
    left.filePath = right.filePath ∧ left.line ≤ right.line)

/-- The symbols of the chosen kinds, or all when none is chosen, stably sorted into
source order. -/
def selected (kinds : List Kind) (symbols : List Symbol) : List Symbol :=
  (symbols.filter fun symbol => kinds.isEmpty || decide (symbol.kind ∈ kinds)).mergeSort
    sourceOrder

end Symbol

/-- Rows are ordered as their symbols are, since the order of texts is that of their
bytes. -/
theorem Row.sourceOrder_ofSymbol (left right : Symbol) :
    Row.sourceOrder (.ofSymbol left) (.ofSymbol right) = left.sourceOrder right := by
  unfold Row.sourceOrder Symbol.sourceOrder Row.ofSymbol
  dsimp only
  by_cases same : left.filePath = right.filePath
  · simp [same, List.lt_irrefl]
  · rw [if_neg same, decide_eq_decide, Text.lt_iff_bytes_lt]
    simp only [same, false_and, or_false]

/-- The kind of a row is among some kinds just when that of its symbol is. -/
theorem any_text_ofSymbol (kinds : List Kind) (symbol : Symbol) :
    (kinds.any fun kind => kind.text == (Row.ofSymbol symbol).kindText) =
      decide (symbol.kind ∈ kinds) := by
  rw [Bool.eq_iff_iff]
  simp [Row.ofSymbol, Kind.text_inj]

/-- The rows of the chosen kinds are those of the symbols of these kinds. -/
theorem rowsOfKinds_map_ofSymbol (kinds : List Kind) (symbols : List Symbol) :
    rowsOfKinds kinds (symbols.map Row.ofSymbol) =
      (symbols.filter fun symbol => kinds.isEmpty || decide (symbol.kind ∈ kinds)).map
        Row.ofSymbol := by
  unfold rowsOfKinds
  cases empty : kinds.isEmpty with
  | true => simp [List.filter_eq_self.2]
  | false =>
    have chosen : (fun row : Row => kinds.any fun kind => kind.text == row.kindText) ∘
        Row.ofSymbol = fun symbol => decide (symbol.kind ∈ kinds) :=
      funext (any_text_ofSymbol kinds)
    simp [List.filter_map, chosen]

/-- Rows of symbols are read without a report. -/
theorem symbolsOf_map_ofSymbol (symbols : List Symbol) :
    symbolsOf (symbols.map Row.ofSymbol) = .ok symbols := by
  induction symbols with
  | nil => rfl
  | cons symbol rest hypothesis => simp [symbolsOf, hypothesis]

/-- A listing over the rows of symbols is the selection from the symbols. -/
theorem listing_map_ofSymbol (kinds : List Kind) (symbols : List Symbol) :
    listing kinds (symbols.map Row.ofSymbol) = .ok (Symbol.selected kinds symbols) := by
  unfold listing Symbol.selected
  rw [rowsOfKinds_map_ofSymbol,
    ← List.map_mergeSort fun left _ right _ => (Row.sourceOrder_ofSymbol left right).symm,
    symbolsOf_map_ofSymbol]

namespace Database

variable {database : Database} {kinds : List Kind}

/-- A database lists its rows of as many kinds as a statement takes values. -/
theorem list_of_rows {rows : List Row} (filled : database.rows = some rows)
    (few : kinds.length ≤ valueLimit) : database.list kinds = listing kinds rows := by
  simp [list, Nat.not_lt.2 few, table, filled]

/-- A list of more kinds is refused, whatever the database. -/
theorem list_of_excess (many : valueLimit < kinds.length) :
    database.list kinds = .error (excessKinds kinds) :=
  if_pos many

end Database

namespace Store

/-- An open store lists the symbols that its table was filled with, unless it is asked for
more kinds than a statement takes values. -/
theorem getAll_of_rows {workspace : Workspace} {store : Store} {symbols : List Symbol}
    (isOpen : store.isOpen = true)
    (filled : (workspace.database store.number).rows = some (symbols.map Row.ofSymbol))
    {kinds : List Kind} (few : kinds.length ≤ valueLimit) :
    store.getAll workspace kinds = .ok (Symbol.selected kinds symbols) := by
  rw [getAll, if_pos isOpen, Database.list_of_rows filled few, listing_map_ofSymbol]

/-- An open store that is asked for more kinds refuses, whatever it holds. -/
theorem getAll_of_excess {workspace : Workspace} {store : Store} (isOpen : store.isOpen = true)
    {kinds : List Kind} (many : valueLimit < kinds.length) :
    store.getAll workspace kinds = .error (excessKinds kinds) := by
  rw [getAll, if_pos isOpen, Database.list_of_excess many]

/-- An open store counts the symbols that its table was filled with. -/
theorem count_of_rows {workspace : Workspace} {store : Store} {symbols : List Symbol}
    (isOpen : store.isOpen = true)
    (filled : (workspace.database store.number).rows = some (symbols.map Row.ofSymbol)) :
    store.count workspace = .ok symbols.length := by
  simp [count, rows, isOpen, Database.table, filled]

end Store

end SymbolAtlas
