import SymbolAtlas.Store.Opening

/-!
# What a workspace keeps of its databases

Databases are known by their numbers. These are the laws of reading the database
of a number after one has been replaced or added: the number replaced reads as
the new database, where it was in use at all, and every other number reads as
before. Changes to files touch no database.
-/

namespace SymbolAtlas.Workspace

/-- Whatever is bound in the files, the databases stay. -/
@[simp] theorem databases_bind (workspace : Workspace) (names : List String)
    (entry : Option Entry) : (workspace.bind names entry).databases = workspace.databases :=
  rfl

/-- Binding a name leaves the database of every number. -/
@[simp] theorem database_bind (workspace : Workspace) (names : List String)
    (entry : Option Entry) (number : Nat) :
    (workspace.bind names entry).database number = workspace.database number :=
  rfl

/-- A number in use reads as what it was replaced by. -/
theorem database_setDatabase_self (workspace : Workspace) {number : Nat} (database : Database)
    (used : number < workspace.databases.length) :
    (workspace.setDatabase number database).database number = database := by
  simp [Workspace.database, setDatabase, List.getElem?_set_self used]

/-- Every other number reads as before. -/
theorem database_setDatabase_ne (workspace : Workspace) {number other : Nat}
    (database : Database) (different : other ≠ number) :
    (workspace.setDatabase number database).database other = workspace.database other := by
  simp [Workspace.database, setDatabase, List.getElem?_set_ne (Ne.symm different)]

/-- A number that is not in use reads as the empty database. -/
theorem database_of_unused (workspace : Workspace) {number : Nat}
    (unused : workspace.databases.length ≤ number) : workspace.database number = {} := by
  simp [Workspace.database, List.getElem?_eq_none unused]

/-- Only a number in use can have a table. -/
theorem used_of_rows {workspace : Workspace} {number : Nat}
    (present : (workspace.database number).rows.isSome = true) :
    number < workspace.databases.length := by
  apply Nat.lt_of_not_le
  intro unused
  rw [database_of_unused workspace unused] at present
  simp at present

/-- Replacing a database by itself changes nothing. -/
theorem setDatabase_database (workspace : Workspace) (number : Nat) :
    workspace.setDatabase number (workspace.database number) = workspace := by
  by_cases used : number < workspace.databases.length
  · simp [setDatabase, Workspace.database, List.getElem?_eq_getElem used]
  · simp [setDatabase, List.set_eq_of_length_le (Nat.le_of_not_lt used)]

end SymbolAtlas.Workspace
