/-!
# Dictionaries by text key

A finite map from texts to values as a list of bindings with distinct keys. Two
ways to add are used: one replaces an earlier binding, the other keeps it.
-/

namespace SymbolAtlas

/-- Bindings of texts to values. -/
abbrev Dict (α : Type) := List (String × α)

namespace Dict

variable {α : Type}

/-- The value bound to a key. -/
def get? (dict : Dict α) (key : String) : Option α :=
  dict.lookup key

/-- Whether a key is bound. -/
def has (dict : Dict α) (key : String) : Bool :=
  (dict.get? key).isSome

/-- The dictionary without a key. -/
def remove (dict : Dict α) (key : String) : Dict α :=
  dict.filter fun binding => binding.1 != key

/-- The dictionary with a key bound to a value, whatever it was bound to before. -/
def put (dict : Dict α) (key : String) (value : α) : Dict α :=
  (key, value) :: dict.remove key

/-- The dictionary with a key bound to a value unless it was bound already. -/
def putIfAbsent (dict : Dict α) (key : String) (value : α) : Dict α :=
  if dict.has key then dict else (key, value) :: dict

end Dict

end SymbolAtlas
