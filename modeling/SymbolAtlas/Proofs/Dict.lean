import SymbolAtlas.Dict

/-!
# Reading a dictionary after a change

What a key is bound to once a key has been removed or bound: the change is seen at its
own key and nowhere else. Each key keeps a single binding, the last that was made.
-/

namespace SymbolAtlas

namespace Dict

variable {α : Type}

/-- A key that was removed is bound no more; the others are bound as before. -/
theorem get?_remove (dict : Dict α) (key other : String) :
    (dict.remove key).get? other = if other = key then none else dict.get? other := by
  unfold get? remove
  induction dict with
  | nil => simp
  | cons binding rest hypothesis =>
    obtain ⟨first, value⟩ := binding
    by_cases removed : first = key
    · subst removed
      by_cases same : other = first
      · simpa [same] using hypothesis
      · simpa [same, List.lookup_cons, beq_eq_false_iff_ne.2 same] using hypothesis
    · by_cases same : other = first
      · simp [same, removed]
      · simpa [removed, List.lookup_cons, beq_eq_false_iff_ne.2 same] using hypothesis

/-- A key that was bound reads as its value; the others are bound as before. -/
theorem get?_put (dict : Dict α) (key other : String) (value : α) :
    (dict.put key value).get? other = if other = key then some value else dict.get? other := by
  by_cases same : other = key
  · simp [put, get?, same]
  · have removed := get?_remove dict key other
    rw [if_neg same] at removed ⊢
    simpa [put, get?, List.lookup_cons, beq_eq_false_iff_ne.2 same] using removed

/-- Where the bindings of one dictionary stand in front of those of another, they count first. -/
theorem get?_append (front behind : Dict α) (key : String) :
    get? (front ++ behind) key = (front.get? key).or (behind.get? key) :=
  List.lookup_append

/-- A key that was bound counts in front of the others. -/
theorem get?_put_eq_or (dict : Dict α) (key other : String) (value : α) :
    (dict.put key value).get? other = (get? [(key, value)] other).or (dict.get? other) := by
  rw [get?_put]
  by_cases same : other = key
  · simp [get?, same]
  · simp [get?, same, List.lookup_cons, beq_eq_false_iff_ne.2 same]

/-- The bound keys are the one that was bound last and those bound before. -/
theorem has_put (dict : Dict α) (key other : String) (value : α) :
    (dict.put key value).has other = (decide (other = key) || dict.has other) := by
  unfold has
  rw [get?_put]
  by_cases same : other = key <;> simp [same]

/-- Where several bindings are made one after the other, a key reads as the last of them that
binds it, and as before where none does. -/
theorem get?_foldl_put {β : Type} (items : List β) (key : β → String) (value : β → α)
    (dict : Dict α) (other : String) :
    (items.foldl (fun dict item => dict.put (key item) (value item)) dict).get? other =
      match items.reverse.find? fun item => key item = other with
      | some item => some (value item)
      | none => dict.get? other := by
  induction items generalizing dict with
  | nil => rfl
  | cons item rest hypothesis =>
    rw [List.foldl_cons, hypothesis, List.reverse_cons, List.find?_append]
    cases rest.reverse.find? fun item => key item = other with
    | some last => rfl
    | none =>
      rw [get?_put]
      by_cases same : key item = other
      · simp [same]
      · simp [same, Ne.symm same]

/-- A key is bound just when it is among the keys of the bindings. -/
theorem has_iff_mem_keys (dict : Dict α) (key : String) :
    dict.has key = true ↔ key ∈ dict.map Prod.fst := by
  rw [has, get?, List.lookup_isSome_iff, List.mem_map]
  constructor
  · rintro ⟨binding, inside, same⟩
    exact ⟨binding, inside, (beq_iff_eq.1 same).symm⟩
  · rintro ⟨binding, inside, rfl⟩
    exact ⟨binding, inside, beq_self_eq_true _⟩

end Dict

end SymbolAtlas
