namespace Cadence

/-!
# Finite tables

A table maps finitely many keys to values.  It is a list of pairs with at most
one pair for a key, in the order in which the keys were last written.
-/

/-- Keys with their values. -/
structure Table (κ α : Type) where
  entries : List (κ × α) := []

namespace Table

variable {κ α : Type} [DecidableEq κ]

/-- The value of a key. -/
def get? (table : Table κ α) (key : κ) : Option α :=
  (table.entries.find? fun entry => entry.1 = key).map Prod.snd

/-- The table without a key. -/
def erase (table : Table κ α) (key : κ) : Table κ α :=
  ⟨table.entries.filter fun entry => entry.1 ≠ key⟩

/-- The table with a key mapped to a value, in place of what it was mapped to. -/
def insert (table : Table κ α) (key : κ) (value : α) : Table κ α :=
  ⟨(table.erase key).entries ++ [(key, value)]⟩

@[simp] theorem get?_erase_same (table : Table κ α) (key : κ) :
    (table.erase key).get? key = none := by
  simp [get?, erase, List.find?_filter]

theorem get?_erase_other (table : Table κ α) {key other : κ} (different : other ≠ key) :
    (table.erase key).get? other = table.get? other := by
  unfold get? erase
  rw [List.find?_filter]
  congr 2
  funext entry
  by_cases same : entry.1 = other
  · simp [same, different]
  · simp [same]

@[simp] theorem get?_insert_same (table : Table κ α) (key : κ) (value : α) :
    (table.insert key value).get? key = some value := by
  have absent : (table.erase key).entries.find? (fun entry => entry.1 = key) = none := by
    simp [erase, List.find?_filter]
  simp [get?, insert, List.find?_append, absent]

theorem get?_insert_other (table : Table κ α) {key other : κ} (different : other ≠ key)
    (value : α) : (table.insert key value).get? other = table.get? other := by
  rw [← get?_erase_other table different]
  simp [get?, insert, List.find?_append, Ne.symm different]

end Table

end Cadence
