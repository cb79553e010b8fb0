import Cadence.Table
import Cadence.Sum

namespace Cadence

namespace Table

/-!
# Keys of a table

What is found under a key of a changed table was put there by the change or found
there before.  The weights of the values add up, and a key that is taken out takes
its weight with it.
-/

variable {κ α : Type}

/-- Some of the entries weigh at most what all of them weigh. -/
theorem sumOf_filter_le
    (entries : List (κ × α))
    (keep : κ × α → Bool)
    (weight : α → Nat) :
    sumOf ((entries.filter keep).map fun entry => weight entry.2) ≤
      sumOf (entries.map fun entry => weight entry.2) := by
  induction entries with
  | nil => exact Nat.le_refl _
  | cons entry entries ih =>
      rw [List.filter_cons]
      split
      · simp only [List.map_cons, sumOf_cons]
        omega
      · simp only [List.map_cons, sumOf_cons]
        omega

variable [DecidableEq κ]

/-- The value of a key is one of the entries. -/
theorem mem_entries_of_get?
    {table : Table κ α}
    {key : κ}
    {value : α}
    (found : table.get? key = some value) :
    (key, value) ∈ table.entries := by
  unfold get? at found
  obtain ⟨entry, isFound, rfl⟩ := Option.map_eq_some_iff.mp found
  have same : entry.1 = key := by simpa using List.find?_some isFound
  rw [← same]
  exact List.mem_of_find?_eq_some isFound

/-- A table without a key maps the others as before. -/
theorem get?_of_erase
    {table : Table κ α}
    {key other : κ}
    {value : α}
    (found : (table.erase key).get? other = some value) :
    table.get? other = some value := by
  by_cases same : other = key
  · simp [same] at found
  · rwa [get?_erase_other _ same] at found

/-- A table with a key maps it to the new value, and the others as before. -/
theorem get?_of_insert
    {table : Table κ α}
    {key other : κ}
    {new value : α}
    (found : (table.insert key new).get? other = some value) :
    (other = key ∧ value = new) ∨ table.get? other = some value := by
  by_cases same : other = key
  · rw [same, get?_insert_same] at found
    exact Or.inl ⟨same, (Option.some.inj found).symm⟩
  · rw [get?_insert_other _ same] at found
    exact Or.inr found

/-- What the values of a table weigh together. -/
def total
    (table : Table κ α)
    (weight : α → Nat) :
    Nat :=
  sumOf (table.entries.map fun entry => weight entry.2)

theorem total_erase_le
    (table : Table κ α)
    (key : κ)
    (weight : α → Nat) :
    (table.erase key).total weight ≤ table.total weight :=
  sumOf_filter_le table.entries _ weight

/-- Without a key, a table is lighter by what was under the key. -/
theorem total_erase_add_le
    {table : Table κ α}
    {key : κ}
    {value : α}
    (found : table.get? key = some value)
    (weight : α → Nat) :
    (table.erase key).total weight + weight value ≤ table.total weight := by
  have present := mem_entries_of_get? found
  obtain ⟨entries⟩ := table
  simp only [total, erase] at present ⊢
  clear found
  induction entries with
  | nil => cases present
  | cons entry entries ih =>
      have smaller := sumOf_filter_le entries (fun other => other.1 ≠ key) weight
      cases List.mem_cons.mp present with
      | inl head =>
          subst head
          simp only [ne_eq, not_true_eq_false, decide_false, Bool.false_eq_true,
            not_false_eq_true, List.filter_cons_of_neg, List.map_cons, sumOf_cons]
          simp only [ne_eq] at smaller
          omega
      | inr tail =>
          have rest := ih tail
          rw [List.filter_cons]
          simp only [List.map_cons, sumOf_cons]
          split
          · simp only [List.map_cons, sumOf_cons]
            omega
          · omega

@[simp] theorem total_insert
    (table : Table κ α)
    (key : κ)
    (value : α)
    (weight : α → Nat) :
    (table.insert key value).total weight =
      (table.erase key).total weight + weight value := by
  simp [total, insert]

end Table

end Cadence
