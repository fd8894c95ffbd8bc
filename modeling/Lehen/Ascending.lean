import Mathlib.Data.List.Dedup
import Mathlib.Data.List.Sort

/-!
Lists as sets, and association lists as finite maps, in their ascending form.
-/

namespace Lehen.Ascending

variable {α β γ : Type}

/-- Dropping or changing values leaves the keys distinct. -/
theorem distinct_filter_map {entries : List (α × β)} (convert : α × β → Option (α × γ))
    (keeps : ∀ entry converted, convert entry = some converted → converted.1 = entry.1)
    (distinct : (entries.map Prod.fst).Nodup) : ((entries.filterMap convert).map Prod.fst).Nodup := by
  apply List.Nodup.sublist _ distinct
  clear distinct
  induction entries with
  | nil => exact .slnil
  | cons entry rest ih =>
      cases converted : convert entry with
      | none =>
          rw [List.filterMap_cons_none converted]
          exact ih.cons _
      | some result =>
          rw [List.filterMap_cons_some converted, List.map_cons, List.map_cons,
            keeps entry result converted]
          exact ih.cons_cons _

variable [LinearOrder α]

/-- The members of a list, ascending and each once. -/
def ascend (items : List α) : List α := items.dedup.insertionSort (· ≤ ·)

theorem mem_ascend (items : List α) (item : α) : item ∈ ascend items ↔ item ∈ items := by
  simp only [ascend, List.mem_insertionSort, List.mem_dedup]

theorem ascend_ascends (items : List α) : (ascend items).Pairwise (· < ·) := by
  have once : (ascend items).Nodup :=
    (List.perm_insertionSort (· ≤ ·) items.dedup).nodup_iff.mpr items.nodup_dedup
  apply (List.pairwise_insertionSort (· ≤ ·) items.dedup).imp₂ _ once
  exact fun _ _ below different => lt_of_le_of_ne below different

/-- The ascending form is the same exactly for lists with the same members. -/
theorem ascend_eq_iff (items others : List α) :
    ascend items = ascend others ↔ ∀ item, item ∈ items ↔ item ∈ others := by
  constructor
  · intro same item
    rw [← mem_ascend items, same, mem_ascend]
  · intro members
    apply (ascend_ascends items).eq_of_mem_iff (ascend_ascends others)
    intro item
    rw [mem_ascend, mem_ascend, members item]

/-! Association lists with a key at most once. -/

/-- The entries of an association list, by ascending key. -/
def byKey (entries : List (α × β)) : List (α × β) :=
  entries.insertionSort fun left right => left.1 ≤ right.1

theorem mem_by_key (entries : List (α × β)) (entry : α × β) :
    entry ∈ byKey entries ↔ entry ∈ entries := List.mem_insertionSort _

theorem by_key_ascends (entries : List (α × β)) (distinct : (entries.map Prod.fst).Nodup) :
    ((byKey entries).map Prod.fst).Pairwise (· < ·) := by
  have total : Std.Total fun left right : α × β => left.1 ≤ right.1 :=
    ⟨fun left right => le_total left.1 right.1⟩
  have transitive : IsTrans (α × β) fun left right => left.1 ≤ right.1 := ⟨fun _ _ _ => le_trans⟩
  have sorted := List.pairwise_insertionSort (fun left right : α × β => left.1 ≤ right.1) entries
  have once : ((byKey entries).map Prod.fst).Nodup :=
    ((List.perm_insertionSort _ entries).map Prod.fst).nodup_iff.mpr distinct
  rw [List.Nodup, List.pairwise_map] at once
  rw [List.pairwise_map]
  apply List.Pairwise.imp₂ _ sorted once
  exact fun _ _ below different => lt_of_le_of_ne below different

/-- Two tables in ascending order with the same entries are one table. -/
theorem table_eq_of_mem {table other : List (α × β)} (ascends : (table.map Prod.fst).Pairwise (· < ·))
    (ascends' : (other.map Prod.fst).Pairwise (· < ·)) (same : ∀ entry, entry ∈ table ↔ entry ∈ other) :
    table = other := by
  have irreflexive : Std.Irrefl fun left right : α × β => left.1 < right.1 := ⟨fun _ => lt_irrefl _⟩
  have antisymmetric : Std.Antisymm fun left right : α × β => left.1 < right.1 :=
    ⟨fun _ _ below above => absurd below (lt_asymm above)⟩
  exact (List.pairwise_map.mp ascends).eq_of_mem_iff (List.pairwise_map.mp ascends') same

/-- What a table with distinct keys holds under a key is what it lists. -/
theorem lookup_eq_some_iff {entries : List (α × β)} (distinct : (entries.map Prod.fst).Nodup)
    (key : α) (value : β) : entries.lookup key = some value ↔ (key, value) ∈ entries := by
  induction entries with
  | nil => simp
  | cons entry rest ih =>
      obtain ⟨first, held⟩ := entry
      obtain ⟨fresh, distinct⟩ := List.nodup_cons.mp distinct
      rw [List.lookup_cons, List.mem_cons, Prod.mk.injEq]
      by_cases same : key = first
      · subst same
        have absent : (key, value) ∉ rest := by
          intro member
          exact fresh (List.mem_map.mpr ⟨(key, value), member, rfl⟩)
        simp [absent, eq_comm]
      · have different : (key == first) = false := beq_eq_false_iff_ne.mpr same
        simp only [different, same, false_and, false_or]
        exact ih distinct

end Lehen.Ascending
