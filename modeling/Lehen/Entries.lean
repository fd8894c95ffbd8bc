import Mathlib.Data.List.AList
import Mathlib.Data.List.Forall2

/-!
Dictionaries with the same keys in the same order, whose values are related key
by key.
-/

namespace Lehen.Entries

variable {κ β γ : Type}

inductive Entry (related : κ → β → γ → Prop) : (Sigma fun _ : κ => β) → (Sigma fun _ : κ => γ) → Prop
  | mk {key : κ} {value : β} {other : γ} (values : related key value other) :
      Entry related ⟨key, value⟩ ⟨key, other⟩

def Entrywise (related : κ → β → γ → Prop) (dict : AList fun _ : κ => β)
    (other : AList fun _ : κ => γ) : Prop :=
  List.Forall₂ (Entry related) dict.entries other.entries

variable {related : κ → β → γ → Prop} {dict : AList fun _ : κ => β} {other : AList fun _ : κ => γ}

theorem entrywise_mono {weak : κ → β → γ → Prop} (same : Entrywise related dict other)
    (weaker : ∀ key value value', related key value value' → weak key value value') :
    Entrywise weak dict other := by
  apply List.Forall₂.imp _ same
  rintro _ _ ⟨values⟩
  exact .mk (weaker _ _ _ values)

theorem entrywise_refl {related : κ → β → β → Prop}
    (own : ∀ key ∈ dict, ∀ value, related key value value) : Entrywise related dict dict := by
  apply List.forall₂_same.mpr
  intro entry member
  exact .mk (own entry.1 (List.mem_map_of_mem member) entry.2)

theorem entrywise_keys (same : Entrywise related dict other) : dict.keys = other.keys := by
  have entries {left : List (Sigma fun _ : κ => β)} {right : List (Sigma fun _ : κ => γ)}
      (same : List.Forall₂ (Entry related) left right) :
      left.map Sigma.fst = right.map Sigma.fst := by
    induction same with
    | nil => rfl
    | cons first _ ih =>
        cases first
        rw [List.map_cons, List.map_cons, ih]
  exact entries same

theorem entrywise_empty : Entrywise related (∅ : AList fun _ : κ => β) ∅ := .nil

/-- What a test that related values pass alike leaves of the keys. -/
theorem keys_filter {kept : (Sigma fun _ : κ => β) → Bool} {kept' : (Sigma fun _ : κ => γ) → Bool}
    (same : Entrywise related dict other)
    (alike : ∀ key value value', related key value value' → kept ⟨key, value⟩ = kept' ⟨key, value'⟩) :
    (dict.entries.filter kept).map Sigma.fst = (other.entries.filter kept').map Sigma.fst := by
  have entries {left : List (Sigma fun _ : κ => β)} {right : List (Sigma fun _ : κ => γ)}
      (same : List.Forall₂ (Entry related) left right) :
      (left.filter kept).map Sigma.fst = (right.filter kept').map Sigma.fst := by
    induction same with
    | nil => rfl
    | cons first _ ih =>
        obtain ⟨values⟩ := first
        rw [List.filter_cons, List.filter_cons, alike _ _ _ values]
        split
        · rw [List.map_cons, List.map_cons, ih]
        · exact ih
  exact entries same

theorem entrywise_filter (kept : κ → Bool)
    {nodup : (dict.entries.filter fun entry => kept entry.1).NodupKeys}
    {nodup' : (other.entries.filter fun entry => kept entry.1).NodupKeys}
    (same : Entrywise related dict other) :
    Entrywise related ⟨dict.entries.filter fun entry => kept entry.1, nodup⟩
      ⟨other.entries.filter fun entry => kept entry.1, nodup'⟩ := by
  apply List.rel_filter _ same
  rintro _ _ ⟨values⟩
  rfl

variable [DecidableEq κ]

theorem entries_kerase {left : List (Sigma fun _ : κ => β)} {right : List (Sigma fun _ : κ => γ)}
    (key : κ) (same : List.Forall₂ (Entry related) left right) :
    List.Forall₂ (Entry related) (left.kerase key) (right.kerase key) := by
  induction same with
  | nil => exact .nil
  | cons first rest ih =>
      obtain ⟨values⟩ := first
      rename_i head _ _
      by_cases hit : key = head
      · rw [List.kerase_cons_eq hit, List.kerase_cons_eq hit]
        exact rest
      · rw [List.kerase_cons_ne hit, List.kerase_cons_ne hit]
        exact .cons (.mk values) ih

theorem entrywise_insert {key : κ} {value : β} {value' : γ} (same : Entrywise related dict other)
    (values : related key value value') :
    Entrywise related (dict.insert key value) (other.insert key value') :=
  .cons (.mk values) (entries_kerase key same)

theorem entries_kunion {left later : List (Sigma fun _ : κ => β)}
    {right later' : List (Sigma fun _ : κ => γ)} (first : List.Forall₂ (Entry related) left right)
    (second : List.Forall₂ (Entry related) later later') :
    List.Forall₂ (Entry related) (left.kunion later) (right.kunion later') := by
  induction first generalizing later later' with
  | nil => exact second
  | cons head _ ih =>
      obtain ⟨values⟩ := head
      exact .cons (.mk values) (ih (entries_kerase _ second))

theorem entrywise_union {more : AList fun _ : κ => β} {more' : AList fun _ : κ => γ}
    (first : Entrywise related dict other) (second : Entrywise related more more') :
    Entrywise related (dict ∪ more) (other ∪ more') :=
  entries_kunion first second

/-- A key is looked up in both or in neither. -/
theorem lookup_cases (same : Entrywise related dict other) (key : κ) :
    dict.lookup key = none ∧ other.lookup key = none ∨
      ∃ value value', dict.lookup key = some value ∧ other.lookup key = some value' ∧
        related key value value' := by
  have entries {left : List (Sigma fun _ : κ => β)} {right : List (Sigma fun _ : κ => γ)}
      (same : List.Forall₂ (Entry related) left right) :
      left.dlookup key = none ∧ right.dlookup key = none ∨
        ∃ value value', left.dlookup key = some value ∧ right.dlookup key = some value' ∧
          related key value value' := by
    induction same with
    | nil => exact .inl ⟨rfl, rfl⟩
    | cons first rest ih =>
        obtain ⟨values⟩ := first
        rename_i head value value'
        by_cases hit : key = head
        · subst key
          rw [List.dlookup_cons_eq, List.dlookup_cons_eq]
          exact .inr ⟨value, value', rfl, rfl, values⟩
        · rw [List.dlookup_cons_ne _ _ hit, List.dlookup_cons_ne _ _ hit]
          exact ih
  exact entries same

theorem lookup_eq {other : AList fun _ : κ => β} {related : κ → β → β → Prop}
    (same : Entrywise related dict other) {key : κ}
    (equal : ∀ value value', related key value value' → value = value') :
    dict.lookup key = other.lookup key := by
  rcases lookup_cases same key with ⟨absent, absent'⟩ | ⟨value, value', found, found', values⟩
  · rw [absent, absent']
  · rw [found, found', equal value value' values]

end Lehen.Entries
