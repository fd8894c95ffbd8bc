import Mathlib.Data.List.Count
import Mathlib.Order.Lattice

/-!
Reading a list page by page while it grows. The list is sorted by a key, the
highest first, and each page is taken from the list as it then is. What is added
moves an item back, so no item is passed over, although one may be read twice.
Items and keys are of any type.
-/

namespace Lehen.Paging

variable {α κ : Type} [LinearOrder κ]

def page (listing : List α) (limit offset : Nat) : List α := (listing.drop offset).take limit

/-- Sorted by the key, the highest first. -/
def Newest (key : α → κ) (listing : List α) : Prop :=
  listing.Pairwise fun first second => key second ≤ key first

/-- How many items come before one of this key. -/
def ahead (key : α → κ) (item : α) (listing : List α) : Nat :=
  listing.countP fun other => key item < key other

theorem page_newest {key : α → κ} {listing : List α} (newest : Newest key listing) (limit offset : Nat) :
    Newest key (page listing limit offset) :=
  newest.sublist ((List.take_sublist _ _).trans (List.drop_sublist _ _))

/-- An item is behind those of a higher key, where no other item has its own. -/
theorem get_ahead {key : α → κ} {listing : List α} {item : α} (newest : Newest key listing)
    (member : item ∈ listing) (alone : ∀ other ∈ listing, key other = key item → other = item) :
    listing[ahead key item listing]? = some item := by
  induction listing with
  | nil => cases member
  | cons first rest ih =>
      obtain ⟨highest, sorted⟩ := List.pairwise_cons.mp newest
      by_cases here : key item < key first
      · have later : item ∈ rest := by
          rcases List.mem_cons.mp member with rfl | later
          · exact absurd here (lt_irrefl _)
          · exact later
        have behind := ih sorted later fun other known => alone other (List.mem_cons_of_mem _ known)
        simp only [ahead, here, decide_true, List.countP_cons_of_pos, List.getElem?_cons_succ]
        exact behind
      · have same : first = item := by
          rcases List.mem_cons.mp member with rfl | later
          · rfl
          · exact alone first List.mem_cons_self (le_antisymm (not_lt.mp here) (highest item later))
        have none : ahead key item (first :: rest) = 0 := by
          rw [ahead, List.countP_eq_zero]
          intro other known
          rcases List.mem_cons.mp known with rfl | later
          · simpa using here
          · have lower := highest other later
            rw [same] at lower
            simpa using lower
        rw [none, same]
        rfl

theorem ahead_perm {key : α → κ} {item : α} {first second : List α} (perm : first.Perm second) :
    ahead key item first = ahead key item second :=
  perm.countP_eq _

theorem ahead_grows {key : α → κ} {item : α} {before after : List α} (grown : before.Sublist after) :
    ahead key item before ≤ ahead key item after :=
  grown.countP_le

/-- Page by page to one that is not full: an item that only moves back was read. -/
theorem read_of_back {listing : Nat → List α} {place : Nat → Nat} {limit last : Nat} {item : α}
    (found : ∀ k ≤ last, (listing k)[place k]? = some item)
    (back : ∀ k < last, place k ≤ place (k + 1))
    (short : (page (listing last) limit (last * limit)).length < limit) :
    ∃ k ≤ last, item ∈ page (listing k) limit (k * limit) := by
  by_contra unread
  push Not at unread
  have passed (k : Nat) (within : k ≤ last) (behind : k * limit ≤ place k) : (k + 1) * limit ≤ place k := by
    by_contra inside
    apply unread k within
    have offset : place k - k * limit < limit := by
      rw [Nat.add_mul, Nat.one_mul] at inside
      omega
    rw [page, List.mem_iff_getElem?]
    refine ⟨place k - k * limit, ?_⟩
    rw [List.getElem?_take_of_lt offset, List.getElem?_drop, Nat.add_sub_cancel' behind]
    exact found k within
  have behind (k : Nat) (within : k ≤ last) : k * limit ≤ place k := by
    induction k with
    | zero => simp
    | succ k ih => exact Nat.le_trans (passed k (by omega) (ih (by omega))) (back k within)
  have beyond := passed last (Nat.le_refl last) (behind last (Nat.le_refl last))
  have bound := (List.getElem?_eq_some_iff.mp (found last (Nat.le_refl last))).1
  rw [page, List.length_take, List.length_drop] at short
  rw [Nat.add_mul, Nat.one_mul] at beyond
  omega

end Lehen.Paging
