import Mathlib.Data.List.Lex
import Mathlib.Data.Set.Defs
import Mathlib.Order.Lattice

/-!
Texts made of columns. Where every value of a column is written in one width,
and in the order of the values, the texts are in the order of the columns, the
first one first. Values and symbols are of any linear order.
-/

namespace Lehen.Columns

variable {α ι κ ν : Type} [LinearOrder α] [LinearOrder ι] [LinearOrder κ] [LinearOrder ν]

theorem append_lt_append {left right first second : List α} (aligned : left.length = right.length) :
    left ++ first < right ++ second ↔ left < right ∨ left = right ∧ first < second := by
  induction left generalizing right with
  | nil =>
      cases List.length_eq_zero_iff.mp aligned.symm
      simp
  | cons symbol rest ih =>
      cases right with
      | nil => cases aligned
      | cons other tail =>
          have shorter : rest.length = tail.length := Nat.succ.inj aligned
          simp only [List.cons_append, List.cons_lt_cons_iff, ih shorter, List.cons.injEq]
          tauto

/-- The texts of the values are in the order of the values. -/
def Ordered (domain : Set ι) (write : ι → List α) : Prop :=
  ∀ left ∈ domain, ∀ right ∈ domain, write left < write right ↔ left < right

structure Column (domain : Set ι) (write : ι → List α) : Prop where
  aligned : ∀ left ∈ domain, ∀ right ∈ domain, (write left).length = (write right).length
  ordered : Ordered domain write

theorem written_injective {domain : Set ι} {write : ι → List α} (ordered : Ordered domain write)
    {left right : ι} (known : left ∈ domain) (other : right ∈ domain)
    (same : write left = write right) : left = right := by
  have irreflexive : ¬ write right < write right := lt_irrefl _
  rcases lt_trichotomy left right with less | same | more
  · exact absurd (same ▸ (ordered left known right other).mpr less) irreflexive
  · exact same
  · exact absurd (same ▸ (ordered right other left known).mpr more) irreflexive

/-- Values ordered by one part, and by another one where the first is the same. -/
def Graded (domain : Set ι) (high : ι → κ) (low : ι → ν) : Prop :=
  ∀ left ∈ domain, ∀ right ∈ domain,
    left < right ↔ high left < high right ∨ high left = high right ∧ low left < low right

theorem ordered_pair {domain : Set ι} {highs : Set κ} {lows : Set ν} {high : ι → κ} {low : ι → ν}
    {writeHigh : κ → List α} {writeLow : ν → List α} (graded : Graded domain high low)
    (inHighs : ∀ value ∈ domain, high value ∈ highs) (inLows : ∀ value ∈ domain, low value ∈ lows)
    (first : Column highs writeHigh) (second : Ordered lows writeLow) :
    Ordered domain fun value => writeHigh (high value) ++ writeLow (low value) := by
  intro left known right other
  have atHigh := inHighs left known
  have otherHigh := inHighs right other
  have equal : writeHigh (high left) = writeHigh (high right) ↔ high left = high right :=
    ⟨written_injective first.ordered atHigh otherHigh, congrArg writeHigh⟩
  rw [append_lt_append (first.aligned _ atHigh _ otherHigh), first.ordered _ atHigh _ otherHigh,
    second _ (inLows left known) _ (inLows right other), equal]
  exact (graded left known right other).symm

theorem column_pair {domain : Set ι} {highs : Set κ} {lows : Set ν} {high : ι → κ} {low : ι → ν}
    {writeHigh : κ → List α} {writeLow : ν → List α} (graded : Graded domain high low)
    (inHighs : ∀ value ∈ domain, high value ∈ highs) (inLows : ∀ value ∈ domain, low value ∈ lows)
    (first : Column highs writeHigh) (second : Column lows writeLow) :
    Column domain fun value => writeHigh (high value) ++ writeLow (low value) := by
  refine ⟨?_, ordered_pair graded inHighs inLows first second.ordered⟩
  intro left known right other
  rw [List.length_append, List.length_append,
    first.aligned _ (inHighs left known) _ (inHighs right other),
    second.aligned _ (inLows left known) _ (inLows right other)]

/-- A column that ends in a separator. -/
theorem column_ends {domain : Set ι} {write : ι → List α} (column : Column domain write)
    (separator : List α) : Column domain fun value => write value ++ separator := by
  constructor
  · intro left known right other
    rw [List.length_append, List.length_append, column.aligned left known right other]
  · intro left known right other
    rw [append_lt_append (column.aligned left known right other), column.ordered left known right other]
    exact or_iff_left fun same => lt_irrefl separator same.2

/-- Quotient and remainder grade the natural numbers. -/
theorem graded_radix (domain : Set ℕ) {base : ℕ} (positive : 0 < base) :
    Graded domain (fun value => value / base) fun value => value % base := by
  intro left _ right _
  have leftParts := Nat.div_add_mod left base
  have rightParts := Nat.div_add_mod right base
  have leftRest := Nat.mod_lt left positive
  have rightRest := Nat.mod_lt right positive
  show left < right ↔
    left / base < right / base ∨ left / base = right / base ∧ left % base < right % base
  constructor
  · intro less
    rcases (Nat.div_le_div_right less.le : left / base ≤ right / base).lt_or_eq with lower | same
    · exact .inl lower
    · refine .inr ⟨same, ?_⟩
      rw [same] at leftParts
      omega
  · rintro (lower | ⟨same, less⟩)
    · have whole : base * (left / base) + base ≤ base * (right / base) := by
        rw [← Nat.mul_succ]
        exact Nat.mul_le_mul_left base lower
      omega
    · rw [same] at leftParts
      omega

end Lehen.Columns
