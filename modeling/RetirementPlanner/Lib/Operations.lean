import Mathlib.Algebra.Order.Field.Basic
import Mathlib.Data.List.Basic

/-!
# Partial operations

The operations of a program that fail on some of their arguments, as data: a list of them
says what a computation performs, on which arguments, and `Operation.Defined` says when one
succeeds. A list is put together as the computation is, and it is safe when its parts are:
one computation after another (`safe_append`), a loop (`safe_flatMap`), a branch (`safe_ite`),
an optional part (`safe_elim`).
-/

namespace Operations

/-- An operation that fails on some of its arguments. -/
inductive Operation (K : Type*)
  /-- A difference of unsigned integers. -/
  | subtract (minuend subtrahend : ℕ)
  | remainder (modulus : ℕ)
  /-- A number drawn from `0..bound`. -/
  | draw (bound : ℕ)
  | index (position length : ℕ)
  | slice (start stop length : ℕ)
  | divide (divisor : K)
  | power (base : K) (exponent : ℤ)
  | clamp (low high : K)
  /-- A comparison that is expected to have an outcome. -/
  | compare (left right : K)
  /-- A value that is expected to be there. -/
  | expect (present : Bool)

namespace Operation

variable {K : Type*} [Zero K] [LE K]

/-- The arguments on which an operation succeeds. -/
def Defined : Operation K → Prop
  | subtract minuend subtrahend => subtrahend ≤ minuend
  | remainder modulus => modulus ≠ 0
  | draw bound => bound ≠ 0
  | index position length => position < length
  | slice start stop length => start ≤ stop ∧ stop ≤ length
  | divide divisor => divisor ≠ 0
  | power base exponent => base ≠ 0 ∨ 0 ≤ exponent
  | clamp low high => low ≤ high
  | compare left right => left ≤ right ∨ right ≤ left
  | expect present => present = true

instance [DecidableEq K] [DecidableLE K] : DecidablePred (Defined (K := K))
  | subtract minuend subtrahend => inferInstanceAs (Decidable (subtrahend ≤ minuend))
  | remainder modulus => inferInstanceAs (Decidable (modulus ≠ 0))
  | draw bound => inferInstanceAs (Decidable (bound ≠ 0))
  | index position length => inferInstanceAs (Decidable (position < length))
  | slice start stop length => inferInstanceAs (Decidable (start ≤ stop ∧ stop ≤ length))
  | divide divisor => inferInstanceAs (Decidable (divisor ≠ 0))
  | power base exponent => inferInstanceAs (Decidable (base ≠ 0 ∨ 0 ≤ exponent))
  | clamp low high => inferInstanceAs (Decidable (low ≤ high))
  | compare left right => inferInstanceAs (Decidable (left ≤ right ∨ right ≤ left))
  | expect present => inferInstanceAs (Decidable (present = true))

end Operation

section Safe

variable {K : Type*} [Zero K] [LE K] {α : Type*}

/-- No operation of the list fails. -/
def Safe (operations : List (Operation K)) : Prop := ∀ operation ∈ operations, operation.Defined

instance [DecidableEq K] [DecidableLE K] : DecidablePred (Safe (K := K)) := fun operations =>
  inferInstanceAs (Decidable (∀ operation ∈ operations, operation.Defined))

@[simp] theorem safe_nil : Safe ([] : List (Operation K)) :=
  fun _ hmem => absurd hmem List.not_mem_nil

@[simp] theorem safe_cons {operation : Operation K} {operations : List (Operation K)} :
    Safe (operation :: operations) ↔ operation.Defined ∧ Safe operations :=
  List.forall_mem_cons

@[simp] theorem safe_append {first second : List (Operation K)} :
    Safe (first ++ second) ↔ Safe first ∧ Safe second :=
  List.forall_mem_append

@[simp] theorem safe_map {items : List α} {operation : α → Operation K} :
    Safe (items.map operation) ↔ ∀ item ∈ items, (operation item).Defined :=
  List.forall_mem_map

@[simp] theorem safe_flatMap {items : List α} {operations : α → List (Operation K)} :
    Safe (items.flatMap operations) ↔ ∀ item ∈ items, Safe (operations item) := by
  simp only [Safe, List.mem_flatMap, forall_exists_index, and_imp]
  exact ⟨fun h item hitem operation hmem => h operation item hitem hmem,
    fun h operation item hitem hmem => h item hitem operation hmem⟩

@[simp] theorem safe_ite {condition : Prop} [Decidable condition]
    {first second : List (Operation K)} :
    Safe (if condition then first else second)
      ↔ (condition → Safe first) ∧ (¬condition → Safe second) := by
  by_cases h : condition
  · simp [h]
  · simp [h]

@[simp] theorem safe_elim {option : Option α} {operations : α → List (Operation K)} :
    Safe (option.elim [] operations) ↔ ∀ item ∈ option, Safe (operations item) := by
  cases option with
  | none => simp
  | some item => simp

/-- A pass over a slice that reads it at the positions below `count`. -/
def scan (count length : ℕ) : List (Operation K) :=
  (List.range count).map fun position => .index position length

theorem safe_scan {count length : ℕ} (h : count ≤ length) :
    Safe (scan count length : List (Operation K)) :=
  safe_map.mpr fun _ hmem => (List.mem_range.mp hmem).trans_le h

end Safe

section Comparisons

variable {K : Type*} [Zero K] [LinearOrder K]

/-- What a sort may compare: any two of the values. -/
def comparisons (values : List K) : List (Operation K) :=
  values.flatMap fun left => values.map fun right => .compare left right

/-- Values of a linear order can be sorted. -/
@[simp] theorem safe_comparisons (values : List K) : Safe (comparisons values) :=
  safe_flatMap.mpr fun left _ => safe_map.mpr fun right _ => le_total left right

end Comparisons

end Operations
