/-
# Finding the end of an initial segment

A sorted array splits at one point: a property such as "comes before the key" holds on an
initial segment and nowhere after it. `partitionPoint` finds where that segment ends by halving
the part of the array still in question.
-/

namespace SqlAssist

universe u
variable {α : Type u}

/-- Search the positions from `low` up to, but without, `high`. Every round drops at least one
position, so as many rounds as there are positions are enough. -/
def bisect (holds : α → Bool) (xs : Array α) : (rounds low high : Nat) → Nat
  | 0, low, _ => low
  | rounds + 1, low, high =>
    if low < high then
      let middle := low + (high - low) / 2
      match xs[middle]? with
      | some x =>
        if holds x then bisect holds xs rounds (middle + 1) high
        else bisect holds xs rounds low middle
      | none => low
    else low

/-- The length of the initial segment of `xs` on which `holds` is true, for an array in which no
later member satisfies it. -/
def partitionPoint (holds : α → Bool) (xs : Array α) : Nat :=
  bisect holds xs xs.size 0 xs.size

/-- A property splits an array when it never holds later than it fails. -/
def Splits (holds : α → Bool) (xs : Array α) : Prop :=
  ∀ i j (hi : i < xs.size) (hj : j < xs.size), i ≤ j → holds xs[j] = true → holds xs[i] = true

/-- When nothing is left in question, the bounds have met at the end of the segment. -/
theorem holds_iff_lt_of_bounds {holds : α → Bool} {xs : Array α} {bound : Nat}
    (below : ∀ i (hi : i < xs.size), i < bound → holds xs[i] = true)
    (above : ∀ i (hi : i < xs.size), bound ≤ i → holds xs[i] = false)
    (i : Nat) (hi : i < xs.size) : holds xs[i] = true ↔ i < bound := by
  constructor
  · intro held
    rcases Nat.lt_or_ge i bound with early | late
    · exact early
    · rw [above i hi late] at held
      cases held
  · exact below i hi

/-- The search keeps the end of the segment between its two bounds. -/
theorem holds_iff_lt_bisect {holds : α → Bool} {xs : Array α} (splits : Splits holds xs)
    (rounds low high : Nat) (enough : high - low ≤ rounds) (ordered : low ≤ high)
    (bounded : high ≤ xs.size)
    (below : ∀ i (hi : i < xs.size), i < low → holds xs[i] = true)
    (above : ∀ i (hi : i < xs.size), high ≤ i → holds xs[i] = false)
    (i : Nat) (hi : i < xs.size) :
    holds xs[i] = true ↔ i < bisect holds xs rounds low high := by
  induction rounds generalizing low high with
  | zero =>
    obtain rfl : low = high := by omega
    exact holds_iff_lt_of_bounds below above i hi
  | succ rounds ih =>
    rw [bisect]
    by_cases remaining : low < high
    · have middleBound : low + (high - low) / 2 < xs.size := by omega
      simp only [if_pos remaining, Array.getElem?_eq_getElem middleBound]
      cases found : holds xs[low + (high - low) / 2] with
      | true =>
        rw [if_pos rfl]
        refine ih _ _ (by omega) (by omega) bounded (fun j hj early => ?_) above
        exact splits j _ hj middleBound (by omega) found
      | false =>
        rw [if_neg (by simp)]
        refine ih _ _ (by omega) (by omega) (by omega) below (fun j hj late => ?_)
        cases later : holds xs[j] with
        | false => rfl
        | true => rw [splits _ j middleBound hj late later] at found; cases found
    · obtain rfl : low = high := by omega
      rw [if_neg remaining]
      exact holds_iff_lt_of_bounds below above i hi

/-- The partition point separates the members that satisfy a splitting property from the
others. -/
theorem holds_iff_lt_partitionPoint {holds : α → Bool} {xs : Array α} (splits : Splits holds xs)
    (i : Nat) (hi : i < xs.size) : holds xs[i] = true ↔ i < partitionPoint holds xs :=
  holds_iff_lt_bisect splits xs.size 0 xs.size (by omega) (by omega) (Nat.le_refl _)
    (fun _ _ early => absurd early (by omega)) (fun _ inside late => absurd inside (by omega)) i hi

/-- The search never leaves its bounds. -/
theorem bisect_le (holds : α → Bool) (xs : Array α) (rounds low high : Nat)
    (ordered : low ≤ high) : bisect holds xs rounds low high ≤ high := by
  fun_induction bisect holds xs rounds low high with
  | case1 => exact ordered
  | case2 _ _ _ _ _ _ _ _ ih => exact ih (by omega)
  | case3 _ _ _ _ middle _ _ _ ih => exact Nat.le_trans (ih (by omega)) (by omega)
  | case4 => exact ordered
  | case5 => exact ordered

theorem partitionPoint_le_size (holds : α → Bool) (xs : Array α) :
    partitionPoint holds xs ≤ xs.size :=
  bisect_le holds xs xs.size 0 xs.size (Nat.zero_le _)

example : partitionPoint (· < 4) #[1, 3, 4, 4, 8] = 2 := by decide
example : partitionPoint (· < 9) #[1, 3, 4, 4, 8] = 5 := by decide
example : partitionPoint (· < 0) #[1, 3, 4, 4, 8] = 0 := by decide

end SqlAssist
