/-!
# Slices

A slice `start : stop : step` picks entries of a sequence. A bound left out reaches to the end of
the sequence, a negative bound counts from the end, and bounds beyond the sequence are moved to its
ends, so that a slice never fails, except when its step is zero. `Slice.positions` lists the picked
places in the order of the slice; that they are places of the sequence is part of its type.
-/

namespace ChipEight

/-- The three numbers of a slice, each of which may be left out. -/
structure Slice where
  start : Option Int
  stop : Option Int
  step : Option Int
  deriving DecidableEq, Repr

namespace Slice

/-- The slice that picks everything. -/
def all : Slice := ⟨none, none, none⟩

/-- The step of a slice, one if it is left out. -/
def stride (s : Slice) : Int := s.step.getD 1

/-- The least value of a bound: one before the first place if the slice runs backwards. -/
def lowest (s : Slice) : Int := if s.stride < 0 then -1 else 0

/-- The greatest value of a bound in a sequence of `n` entries. -/
def highest (s : Slice) (n : Nat) : Int := if s.stride < 0 then n - 1 else n

/-- A given bound, counted from the start and moved between the least and the greatest value. -/
def clamp (s : Slice) (n : Nat) (bound : Int) : Int :=
  if bound < 0 then max (bound + n) s.lowest else min bound (s.highest n)

/-- Where a slice of a sequence of `n` entries starts. -/
def first (s : Slice) (n : Nat) : Int :=
  match s.start with
  | some bound => s.clamp n bound
  | none => if s.stride < 0 then s.highest n else s.lowest

/-- Where a slice of a sequence of `n` entries stops; that place is not picked. -/
def limit (s : Slice) (n : Nat) : Int :=
  match s.stop with
  | some bound => s.clamp n bound
  | none => if s.stride < 0 then s.lowest else s.highest n

/-- How many entries a slice picks from a sequence of `n`. -/
def count (s : Slice) (n : Nat) : Nat :=
  if 0 < s.stride then ((s.limit n - s.first n + s.stride - 1) / s.stride).toNat
  else ((s.first n - s.limit n - s.stride - 1) / -s.stride).toNat

/-- The place of the entry that a slice picks after `k` others. -/
def place (s : Slice) (n k : Nat) : Int := s.first n + k * s.stride

/-! ## The picked places are places of the sequence -/

theorem first_bounds (s : Slice) (n : Nat) :
    s.lowest ≤ s.first n ∧ s.first n ≤ s.highest n := by
  unfold first clamp highest lowest
  by_cases hs : s.stride < 0
  · simp only [hs, if_true]
    split
    · split <;> omega
    · omega
  · simp only [hs, if_false]
    split
    · split <;> omega
    · omega

theorem limit_bounds (s : Slice) (n : Nat) :
    s.lowest ≤ s.limit n ∧ s.limit n ≤ s.highest n := by
  unfold limit clamp highest lowest
  by_cases hs : s.stride < 0
  · simp only [hs, if_true]
    split
    · split <;> omega
    · omega
  · simp only [hs, if_false]
    split
    · split <;> omega
    · omega

theorem place_bounds {s : Slice} {n k : Nat} (hs : s.stride ≠ 0) (hk : k < s.count n) :
    0 ≤ s.place n k ∧ s.place n k < n := by
  have hf := s.first_bounds n
  have hl := s.limit_bounds n
  unfold lowest highest at hf hl
  unfold count at hk
  unfold place
  by_cases hp : 0 < s.stride
  · rw [if_pos hp] at hk
    rw [if_neg (by omega), if_neg (by omega)] at hf hl
    have h1 : (k : Int) + 1 ≤ (s.limit n - s.first n + s.stride - 1) / s.stride := by omega
    have h2 := (Int.le_ediv_iff_mul_le hp).1 h1
    rw [Int.add_mul] at h2
    have h3 : 0 ≤ (k : Int) * s.stride := Int.mul_nonneg (by omega) (by omega)
    omega
  · rw [if_neg hp] at hk
    rw [if_pos (by omega), if_pos (by omega)] at hf hl
    have hn : 0 < -s.stride := by omega
    have h1 : (k : Int) + 1 ≤ (s.first n - s.limit n - s.stride - 1) / -s.stride := by omega
    have h2 := (Int.le_ediv_iff_mul_le hn).1 h1
    rw [Int.add_mul, Int.mul_neg] at h2
    have h3 : 0 ≤ (k : Int) * -s.stride := Int.mul_nonneg (by omega) (by omega)
    rw [Int.mul_neg] at h3
    omega

/-- The places that a slice picks from a sequence of `n` entries, unless its step is zero. -/
def positions (s : Slice) (n : Nat) : Option (List (Fin n)) :=
  if hs : s.stride = 0 then none
  else some <| (List.finRange (s.count n)).map fun k : Fin (s.count n) =>
    have h := place_bounds hs k.isLt
    ⟨(s.place n k).toNat, by omega⟩

end Slice

end ChipEight
