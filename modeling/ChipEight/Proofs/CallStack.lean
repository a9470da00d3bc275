import ChipEight.CallStack

/-!
# Pushing and popping, slot by slot

The slots of a stack are looked at through `CallStack.slot`, which is zero beyond the last one. A
push that succeeds and a pop that succeeds change one slot each (`CallStack.slot_pushed`,
`CallStack.slot_popped`), and the depth by one.
-/

namespace ChipEight.CallStack

variable {n : Nat} (s : CallStack n)

/-- The value of a slot. -/
def slot (i : Nat) : Int := s.slots[i]?.getD 0

/-- The address that a pop takes off. -/
def top : Int := s.slot (s.depth - 1)

/-- The stack after a pop. An empty stack stays as it is. -/
def popped : CallStack n :=
  match s.pop with
  | .ok (_, s) => s
  | .error _ => s

/-- The stack after a push. A full stack stays as it is. -/
def pushed (address : Int) : CallStack n :=
  match s.push address with
  | .ok s => s
  | .error _ => s

/-! ## Popping -/

theorem pop_of_empty (h : s.depth = 0) : s.pop = .error .stackEmpty := dif_pos h

theorem pop_of_pos (h : 0 < s.depth) : s.pop = .ok (s.top, s.popped) := by
  have hle := s.depth_le
  have top : s.slot (s.depth - 1) = s.slots[s.depth - 1] := by
    rw [slot, Vector.getElem?_eq_getElem (by omega), Option.getD_some]
  simp only [popped, CallStack.top, pop, dif_neg (show s.depth ≠ 0 by omega), top]

theorem popped_of_empty (h : s.depth = 0) : s.popped = s := by
  simp only [popped, s.pop_of_empty h]

@[simp] theorem depth_popped : s.popped.depth = s.depth - 1 := by
  unfold popped pop
  by_cases h : s.depth = 0 <;> simp [h]

/-- A pop clears the slot that it frees. -/
theorem slot_popped (i : Nat) : s.popped.slot i = if i + 1 = s.depth then 0 else s.slot i := by
  have hle := s.depth_le
  by_cases h : s.depth = 0
  · rw [s.popped_of_empty h, if_neg (by omega)]
  · simp only [slot, popped, pop, dif_neg h, Vector.getElem?_set]
    by_cases hi : i + 1 = s.depth
    · rw [if_pos (by omega), if_pos hi, Option.getD_some]
    · rw [if_neg (by omega), if_neg hi]

/-! ## Pushing -/

theorem push_of_full {address : Int} (h : s.depth = n) :
    s.push address = .error (.stackOverflow n) :=
  dif_neg (by omega)

theorem push_of_lt {address : Int} (h : s.depth < n) :
    s.push address = .ok (s.pushed address) := by
  simp only [pushed, push, dif_pos h]

theorem depth_pushed {address : Int} (h : s.depth < n) : (s.pushed address).depth = s.depth + 1 := by
  simp only [pushed, push, dif_pos h]

/-- A push fills the first slot that is not in use. -/
theorem slot_pushed {address : Int} (h : s.depth < n) (i : Nat) :
    (s.pushed address).slot i = if i = s.depth then address else s.slot i := by
  simp only [slot, pushed, push, dif_pos h, Vector.getElem?_set]
  by_cases hi : i = s.depth
  · rw [if_pos hi.symm, if_pos hi, Option.getD_some]
  · rw [if_neg (Ne.symm hi), if_neg hi]

/-! ## Clearing -/

theorem slot_empty (i : Nat) : (empty n).slot i = 0 := by
  simp only [slot, empty, Vector.getElem?_replicate]
  split <;> rfl

end ChipEight.CallStack
