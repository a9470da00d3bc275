import ChipEight.Failure
import ChipEight.Text.Listing

/-!
# The stack of return addresses

A stack of a fixed number of slots, of which the first `depth` are in use. Pushing onto a full stack
and popping from an empty one are faults; popping clears the slot that it frees.
-/

namespace ChipEight

/-- A stack with `n` slots. -/
structure CallStack (n : Nat) where
  slots : Vector Int n
  depth : Nat
  depth_le : depth ≤ n

namespace CallStack

variable {n : Nat}

/-- The stack with no slot in use. -/
def empty (n : Nat) : CallStack n := ⟨Vector.replicate n 0, 0, Nat.zero_le n⟩

/-- Puts an address on top. -/
def push (s : CallStack n) (address : Int) : Except Fault (CallStack n) :=
  if h : s.depth < n then .ok ⟨s.slots.set s.depth address, s.depth + 1, h⟩
  else .error (.stackOverflow n)

/-- Takes the top address off and clears its slot. -/
def pop (s : CallStack n) : Except Fault (Int × CallStack n) :=
  if h : s.depth = 0 then .error .stackEmpty
  else
    have top : s.depth - 1 < n := by have := s.depth_le; omega
    .ok (s.slots[s.depth - 1], ⟨s.slots.set (s.depth - 1) 0, s.depth - 1, Nat.le_of_lt top⟩)

/-- Clears every slot. -/
def reset (s : CallStack n) : CallStack n := ⟨s.slots.map fun _ => 0, 0, Nat.zero_le n⟩

/-- The depth and the addresses in use, the oldest first. -/
def text (s : CallStack n) : String :=
  let used := s.slots.toList.take s.depth
  s!"SP:{Numeral.decimal s.depth} " ++ listing (used.map fun a => "'0x" ++ Numeral.hex 3 a ++ "'")

/-! ## Clearing -/

theorem reset_eq_empty (s : CallStack n) : s.reset = empty n := by
  simp only [reset, empty, CallStack.mk.injEq, and_true]
  ext i hi
  simp

end CallStack

end ChipEight
