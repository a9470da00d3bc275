import ChipEight.Failure

/-!
# The clock

The host paces its cycles by a clock that is given a rate, in cycles a second. How long it waits
cannot be observed; that it counts in floating point numbers of 64 bits can, because it fails at a rate
that is too large for them.
-/

namespace ChipEight.Clock

/-- The least rate that is rounded to a number beyond all floating point numbers of 64 bits: halfway
between the greatest of them and the next power of two. -/
def tooLarge : Nat := 1 <<< 1024 - 1 <<< 970

/-- Waits for the next cycle. -/
def tick (rate : Int) : Except SetupError Unit :=
  if rate.natAbs < tooLarge then .ok () else .error .rateTooLarge

end ChipEight.Clock
