import ChipEight.Failure

/-!
# Registers

The variable registers of the machine, which hold a byte each. A machine starts with sixteen of them
and keeps them as long as every transfer from memory brings as many bytes as it asks for; one that
brings fewer leaves fewer registers, and a later one may bring them back. So reading and setting a
register can fail (`Registers.get_of_lt` and `Registers.set_of_lt` say when they do not).
-/

namespace ChipEight

/-- The values of the registers that there are, the first register first. -/
structure Registers where
  values : List UInt8
  deriving DecidableEq, Repr

namespace Registers

/-- How many registers a machine starts with. -/
def full : Nat := 16

/-- The register that holds flags, such as the carry of an addition. -/
def flag : Fin 16 := 15

/-- The register whose value is added to the target of a jump. -/
def offset : Fin 16 := 0

/-- The registers that a machine starts with, all of them zero. -/
def zeroed : Registers := ⟨List.replicate full 0⟩

/-- The value of a register. -/
def get (r : Registers) (x : Nat) : Except AccessError UInt8 :=
  match r.values[x]? with
  | some value => .ok value
  | none => .error (.registerRead x)

/-- Sets the register at a signed index. -/
def set (r : Registers) (i : Int) (value : UInt8) : Except AccessError Registers :=
  match Index.resolve r.values.length i with
  | some k => .ok ⟨r.values.set k value⟩
  | none => .error (.registerWrite i)

/-- The values of the first `count` registers. -/
def first (r : Registers) (count : Nat) : List UInt8 := r.values.take count

/-- Puts bytes in the place of the first `count` registers. -/
def replaceFirst (r : Registers) (count : Nat) (bytes : List UInt8) : Registers :=
  ⟨bytes ++ r.values.drop count⟩

/-! ## Registers that there are -/

theorem get_of_lt (r : Registers) {x : Nat} (h : x < r.values.length) :
    r.get x = .ok r.values[x] := by
  simp only [get, List.getElem?_eq_getElem h]

theorem set_of_lt (r : Registers) {x : Nat} (h : x < r.values.length) (value : UInt8) :
    r.set x value = .ok ⟨r.values.set x value⟩ := by
  simp only [set, Index.resolve_natCast h]

theorem length_replaceFirst (r : Registers) {count : Nat} {bytes : List UInt8}
    (h : bytes.length = count) (hc : count ≤ r.values.length) :
    (r.replaceFirst count bytes).values.length = r.values.length := by
  simp only [replaceFirst, List.length_append, List.length_drop]
  omega

end Registers

end ChipEight
