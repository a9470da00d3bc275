import ChipEight.Machine.Basic

/-!
# Registers of a machine that has them all

While all sixteen registers are there, none of the accesses to them fails: reading gives
`Registers.value` and setting gives `Registers.assign`, which keeps all registers there. The same is
said of a machine (`Machine.value`, `Machine.assign`).
-/

namespace ChipEight

namespace Registers

/-- The value of a register, zero if the register is missing. -/
def value (r : Registers) (x : Fin 16) : UInt8 := r.values[x.val]?.getD 0

/-- The registers with one of them set. -/
def assign (r : Registers) (x : Fin 16) (v : UInt8) : Registers := ⟨r.values.set x.val v⟩

/-- Whether all registers are there. -/
def IsFull (r : Registers) : Prop := r.values.length = full

variable {r : Registers}

theorem isFull_zeroed : zeroed.IsFull := List.length_replicate

theorem IsFull.assign (h : r.IsFull) (x : Fin 16) (v : UInt8) : (r.assign x v).IsFull :=
  (List.length_set ..).trans h

theorem IsFull.replaceFirst (h : r.IsFull) {count : Nat} {bytes : List UInt8}
    (hb : bytes.length = count) (hc : count ≤ 16) : (r.replaceFirst count bytes).IsFull :=
  (r.length_replaceFirst hb (Nat.le_trans hc (Nat.le_of_eq h.symm))).trans h

theorem IsFull.lt_length (h : r.IsFull) (x : Fin 16) : x.val < r.values.length := by
  rw [h]
  exact x.isLt

theorem IsFull.length_first (h : r.IsFull) (x : Fin 16) :
    (r.first (x.val + 1)).length = x.val + 1 := by
  have := h.lt_length x
  rw [first, List.length_take]
  omega

theorem IsFull.get_eq (h : r.IsFull) (x : Fin 16) : r.get x.val = .ok (r.value x) := by
  rw [get_of_lt r (h.lt_length x), value, List.getElem?_eq_getElem (h.lt_length x), Option.getD_some]

theorem IsFull.set_eq (h : r.IsFull) (x : Fin 16) (v : UInt8) : r.set x.val v = .ok (r.assign x v) :=
  set_of_lt r (h.lt_length x) v

/-- Setting a register changes that register only. -/
theorem IsFull.value_assign (h : r.IsFull) (x y : Fin 16) (v : UInt8) :
    (r.assign x v).value y = if x = y then v else r.value y := by
  have hx := h.lt_length x
  simp only [value, Registers.assign, List.getElem?_set, Fin.ext_iff]
  split
  · rfl
  · rfl

theorem IsFull.value_assign_self (h : r.IsFull) (x : Fin 16) (v : UInt8) :
    (r.assign x v).value x = v :=
  (h.value_assign x x v).trans (if_pos rfl)

/-- Putting bytes in the place of the first registers changes no later one. -/
theorem value_replaceFirst {count : Nat} {bytes : List UInt8} (hb : bytes.length = count)
    (y : Fin 16) :
    (r.replaceFirst count bytes).value y =
      if y.val < count then bytes[y.val]?.getD 0 else r.value y := by
  simp only [value, replaceFirst]
  split
  · next inside => rw [List.getElem?_append_left (by omega)]
  · next outside =>
    rw [List.getElem?_append_right (by omega), List.getElem?_drop, hb,
      show count + (y.val - count) = y.val by omega]

end Registers

namespace Machine

/-- The value of a register. -/
def value (m : Machine) (x : Fin 16) : UInt8 := m.registers.value x

/-- The machine with one register set. -/
def assign (m : Machine) (x : Fin 16) (v : UInt8) : Machine :=
  { m with registers := m.registers.assign x v }

/-- The machine with the register of flags set. -/
def withFlag (m : Machine) (flag : Bool) : Machine := m.assign Registers.flag (if flag then 1 else 0)

variable {m : Machine} (h : m.registers.IsFull)
include h

theorem register_eq (x : Fin 16) : m.register x = .ok (m.value x) := h.get_eq x

theorem registerPair_eq (x y : Fin 16) : m.registerPair x y = .ok (m.value x, m.value y) := by
  rw [registerPair, register_eq h, register_eq h]
  rfl

theorem setRegister_eq (x : Fin 16) (v : UInt8) : m.setRegister x v = .ok (m.assign x v) := by
  rw [setRegister, setRegisterAt, h.set_eq]
  rfl

theorem setFlag_eq (flag : Bool) : m.setFlag flag = .ok (m.withFlag flag) :=
  setRegister_eq h Registers.flag _

end Machine

end ChipEight
