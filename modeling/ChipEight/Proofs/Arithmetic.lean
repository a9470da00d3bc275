import ChipEight.Proofs.Bounds

/-!
# Arithmetic with flags

Five opcodes set a register to the result of an operation and tell by the register of flags what the
result leaves out: a carry, a borrow, or the bit that was shifted out. `Arithmetic.Balances` is the
equation between operands, result and flag, which both are found by (`Arithmetic.balances`).
`Machine.computes` says of each of these opcodes that it goes by the values from before it, whichever
registers it names, and that a subtraction takes an addition back.
-/

namespace ChipEight

/-- The operations that give a flag beside their result. -/
inductive Arithmetic
  | add
  | sub
  | subFrom
  | shiftRight
  | shiftLeft
  deriving DecidableEq

namespace Arithmetic

/-- The code of an operation on the first register and itself. The first operand follows in steps of
0x100, the second one, which a shift does not look at, in steps of 0x10. -/
def code : Arithmetic → Nat
  | add => 0x8004
  | sub => 0x8005
  | subFrom => 0x8007
  | shiftRight => 0x8006
  | shiftLeft => 0x800E

/-- The instruction for an operation on two registers. -/
def instr (x y : Fin 16) : Arithmetic → Instr
  | add => .add x y
  | sub => .sub x y
  | subFrom => .subFrom x y
  | shiftRight => .shiftRight x
  | shiftLeft => .shiftLeft x

/-- The result of an operation on two values. -/
def result (a b : UInt8) : Arithmetic → UInt8
  | add => a + b
  | sub => a - b
  | subFrom => b - a
  | shiftRight => a >>> 1
  | shiftLeft => a <<< 1

/-- The flag of an operation on two values. -/
def flag (a b : UInt8) : Arithmetic → Bool
  | add => 255 < a.toNat + b.toNat
  | sub => b ≤ a
  | subFrom => a ≤ b
  | shiftRight => a &&& 1 == 1
  | shiftLeft => a &&& 0x80 == 0x80

/-- Operands, result and flag of an operation go together: the flag is what a byte does not hold of a
sum or of a double, the bit that halving leaves over, or one less what a difference has borrowed. -/
def Balances (a b r flag : Int) : Arithmetic → Prop
  | add => a + b = 256 * flag + r
  | sub => a - b = r - 256 * (1 - flag)
  | subFrom => b - a = r - 256 * (1 - flag)
  | shiftRight => a = 2 * r + flag
  | shiftLeft => 2 * a = 256 * flag + r

/-- What the flag of an operation counts for. -/
def carry (o : Arithmetic) (a b : UInt8) : Nat := if o.flag a b then 1 else 0

variable (o : Arithmetic)

theorem carry_le (a b : UInt8) : o.carry a b ≤ 1 := by
  rw [carry]
  split <;> omega

/-- Result and flag are what the operation says. -/
theorem balances (a b : UInt8) :
    o.Balances a.toNat b.toNat (o.result a b).toNat (o.carry a b) := by
  have ha := a.toNat_lt
  have hb := b.toNat_lt
  cases o with
  | add =>
    have sum : (a + b).toNat = (a.toNat + b.toNat) % 256 := UInt8.toNat_add a b
    simp only [Balances, result, carry, flag, decide_eq_true_eq, sum]
    split <;> omega
  | sub =>
    have difference : (a - b).toNat = (256 - b.toNat + a.toNat) % 256 := UInt8.toNat_sub a b
    simp only [Balances, result, carry, flag, decide_eq_true_eq, UInt8.le_iff_toNat_le, difference]
    split <;> omega
  | subFrom =>
    have difference : (b - a).toNat = (256 - a.toNat + b.toNat) % 256 := UInt8.toNat_sub b a
    simp only [Balances, result, carry, flag, decide_eq_true_eq, UInt8.le_iff_toNat_le, difference]
    split <;> omega
  | shiftRight =>
    have half : (a >>> 1).toNat = a.toNat / 2 := by
      rw [UInt8.toNat_shiftRight]
      exact Nat.shiftRight_eq_div_pow ..
    have lowest : (a &&& 1).toNat = a.toNat % 2 := Nat.and_one_is_mod _
    have one : (1 : UInt8).toNat = 1 := rfl
    simp only [Balances, result, carry, flag, beq_iff_eq, ← UInt8.toNat_inj, half, lowest, one]
    split <;> omega
  | shiftLeft =>
    have double : (a <<< 1).toNat = 2 * a.toNat % 256 := by
      rw [UInt8.toNat_shiftLeft, Nat.shiftLeft_eq, Nat.mul_comm]
      rfl
    have highest : (a &&& 0x80).toNat = a.toNat / 128 % 2 * 128 := and_ones a.toNat 7 1
    have top : (0x80 : UInt8).toNat = 128 := rfl
    simp only [Balances, result, carry, flag, beq_iff_eq, ← UInt8.toNat_inj, double, highest, top]
    split <;> omega

theorem codes {op : Opcode} {x y : Fin 16} (code : op.toNat = o.code + 0x100 * x.val + 0x10 * y.val) :
    (o.instr x y).Codes op.toNat := by
  cases o with
  | add | sub | subFrom => exact code
  | shiftRight | shiftLeft =>
    simp only [Arithmetic.code] at code
    simp only [instr, Instr.Codes]
    omega

/-- Running the instruction of an operation sets one register to its result, and then the register of
flags. -/
theorem run_instr {m : Machine} (full : m.registers.IsFull) (x y : Fin 16) (random : UInt8) :
    (o.instr x y).run m random =
      .done ((m.assign x (o.result (m.value x) (m.value y))).withFlag
        (o.flag (m.value x) (m.value y))) := by
  have pair := Machine.registerPair_eq full
  have single := Machine.register_eq full
  have set := Machine.setWithFlag_eq full
  cases o with
  | add | sub | subFrom =>
    simp only [instr, Instr.run, pair, Outcome.after, set]
    rfl
  | shiftRight | shiftLeft =>
    simp only [instr, Instr.run, single, Outcome.after, set]
    rfl

end Arithmetic

namespace Machine

variable {m : Machine}

/-- What the opcode of an operation on two registers has made of a machine. -/
structure Computed (m : Machine) (o : Arithmetic) (x y : Fin 16) (m' : Machine) : Prop where
  registers : m'.registers.IsFull
  /-- The register of flags holds the flag, also if it is the one for the result. -/
  values : ∃ r flag : Nat, r ≤ 255 ∧ flag ≤ 1 ∧
    o.Balances (m.value x).toNat (m.value y).toNat r flag ∧
    (m'.value Registers.flag).toNat = flag ∧ (x ≠ Registers.flag → (m'.value x).toNat = r)
  others : ∀ z, z ≠ x → z ≠ Registers.flag → m'.value z = m.value z

/-- Executing the opcode of an operation does what its instruction does. -/
theorem execute_arithmetic (full : m.registers.IsFull) (o : Arithmetic) {op : Opcode} {x y : Fin 16}
    (code : op.toNat = o.code + 0x100 * x.val + 0x10 * y.val) (random : List UInt8) :
    let result := o.result (m.value x) (m.value y)
    let flag := o.flag (m.value x) (m.value y)
    m.execute op random =
      ⟨((m.noted op).assign x result).withFlag flag, (o.instr x y).randomAfter random,
        [.executed (m.noted op).instructionAddress (o.instr x y)], none⟩ := by
  have decoded : decode op = some (o.instr x y) := decode_eq_some_iff.2 (o.codes code)
  have noted : { m with opcode := op } = m.noted op := rfl
  have full : (m.noted op).registers.IsFull := full
  simp only [execute, decoded, noted, o.run_instr full]
  rfl

/-- With its result and its flag set, an operation goes by the values from before it, whichever
registers it names. -/
theorem computed_assign (full : m.registers.IsFull) (o : Arithmetic) (op : Opcode) (x y : Fin 16) :
    m.Computed o x y
      (((m.noted op).assign x (o.result (m.value x) (m.value y))).withFlag
        (o.flag (m.value x) (m.value y))) := by
  have set := full.assign x (o.result (m.value x) (m.value y))
  have value (z : Fin 16) :
      (((m.noted op).assign x (o.result (m.value x) (m.value y))).withFlag
        (o.flag (m.value x) (m.value y))).value z =
        if Registers.flag = z then if o.flag (m.value x) (m.value y) then 1 else 0
        else if x = z then o.result (m.value x) (m.value y) else m.value z := by
    rw [withFlag]
    refine (set.value_assign ..).trans ?_
    rw [full.value_assign]
    rfl
  refine ⟨set.assign .., ⟨_, o.carry (m.value x) (m.value y), ?_, o.carry_le .., o.balances .., ?_,
    fun result => ?_⟩, fun z apart unflagged => ?_⟩
  · have := (o.result (m.value x) (m.value y)).toNat_lt
    omega
  · rw [value, if_pos rfl, Arithmetic.carry]
    split <;> rfl
  · rw [value, if_neg result.symm, if_pos rfl]
  · rw [value, if_neg unflagged.symm, if_neg apart.symm]

/-- The opcode of an operation computes it. -/
theorem computed_execute (full : m.registers.IsFull) (o : Arithmetic) {op : Opcode} {x y : Fin 16}
    (code : op.toNat = o.code + 0x100 * x.val + 0x10 * y.val) (random : List UInt8) :
    (m.execute op random).failure = none ∧ m.Computed o x y (m.execute op random).machine := by
  rw [execute_arithmetic full o code]
  exact ⟨rfl, computed_assign full o op x y⟩

/-- A subtraction takes back an addition, and its flag is set if the addition had no carry. -/
theorem Computed.sub_add {m' m'' : Machine} {x y : Fin 16} (added : m.Computed .add x y m')
    (subtracted : m'.Computed .sub x y m'') (apart : x ≠ y) (result : x ≠ Registers.flag)
    (operand : y ≠ Registers.flag) :
    m''.value x = m.value x ∧
      (m''.value Registers.flag).toNat = 1 - (m'.value Registers.flag).toNat := by
  obtain ⟨r, carry, hr, hc, sum, flag, value⟩ := added.values
  obtain ⟨r', unborrowed, hr', hb, difference, flag', value'⟩ := subtracted.values
  have same : m'.value y = m.value y := added.others y apart.symm operand
  have hx := (m.value x).toNat_lt
  simp only [Arithmetic.Balances, value result, same] at sum difference
  rw [flag, flag', ← UInt8.toNat_inj, value' result]
  omega

/-- Arithmetic with flags. Whatever state a machine is in, as long as it has all its registers, each of
the five opcodes computes its operation from the values before it. A subtraction of one register from
another, neither of which is the one of flags, takes back the addition before it. -/
theorem computes (full : m.registers.IsFull) :
    (∀ (o : Arithmetic) (x y : Fin 16) (op : Opcode),
      op.toNat = o.code + 0x100 * x.val + 0x10 * y.val →
        ∀ random : List UInt8,
          let e := m.execute op random
          e.failure = none ∧ m.Computed o x y e.machine) ∧
      ∀ (x y : Fin 16), x ≠ y → x ≠ Registers.flag → y ≠ Registers.flag →
        ∀ add sub : Opcode, add.toNat = 0x8004 + 0x100 * x.val + 0x10 * y.val →
          sub.toNat = 0x8005 + 0x100 * x.val + 0x10 * y.val →
          ∀ random random' : List UInt8,
            let e := m.execute add random
            let e' := e.machine.execute sub random'
            e'.failure = none ∧ e'.machine.value x = m.value x ∧
              (e'.machine.value Registers.flag).toNat =
                1 - (e.machine.value Registers.flag).toNat := by
  constructor
  · intro o x y op code random
    exact computed_execute full o code random
  · intro x y apart result operand add sub addCode subCode random random'
    obtain ⟨-, added⟩ := computed_execute full .add addCode random
    obtain ⟨ok, subtracted⟩ := computed_execute added.registers .sub subCode random'
    exact ⟨ok, added.sub_add subtracted apart result operand⟩

/-- A new machine with 200 and 100 in its first two registers. -/
def summing : Machine :=
  { fresh .standard with registers := ⟨200 :: 100 :: List.replicate 14 0⟩ }

/-- Their sum leaves a carry, which the register of flags holds. -/
theorem computes_summing :
    summing.registers.IsFull ∧
      ((summing.execute 0x8014 []).machine.value 0).toNat = 44 ∧
      ((summing.execute 0x8014 []).machine.value Registers.flag).toNat = 1 := by
  have full : summing.registers.IsFull := rfl
  obtain ⟨-, added⟩ := (computes full).1 .add 0 1 0x8014 rfl []
  obtain ⟨r, carry, hr, hc, sum, flag, value⟩ := added.values
  have left : (summing.value 0).toNat = 200 := rfl
  have right : (summing.value 1).toNat = 100 := rfl
  simp only [Arithmetic.Balances, left, right] at sum
  refine ⟨full, ?_, ?_⟩
  · rw [value (by decide)]
    omega
  · rw [flag]
    omega

end Machine
end ChipEight
