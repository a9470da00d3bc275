import ChipEight.Proofs.Bounds

/-!
# Notices that can be written

A log leaves out a notice that holds a number with too many digits. Within the bounds of a machine there is
none: the addresses in its notices are hardly beyond the memory (`Machine.Bounded.writable_cycle`).
-/

namespace ChipEight

theorem Numeral.isWritable_of_lt {n : Int} (low : 0 ≤ n) (small : n < 1000000) :
    isWritable n = true := by
  have large (d : Nat) (hd : 6 ≤ d) : 1000000 ≤ Nat.pow 10 d :=
    Nat.pow_le_pow_right (n := 10) (by decide) hd
  have ceiling := large maxDigits (by decide)
  rw [isWritable, decide_eq_true_eq]
  omega

/-- The warning of an instruction can be written if the index is a word. -/
theorem Instr.writable_warning {m : Machine} (word : 0 ≤ m.index ∧ m.index ≤ 0xFFFF) {i : Instr}
    {n : Notice} (warns : i.warning? m = some n) : n.isWritable = true := by
  have near (k : Nat) (small : k < 1000) : Numeral.isWritable (m.index + k) = true :=
    Numeral.isWritable_of_lt (by omega) (by omega)
  have start : Numeral.isWritable m.index = true := Numeral.isWritable_of_lt word.1 (by omega)
  cases i with
  | storeRegisters x | loadRegisters x =>
    simp only [warning?, Option.ite_none_right_eq_some, Option.some.injEq] at warns
    obtain ⟨-, rfl⟩ := warns
    rw [Notice.isWritable, start, near x.val (by omega)]
    rfl
  | draw x y height =>
    simp only [warning?] at warns
    split at warns
    · cases warns
      rfl
    split at warns
    · cases warns
      rfl
    split at warns
    · cases warns
      rw [Notice.isWritable, start, Machine.spriteStop, Sprite.width, ← Int.natCast_mul,
        near (8 * height.val) (by omega)]
      rfl
    split at warns <;> cases warns
    rfl
  | jumpOffset | addIndex =>
    simp only [warning?, Option.ite_none_right_eq_some, Option.some.injEq] at warns
    obtain ⟨-, rfl⟩ := warns
    rfl
  | machineCode =>
    cases warns
    rfl
  | _ => cases warns

/-- All notices of a cycle can be written. -/
theorem Machine.Bounded.writable_cycle {m : Machine} (h : m.Bounded) (random : List UInt8) :
    ∀ n ∈ (m.cycle random).notices, n.isWritable = true := by
  have ticked (m : Machine) : ∀ n ∈ m.tick.2, n.isWritable = true := by
    intro n hn
    simp only [tick, List.mem_append, List.mem_ite_nil_right, List.mem_singleton] at hn
    rcases hn with ⟨-, rfl⟩ | ⟨-, rfl⟩ <;> rfl
  have warned (op : Opcode) (i : Instr) :
      ∀ n ∈ (i.warning? (m.fetched op)).toList, n.isWritable = true := fun n hn =>
    Instr.writable_warning (m := m.fetched op) h.index (Option.mem_toList.1 hn)
  have cycled := h.cycled random
  generalize m.cycle random = e at cycled ⊢
  cases cycled with
  | unfetched => exact List.forall_mem_nil _
  | unknown => exact List.forall_mem_cons.2 ⟨rfl, ticked _⟩
  | faulted => exact warned _ _
  | executed =>
    exact List.forall_mem_append.2
      ⟨List.forall_mem_append.2 ⟨warned _ _, List.forall_mem_singleton.2 rfl⟩, ticked _⟩

end ChipEight
