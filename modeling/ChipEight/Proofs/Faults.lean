import ChipEight.Proofs.Notices

/-!
# Faults of a cycle

`Machine.Raises` lists, opcode by opcode, when a cycle comes to a fault and of which kind.
`Machine.Reachable.raises_iff` says that the list is complete and exact in every state that a machine
can be in, and that a cycle fails in no other way; `Machine.Reachable.after_failure` says what is
left of the machine then. Nothing is changed before a fault but by a return, which takes its address
off the stack before it looks at it.
-/

namespace ChipEight

namespace Machine

/-- When a cycle comes to a fault of a kind, by the opcode that it fetches. -/
inductive Raises (m : Machine) : FaultKind → Prop
  /-- There is no opcode at the program counter. -/
  | fetch (beyond : 4096 ≤ m.pc + 1) : Raises m .segmentation
  /-- A return with no address on the stack. -/
  | returnEmpty (code : m.Fetches 0x00EE) (empty : m.stack.depth = 0) : Raises m .stackEmpty
  /-- A return to an address outside the workspace. -/
  | returnTarget (code : m.Fetches 0x00EE) (some : 0 < m.stack.depth)
      (outside : ¬(m.memory.platform.workspaceStart ≤ m.stack.top ∧ m.stack.top < 4096)) :
      Raises m .segmentation
  /-- A call of an address below the workspace, even if the stack is full. -/
  | callTarget {a : Fin 4096} (code : m.Fetches (0x2000 + a.val))
      (below : a.val < m.memory.platform.workspaceStart) : Raises m .segmentation
  /-- A call into the workspace with no slot of the stack left. -/
  | callFull {a : Fin 4096} (code : m.Fetches (0x2000 + a.val))
      (inside : m.memory.platform.workspaceStart ≤ a.val) (full : m.stack.depth = 16) :
      Raises m .stackOverflow
  /-- A skip on a key that the keypad does not have. -/
  | key {x : Fin 16} (code : m.Fetches (0xE09E + 0x100 * x.val) ∨ m.Fetches (0xE0A1 + 0x100 * x.val))
      (missing : 15 < (m.value x).toNat) : Raises m .indexOutOfBounds
  /-- Decimal digits that reach beyond memory. -/
  | digits {x : Fin 16} (code : m.Fetches (0xF033 + 0x100 * x.val)) (beyond : 4096 ≤ m.index + 2) :
      Raises m .segmentation
  /-- Registers that reach beyond memory, whether they are stored or loaded. -/
  | registers {x : Fin 16}
      (code : m.Fetches (0xF055 + 0x100 * x.val) ∨ m.Fetches (0xF065 + 0x100 * x.val))
      (beyond : 4096 ≤ m.index + x.val) : Raises m .segmentation
  /-- A sprite that is drawn from bytes beyond memory. -/
  | sprite {x y height : Fin 16}
      (code : m.Fetches (0xD000 + 0x100 * x.val + 0x10 * y.val + height.val))
      (rows : height.val ≠ 0) (left : (m.value x).toNat < 64) (top : (m.value y).toNat < 32)
      (beyond : 4096 < m.index + 8 * height.val) : Raises m .segmentation

variable {m : Machine}

/-! ## From a cycle to the list -/

/-- A fault of an instruction is on the list. -/
theorem Raises.of_fault {op : Opcode} (fetch : m.fetch = .ok op) {i : Instr}
    (decoded : decode op = some i) {f : Fault} (fault : i.fault? m = some f) : m.Raises f.kind := by
  have code : m.Fetches op.toNat := ⟨op, fetch, rfl⟩
  have codes := Instr.codes_of_decode decoded
  cases i with
  | ret =>
    rw [codes] at code
    rcases Instr.fault?_ret_eq_some.1 fault with ⟨empty, rfl⟩ | ⟨some, outside, rfl⟩
    · exact .returnEmpty code empty
    · rw [Memory.inWorkspace_iff] at outside
      exact .returnTarget code some outside
  | call a =>
    rw [codes] at code
    simp only [Instr.fault?, Memory.inWorkspace_iff] at fault
    split at fault
    · next inside =>
      simp only [Option.ite_none_right_eq_some, Option.some.injEq] at fault
      obtain ⟨full, rfl⟩ := fault
      exact .callFull code (by omega) full
    · cases fault
      exact .callTarget code (by omega)
  | skipPressed x =>
    rw [codes] at code
    simp only [Instr.fault?, Option.ite_none_left_eq_some, Option.some.injEq] at fault
    obtain ⟨missing, rfl⟩ := fault
    exact .key (.inl code) (by omega)
  | skipReleased x =>
    rw [codes] at code
    simp only [Instr.fault?, Option.ite_none_left_eq_some, Option.some.injEq] at fault
    obtain ⟨missing, rfl⟩ := fault
    exact .key (.inr code) (by omega)
  | draw x y height =>
    rw [codes] at code
    simp only [Instr.fault?, Option.ite_none_right_eq_some, Option.some.injEq] at fault
    obtain ⟨⟨⟨rows, left, top⟩, beyond⟩, rfl⟩ := fault
    exact .sprite code rows left top beyond
  | storeDigits x =>
    rw [codes] at code
    simp only [Instr.fault?, Option.ite_none_right_eq_some, Option.some.injEq] at fault
    obtain ⟨beyond, rfl⟩ := fault
    exact .digits code beyond
  | storeRegisters x =>
    rw [codes] at code
    simp only [Instr.fault?, Option.ite_none_right_eq_some, Option.some.injEq] at fault
    obtain ⟨beyond, rfl⟩ := fault
    exact .registers (.inl code) beyond
  | loadRegisters x =>
    rw [codes] at code
    simp only [Instr.fault?, Option.ite_none_right_eq_some, Option.some.injEq] at fault
    obtain ⟨beyond, rfl⟩ := fault
    exact .registers (.inr code) beyond
  | _ => cases fault

/-- No entry of the list is for an unexpected fault. -/
theorem Raises.ne_unexpected {k : FaultKind} (h : m.Raises k) : k ≠ .unexpected := by
  cases h <;> simp

/-! ## From the list to a cycle -/

/-- A fault on the list is what a cycle comes to. -/
theorem Raises.failure {random : List UInt8} {e : Effect} (cycled : m.Cycled random e)
    {k : FaultKind} (h : m.Raises k) : ∃ f, e.failure = some (.fault f) ∧ f.kind = k := by
  have fault {n : Nat} (code : m.Fetches n) {i : Instr} (codes : i.Codes n) {f : Fault}
      (hf : i.fault? m = some f) : e.failure = some (.fault f) := by
    rw [cycled.failure_of_codes code codes, hf]
    rfl
  cases h with
  | fetch beyond => exact ⟨.fetch m.pc, by rw [cycled.of_beyond beyond], rfl⟩
  | returnEmpty code empty =>
    have hf := Instr.fault?_ret_eq_some.2 (.inl ⟨empty, rfl⟩)
    exact ⟨.stackEmpty, fault code (i := .ret) rfl hf, rfl⟩
  | returnTarget code some outside =>
    rw [← Memory.inWorkspace_iff] at outside
    have hf := Instr.fault?_ret_eq_some.2 (.inr ⟨some, outside, rfl⟩)
    exact ⟨.returnTarget m.stack.top, fault code (i := .ret) rfl hf, rfl⟩
  | @callTarget a code below =>
    refine ⟨.callTarget a.val, fault code (i := .call a) rfl ?_, rfl⟩
    rw [Instr.fault?, if_neg (by rw [Memory.inWorkspace_iff]; omega)]
  | @callFull a code inside full =>
    refine ⟨.stackOverflow 16, fault code (i := .call a) rfl ?_, rfl⟩
    rw [Instr.fault?, if_pos (by rw [Memory.inWorkspace_iff]; omega), if_pos full]
  | @key x code missing =>
    refine ⟨.noSuchKey (m.value x).toNat, ?_, rfl⟩
    rcases code with code | code
    · exact fault code (i := .skipPressed x) rfl (if_neg (by omega))
    · exact fault code (i := .skipReleased x) rfl (if_neg (by omega))
  | @digits x code beyond =>
    exact ⟨.digitsSpan x m.index, fault code (i := .storeDigits x) rfl (if_pos beyond), rfl⟩
  | @registers x code beyond =>
    refine ⟨.registersSpan x m.index, ?_, rfl⟩
    rcases code with code | code
    · exact fault code (i := .storeRegisters x) rfl (if_pos beyond)
    · exact fault code (i := .loadRegisters x) rfl (if_pos beyond)
  | @sprite x y height code rows left top beyond =>
    exact ⟨.spriteSpan m.index (m.spriteStop height),
      fault code (i := .draw x y height) rfl (if_pos ⟨⟨rows, left, top⟩, beyond⟩), rfl⟩

/-- A failure of a cycle is a fault on the list. -/
theorem Cycled.raises {random : List UInt8} {e : Effect} (cycled : m.Cycled random e)
    {failure : Failure} (failed : e.failure = some failure) :
    ∃ f, failure = .fault f ∧ m.Raises f.kind := by
  cases cycled with
  | unfetched beyond =>
    cases failed
    exact ⟨_, rfl, .fetch beyond⟩
  | faulted fetch decoded fault =>
    cases failed
    exact ⟨_, rfl, .of_fault fetch decoded fault⟩
  | unknown | executed => cases failed

/-- A cycle does not fail, or it comes to a fault. -/
theorem Bounded.failure_cycle (h : m.Bounded) (random : List UInt8) :
    (m.cycle random).failure = none ∨ ∃ f, (m.cycle random).failure = some (.fault f) := by
  cases failed : (m.cycle random).failure with
  | none => exact .inl rfl
  | some failure =>
    obtain ⟨f, rfl, -⟩ := (h.cycled random).raises failed
    exact .inr ⟨f, rfl⟩

/-! ## When a cycle fails -/

/-- A cycle fails exactly as the list says, with a fault of exactly that kind. It fails in no other
way: no access to a device is denied, no fault is unexpected, every key that decoding finds has an
instruction, and all its notices can be written. -/
theorem Reachable.raises_iff (h : m.Reachable) (random : List UInt8) :
    (∀ k, (∃ f, (m.cycle random).failure = some (.fault f) ∧ f.kind = k) ↔ m.Raises k) ∧
      (∀ failure, (m.cycle random).failure = some failure →
        ∃ f, failure = .fault f ∧ f.kind ≠ .unexpected) ∧
      (∀ op key : Opcode, Opcode.key? MaskGroup.table op = some key →
        (Instr.ofKey? op key).isSome) ∧
      ∀ n ∈ (m.cycle random).notices, n.isWritable = true := by
  have cycled := h.bounded.cycled random
  refine ⟨fun k => ⟨?_, fun raises => raises.failure cycled⟩, fun failure failed => ?_,
    fun op key => Instr.ofKey?_isSome, h.bounded.writable_cycle random⟩
  · rintro ⟨f, failed, rfl⟩
    obtain ⟨f', same, raises⟩ := cycled.raises failed
    cases same
    exact raises
  · obtain ⟨f, rfl, raises⟩ := cycled.raises failed
    exact ⟨f, rfl, raises.ne_unexpected⟩

/-- A new machine that is given a return as its program. -/
def returning : Machine := (fresh .standard).act (.load #[0x00, 0xEE])

theorem reachable_returning : returning.Reachable := (Reachable.fresh .standard).act _

theorem fetches_returning : returning.Fetches 0x00EE := by
  have memory : returning.memory = (Memory.fresh .standard).overlay 0x200 #[0x00, 0xEE] := rfl
  exact fetches_of_overlay (k := 0) memory rfl (by decide) (by decide)

/-- Its first cycle comes to a fault. -/
theorem failure_returning : ∃ f, (returning.cycle []).failure = some (.fault f) := by
  obtain ⟨f, failed, -⟩ :=
    (Raises.returnEmpty fetches_returning rfl).failure (reachable_returning.bounded.cycled [])
  exact ⟨f, failed⟩

/-- A return in a new machine fails, since there is no address on the stack. -/
theorem raises_returning :
    returning.Reachable ∧
      ∃ f, (returning.cycle []).failure = some (.fault f) ∧ f.kind = .stackEmpty :=
  ⟨reachable_returning,
    ((reachable_returning.raises_iff []).1 .stackEmpty).2 (.returnEmpty fetches_returning rfl)⟩

/-! ## What is left after a failure -/

/-- A cycle that fails has changed nothing but the note that nothing is drawn, if there was nothing to
fetch; otherwise it has also noted the opcode and moved the program counter past it. Only a return to
an address outside the workspace has done more: its address is off the stack, and its slot is zero. -/
theorem Reachable.after_failure (h : m.Reachable) {random : List UInt8}
    (failed : (m.cycle random).failure ≠ none) :
    (m.cycle random).random = random ∧ (m.cycle random).machine.draw = false ∧
      (4096 ≤ m.pc + 1 → (m.cycle random).machine = { m with draw := false }) ∧
      (m.pc + 1 < 4096 →
        ∃ op, m.fetch = .ok op ∧ ∃ stack : CallStack 16,
          (m.cycle random).machine =
            { m with draw := false, pc := m.pc + 2, opcode := op, stack := stack } ∧
          if op.toNat = 0x00EE ∧ 0 < m.stack.depth ∧
              ¬(m.memory.platform.workspaceStart ≤ m.stack.top ∧ m.stack.top < 4096) then
            stack.depth + 1 = m.stack.depth ∧
              ∀ i, stack.slot i = if i = stack.depth then 0 else m.stack.slot i
          else stack = m.stack) := by
  have cycled := h.bounded.cycled random
  generalize m.cycle random = e at cycled failed ⊢
  cases cycled with
  | unknown | executed => exact absurd rfl failed
  | unfetched beyond => exact ⟨rfl, rfl, fun _ => rfl, fun inside => by omega⟩
  | @faulted op i f fetch decoded fault =>
    have inside := Fetches.lt ⟨op, fetch, rfl⟩
    refine ⟨rfl, ?_, fun beyond => by omega, fun _ => ⟨op, fetch, ?_⟩⟩
    · cases i <;> rfl
    cases i with
    | ret =>
      have code : op.toNat = 0x00EE := Instr.codes_of_decode decoded
      refine ⟨m.stack.popped, rfl, ?_⟩
      simp only [code, true_and]
      rcases Instr.fault?_ret_eq_some.1 fault with ⟨empty, -⟩ | ⟨some, outside, -⟩
      · rw [if_neg (by omega), m.stack.popped_of_empty empty]
      · rw [Memory.inWorkspace_iff] at outside
        rw [if_pos ⟨some, outside⟩, CallStack.depth_popped]
        refine ⟨by omega, fun i => ?_⟩
        rw [CallStack.slot_popped]
        simp only [show i + 1 = m.stack.depth ↔ i = m.stack.depth - 1 by omega]
    | _ =>
      refine ⟨m.stack, rfl, ?_⟩
      rw [if_neg]
      rintro ⟨code, -⟩
      rw [decode_eq_some_iff (i := .ret).2 code] at decoded
      cases decoded

/-- What is left of the machine that returns without a call. -/
theorem after_failure_returning :
    returning.Reachable ∧ (returning.cycle []).failure ≠ none ∧
      (returning.cycle []).machine.draw = false := by
  obtain ⟨f, failed⟩ := failure_returning
  have failed : (returning.cycle []).failure ≠ none := by simp [failed]
  exact ⟨reachable_returning, failed, (reachable_returning.after_failure failed).2.1⟩

end Machine
end ChipEight
