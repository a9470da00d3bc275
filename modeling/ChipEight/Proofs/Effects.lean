import ChipEight.Proofs.Cycle
import Mathlib.Tactic.ByContra

/-!
# What an opcode leaves alone

An instruction touches few parts of a machine. `Instr.Touches` lists them, one entry for each part,
with how far the instruction may go there; `Machine.execute_touches` says that the execution of an
opcode touches nothing else, whether it comes to a fault or not. Read by parts instead of by
instructions, that is `Machine.Confined`: which opcodes may change which part (`Machine.execute_confined`).
-/

namespace ChipEight

namespace Instr

/-- The registers that an instruction may change. -/
def Writes (y : Fin 16) : Instr → Prop
  | load x _ | addValue x _ | copy x _ | or x _ | and x _ | xor x _ | Instr.random x _ | readDelay x
  | awaitKey x => y = x
  | add x _ | sub x _ | subFrom x _ | shiftRight x | shiftLeft x => y = x ∨ y = Registers.flag
  | draw .. => y = Registers.flag
  | loadRegisters x => y ≤ x
  | _ => False

/-- Whether an instruction may change the index. -/
def Points : Instr → Prop
  | setIndex _ | addIndex _ | selectGlyph _ => True
  | _ => False

/-- What a machine can become by an instruction, by the part that the instruction touches. -/
inductive Touches (m : Machine) : Instr → Machine → Prop
  /-- Nothing but the program counter. -/
  | counter {i : Instr} (pc : Int) : Touches m i { m with pc }
  /-- Registers that the instruction writes. -/
  | registers {i : Instr} {registers : Registers} (full : registers.IsFull)
      (others : ∀ y, ¬i.Writes y → registers.value y = m.value y) :
      Touches m i { m with registers }
  | index {i : Instr} (points : i.Points) (index : Int) : Touches m i { m with index }
  | delay (x : Fin 16) (delay : Int) : Touches m (.setDelay x) { m with delay }
  | sound (x : Fin 16) (sound : Int) : Touches m (.setSound x) { m with sound }
  /-- Three bytes from the index on. -/
  | digits (x : Fin 16) (data : Array UInt8) (size : data.size = 3) :
      Touches m (.storeDigits x) { m with memory := m.memory.overlay m.index.toNat data }
  /-- As many bytes from the index on as there are registers up to `x`. -/
  | stored (x : Fin 16) (data : Array UInt8) (size : data.size = x.val + 1) :
      Touches m (.storeRegisters x) { m with memory := m.memory.overlay m.index.toNat data }
  | cleared : Touches m .clearScreen { m with screen := m.screen.clear, draw := true }
  /-- The screen, and the register that tells whether something was unset on it. -/
  | drawn {x y height : Fin 16} (screen : Framebuffer 64 32) (v : UInt8) :
      Touches m (.draw x y height) { m.assign Registers.flag v with screen, draw := true }
  /-- The first free slot of the stack. -/
  | called (a : Fin 4096) (free : m.stack.depth < 16) (pc : Int) :
      Touches m (.call a) { m with stack := m.stack.pushed m.pc, pc }
  /-- The last slot of the stack in use, if there is one. -/
  | returned (pc : Int) : Touches m .ret { m with stack := m.stack.popped, pc }

variable {m : Machine}

/-- Setting a register that an instruction writes touches nothing else. -/
theorem Touches.assign (full : m.registers.IsFull) {i : Instr} {x : Fin 16} (writes : i.Writes x)
    (v : UInt8) : i.Touches m (m.assign x v) := by
  refine .registers (full.assign x v) fun y kept => ?_
  have apart : x ≠ y := by
    rintro rfl
    exact kept writes
  rw [full.value_assign, if_neg apart]
  rfl

/-- So does setting the register of flags after it. -/
theorem Touches.assign_withFlag (full : m.registers.IsFull) {i : Instr} {x : Fin 16}
    (writes : ∀ y, i.Writes y ↔ y = x ∨ y = Registers.flag) (v : UInt8) (flag : Bool) :
    i.Touches m ((m.assign x v).withFlag flag) := by
  have assigned := full.assign x v
  refine .registers (assigned.assign Registers.flag _) fun y kept => ?_
  rw [writes, not_or] at kept
  have set (w : UInt8) : ((m.registers.assign x v).assign Registers.flag w).value y = m.value y := by
    rw [assigned.value_assign, if_neg (Ne.symm kept.2), full.value_assign, if_neg (Ne.symm kept.1)]
    rfl
  exact set _

/-- An instruction that takes effect touches only its part of the machine. -/
theorem touches_effect (h : m.Sound) (random : UInt8) {i : Instr} (sound : i.fault? m = none) :
    i.Touches m (i.effect m random) := by
  have full := h.registers
  cases i with
  | machineCode a => exact .counter m.pc
  | jump a => exact .counter _
  | jumpOffset a => exact .counter _
  | clearScreen => exact .cleared
  | ret => exact .returned _
  | call a => exact .called a (fault?_call_eq_none.1 sound).2 _
  | skipEqual | skipUnequal | skipSame | skipDifferent | skipPressed | skipReleased =>
    simp only [effect, Machine.skipIf_eq]
    exact .counter _
  | load | addValue | copy | or | and | xor | random | readDelay =>
    refine .assign full ?_ _
    rfl
  | add | sub | subFrom | shiftRight | shiftLeft =>
    exact .assign_withFlag full (fun _ => Iff.rfl) _ _
  | draw x y height =>
    simp only [effect]
    split
    · exact .drawn _ _
    · exact .counter m.pc
  | awaitKey x =>
    simp only [effect]
    split
    · exact .counter _
    · refine .assign full ?_ _
      rfl
  | setDelay x => exact .delay x _
  | setSound x => exact .sound x _
  | setIndex | addIndex | selectGlyph =>
    refine .index ?_ _
    trivial
  | storeDigits x => exact .digits x _ rfl
  | storeRegisters x =>
    have size : (m.registers.first (x.val + 1)).toArray.size = x.val + 1 := by
      rw [List.size_toArray, full.length_first]
    simp only [effect, h.storeRegisters_eq]
    exact .stored x _ size
  | loadRegisters x =>
    have count : (m.memory.span m.index.toNat (x.val + 1)).length = x.val + 1 := by
      rw [Memory.span, List.length_map, List.length_range]
    refine .registers (full.replaceFirst count x.isLt) fun y kept => ?_
    have beyond : ¬y.val < x.val + 1 := by
      simp only [Writes, Fin.le_def] at kept
      omega
    rw [Registers.value_replaceFirst count, if_neg beyond]
    rfl

/-- So does one that comes to a fault. -/
theorem touches_leftover (i : Instr) : i.Touches m (i.leftover m) := by
  cases i with
  | ret => exact .returned m.pc
  | _ => exact .counter m.pc

/-! ## Part by part -/

namespace Touches

variable {m' : Machine} {i : Instr} (touches : i.Touches m m')
include touches

theorem keypad_eq : m'.keypad = m.keypad := by cases touches <;> rfl

theorem opcode_eq : m'.opcode = m.opcode := by cases touches <;> rfl

theorem platform_eq : m'.memory.platform = m.memory.platform := by cases touches <;> rfl

theorem delayExpired_eq : m'.delayExpired = m.delayExpired := by cases touches <;> rfl

theorem beep_eq : m'.beep = m.beep := by cases touches <;> rfl

theorem of_delay (changed : m'.delay ≠ m.delay) : ∃ x, i = .setDelay x := by
  cases touches with
  | delay x => exact ⟨x, rfl⟩
  | _ => exact absurd rfl changed

theorem of_sound (changed : m'.sound ≠ m.sound) : ∃ x, i = .setSound x := by
  cases touches with
  | sound x => exact ⟨x, rfl⟩
  | _ => exact absurd rfl changed

theorem of_index (changed : m'.index ≠ m.index) : i.Points := by
  cases touches with
  | index points => exact points
  | _ => exact absurd rfl changed

/-- The screen changes only with the signal that something was drawn. -/
theorem of_screen (changed : m'.screen ≠ m.screen ∨ m'.draw ≠ m.draw) :
    m'.draw = true ∧ (i = .clearScreen ∨ ∃ x y height, i = .draw x y height) := by
  cases touches with
  | cleared => exact ⟨rfl, .inl rfl⟩
  | drawn => exact ⟨rfl, .inr ⟨_, _, _, rfl⟩⟩
  | _ => exact changed.elim (absurd rfl) (absurd rfl)

theorem of_byte {a : Nat} (changed : m'.memory.byte a ≠ m.memory.byte a) :
    ∃ x, i = .storeDigits x ∧ m.index.toNat ≤ a ∧ a ≤ m.index.toNat + 2 ∨
      i = .storeRegisters x ∧ m.index.toNat ≤ a ∧ a ≤ m.index.toNat + x.val := by
  have inside (data : Array UInt8)
      (changed : (m.memory.overlay m.index.toNat data).byte a ≠ m.memory.byte a) :
      m.index.toNat ≤ a ∧ a < m.index.toNat + data.size := by
    by_contra outside
    exact changed ((m.memory.byte_overlay ..).trans (dif_neg (by omega)))
  cases touches with
  | digits x data size =>
    have := inside data changed
    exact ⟨x, .inl ⟨rfl, by omega⟩⟩
  | stored x data size =>
    have := inside data changed
    exact ⟨x, .inr ⟨rfl, by omega⟩⟩
  | _ => exact absurd rfl changed

theorem of_stack (changed : m'.stack ≠ m.stack) :
    (∃ a, i = .call a) ∧ m'.stack.depth = m.stack.depth + 1 ∧
        (∀ k ≠ m.stack.depth, m'.stack.slot k = m.stack.slot k) ∨
      i = .ret ∧ m'.stack.depth + 1 = m.stack.depth ∧
        ∀ k ≠ m'.stack.depth, m'.stack.slot k = m.stack.slot k := by
  cases touches with
  | called a free =>
    refine .inl ⟨⟨a, rfl⟩, CallStack.depth_pushed _ free, fun k apart => ?_⟩
    rw [CallStack.slot_pushed _ free, if_neg apart]
  | returned =>
    have some : m.stack.depth ≠ 0 := fun empty => changed (CallStack.popped_of_empty _ empty)
    simp only [CallStack.depth_popped, CallStack.slot_popped]
    refine .inr ⟨trivial, by omega, fun k apart => ?_⟩
    rw [if_neg (by omega)]
  | _ => exact absurd rfl changed

theorem isFull (full : m.registers.IsFull) : m'.registers.IsFull := by
  cases touches with
  | registers full => exact full
  | drawn => exact full.assign _ _
  | _ => exact full

theorem of_value (full : m.registers.IsFull) {y : Fin 16} (changed : m'.value y ≠ m.value y) :
    i.Writes y := by
  cases touches with
  | registers _ others =>
    by_contra kept
    exact changed (others y kept)
  | drawn screen v =>
    by_contra kept
    exact changed ((full.value_assign _ _ v).trans (if_neg (Ne.symm kept)))
  | _ => exact absurd rfl changed

end Touches

theorem screen_leftover (i : Instr) : (i.leftover m).screen = m.screen := by cases i <;> rfl

/-- What becomes of the screen by an instruction that takes effect. -/
theorem screen_effect (h : m.Sound) (random : UInt8) {i : Instr} (sound : i.fault? m = none) :
    (i.effect m random).screen =
      match i with
      | clearScreen => m.screen.clear
      | draw x y height =>
        if m.Draws x y height then
          (m.screen.blit (m.spritePixels (m.value x).toNat (m.value y).toNat height.val)).1
        else m.screen
      | _ => m.screen := by
  have touches := touches_effect h random sound
  cases i with
  | clearScreen => rfl
  | draw x y height =>
    simp only [effect]
    split <;> rfl
  | _ =>
    by_contra changed
    have painted := (touches.of_screen (.inl changed)).2
    simp at painted

end Instr

/-! ## Opcodes -/

namespace Machine

variable {m : Machine}

/-- An opcode that is no instruction is only noted; any other touches what its instruction touches,
whether it comes to a fault or not. -/
theorem execute_touches (h : m.Sound) (op : Opcode) (random : List UInt8) :
    (decode op = none ∧ m.execute op random =
        ⟨m.noted op, random, [.unknownOpcode op (m.noted op).instructionAddress], none⟩) ∨
      ∃ i : Instr, decode op = some i ∧ i.Touches (m.noted op) (m.execute op random).machine ∧
        (m.execute op random).random = i.randomAfter random := by
  rw [execute_eq h]
  cases decoded : decode op with
  | none => exact .inl ⟨rfl, rfl⟩
  | some i =>
    refine .inr ⟨i, rfl, ?_⟩
    cases fault : i.fault? (m.noted op) with
    | none =>
      simp only [fault, and_true]
      exact Instr.touches_effect (h.noted op) _ fault
    | some f =>
      simp only [fault]
      exact ⟨i.touches_leftover, (Instr.randomAfter_of_fault fault random).symm⟩

/-- A cycle that fails, or that does not signal that something was drawn, leaves the screen as it was. -/
theorem Cycled.screen_eq {random : List UInt8} {e : Effect} (cycled : m.Cycled random e) (h : m.Sound)
    (undrawn : e.failure ≠ none ∨ e.machine.draw = false) : e.machine.screen = m.screen := by
  cases cycled with
  | unfetched | unknown => rfl
  | faulted => exact Instr.screen_leftover _
  | @executed op i fetch decoded sound =>
    have touches := Instr.touches_effect (m := m.fetched op) ⟨h.registers, h.index⟩ (random.headD 0)
      ((i.fault?_fetched op).trans sound)
    by_contra changed
    have drawn := (touches.of_screen (.inl changed)).1
    rcases undrawn with failed | undrawn
    · exact failed rfl
    · cases drawn.symm.trans undrawn

/-- Which opcodes may change which part of a machine, and how far. -/
structure Confined (m : Machine) (op : Opcode) (random : List UInt8) (e : Effect) : Prop where
  /-- Three bytes from the index on by the digits of a register, and as many as there are registers
  by their store. -/
  memory : ∀ a : Nat, e.machine.memory.byte a ≠ m.memory.byte a →
    ∃ x : Fin 16,
      op.toNat = 0xF033 + 0x100 * x.val ∧ m.index ≤ a ∧ a ≤ m.index + 2 ∨
        op.toNat = 0xF055 + 0x100 * x.val ∧ m.index ≤ a ∧ a ≤ m.index + x.val
  platform : e.machine.memory.platform = m.memory.platform
  /-- The pixels, and the signal that something was drawn. -/
  screen : e.machine.screen ≠ m.screen ∨ e.machine.draw ≠ m.draw →
    op.toNat = 0x00E0 ∨
      ∃ x y height : Fin 16, op.toNat = 0xD000 + 0x100 * x.val + 0x10 * y.val + height.val
  /-- One slot and one step, up by a call and down by a return. -/
  stack : e.machine.stack ≠ m.stack →
    (∃ a : Fin 4096, op.toNat = 0x2000 + a.val) ∧ e.machine.stack.depth = m.stack.depth + 1 ∧
        (∀ k ≠ m.stack.depth, e.machine.stack.slot k = m.stack.slot k) ∨
      op.toNat = 0x00EE ∧ e.machine.stack.depth + 1 = m.stack.depth ∧
        ∀ k ≠ e.machine.stack.depth, e.machine.stack.slot k = m.stack.slot k
  keypad : e.machine.keypad = m.keypad
  opcode : e.machine.opcode = op
  signals : e.machine.delayExpired = m.delayExpired ∧ e.machine.beep = m.beep
  delay : e.machine.delay ≠ m.delay → ∃ x : Fin 16, op.toNat = 0xF015 + 0x100 * x.val
  sound : e.machine.sound ≠ m.sound → ∃ x : Fin 16, op.toNat = 0xF018 + 0x100 * x.val
  index : e.machine.index ≠ m.index →
    (∃ a : Fin 4096, op.toNat = 0xA000 + a.val) ∨
      ∃ x : Fin 16, op.toNat = 0xF01E + 0x100 * x.val ∨ op.toNat = 0xF029 + 0x100 * x.val
  full : e.machine.registers.IsFull
  /-- The registers that the instruction with this code writes. -/
  registers : ∀ y, e.machine.value y ≠ m.value y → ∃ i : Instr, i.Codes op.toNat ∧ i.Writes y
  /-- One random byte is taken by the instruction that asks for one, and none by any other. -/
  random :
    (∃ (x : Fin 16) (mask : UInt8), op.toNat = 0xC000 + 0x100 * x.val + mask.toNat) ∧
        e.random = random.tail ∨
      (∀ (x : Fin 16) (mask : UInt8), op.toNat ≠ 0xC000 + 0x100 * x.val + mask.toNat) ∧
        e.random = random
  /-- An opcode that is no instruction is noted, and that is all. -/
  unknown : decode op = none → e.machine = { m with opcode := op } ∧ e.failure = none

/-- Executing an opcode changes no part of a machine but those that are its own, and those only as far
as they are its own, whether it comes to a fault or not. -/
theorem execute_confined (h : m.Sound) (op : Opcode) (random : List UInt8) :
    m.Confined op random (m.execute op random) := by
  have index := h.index
  rcases execute_touches h op random with ⟨undecoded, executed⟩ | ⟨i, decoded, touches, after⟩
  · have other (x : Fin 16) (mask : UInt8) : op.toNat ≠ 0xC000 + 0x100 * x.val + mask.toNat := by
      intro code
      have decoded := decode_eq_some_iff (i := .random x mask).2 code
      rw [undecoded] at decoded
      cases decoded
    rw [executed]
    exact
      { memory := fun _ changed => absurd rfl changed
        platform := rfl
        screen := fun changed => changed.elim (absurd rfl) (absurd rfl)
        stack := fun changed => absurd rfl changed
        keypad := rfl
        opcode := rfl
        signals := ⟨rfl, rfl⟩
        delay := fun changed => absurd rfl changed
        sound := fun changed => absurd rfl changed
        index := fun changed => absurd rfl changed
        full := h.registers
        registers := fun _ changed => absurd rfl changed
        random := .inr ⟨other, rfl⟩
        unknown := fun _ => ⟨rfl, rfl⟩ }
  have codes := Instr.codes_of_decode decoded
  refine
    { memory := fun a changed => ?_
      platform := touches.platform_eq
      screen := fun changed => ?_
      stack := fun changed => ?_
      keypad := touches.keypad_eq
      opcode := touches.opcode_eq
      signals := ⟨touches.delayExpired_eq, touches.beep_eq⟩
      delay := fun changed => ?_
      sound := fun changed => ?_
      index := fun changed => ?_
      full := touches.isFull h.registers
      registers := fun y changed => ⟨i, codes, touches.of_value h.registers changed⟩
      random := ?_
      unknown := fun undecoded => absurd (decoded.symm.trans undecoded) (by simp) }
  · have start : (m.noted op).index.toNat = m.index.toNat := rfl
    obtain ⟨x, ⟨rfl, inside⟩ | ⟨rfl, inside⟩⟩ := touches.of_byte changed
    · exact ⟨x, .inl ⟨codes, by omega⟩⟩
    · exact ⟨x, .inr ⟨codes, by omega⟩⟩
  · obtain ⟨-, rfl | ⟨x, y, height, rfl⟩⟩ := touches.of_screen changed
    · exact .inl codes
    · exact .inr ⟨x, y, height, codes⟩
  · rcases touches.of_stack changed with ⟨⟨a, rfl⟩, step⟩ | ⟨rfl, step⟩
    · exact .inl ⟨⟨a, codes⟩, step⟩
    · exact .inr ⟨codes, step⟩
  · obtain ⟨x, rfl⟩ := touches.of_delay changed
    exact ⟨x, codes⟩
  · obtain ⟨x, rfl⟩ := touches.of_sound changed
    exact ⟨x, codes⟩
  · have points := touches.of_index changed
    cases i with
    | setIndex a => exact .inl ⟨a, codes⟩
    | addIndex x => exact .inr ⟨x, .inl codes⟩
    | selectGlyph x => exact .inr ⟨x, .inr codes⟩
    | _ => exact points.elim
  · cases i with
    | random x mask => exact .inl ⟨⟨x, mask, codes⟩, after⟩
    | _ =>
      refine .inr ⟨fun x mask code => ?_, after⟩
      rw [decode_eq_some_iff (i := .random x mask).2 code] at decoded
      cases decoded

/-- A new machine that is to store two registers at the end of memory. -/
def storing : Machine := { fresh .standard with index := 0xFFE }

/-- The store changes none of the bytes before them. -/
theorem confined_storing :
    storing.Sound ∧
      ∀ a < 0xFFE, (storing.execute 0xF155 []).machine.memory.byte a = storing.memory.byte a := by
  have sound : storing.Sound := ⟨Registers.isFull_zeroed, by decide⟩
  refine ⟨sound, fun a before => ?_⟩
  by_contra changed
  have index : storing.index = 0xFFE := rfl
  obtain ⟨x, inside⟩ := (execute_confined sound 0xF155 []).memory a changed
  omega

end Machine
end ChipEight
