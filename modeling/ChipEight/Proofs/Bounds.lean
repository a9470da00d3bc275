import ChipEight.Proofs.Cycle
import ChipEight.Proofs.Steady

/-!
# Bounds of the machine

`Machine.Bounded` says how far the parts of a machine can go: all registers are there, the index is
a number of sixteen bits, the timers are bytes, the program counter is at most three bytes past the
last one of memory, the stack holds addresses behind instructions and is zero where it is free, and
the screen holds zeros and ones. Every write that an instruction makes keeps to these bounds, and
with it every instruction (`Machine.Bounded.effect`), every cycle (`Machine.Bounded.cycle`) and all
that a host can do (`Machine.Reachable.bounded`).
-/

namespace ChipEight

namespace Machine

/-- The bounds that a machine keeps to. -/
structure Bounded (m : Machine) : Prop where
  registers : m.registers.IsFull
  index : 0 ≤ m.index ∧ m.index ≤ 0xFFFF
  delay : 0 ≤ m.delay ∧ m.delay ≤ 255
  sound : 0 ≤ m.sound ∧ m.sound ≤ 255
  /-- The last instruction of memory may skip another one. -/
  pc : 0 ≤ m.pc ∧ m.pc ≤ 0x1002
  /-- A slot that is not in use is zero. -/
  unused : ∀ i, m.stack.depth ≤ i → m.stack.slot i = 0
  /-- A slot in use holds an address behind an instruction. -/
  used : ∀ i < m.stack.depth, 2 ≤ m.stack.slot i ∧ m.stack.slot i ≤ 0x1000
  screen : m.screen.IsBinary

namespace Bounded

variable {m : Machine}

theorem soundness (h : m.Bounded) : m.Sound := ⟨h.registers, h.index.1⟩

theorem inRange (h : m.Bounded) : m.InRange := ⟨h.delay, h.index.1⟩

/-! ## Single writes -/

theorem assign (h : m.Bounded) (x : Fin 16) (v : UInt8) : (m.assign x v).Bounded :=
  { h with registers := h.registers.assign x v }

theorem withFlag (h : m.Bounded) (flag : Bool) : (m.withFlag flag).Bounded := h.assign ..

theorem goto (h : m.Bounded) {pc : Int} (hpc : 0 ≤ pc ∧ pc ≤ 0x1002) : { m with pc }.Bounded :=
  { h with pc := hpc }

/-- A skip goes beyond memory at the most by the instruction that it skips. -/
theorem skipIf (h : m.Bounded) (hpc : m.pc ≤ 0x1000) (condition : Bool) :
    (m.skipIf condition).Bounded := by
  have := h.pc
  unfold Machine.skipIf
  split
  · exact h.goto (by omega)
  · exact h

theorem setIndex (h : m.Bounded) {index : Int} (hi : 0 ≤ index ∧ index ≤ 0xFFFF) :
    { m with index }.Bounded :=
  { h with index := hi }

/-- A pop clears the slot that it frees. -/
theorem popped (h : m.Bounded) : { m with stack := m.stack.popped }.Bounded := by
  refine { h with unused := fun i hi => ?_, used := fun i hi => ?_ }
  · rw [CallStack.depth_popped] at hi
    rw [CallStack.slot_popped]
    split
    · rfl
    · exact h.unused i (by omega)
  · rw [CallStack.depth_popped] at hi
    rw [CallStack.slot_popped, if_neg (by omega)]
    exact h.used i (by omega)

/-- A push of an address behind an instruction fills a slot with what it may hold. -/
theorem pushed (h : m.Bounded) (free : m.stack.depth < 16) {a : Int} (ha : 2 ≤ a ∧ a ≤ 0x1000) :
    { m with stack := m.stack.pushed a }.Bounded := by
  refine { h with unused := fun i hi => ?_, used := fun i hi => ?_ }
  · rw [CallStack.depth_pushed _ free] at hi
    rw [CallStack.slot_pushed _ free, if_neg (by omega)]
    exact h.unused i (by omega)
  · rw [CallStack.depth_pushed _ free] at hi
    rw [CallStack.slot_pushed _ free]
    split
    · exact ha
    · exact h.used i (by omega)

theorem drawn (h : m.Bounded) (left top height : Nat) : (m.drawn left top height).Bounded :=
  { h with
    registers := h.registers.assign ..
    screen := h.screen.blit _ }

theorem ticked (h : m.Bounded) : m.ticked.Bounded := by
  have hd := h.delay
  have hs := h.sound
  refine { h with delay := ?_, sound := ?_ }
  · rw [delay_ticked]
    split <;> omega
  · rw [sound_ticked]
    split <;> omega

/-! ## Instructions -/

/-- An instruction that comes to no fault keeps to the bounds, if it was fetched from memory. -/
theorem effect (h : m.Bounded) (hpc : 2 ≤ m.pc ∧ m.pc ≤ 0x1000) (random : UInt8) {i : Instr}
    (sound : i.fault? m = none) : (i.effect m random).Bounded := by
  have byte (x : Fin 16) : 0 ≤ ((m.value x).toNat : Int) ∧ ((m.value x).toNat : Int) ≤ 255 := by
    have := (m.value x).toNat_lt
    omega
  cases i with
  | machineCode a => exact h
  | clearScreen =>
    refine { h with screen := ?_ }
    show m.screen.clear.IsBinary
    rw [Framebuffer.clear_eq_blank]
    exact Framebuffer.isBinary_blank
  | ret =>
    obtain ⟨-, target⟩ := Instr.fault?_ret_eq_none.1 sound
    rw [Memory.inWorkspace_iff] at target
    exact h.popped.goto (by omega)
  | jump a => exact h.goto (by omega)
  | call a =>
    obtain ⟨-, free⟩ := Instr.fault?_call_eq_none.1 sound
    exact (h.pushed free hpc).goto (by omega)
  | skipEqual | skipUnequal | skipSame | skipDifferent | skipPressed | skipReleased =>
    exact h.skipIf hpc.2 _
  | load | addValue | copy | or | and | xor | random | readDelay => exact h.assign ..
  | add | sub | subFrom | shiftRight | shiftLeft => exact (h.assign ..).withFlag _
  | setIndex a => exact h.setIndex (by omega)
  | jumpOffset a => exact h.goto (by omega)
  | draw x y height =>
    simp only [Instr.effect]
    split
    · exact h.drawn ..
    · exact h
  | awaitKey x =>
    simp only [Instr.effect]
    split
    · exact h.goto (by omega)
    · exact h.assign ..
  | setDelay x => exact { h with delay := byte x }
  | setSound x => exact { h with sound := byte x }
  | addIndex x => exact h.setIndex (by omega)
  | selectGlyph x =>
    refine h.setIndex ?_
    simp only [Memory.glyphStart, Memory.glyphSize]
    omega
  | storeDigits x | storeRegisters x => exact { h with }
  | loadRegisters x =>
    have count : (m.memory.span m.index.toNat (x.val + 1)).length = x.val + 1 := by
      rw [Memory.span, List.length_map, List.length_range]
    exact { h with registers := h.registers.replaceFirst count x.isLt }

/-- What a fault leaves keeps to the bounds. -/
theorem leftover (h : m.Bounded) (i : Instr) : (i.leftover m).Bounded := by
  cases i with
  | ret => exact h.popped
  | _ => exact h

/-! ## Cycles and runs -/

/-- Fetching from memory keeps to the bounds. -/
theorem fetched (h : m.Bounded) {op : Opcode} (fetch : m.fetch = .ok op) :
    (m.fetched op).Bounded := by
  have := h.pc
  have := Fetches.lt ⟨op, fetch, rfl⟩
  exact { h with pc := by rw [pc_fetched]; omega }

/-- Once an opcode is fetched, the program counter is behind it, and at most at the end of memory. -/
theorem pc_fetched (h : m.Bounded) {op : Opcode} (fetch : m.fetch = .ok op) :
    2 ≤ (m.fetched op).pc ∧ (m.fetched op).pc ≤ 0x1000 := by
  have := h.pc
  have := Fetches.lt ⟨op, fetch, rfl⟩
  rw [Machine.pc_fetched]
  omega

/-- Every cycle of a machine within the bounds goes one of the four ways. -/
theorem cycled (h : m.Bounded) (random : List UInt8) : m.Cycled random (m.cycle random) :=
  cycle_cycled h.soundness h.pc.1 random

/-- A cycle keeps to the bounds, whether it fails or not. -/
theorem cycle (h : m.Bounded) (random : List UInt8) : (m.cycle random).machine.Bounded := by
  have cycled := h.cycled random
  generalize m.cycle random = e at cycled
  cases cycled with
  | unfetched => exact { h with }
  | unknown fetch => exact (h.fetched fetch).ticked
  | faulted fetch => exact (h.fetched fetch).leftover _
  | executed fetch decoded sound =>
    exact ((h.fetched fetch).effect (h.pc_fetched fetch) _ (by rwa [Instr.fault?_fetched])).ticked

theorem move (h : m.Bounded) (a : Move) : (m.move a).Bounded := by
  cases a with
  | cycle random => exact h.cycle random
  | press key down => exact { h with }

theorem moves (h : m.Bounded) (actions : List Move) : (m.moves actions).Bounded := by
  induction actions generalizing m with
  | nil => exact h
  | cons a rest ih => exact ih (h.move a)

theorem fresh (platform : Platform) : (Machine.fresh platform).Bounded where
  registers := Registers.isFull_zeroed
  index := by simp [Machine.fresh]
  delay := by simp [Machine.fresh]
  sound := by simp [Machine.fresh]
  pc := by
    have := platform.workspaceStart_le
    simp only [Machine.fresh]
    omega
  unused i _ := CallStack.slot_empty i
  used i hi := absurd hi (Nat.not_lt_zero i)
  screen := Framebuffer.isBinary_blank

theorem load (h : m.Bounded) {program : Array UInt8} {m' : Machine}
    (loaded : m.load program = .ok m') : m'.Bounded := by
  obtain ⟨-, rfl⟩ := load_eq_ok_iff.1 loaded
  exact { h with }

theorem act (h : m.Bounded) (a : Action) : (m.act a).Bounded := by
  cases a with
  | move a => exact h.move a
  | load program =>
    simp only [Machine.act]
    split
    · next loaded => exact h.load loaded
    · exact h
  | loadFile read path =>
    simp only [Machine.act]
    split
    · next loaded =>
      obtain ⟨program, -, loaded⟩ := loadFile_eq_ok loaded
      exact h.load loaded
    · exact h
  | reset =>
    show m.reset.Bounded
    rw [reset_eq_fresh]
    exact fresh _

end Bounded

/-- A machine stays within the bounds, whatever is done to it. -/
theorem Reachable.bounded {m : Machine} (h : m.Reachable) : m.Bounded := by
  induction h with
  | fresh platform => exact .fresh platform
  | act _ a ih => exact ih.act a

/-! ## Small programs -/

/-- A new machine that is given one opcode as its program. -/
def given (high low : UInt8) : Machine := (fresh .standard).act (.load #[high, low])

theorem reachable_given (high low : UInt8) : (given high low).Reachable :=
  (Reachable.fresh .standard).act _

theorem fetches_given (high low : UInt8) :
    (given high low).Fetches (0x100 * high.toNat + low.toNat) := by
  have memory : (given high low).memory = (Memory.fresh .standard).overlay 0x200 #[high, low] := rfl
  have size : #[high, low].size = 2 := rfl
  exact fetches_of_overlay (k := 0) memory rfl (by omega) (by omega)

/-- A new machine that is given a program which clears the screen. -/
def clearing : Machine := (fresh .standard).act (.load #[0x00, 0xE0])

theorem reachable_clearing : clearing.Reachable := (Reachable.fresh .standard).act _

theorem fetches_clearing (keypad : Keypad) :
    ({ clearing with keypad } : Machine).Fetches 0x00E0 := by
  have memory : clearing.memory = (Memory.fresh .standard).overlay 0x200 #[0x00, 0xE0] := rfl
  exact fetches_of_overlay (k := 0) memory rfl (by decide) (by decide)

/-! ## Assignments to slices -/

variable {m : Machine}

/-- Storing registers that fit is assigning them to the slice of memory at the index. -/
theorem Sound.storeRegisters_eq_splice (h : m.Sound) {x : Fin 16} (fits : m.index + x.val < 4096) :
    (m.storeRegisters x).memory.bytes.toList =
      splice m.memory.bytes.toList m.index.toNat (m.index.toNat + (x.val + 1))
        (m.registers.first (x.val + 1)) := by
  have count := h.registers.length_first x
  have := m.memory.overlay_eq_splice m.index.toNat (m.registers.first (x.val + 1)).toArray
    (by have := h.index; rw [List.size_toArray, count]; omega)
  rw [List.size_toArray, count] at this
  rwa [h.storeRegisters_eq]

theorem Bounded.storeRegisters_eq_splice (h : m.Bounded) {x : Fin 16}
    (fits : m.index + x.val < 4096) :
    (m.storeRegisters x).memory.bytes.toList =
      splice m.memory.bytes.toList m.index.toNat (m.index.toNat + (x.val + 1))
        (m.registers.first (x.val + 1)) :=
  h.soundness.storeRegisters_eq_splice fits

/-- Loading a program is assigning it to the slice of memory that it covers. -/
theorem load_eq_splice {program : Array UInt8} {m' : Machine} (loaded : m.load program = .ok m') :
    m'.memory.bytes.toList =
      splice m.memory.bytes.toList m.memory.platform.workspaceStart
        (m.memory.platform.workspaceStart + program.size) program.toList := by
  obtain ⟨fits, rfl⟩ := load_eq_ok_iff.1 loaded
  have := m.memory.platform.workspaceStart_le
  rw [Memory.capacity] at fits
  exact m.memory.overlay_eq_splice _ _ (by omega)

/-- Bringing memory back to its start is assigning the glyphs to a slice of zeros. -/
theorem reset_eq_splice (m : Machine) :
    m.reset.memory.bytes.toList =
      splice (List.replicate 4096 0) Memory.glyphStart (Memory.glyphStart + 80)
        Memory.glyphs.toList := by
  have zeros : m.memory.zeroed.bytes.toList = List.replicate 4096 0 := by
    rw [Memory.zeroed, Vector.toList_map, List.map_const', Vector.length_toList]
  have := m.memory.zeroed.overlay_eq_splice Memory.glyphStart Memory.glyphs.toArray
    (by rw [Vector.size_toArray, Memory.glyphStart]; omega)
  rwa [Vector.size_toArray, zeros] at this

/-! ## All bounds together -/

/-- The bounds of every state that a machine can be in: those of `Machine.Bounded`, and the sizes of
its parts. In particular no assignment to a slice of memory changes how long it is: what a store of
registers, a program and a start put into memory is what the assignment gives, and as long as
memory. -/
theorem Reachable.within_bounds (h : m.Reachable) :
    m.Bounded ∧ (∀ v ∈ m.registers.values, v.toNat ≤ 255) ∧ m.opcode.toNat ≤ 0xFFFF ∧
      m.stack.slots.toList.length = 16 ∧ m.stack.depth ≤ 16 ∧
      m.memory.bytes.toList.length = 4096 ∧ m.screen.cells.toList.length = 64 * 32 ∧
      m.keypad.pressed.toList.length = 16 ∧
      (∀ (x : Fin 16) (random : List UInt8),
        m.Fetches (0xF055 + 0x100 * x.val) → (m.cycle random).failure = none →
          (m.cycle random).machine.memory.bytes.toList =
            splice m.memory.bytes.toList m.index.toNat (m.index.toNat + (x.val + 1))
              (m.registers.first (x.val + 1))) ∧
      (∀ (program : Array UInt8) (m' : Machine), m.load program = .ok m' →
        m'.memory.bytes.toList =
          splice m.memory.bytes.toList m.memory.platform.workspaceStart
            (m.memory.platform.workspaceStart + program.size) program.toList) ∧
      m.reset.memory.bytes.toList =
        splice (List.replicate 4096 0) Memory.glyphStart (Memory.glyphStart + 80)
          Memory.glyphs.toList := by
  have bounded := h.bounded
  refine ⟨bounded, fun v _ => ?_, ?_, Vector.length_toList, m.stack.depth_le, Vector.length_toList,
    Vector.length_toList, Vector.length_toList, fun x random fetches ok => ?_,
    fun _ _ => load_eq_splice, m.reset_eq_splice⟩
  · have := v.toNat_lt
    omega
  · have := m.opcode.toNat_lt
    omega
  · have cycled := bounded.cycled random
    obtain ⟨op, -, sound, after⟩ := cycled.effect_of_codes fetches (i := .storeRegisters x) rfl ok
    have fits : m.index + x.val < 4096 := by
      simp only [Instr.fault?] at sound
      split at sound
      · cases sound
      · omega
    rw [after]
    exact bounded.storeRegisters_eq_splice fits

/-- The bounds of a machine for the other platform, with a key pressed and a program loaded. -/
theorem within_bounds_loaded :
    (((fresh .eti660).act (.move (.press 3 true))).act (.load #[0x00, 0xEE])).Reachable ∧
      (((fresh .eti660).act (.move (.press 3 true))).act (.load #[0x00, 0xEE])).Bounded :=
  have reached := ((Reachable.fresh .eti660).act (.move (.press 3 true))).act (.load #[0x00, 0xEE])
  ⟨reached, reached.within_bounds.1⟩

end Machine
end ChipEight
