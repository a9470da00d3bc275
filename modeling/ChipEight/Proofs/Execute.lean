import ChipEight.Machine.Cycle
import ChipEight.Proofs.CallStack
import ChipEight.Proofs.Decode
import ChipEight.Proofs.Drawing
import ChipEight.Proofs.Memory
import ChipEight.Proofs.Registers

/-!
# What an instruction does

An instruction either comes to a fault or takes effect. `Instr.fault?` is the fault, found from the
state alone before anything is changed; `Instr.effect` is the state after an instruction without a
fault, with every access replaced by the value that it gives; `Instr.leftover` is the state that a
fault leaves, in which only a return has changed something. `Instr.run_eq` says that running an
instruction is just that, in every machine whose registers are all there and whose index is not
negative (`Machine.Sound`). No access to a device fails there, so all failures are faults.
-/

namespace ChipEight

namespace Machine

/-- What the accesses of instructions rest on: all registers are there, and the index is a number of
an address on or beyond the first one. -/
structure Sound (m : Machine) : Prop where
  registers : m.registers.IsFull
  index : 0 ≤ m.index

/-- Whether a register holds the number of a key that is pressed. -/
def holdsPressed (m : Machine) (x : Fin 16) : Bool :=
  if h : (m.value x).toNat < 16 then m.keypad.isDown ⟨(m.value x).toNat, h⟩ else false

/-- Whether a sprite is drawn: it has rows, and its corner lies on the screen. -/
def Draws (m : Machine) (x y height : Fin 16) : Prop :=
  height.val ≠ 0 ∧ (m.value x).toNat < 64 ∧ (m.value y).toNat < 32

instance (m : Machine) (x y height : Fin 16) : Decidable (m.Draws x y height) :=
  inferInstanceAs (Decidable (_ ∧ _ ∧ _))

/-- Where the bytes of a sprite stop, at eight bytes a row. -/
def spriteStop (m : Machine) (height : Fin 16) : Int := m.index + Sprite.width * height.val

/-- The pixels of the screen that the sprite at the index sets. -/
def spritePixels (m : Machine) (left top height : Nat) : List (Fin 64 × Fin 32) :=
  Sprite.pixels (m.memory.span m.index.toNat (min (top + height) 32 - top)) left top

/-- The machine with pixels toggled, as drawing a sprite that sets them does. -/
def plotted (m : Machine) (pixels : List (Fin 64 × Fin 32)) : Machine :=
  let blitted := m.screen.blit pixels
  { { m with screen := blitted.1 }.withFlag blitted.2 with draw := true }

/-- The warning that comes with a sprite that crosses an edge of the screen. -/
def clipping? (left top : Nat) (height : Fin 16) : Option Notice :=
  if 64 < left + Sprite.width ∨ 32 < top + height.val then some (.spriteClipped left top) else none

/-- The machine with the sprite at the index drawn. -/
def drawn (m : Machine) (left top height : Nat) : Machine :=
  m.plotted (m.spritePixels left top height)

end Machine

namespace Instr

/-! ## Faults, warnings and effects -/

/-- The fault that an instruction comes to, if it comes to one. -/
def fault? (m : Machine) : Instr → Option Fault
  | ret =>
    if m.stack.depth = 0 then some .stackEmpty
    else if m.memory.inWorkspace m.stack.top then none
    else some (.returnTarget m.stack.top)
  | call a =>
    if m.memory.inWorkspace a.val then
      if m.stack.depth = 16 then some (.stackOverflow 16) else none
    else some (.callTarget a.val)
  | skipPressed x | skipReleased x =>
    if (m.value x).toNat < 16 then none else some (.noSuchKey (m.value x).toNat)
  | draw x y height =>
    if m.Draws x y height ∧ 4096 < m.spriteStop height then
      some (.spriteSpan m.index (m.spriteStop height))
    else none
  | storeDigits x => if 4096 ≤ m.index + 2 then some (.digitsSpan x m.index) else none
  | storeRegisters x | loadRegisters x =>
    if 4096 ≤ m.index + x.val then some (.registersSpan x m.index) else none
  | _ => none

/-- The warning that comes with an instruction, if one does. -/
def warning? (m : Machine) : Instr → Option Notice
  | machineCode _ => some (.machineCode m.opcode)
  | jumpOffset a =>
    if 0xFFF < a.val + (m.value Registers.offset).toNat then
      some (.jumpWrapped m.opcode (m.value Registers.offset))
    else none
  | addIndex x =>
    if 0xFFFF < m.index + (m.value x).toNat then
      some (.indexWrapped m.opcode m.index (m.value x))
    else none
  | draw x y height =>
    if height.val = 0 then some (.spriteEmpty m.opcode)
    else if 64 ≤ (m.value x).toNat ∨ 32 ≤ (m.value y).toNat then
      some (.spriteOutside m.opcode (m.value x).toNat (m.value y).toNat)
    else if 4096 < m.spriteStop height then
      some (.spriteBeyondMemory m.opcode m.index (m.spriteStop height))
    else if 64 < (m.value x).toNat + Sprite.width ∨ 32 < (m.value y).toNat + height.val then
      some (.spriteClipped (m.value x).toNat (m.value y).toNat)
    else none
  | storeRegisters x | loadRegisters x =>
    if 4096 ≤ m.index + x.val then
      some (.transferBeyondMemory m.opcode m.index (m.index + x.val))
    else none
  | _ => none

/-- The state after an instruction that comes to no fault. -/
def effect (m : Machine) (random : UInt8) : Instr → Machine
  | machineCode _ => m
  | clearScreen => { m with screen := m.screen.clear, draw := true }
  | ret => { m with stack := m.stack.popped, pc := m.stack.top }
  | jump a => { m with pc := a.val }
  | call a => { m with stack := m.stack.pushed m.pc, pc := a.val }
  | skipEqual x v => m.skipIf (m.value x == v)
  | skipUnequal x v => m.skipIf (m.value x != v)
  | skipSame x y => m.skipIf (m.value x == m.value y)
  | skipDifferent x y => m.skipIf (m.value x != m.value y)
  | load x v => m.assign x v
  | addValue x v => m.assign x (m.value x + v)
  | copy x y => m.assign x (m.value y)
  | or x y => m.assign x (m.value x ||| m.value y)
  | and x y => m.assign x (m.value x &&& m.value y)
  | xor x y => m.assign x (m.value x ^^^ m.value y)
  | add x y =>
    (m.assign x (m.value x + m.value y)).withFlag (255 < (m.value x).toNat + (m.value y).toNat)
  | sub x y => (m.assign x (m.value x - m.value y)).withFlag (m.value y ≤ m.value x)
  | shiftRight x => (m.assign x (m.value x >>> 1)).withFlag (m.value x &&& 1 == 1)
  | subFrom x y => (m.assign x (m.value y - m.value x)).withFlag (m.value x ≤ m.value y)
  | shiftLeft x => (m.assign x (m.value x <<< 1)).withFlag (m.value x &&& 0x80 == 0x80)
  | setIndex a => { m with index := a.val }
  | jumpOffset a => { m with pc := ((a.val + (m.value Registers.offset).toNat) % 0x1000 : Nat) }
  | Instr.random x mask => m.assign x (random &&& mask)
  | draw x y height =>
    if m.Draws x y height then m.drawn (m.value x).toNat (m.value y).toNat height.val else m
  | skipPressed x => m.skipIf (m.holdsPressed x)
  | skipReleased x => m.skipIf (!m.holdsPressed x)
  | readDelay x => m.assign x (UInt8.ofNat m.delay.toNat)
  | awaitKey x =>
    match m.keypad.first? with
    | none => { m with pc := m.pc - 2 }
    | some key => m.assign x (UInt8.ofNat key.val)
  | setDelay x => { m with delay := (m.value x).toNat }
  | setSound x => { m with sound := (m.value x).toNat }
  | addIndex x => { m with index := (m.index + (m.value x).toNat) % 0x10000 }
  | selectGlyph x =>
    { m with index := Memory.glyphStart + (m.value x).toNat % 16 * Memory.glyphSize }
  | storeDigits x =>
    { m with
      memory := m.memory.overlay m.index.toNat
        #[m.value x / 100, m.value x / 10 % 10, m.value x % 10] }
  | storeRegisters x => m.storeRegisters x
  | loadRegisters x =>
    { m with
      registers := m.registers.replaceFirst (x.val + 1)
        (m.memory.span m.index.toNat (x.val + 1)) }

/-- The state that an instruction leaves if it comes to a fault: a return has taken its address off
the stack by then, all others have changed nothing. -/
def leftover (m : Machine) : Instr → Machine
  | ret => { m with stack := m.stack.popped }
  | _ => m

/-! ## Returns and calls -/

section
variable {m : Machine}

/-- A return comes to no fault if there is an address on the stack, and it lies in the workspace. -/
theorem fault?_ret_eq_none :
    ret.fault? m = none ↔ 0 < m.stack.depth ∧ m.memory.inWorkspace m.stack.top = true := by
  simp only [fault?]
  rcases Nat.eq_zero_or_pos m.stack.depth with empty | some
  · simp [empty]
  · rw [if_neg (by omega)]
    simp [some]

/-- A return comes to a fault if there is no address on the stack, or one outside the workspace. -/
theorem fault?_ret_eq_some {f : Fault} :
    ret.fault? m = some f ↔
      m.stack.depth = 0 ∧ f = .stackEmpty ∨
        0 < m.stack.depth ∧ ¬m.memory.inWorkspace m.stack.top = true ∧
          f = .returnTarget m.stack.top := by
  simp only [fault?]
  rcases Nat.eq_zero_or_pos m.stack.depth with empty | some
  · rw [if_pos empty]
    constructor
    · rintro ⟨⟩
      exact .inl ⟨empty, rfl⟩
    · rintro (⟨-, rfl⟩ | ⟨some, -⟩)
      · rfl
      · omega
  · rw [if_neg (Nat.ne_of_gt some), Option.ite_none_left_eq_some]
    constructor
    · rintro ⟨outside, ⟨⟩⟩
      exact .inr ⟨some, outside, rfl⟩
    · rintro (⟨empty, -⟩ | ⟨-, outside, rfl⟩)
      · omega
      · exact ⟨outside, rfl⟩

/-- A call comes to no fault if its target lies in the workspace, and a slot of the stack is free. -/
theorem fault?_call_eq_none {a : Fin 4096} :
    (call a).fault? m = none ↔ m.memory.inWorkspace a.val = true ∧ m.stack.depth < 16 := by
  have := m.stack.depth_le
  have free : m.stack.depth < 16 ↔ ¬m.stack.depth = 16 := by omega
  simp only [fault?, free]
  split
  · next target => simp [target]
  · next outside => simp [outside]

end

end Instr

/-! ## Outcomes of the parts -/

namespace Machine

variable {m : Machine}

/-- A return takes the address off the stack even if it does not go there. -/
theorem returnFromCall_eq (m : Machine) :
    m.returnFromCall =
      if m.stack.depth = 0 then .faulted m .stackEmpty
      else if m.memory.inWorkspace m.stack.top then
        .done { m with stack := m.stack.popped, pc := m.stack.top }
      else .faulted { m with stack := m.stack.popped } (.returnTarget m.stack.top) := by
  rcases Nat.eq_zero_or_pos m.stack.depth with empty | some
  · rw [returnFromCall, m.stack.pop_of_empty empty, if_pos empty]
  · rw [returnFromCall, m.stack.pop_of_pos some, if_neg (Nat.ne_of_gt some)]

/-- A call looks at its target before it looks at the stack. -/
theorem callAt_eq (m : Machine) (a : Int) :
    m.callAt a =
      if m.memory.inWorkspace a then
        if m.stack.depth = 16 then .faulted m (.stackOverflow 16)
        else .done { m with stack := m.stack.pushed m.pc, pc := a }
      else .faulted m (.callTarget a) := by
  rw [callAt]
  rcases Nat.eq_or_lt_of_le m.stack.depth_le with full | free
  · rw [m.stack.push_of_full full, if_pos full]
  · rw [m.stack.push_of_lt free, if_neg (Nat.ne_of_lt free)]

theorem setWithFlag_eq (h : m.registers.IsFull) (x : Fin 16) (v : UInt8) (flag : Bool) :
    m.setWithFlag x v flag = .done ((m.assign x v).withFlag flag) := by
  have full : (m.assign x v).registers.IsFull := h.assign x v
  rw [setWithFlag, setRegister_eq h]
  simp only [Outcome.after, setFlag_eq full, Outcome.attempted]

theorem skipIfKey_eq (h : m.registers.IsFull) (x : Fin 16) (pressed : Bool) :
    m.skipIfKey x pressed =
      if (m.value x).toNat < 16 then .done (m.skipIf (m.holdsPressed x == pressed))
      else .faulted m (.noSuchKey (m.value x).toNat) := by
  rw [skipIfKey, register_eq h]
  rcases Nat.lt_or_ge (m.value x).toNat 16 with hk | hk
  · simp only [Outcome.after, m.keypad.get_of_lt hk, if_pos hk, holdsPressed, dif_pos hk]
  · simp only [Outcome.after, m.keypad.get_of_le hk, if_neg (Nat.not_lt_of_ge hk)]

/-- Waiting for a key never fails: a keypad that is touched has a lowest key. -/
theorem awaitKey_eq (h : m.registers.IsFull) (x : Fin 16) :
    m.awaitKey x = .done (match m.keypad.first? with
      | none => { m with pc := m.pc - 2 }
      | some key => m.assign x (UInt8.ofNat key.val)) := by
  rw [awaitKey, Keypad.untouched_eq, Keypad.first]
  cases m.keypad.first? with
  | none => rfl
  | some key => simp [Outcome.after, setRegister_eq h, Outcome.attempted]

/-- The three bytes of the digits are written as one span. -/
theorem storeDigits_eq (h : m.Sound) (x : Fin 16) :
    m.storeDigits x =
      if 4096 ≤ m.index + 2 then .faulted m (.digitsSpan x m.index)
      else .done { m with
        memory := m.memory.overlay m.index.toNat
          #[m.value x / 100, m.value x / 10 % 10, m.value x % 10] } := by
  have h0 := h.index
  unfold storeDigits
  by_cases beyond : 4096 ≤ m.index + 2
  · rw [if_pos beyond, if_pos beyond]
  · have next : (m.index + 1).toNat = m.index.toNat + 1 := by omega
    have last : (m.index + 2).toNat = m.index.toNat + 2 := by omega
    have second : (m.memory.overlay m.index.toNat #[m.value x / 100]).overlay (m.index.toNat + 1)
        #[m.value x / 10 % 10] =
        m.memory.overlay m.index.toNat #[m.value x / 100, m.value x / 10 % 10] :=
      m.memory.overlay_push ..
    have third : (m.memory.overlay m.index.toNat #[m.value x / 100, m.value x / 10 % 10]).overlay
        (m.index.toNat + 2) #[m.value x % 10] =
        m.memory.overlay m.index.toNat #[m.value x / 100, m.value x / 10 % 10, m.value x % 10] :=
      m.memory.overlay_push ..
    rw [if_neg beyond, if_neg beyond, register_eq h.registers]
    simp only [bind, Except.bind, Memory.setByte_eq _ h0 (show m.index < 4096 by omega),
      Memory.setByte_eq _ (show 0 ≤ m.index + 1 by omega) (show m.index + 1 < 4096 by omega),
      Memory.setByte_eq _ (show 0 ≤ m.index + 2 by omega) (show m.index + 2 < 4096 by omega), next,
      last, second, third]
    rfl

/-- The registers are stored from the index on. -/
theorem Sound.storeRegisters_eq (h : m.Sound) (x : Fin 16) :
    m.storeRegisters x =
      { m with
        memory := m.memory.overlay m.index.toNat (m.registers.first (x.val + 1)).toArray } := by
  rw [storeRegisters, spanStart_of_nonneg h.index]

/-- A transfer with the code of a store stores the registers, if they fit. -/
theorem blockTransfer_store {x : Fin 16} {op : Opcode} (code : op.toNat = 0xF055 + 0x100 * x.val) :
    m.blockTransfer op =
      if 4096 ≤ m.index + x.val then
        .warnedFault m (.transferBeyondMemory op m.index (m.index + x.val))
          (.registersSpan x m.index)
      else .done (m.storeRegisters x) := by
  have operation : op &&& 0xF0FF = 0xF055 := Instr.and_outer_eq code (by decide)
  have operand : Opcode.x op = x := Opcode.x_eq (by omega)
  simp only [blockTransfer, operand, operation, if_true]

/-- A transfer with the code of a load loads the registers, if they fit. -/
theorem blockTransfer_load {x : Fin 16} {op : Opcode} (code : op.toNat = 0xF065 + 0x100 * x.val) :
    m.blockTransfer op =
      if 4096 ≤ m.index + x.val then
        .warnedFault m (.transferBeyondMemory op m.index (m.index + x.val))
          (.registersSpan x m.index)
      else m.loadRegisters x := by
  have operation : op &&& 0xF0FF = 0xF065 := Instr.and_outer_eq code (by decide)
  have operand : Opcode.x op = x := Opcode.x_eq (by omega)
  have other : ¬(0xF065 : Opcode) = 0xF055 := by decide
  simp only [blockTransfer, operand, operation, if_neg other, if_true]

/-- There are bytes for all of them then. -/
theorem loadRegisters_eq (h : m.Sound) {x : Fin 16} (fits : ¬4096 ≤ m.index + x.val) :
    m.loadRegisters x =
      .done { m with
        registers := m.registers.replaceFirst (x.val + 1)
          (m.memory.span m.index.toNat (x.val + 1)) } := by
  have h0 := h.index
  have stop : m.index + x.val + 1 = (m.index.toNat : Int) + (x.val + 1 : Nat) := by omega
  have bytes := m.memory.slice_eq stop (by omega)
  rw [Int.toNat_of_nonneg h0] at bytes
  rw [loadRegisters, bytes]
  rfl

/-- The rows of a sprite are the bytes from the index on, those at negative places counted from the
end. -/
theorem spriteRows_of_ge (low : -4096 ≤ m.index) {top height : Nat} (fits : m.index + height ≤ 4096) :
    m.spriteRows top height =
      .ok ((List.range (min (top + height) 32 - top)).map fun i : Nat =>
        m.memory.byte (spanStart (m.index + i))) := by
  have inside : ∀ i ∈ List.range (min (top + height) 32 - top),
      m.memory.get (m.index + i) = .ok (m.memory.byte (spanStart (m.index + i))) := by
    intro i hi
    rw [List.mem_range] at hi
    exact m.memory.get_of_ge (by omega) (by omega)
  rw [spriteRows]
  generalize List.range (min (top + height) 32 - top) = is at inside
  induction is with
  | nil => rfl
  | cons i is ih =>
    have rest := ih fun j hj => inside j (List.mem_cons_of_mem i hj)
    rw [List.mapM_cons, inside i (by simp), rest]
    rfl

/-- They are a span, if the index is not negative. -/
theorem spriteRows_eq (h : m.Sound) {top height : Nat} (fits : m.index + height ≤ 4096) :
    m.spriteRows top height =
      .ok (m.memory.span m.index.toNat (min (top + height) 32 - top)) := by
  have h0 := h.index
  have place (i : Nat) : spanStart (m.index + i) = m.index.toNat + i := by
    rw [spanStart_of_nonneg (by omega)]
    omega
  simp only [spriteRows_of_ge (show -4096 ≤ m.index by omega) fits, place, Memory.span]

/-- What becomes of a sprite that has rows, starts on the screen and ends in memory: it is drawn if its
rows can be read. -/
theorem drawSprite_of_rows (full : m.registers.IsFull) {left top : Nat} {height : Fin 16}
    (tall : height.val ≠ 0) (inside : left < 64 ∧ top < 32) (fits : ¬4096 < m.spriteStop height)
    {rows : List UInt8} (read : m.spriteRows top height.val = .ok rows)
    (below : top + rows.length ≤ 32) :
    m.drawSprite left top height =
      ⟨m.plotted (Sprite.pixels rows left top), clipping? left top height, none⟩ := by
  have shown : ¬(64 ≤ left ∨ 32 ≤ top) := by omega
  have stop : ¬4096 < m.index + Sprite.width * height.val := fits
  have drawing := m.screen.drawRows_eq_blit rows inside.1 below
  have full (screen : Framebuffer 64 32) : { m with screen }.registers.IsFull := full
  simp only [drawSprite, if_neg tall, if_neg shown, if_neg stop, read, bind, Except.bind, drawing,
    setFlag_eq (full _)]
  rfl

/-- Its rows cannot be read if the first one lies below the beginning of memory counted from the end. -/
theorem drawSprite_of_lt {left top : Nat} {height : Fin 16} (tall : height.val ≠ 0)
    (inside : left < 64 ∧ top < 32) (fits : ¬4096 < m.spriteStop height) (below : m.index < -4096) :
    m.drawSprite left top height =
      ⟨m, clipping? left top height, some (.access (.byteIndex m.index))⟩ := by
  have shown : ¬(64 ≤ left ∨ 32 ≤ top) := by omega
  have stop : ¬4096 < m.index + Sprite.width * height.val := fits
  obtain ⟨more, count⟩ : ∃ more, min (top + height.val) 32 - top = more + 1 :=
    Nat.exists_eq_add_one.2 (by omega)
  have first : m.memory.get (m.index + (0 : Nat)) = .error (.byteIndex m.index) := by
    rw [Int.natCast_zero, Int.add_zero]
    exact m.memory.get_of_lt below
  have unread : m.spriteRows top height.val = .error (.byteIndex m.index) := by
    rw [spriteRows, count, List.range_succ_eq_map, List.mapM_cons, first]
    rfl
  simp only [drawSprite, if_neg tall, if_neg shown, if_neg stop, unread, bind, Except.bind]
  rfl

/-- Drawing a sprite comes to its fault, or has its effect. -/
theorem drawSprite_eq (h : m.Sound) (x y height : Fin 16) (r : UInt8) :
    m.drawSprite (m.value x).toNat (m.value y).toNat height =
      match (Instr.draw x y height).fault? m with
      | some f => ⟨m, (Instr.draw x y height).warning? m, some (.fault f)⟩
      | none => ⟨(Instr.draw x y height).effect m r, (Instr.draw x y height).warning? m, none⟩ := by
  simp only [Instr.fault?, Instr.warning?, Instr.effect]
  by_cases empty : height.val = 0
  · have skipped : ¬ m.Draws x y height := fun d => d.1 empty
    simp only [drawSprite, if_pos empty, skipped, false_and, if_false]
    rfl
  by_cases outside : 64 ≤ (m.value x).toNat ∨ 32 ≤ (m.value y).toNat
  · have skipped : ¬ m.Draws x y height := fun d => by have := d.2; omega
    simp only [drawSprite, if_neg empty, if_pos outside, skipped, false_and, if_false]
    rfl
  have draws : m.Draws x y height := ⟨empty, by omega, by omega⟩
  simp only [if_neg empty, if_neg outside, draws, true_and, if_true]
  by_cases beyond : 4096 < m.spriteStop height
  · have : 4096 < m.index + Sprite.width * height.val := beyond
    simp only [drawSprite, if_neg empty, if_neg outside, if_pos beyond, if_pos this]
    rfl
  · have inside : m.index + height.val ≤ 4096 := by
      simp only [spriteStop, Sprite.width] at beyond
      omega
    have performed := drawSprite_of_rows h.registers empty draws.2 beyond (spriteRows_eq h inside)
      (by simp only [Memory.span, List.length_map, List.length_range]; omega)
    simp only [performed, if_neg beyond]
    rfl

end Machine

namespace Instr

variable {m : Machine}

/-- Running an instruction comes to its fault, or has its effect. -/
theorem run_eq (h : m.Sound) (r : UInt8) {i : Instr} (hi : decode m.opcode = some i) :
    i.run m r =
      match i.fault? m with
      | some f => ⟨i.leftover m, i.warning? m, some (.fault f)⟩
      | none => ⟨i.effect m r, i.warning? m, none⟩ := by
  have reg := Machine.register_eq h.registers
  have regs := Machine.registerPair_eq h.registers
  have setr := Machine.setRegister_eq h.registers
  have code := Instr.codes_of_decode hi
  cases i with
  | machineCode a | clearScreen | jump a | setIndex a => rfl
  | ret =>
    simp only [run, Machine.returnFromCall_eq, fault?]
    split
    · next empty => simp [leftover, CallStack.popped_of_empty _ empty, Outcome.faulted, warning?]
    · split <;> rfl
  | call a =>
    simp only [run, Machine.callAt_eq, fault?]
    split
    · split <;> rfl
    · rfl
  | skipEqual x v | skipUnequal x v | setDelay x | setSound x | selectGlyph x =>
    simp only [run, reg]
    rfl
  | skipSame x y | skipDifferent x y =>
    simp only [run, regs]
    rfl
  | addValue x v | copy x y | or x y | and x y | xor x y =>
    simp only [run, reg, regs, bind, Except.bind, setr]
    rfl
  | load x v | readDelay x | random x v =>
    simp only [run, setr]
    rfl
  | add x y | sub x y | subFrom x y | shiftRight x | shiftLeft x =>
    simp only [run, reg, regs, Outcome.after, Machine.setWithFlag_eq h.registers]
    rfl
  | jumpOffset a =>
    simp only [run, reg, Outcome.after, fault?, warning?, effect]
    split <;> rfl
  | addIndex x =>
    simp only [run, reg, Outcome.after, fault?, warning?, effect]
    split <;> rfl
  | draw x y height =>
    simp only [run, regs, Outcome.after]
    exact Machine.drawSprite_eq h x y height r
  | skipPressed x | skipReleased x =>
    simp only [run, Machine.skipIfKey_eq h.registers, fault?]
    split
    · simp [Outcome.done, effect, warning?]
    · rfl
  | awaitKey x =>
    simp only [run, Machine.awaitKey_eq h.registers]
    rfl
  | storeDigits x =>
    simp only [run, Machine.storeDigits_eq h, fault?]
    split <;> rfl
  | storeRegisters x =>
    simp only [run, Machine.blockTransfer_store code, fault?, warning?]
    split <;> rfl
  | loadRegisters x =>
    simp only [run, Machine.blockTransfer_load code, fault?, warning?]
    split
    · rfl
    · next fits =>
      rw [Machine.loadRegisters_eq h fits]
      rfl

end Instr
end ChipEight
