import ChipEight.CallStack
import ChipEight.Framebuffer
import ChipEight.Keypad
import ChipEight.Memory
import ChipEight.Notice
import ChipEight.Registers

/-!
# The machine

The state of the machine: memory, registers, stack, timers, screen and keypad, and three signals that
tell the host what the last cycle did. `Machine.fresh` is a machine as it starts out, and
`Machine.reset` brings any machine back there (`Machine.reset_eq_fresh`); `Machine.load` and
`Machine.loadFile` put a program into its workspace.
-/

namespace ChipEight

/-- The state of a machine. The program counter and the timers are numbers without a fixed width: a
program keeps them small, and the host may set them to anything. -/
structure Machine where
  memory : Memory
  stack : CallStack 16
  registers : Registers
  pc : Int
  /-- The address that sprites and transfers refer to. -/
  index : Int
  /-- The delay timer, which counts down to zero. -/
  delay : Int
  /-- The sound timer, which counts down to zero. -/
  sound : Int
  /-- The opcode that was executed last. -/
  opcode : Opcode
  screen : Framebuffer 64 32
  keypad : Keypad
  /-- The last cycle has drawn something. -/
  draw : Bool
  /-- The delay timer has just run out. -/
  delayExpired : Bool
  /-- The sound timer was running. -/
  beep : Bool

namespace Machine

/-- The delay timer is a byte, and the index is not negative. Programs keep to this range, and only a
host that sets the timer or the index itself can leave it. Reading the timer into a register and
storing registers are told for this range: outside of it a register would hold a number that is no byte, and
the memory would grow. -/
def InRange (m : Machine) : Prop := (0 ≤ m.delay ∧ m.delay ≤ 0xFF) ∧ 0 ≤ m.index

/-- A machine as it starts out. -/
def fresh (platform : Platform) : Machine where
  memory := Memory.fresh platform
  stack := CallStack.empty 16
  registers := Registers.zeroed
  pc := platform.workspaceStart
  index := 0
  delay := 0
  sound := 0
  opcode := 0
  screen := Framebuffer.blank
  keypad := Keypad.released
  draw := false
  delayExpired := false
  beep := false

/-- Brings every part of a machine back to its start. -/
def reset (m : Machine) : Machine where
  memory := m.memory.reset
  stack := m.stack.reset
  registers := Registers.zeroed
  pc := m.memory.platform.workspaceStart
  index := 0
  delay := 0
  sound := 0
  opcode := 0
  screen := m.screen.clear
  keypad := m.keypad.releaseAll
  draw := false
  delayExpired := false
  beep := false

/-! ## Registers -/

/-- The value of a register. -/
def register (m : Machine) (x : Fin 16) : Except AccessError UInt8 := m.registers.get x.val

/-- The values of two registers. -/
def registerPair (m : Machine) (x y : Fin 16) : Except AccessError (UInt8 × UInt8) := do
  return (← m.register x, ← m.register y)

/-- Sets the register at a signed index. -/
def setRegisterAt (m : Machine) (i : Int) (value : UInt8) : Except AccessError Machine :=
  (m.registers.set i value).map fun registers => { m with registers }

/-- Sets a register. -/
def setRegister (m : Machine) (x : Fin 16) (value : UInt8) : Except AccessError Machine :=
  m.setRegisterAt x.val value

/-- Sets the register of flags. -/
def setFlag (m : Machine) (flag : Bool) : Except AccessError Machine :=
  m.setRegister Registers.flag (if flag then 1 else 0)

/-! ## Loading -/

/-- Loads a program into the workspace. -/
def load (m : Machine) (program : Array UInt8) : Except Fault Machine :=
  (m.memory.load program).map fun memory => { m with memory }

/-- Loads a program from a file, which is worth a notice. -/
def loadFile (m : Machine) (read : Reader) (path : String) :
    Except Failure (Machine × Notice) :=
  (m.memory.loadFile read path).map fun (memory, size) => ({ m with memory }, .loaded path size)

/-! ## Starting again -/

theorem reset_eq_fresh (m : Machine) : m.reset = fresh m.memory.platform := by
  rw [reset, fresh, Memory.reset_eq_fresh, CallStack.reset_eq_empty,
    Framebuffer.clear_eq_blank, Keypad.releaseAll_eq_released]

end Machine

end ChipEight
