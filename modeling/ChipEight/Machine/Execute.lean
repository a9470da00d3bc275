import ChipEight.Decode
import ChipEight.Machine.Basic

/-!
# Executing instructions

`Instr.run` carries out one instruction. Its `Outcome` is the new state, at most one warning, and at
most one failure; a state that comes with a failure holds whatever the instruction had changed by
then. `Machine.execute` takes an opcode: it notes the opcode, decodes it, runs the instruction, and
adds the line of the trace if nothing failed. Random bytes come from a list, and only
`Instr.random` takes one (`Instr.randomAfter`).
-/

namespace ChipEight

/-- What an instruction has done. -/
structure Outcome where
  machine : Machine
  warning : Option Notice
  failure : Option Failure

namespace Outcome

/-- All went well. -/
def done (m : Machine) : Outcome := ⟨m, none, none⟩

/-- All went well, but for a warning. -/
def warned (m : Machine) (n : Notice) : Outcome := ⟨m, some n, none⟩

/-- A device was accessed in a way that it does not take. -/
def denied (m : Machine) (e : AccessError) : Outcome := ⟨m, none, some (.access e)⟩

/-- What comes of a single change, which may be denied. -/
def attempted (m : Machine) (change : Except AccessError Machine) : Outcome :=
  match change with
  | .ok m => .done m
  | .error e => .denied m e

/-- What follows from an access, which may be denied. -/
def after {α : Type} (m : Machine) (access : Except AccessError α) (next : α → Outcome) : Outcome :=
  match access with
  | .ok a => next a
  | .error e => .denied m e

/-- A fault. -/
def faulted (m : Machine) (f : Fault) : Outcome := ⟨m, none, some (.fault f)⟩

/-- A fault that a warning announces. -/
def warnedFault (m : Machine) (n : Notice) (f : Fault) : Outcome := ⟨m, some n, some (.fault f)⟩

end Outcome

namespace Machine

/-- Skips the next instruction if a condition holds. -/
def skipIf (m : Machine) (condition : Bool) : Machine :=
  if condition then { m with pc := m.pc + 2 } else m

/-- A skip changes the program counter only. -/
theorem skipIf_eq (m : Machine) (condition : Bool) :
    m.skipIf condition = { m with pc := if condition then m.pc + 2 else m.pc } := by
  cases condition <;> rfl

/-- The address of the instruction that is being executed; the program counter is past it. -/
def instructionAddress (m : Machine) : Nat := ((m.pc - 2) % 0x10000).toNat

/-! ## Instructions with a part of their own -/

/-- Returns to the address on top of the stack, which is taken off before it is looked at. -/
def returnFromCall (m : Machine) : Outcome :=
  match m.stack.pop with
  | .error f => .faulted m f
  | .ok (address, stack) =>
    let m := { m with stack }
    if m.memory.inWorkspace address then .done { m with pc := address }
    else .faulted m (.returnTarget address)

/-- Calls the subroutine at an address. -/
def callAt (m : Machine) (address : Int) : Outcome :=
  if m.memory.inWorkspace address then
    match m.stack.push m.pc with
    | .error f => .faulted m f
    | .ok stack => .done { m with stack, pc := address }
  else .faulted m (.callTarget address)

/-- Skips the next instruction if the key that a register holds is pressed, or if it is not. -/
def skipIfKey (m : Machine) (x : Fin 16) (pressed : Bool) : Outcome :=
  .after m (m.register x) fun key =>
    match m.keypad.get key.toNat with
    | .error f => .faulted m f
    | .ok down => .done (m.skipIf (down == pressed))

/-- Loads the lowest pressed key into a register, or stays at the instruction if there is none. -/
def awaitKey (m : Machine) (x : Fin 16) : Outcome :=
  if m.keypad.untouched then .done { m with pc := m.pc - 2 }
  else .after m m.keypad.first fun key => .attempted m (m.setRegister x (UInt8.ofNat key.val))

/-- Sets a register to the result of an operation, and then the register of flags to a flag, which
wins if both are the same. -/
def setWithFlag (m : Machine) (x : Fin 16) (value : UInt8) (flag : Bool) : Outcome :=
  .after m (m.setRegister x value) fun m => .attempted m (m.setFlag flag)

/-- Stores the three decimal digits of a register at the index. -/
def storeDigits (m : Machine) (x : Fin 16) : Outcome :=
  if 4096 ≤ m.index + 2 then .faulted m (.digitsSpan x m.index)
  else
    .attempted m do
      let v ← m.register x
      let mem ← m.memory.setByte m.index (v / 100)
      let mem ← mem.setByte (m.index + 1) (v / 10 % 10)
      let memory ← mem.setByte (m.index + 2) (v % 10)
      return { m with memory }

/-- Where a span of memory that starts at a signed index lies. -/
def spanStart (i : Int) : Nat := (Index.fromStart 4096 i).toNat

theorem spanStart_of_nonneg {i : Int} (h : 0 ≤ i) : spanStart i = i.toNat := by
  rw [spanStart, Index.fromStart, if_neg (Int.not_lt.2 h)]

/-- Stores the registers up to `x` from the index on, which is not negative (`InRange`). -/
def storeRegisters (m : Machine) (x : Fin 16) : Machine :=
  { m with
    memory := m.memory.overlay (spanStart m.index) (m.registers.first (x.val + 1)).toArray }

/-- Loads the registers up to `x` from the bytes from the index on. Of a span that lies below the
memory or reaches across its beginning, there may be fewer bytes than registers. -/
def loadRegisters (m : Machine) (x : Fin 16) : Outcome :=
  .attempted m do
    let bytes ← m.memory.slice ⟨some m.index, some (m.index + x.val + 1), none⟩
    return { m with registers := m.registers.replaceFirst (x.val + 1) bytes }

/-- Transfers registers to memory or back, as an opcode says. The span is looked at before the
opcode is. -/
def blockTransfer (m : Machine) (op : Opcode) : Outcome :=
  let x := Opcode.x op
  if 4096 ≤ m.index + x.val then
    .warnedFault m (.transferBeyondMemory op m.index (m.index + x.val)) (.registersSpan x m.index)
  else if op &&& 0xF0FF = 0xF055 then .done (m.storeRegisters x)
  else if op &&& 0xF0FF = 0xF065 then m.loadRegisters x
  else .warnedFault m (.notTransfer op) (.notTransfer op)

/-- The rows of the sprite at the index that lie on the screen if it is drawn from row `y`. -/
def spriteRows (m : Machine) (y height : Nat) : Except AccessError (List UInt8) :=
  (List.range (min (y + height) 32 - y)).mapM fun i : Nat => m.memory.get (m.index + i)

/-- Draws the sprite at the index with its upper left corner at a place. A sprite that starts outside
the screen is not drawn at all; what of a sprite crosses the right or the lower edge is left out. The
register of flags becomes one if a pixel that was set is unset. -/
def drawSprite (m : Machine) (left top : Nat) (height : Fin 16) : Outcome :=
  let stop := m.index + Sprite.width * height.val
  if height.val = 0 then .warned m (.spriteEmpty m.opcode)
  else if 64 ≤ left ∨ 32 ≤ top then .warned m (.spriteOutside m.opcode left top)
  else if 4096 < stop then
    .warnedFault m (.spriteBeyondMemory m.opcode m.index stop) (.spriteSpan m.index stop)
  else
    let warning :=
      if 64 < left + Sprite.width ∨ 32 < top + height.val then some (.spriteClipped left top)
      else none
    let columns := min (left + Sprite.width) 64 - left
    let drawing := do
      let rows ← m.spriteRows top height.val
      Framebuffer.drawRows rows left top columns (m.screen, false)
    match drawing with
    | .error e => { Outcome.denied m e with warning }
    | .ok (screen, collision) =>
      let m := { m with screen }
      let drawn := (m.setFlag collision).map fun m => { m with draw := true }
      { Outcome.attempted m drawn with warning }

end Machine

/-! ## All instructions -/

namespace Instr

/-- Carries out an instruction whose opcode is already noted and whose address the program counter
has left behind. `random` is the byte that is used if a random one is asked for. The delay timer is read as
the byte that it is (`Machine.InRange`). -/
def run (m : Machine) (random : UInt8) : Instr → Outcome
  | machineCode _ => .warned m (.machineCode m.opcode)
  | clearScreen => .done { m with screen := m.screen.clear, draw := true }
  | ret => m.returnFromCall
  | jump a => .done { m with pc := a.val }
  | call a => m.callAt a.val
  | skipEqual x v => .attempted m do return m.skipIf ((← m.register x) == v)
  | skipUnequal x v => .attempted m do return m.skipIf ((← m.register x) != v)
  | skipSame x y => .attempted m do
    let (a, b) ← m.registerPair x y
    return m.skipIf (a == b)
  | skipDifferent x y => .attempted m do
    let (a, b) ← m.registerPair x y
    return m.skipIf (a != b)
  | load x v => .attempted m (m.setRegister x v)
  | addValue x v => .attempted m do m.setRegister x ((← m.register x) + v)
  | copy x y => .attempted m do m.setRegister x (← m.register y)
  | or x y => .attempted m do
    let (a, b) ← m.registerPair x y
    m.setRegister x (a ||| b)
  | and x y => .attempted m do
    let (a, b) ← m.registerPair x y
    m.setRegister x (a &&& b)
  | xor x y => .attempted m do
    let (a, b) ← m.registerPair x y
    m.setRegister x (a ^^^ b)
  | add x y => .after m (m.registerPair x y) fun (a, b) =>
    m.setWithFlag x (a + b) (255 < a.toNat + b.toNat)
  | sub x y => .after m (m.registerPair x y) fun (a, b) => m.setWithFlag x (a - b) (b ≤ a)
  | shiftRight x => .after m (m.register x) fun a => m.setWithFlag x (a >>> 1) (a &&& 1 == 1)
  | subFrom x y => .after m (m.registerPair x y) fun (a, b) => m.setWithFlag x (b - a) (a ≤ b)
  | shiftLeft x =>
    .after m (m.register x) fun a => m.setWithFlag x (a <<< 1) (a &&& 0x80 == 0x80)
  | setIndex a => .done { m with index := a.val }
  | jumpOffset a => .after m (m.register Registers.offset) fun offset =>
    let target := a.val + offset.toNat
    let m' := { m with pc := (target % 0x1000 : Nat) }
    if 0xFFF < target then .warned m' (.jumpWrapped m.opcode offset) else .done m'
  | Instr.random x mask => .attempted m (m.setRegister x (random &&& mask))
  | draw x y height => .after m (m.registerPair x y) fun (left, top) =>
    m.drawSprite left.toNat top.toNat height
  | skipPressed x => m.skipIfKey x true
  | skipReleased x => m.skipIfKey x false
  | readDelay x => .attempted m (m.setRegister x (UInt8.ofNat m.delay.toNat))
  | awaitKey x => m.awaitKey x
  | setDelay x => .attempted m do return { m with delay := (← m.register x).toNat }
  | setSound x => .attempted m do return { m with sound := (← m.register x).toNat }
  | addIndex x => .after m (m.register x) fun offset =>
    let total := m.index + offset.toNat
    let m' := { m with index := total % 0x10000 }
    if 0xFFFF < total then .warned m' (.indexWrapped m.opcode m.index offset) else .done m'
  | selectGlyph x => .attempted m do
    return { m with index := Memory.glyphStart + (← m.register x).toNat % 16 * Memory.glyphSize }
  | storeDigits x => m.storeDigits x
  | storeRegisters _ => m.blockTransfer m.opcode
  | loadRegisters _ => m.blockTransfer m.opcode

/-- The random bytes that an instruction leaves to later ones. -/
def randomAfter (bytes : List UInt8) : Instr → List UInt8
  | Instr.random .. => bytes.tail
  | _ => bytes

end Instr

/-! ## Opcodes -/

/-- What an opcode or a cycle has done: the new state, the random bytes that are left, what there is to
report, in order, and what has failed. -/
structure Effect where
  machine : Machine
  random : List UInt8
  notices : List Notice
  failure : Option Failure

namespace Effect

/-- The effect of an outcome that takes no random byte and is not traced. -/
def ofOutcome (out : Outcome) (random : List UInt8) : Effect :=
  ⟨out.machine, random, out.warning.toList, out.failure⟩

end Effect

namespace Machine

/-- Decodes and executes an opcode that was already fetched. One that is no instruction is passed
over with a warning. The first random byte that is left over is zero once the list is used up. -/
def execute (m : Machine) (op : Opcode) (random : List UInt8) : Effect :=
  let m := { m with opcode := op }
  match decode op with
  | none => ⟨m, random, [.unknownOpcode op m.instructionAddress], none⟩
  | some i =>
    let out := i.run m (random.headD 0)
    let trace := if out.failure.isNone then [Notice.executed m.instructionAddress i] else []
    ⟨out.machine, i.randomAfter random, out.warning.toList ++ trace, out.failure⟩

end Machine

end ChipEight
