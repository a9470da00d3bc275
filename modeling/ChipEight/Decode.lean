import ChipEight.Instr

/-!
# Decoding

An opcode is decoded by masks. A `MaskGroup` lists the values that opcodes may have under one mask;
the groups are tried in order, the most specific masks first, and the value found is the key under
which the instruction is looked up. So `0x00E0` is found under the full mask before the group of the
first digit takes it for a call of machine code. An opcode that no group knows is no instruction.
-/

namespace ChipEight

/-- The keys of the opcodes that one mask tells apart. -/
structure MaskGroup where
  mask : Opcode
  keys : List Opcode

namespace MaskGroup

/-- The key of an opcode in a group, if the group has it. -/
def find? (g : MaskGroup) (op : Opcode) : Option Opcode :=
  if op &&& g.mask ∈ g.keys then some (op &&& g.mask) else none

/-- The opcodes without operands. -/
def whole : MaskGroup := ⟨0xFFFF, [0x00E0, 0x00EE]⟩

/-- The opcodes with one operand in the second digit. -/
def outer : MaskGroup :=
  ⟨0xF0FF, [0xE09E, 0xE0A1, 0xF007, 0xF00A, 0xF015, 0xF018, 0xF01E, 0xF029, 0xF033, 0xF055, 0xF065]⟩

/-- The opcodes with two registers as operands. -/
def ends : MaskGroup :=
  ⟨0xF00F,
    [0x5000, 0x8000, 0x8001, 0x8002, 0x8003, 0x8004, 0x8005, 0x8006, 0x8007, 0x800E, 0x9000]⟩

/-- The opcodes that the first digit tells apart. -/
def leading : MaskGroup :=
  ⟨0xF000,
    [0x0000, 0x1000, 0x2000, 0x3000, 0x4000, 0x6000, 0x7000, 0xA000, 0xB000, 0xC000, 0xD000]⟩

/-- The groups in the order in which they are tried. -/
def table : List MaskGroup := [whole, outer, ends, leading]

end MaskGroup

/-- The key of an opcode in the first group that has one. -/
def Opcode.key? (groups : List MaskGroup) (op : Opcode) : Option Opcode :=
  groups.findSome? (·.find? op)

/-- The instruction with a key, its operands taken from the opcode. -/
def Instr.ofKey? (op : Opcode) (key : Opcode) : Option Instr :=
  match key.toNat with
  | 0x00E0 => some .clearScreen
  | 0x00EE => some .ret
  | 0x0000 => some (.machineCode (Opcode.address op))
  | 0x1000 => some (.jump (Opcode.address op))
  | 0x2000 => some (.call (Opcode.address op))
  | 0x3000 => some (.skipEqual (Opcode.x op) (Opcode.byte op))
  | 0x4000 => some (.skipUnequal (Opcode.x op) (Opcode.byte op))
  | 0x5000 => some (.skipSame (Opcode.x op) (Opcode.y op))
  | 0x6000 => some (.load (Opcode.x op) (Opcode.byte op))
  | 0x7000 => some (.addValue (Opcode.x op) (Opcode.byte op))
  | 0x8000 => some (.copy (Opcode.x op) (Opcode.y op))
  | 0x8001 => some (.or (Opcode.x op) (Opcode.y op))
  | 0x8002 => some (.and (Opcode.x op) (Opcode.y op))
  | 0x8003 => some (.xor (Opcode.x op) (Opcode.y op))
  | 0x8004 => some (.add (Opcode.x op) (Opcode.y op))
  | 0x8005 => some (.sub (Opcode.x op) (Opcode.y op))
  | 0x8006 => some (.shiftRight (Opcode.x op))
  | 0x8007 => some (.subFrom (Opcode.x op) (Opcode.y op))
  | 0x800E => some (.shiftLeft (Opcode.x op))
  | 0x9000 => some (.skipDifferent (Opcode.x op) (Opcode.y op))
  | 0xA000 => some (.setIndex (Opcode.address op))
  | 0xB000 => some (.jumpOffset (Opcode.address op))
  | 0xC000 => some (.random (Opcode.x op) (Opcode.byte op))
  | 0xD000 => some (.draw (Opcode.x op) (Opcode.y op) (Opcode.n op))
  | 0xE09E => some (.skipPressed (Opcode.x op))
  | 0xE0A1 => some (.skipReleased (Opcode.x op))
  | 0xF007 => some (.readDelay (Opcode.x op))
  | 0xF00A => some (.awaitKey (Opcode.x op))
  | 0xF015 => some (.setDelay (Opcode.x op))
  | 0xF018 => some (.setSound (Opcode.x op))
  | 0xF01E => some (.addIndex (Opcode.x op))
  | 0xF029 => some (.selectGlyph (Opcode.x op))
  | 0xF033 => some (.storeDigits (Opcode.x op))
  | 0xF055 => some (.storeRegisters (Opcode.x op))
  | 0xF065 => some (.loadRegisters (Opcode.x op))
  | _ => none

/-- The instruction that an opcode encodes, if it encodes one. -/
def decode (op : Opcode) : Option Instr :=
  (Opcode.key? MaskGroup.table op).bind (Instr.ofKey? op)

end ChipEight
