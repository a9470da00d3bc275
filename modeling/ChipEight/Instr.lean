import ChipEight.Failure

/-!
# Instructions

`Instr` lists the instructions of the machine with their operands, and `Instr.mnemonic` writes one
down as assemblers do. An opcode is a word of two bytes; `Opcode.x`, `Opcode.y` and `Opcode.n` are its
lower three hexadecimal digits, `Opcode.byte` and `Opcode.address` the last two and the last three of
them together.
-/

namespace ChipEight

/-- The word that an instruction is encoded in. -/
abbrev Opcode := UInt16

namespace Opcode

/-- The second hexadecimal digit. -/
def x (op : Opcode) : Fin 16 := ⟨op.toNat / 256 % 16, Nat.mod_lt _ (by decide)⟩

/-- The third hexadecimal digit. -/
def y (op : Opcode) : Fin 16 := ⟨op.toNat / 16 % 16, Nat.mod_lt _ (by decide)⟩

/-- The last hexadecimal digit. -/
def n (op : Opcode) : Fin 16 := ⟨op.toNat % 16, Nat.mod_lt _ (by decide)⟩

/-- The low byte. -/
def byte (op : Opcode) : UInt8 := op.toUInt8

/-- The last three hexadecimal digits. -/
def address (op : Opcode) : Fin 4096 := ⟨op.toNat % 4096, Nat.mod_lt _ (by decide)⟩

/-- The opcode that is stored as two bytes, the high one first. -/
def ofBytes (high low : UInt8) : Opcode := high.toUInt16 <<< 8 ||| low.toUInt16

end Opcode

/-- The instructions. `x` and `y` name registers. -/
inductive Instr
  /-- Calls a routine of the host's processor; there is none. -/
  | machineCode (address : Fin 4096)
  | clearScreen
  /-- Returns from a subroutine. -/
  | ret
  | jump (address : Fin 4096)
  | call (address : Fin 4096)
  | skipEqual (x : Fin 16) (value : UInt8)
  | skipUnequal (x : Fin 16) (value : UInt8)
  | skipSame (x y : Fin 16)
  | skipDifferent (x y : Fin 16)
  | load (x : Fin 16) (value : UInt8)
  | addValue (x : Fin 16) (value : UInt8)
  | copy (x y : Fin 16)
  | or (x y : Fin 16)
  | and (x y : Fin 16)
  | xor (x y : Fin 16)
  | add (x y : Fin 16)
  /-- Takes `y` away from `x`. -/
  | sub (x y : Fin 16)
  | shiftRight (x : Fin 16)
  /-- Takes `x` away from `y`, into `x`. -/
  | subFrom (x y : Fin 16)
  | shiftLeft (x : Fin 16)
  | setIndex (address : Fin 4096)
  /-- Jumps to the sum of an address and the first register. -/
  | jumpOffset (address : Fin 4096)
  /-- Loads a random byte under a mask. -/
  | random (x : Fin 16) (mask : UInt8)
  /-- Draws the sprite at the index with its corner at the place that two registers hold. -/
  | draw (x y height : Fin 16)
  | skipPressed (x : Fin 16)
  | skipReleased (x : Fin 16)
  | readDelay (x : Fin 16)
  /-- Waits for a key and loads it. -/
  | awaitKey (x : Fin 16)
  | setDelay (x : Fin 16)
  | setSound (x : Fin 16)
  | addIndex (x : Fin 16)
  /-- Points the index at the glyph of a digit. -/
  | selectGlyph (x : Fin 16)
  /-- Stores the three decimal digits of a register at the index. -/
  | storeDigits (x : Fin 16)
  /-- Stores the registers up to `x` at the index. -/
  | storeRegisters (x : Fin 16)
  /-- Loads the registers up to `x` from the index. -/
  | loadRegisters (x : Fin 16)
  deriving DecidableEq, Repr

namespace Instr

/-- An operation on two registers. -/
def pair (name : String) (x y : Fin 16) : String :=
  s!"{name} {registerName x}, {registerName y}"

/-- An address as an operand. -/
def target (address : Fin 4096) : String := s!"0x{Numeral.hex 3 address.val}"

/-- A byte as an operand. -/
def number (value : UInt8) : String := Numeral.decimal value.toNat

/-- An instruction in the notation of assemblers. -/
def mnemonic : Instr → String
  | machineCode a => s!"SYS {target a}"
  | clearScreen => "CLS"
  | ret => "RET"
  | jump a => s!"JP {target a}"
  | call a => s!"CALL {target a}"
  | skipEqual x v => s!"SE {registerName x}, {number v}"
  | skipUnequal x v => s!"SNE {registerName x}, {number v}"
  | skipSame x y => pair "SE" x y
  | skipDifferent x y => pair "SNE" x y
  | load x v => s!"LD {registerName x}, {number v}"
  | addValue x v => s!"ADD {registerName x}, {number v}"
  | copy x y => pair "LD" x y
  | or x y => pair "OR" x y
  | and x y => pair "AND" x y
  | xor x y => pair "XOR" x y
  | add x y => pair "ADD" x y
  | sub x y => pair "SUB" x y
  | shiftRight x => s!"SHR {registerName x}"
  | subFrom x y => pair "SUBN" x y
  | shiftLeft x => s!"SHL {registerName x}"
  | setIndex a => s!"LD I, {target a}"
  | jumpOffset a => s!"JP V0, {target a}"
  | random x m => s!"RND {registerName x}, 0x{Numeral.hex 2 m.toNat}"
  | draw x y n => s!"DRW {registerName x}, {registerName y}, {Numeral.decimal n.val}"
  | skipPressed x => s!"SKP {registerName x}"
  | skipReleased x => s!"SKNP {registerName x}"
  | readDelay x => s!"LD {registerName x}, DT"
  | awaitKey x => s!"LD {registerName x}, K"
  | setDelay x => s!"LD DT, {registerName x}"
  | setSound x => s!"LD ST, {registerName x}"
  | addIndex x => s!"ADD I, {registerName x}"
  | selectGlyph x => s!"LD F, {registerName x}"
  | storeDigits x => s!"LD B, {registerName x}"
  | storeRegisters x => s!"LD [I], {registerName x}"
  | loadRegisters x => s!"LD {registerName x}, [I]"

end Instr

end ChipEight
