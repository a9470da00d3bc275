import ChipEight.Instr

/-!
# Notices

What the machine and its host report while they run. Every notice has a `Severity` and a text; a
`Log` keeps those that are at least as severe as its threshold, in the order in which they came. A notice
whose text cannot be written is left out.
-/

namespace ChipEight

/-- How much a notice matters. -/
inductive Severity
  | debug
  | info
  | warning
  | error
  deriving DecidableEq, Repr

namespace Severity

/-- The name of a severity in logs. -/
def name : Severity → String
  | .debug => "DEBUG"
  | .info => "INFO"
  | .warning => "WARNING"
  | .error => "ERROR"

/-- The place of a severity in the order from trifling to grave. -/
def rank : Severity → Nat
  | .debug => 0
  | .info => 1
  | .warning => 2
  | .error => 3

end Severity

/-- A notice. `op` is the opcode that is being executed. -/
inductive Notice
  /-- The instruction at an address was carried out. -/
  | executed (address : Nat) (instr : Instr)
  /-- A program was loaded from a file. -/
  | loaded (path : String) (size : Nat)
  | delayExpired
  | beep
  /-- A call of machine code was passed over. -/
  | machineCode (op : Opcode)
  /-- The target of a jump lies beyond the address space and is taken modulo its size. -/
  | jumpWrapped (op : Opcode) (offset : UInt8)
  /-- The index is beyond sixteen bits and is taken modulo them. -/
  | indexWrapped (op : Opcode) (index : Int) (offset : UInt8)
  /-- A sprite without rows. -/
  | spriteEmpty (op : Opcode)
  /-- A sprite that starts outside the screen. -/
  | spriteOutside (op : Opcode) (x y : Nat)
  /-- A sprite whose bytes reach beyond the memory. -/
  | spriteBeyondMemory (op : Opcode) (start stop : Int)
  /-- A sprite that crosses an edge of the screen. -/
  | spriteClipped (x y : Nat)
  /-- A block transfer that reaches beyond the memory. -/
  | transferBeyondMemory (op : Opcode) (start stop : Int)
  /-- An opcode that is no instruction, at an address. -/
  | unknownOpcode (op : Opcode) (address : Nat)
  /-- A block transfer was asked for by an opcode that is none. -/
  | notTransfer (op : Opcode)
  | keyChanged (key : Fin 16) (pressed : Bool)
  /-- The machine has stopped at a fault. -/
  | crashed (fault : Fault)
  /-- The machine starts again after a fault. -/
  | resetting (fault : Fault)
  deriving DecidableEq, Repr

/-- A truth value in reports. -/
def truth : Bool → String
  | true => "True"
  | false => "False"

namespace Notice

/-- How much a notice matters. -/
def severity : Notice → Severity
  | .executed .. | .keyChanged .. => .debug
  | .loaded .. | .delayExpired | .beep => .info
  | .machineCode _ | .jumpWrapped .. | .indexWrapped .. | .spriteEmpty _ | .spriteOutside ..
  | .spriteBeyondMemory .. | .spriteClipped .. | .transferBeyondMemory .. | .unknownOpcode .. =>
    .warning
  | .notTransfer _ | .crashed _ | .resetting _ => .error

/-- Whether every number in a notice has few enough digits to be written. -/
def isWritable : Notice → Bool
  | .spriteBeyondMemory _ start stop | .transferBeyondMemory _ start stop =>
    Numeral.isWritable start && Numeral.isWritable stop
  | _ => true

/-- An opcode in a notice. -/
def word (op : Opcode) : String := "0x" ++ Numeral.hex 4 op.toNat

/-- The text of a notice. -/
def text : Notice → String
  | .executed a i => s!"mem_addr: 0x{Numeral.hex 4 a}    instruction: {i.mnemonic}"
  | .loaded path n =>
    s!"The ROM at path {path} has been loaded successfully ({Numeral.decimal n} bytes)"
  | .delayExpired => "Delay expired!"
  | .beep => "BEEP!"
  | .machineCode op =>
    s!"Encountered opcode {word op}, which relies on executing machine-specific code. Ignoring."
  | .jumpWrapped op v =>
    s!"{word op} opcode jump overflowed with V0=0x{Numeral.hex 2 v.toNat}, wrapping around"
  | .indexWrapped op i v =>
    s!"{word op} opcode overflowed I: 0x{Numeral.hex 4 i} Vx: 0x{Numeral.hex 2 v.toNat}"
  | .spriteEmpty op =>
    s!"Opcode {word op} attempted to draw sprite with height 0. Skipping draw step"
  | .spriteOutside op x y =>
    s!"Opcode {word op} attempted to draw sprite starting at " ++
      s!"({Numeral.decimal x}, {Numeral.decimal y}) outside window. Skipping draw step"
  | .spriteBeyondMemory op start stop =>
    s!"Opcode {word op} attempted to map sprite data that spanned beyond mappable memory. " ++
      s!"Start: {Numeral.decimal start}, End: {Numeral.decimal stop}"
  | .spriteClipped x y =>
    s!"Attempted to draw a sprite outside of the screen bounds at " ++
      s!"({Numeral.decimal x}, {Numeral.decimal y}). " ++
      "A partial sprite will be drawn in the viewable screen."
  | .transferBeyondMemory op start stop =>
    s!"{word op} opcode requested to access past addressable memory bounds. " ++
      s!"Begin: {Numeral.decimal start} End: {Numeral.decimal stop}"
  | .unknownOpcode op a =>
    s!"Encountered unknown opcode {word op} at 0x{Numeral.hex 4 a}. Skipping."
  | .notTransfer op =>
    s!"Encountered unexpected opcode case. Should not have reached here. Code: {word op}"
  | .keyChanged k pressed =>
    s!"Key State Changed.  Key: {Numeral.digit k}, Pressed: {truth pressed}."
  | .crashed f => s!"{f.kind.name}: {f.message}"
  | .resetting f => s!"{f.kind.name}: {f.message}. Resetting the machine."

end Notice

/-! ## Logs -/

/-- The notices that are at least as severe as a threshold. -/
structure Log where
  threshold : Severity
  notices : Array Notice

namespace Log

/-- The log without notices. -/
def empty (threshold : Severity) : Log := ⟨threshold, #[]⟩

/-- Whether a threshold lets a notice pass. -/
def keeps (threshold : Severity) (n : Notice) : Bool := threshold.rank ≤ n.severity.rank

/-- Adds the notices that pass the threshold and can be written. -/
def record (l : Log) (ns : List Notice) : Log :=
  { l with notices := l.notices ++ ns.filter fun n => keeps l.threshold n && n.isWritable }

end Log

end ChipEight
