import ChipEight.Machine.Basic

/-!
# The dump of a machine

The text in which a machine shows its registers, timers, stack, keypad and last opcode, one group a
line. Memory and screen are left out.
-/

namespace ChipEight.Machine

/-- The registers of a machine. -/
def registersText (m : Machine) : String :=
  s!"PC_REGISTER:0x{Numeral.hex 4 m.pc} | IDX_REGISTER:0x{Numeral.hex 4 m.index} | " ++
    "VARIABLE_REGISTERS:" ++ listing (m.registers.values.map fun v => Numeral.decimal v.toNat)

/-- The timers of a machine. -/
def timersText (m : Machine) : String :=
  s!"DELAY_TIMER:{Numeral.decimal m.delay} | SOUND_TIMER:{Numeral.decimal m.sound}"

/-- The last opcode of a machine and the flags that belong to it. -/
def flagsText (m : Machine) : String :=
  s!"OPCODE:0x{Numeral.hex 4 m.opcode.toNat} | DRAW:{truth m.draw} | " ++
    s!"ETI_660:{truth (m.memory.platform == .eti660)}"

/-- The dump of a machine. -/
def dump (m : Machine) : String :=
  "\n".intercalate
    [m.registersText, m.timersText, s!"STACK:{m.stack.text}", s!"KEYPAD:{m.keypad.text}",
      m.flagsText]

end ChipEight.Machine
