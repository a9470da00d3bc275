import ChipEight.Machine.Dump
import ChipEight.Proofs.Bounds
import ChipEight.Proofs.Listings
import ChipEight.Proofs.Numerals

/-!
# What a dump tells

The dump of a machine shows each of its parts in a field of its own. A field ends at a character that it does
not hold, so every line of the dump can be taken apart, and the numerals, the listings and the row of keys in
it determine what they were written for. The line of the stack lists the slots in use only: it determines the
others because they are zero in every state that a machine can be in (`Machine.Bounded.unused`). So the dump
determines all that it is about, and nothing else (`Machine.Reachable.dump_eq_iff`): memory, the screen and
the signals of the timers are not in it.
-/

namespace ChipEight

/-! ## Fields -/

section
variable {sep rest rest' : String}

/-- A hexadecimal numeral ends in front of a blank. -/
theorem hexField_inj {width : Nat} {n n' : Int} (begins : sep.toList.head? = some ' ')
    (same : Numeral.hex width n ++ (sep ++ rest) = Numeral.hex width n' ++ (sep ++ rest')) :
    n = n' ∧ rest = rest' := by
  obtain ⟨numerals, following⟩ := field_inj begins (Numeral.not_mem_hex width rfl)
    (Numeral.not_mem_hex width rfl) same
  exact ⟨Numeral.hex_injective width numerals, following⟩

/-- So does a decimal one. -/
theorem decimalField_inj {n n' : Int} (begins : sep.toList.head? = some ' ')
    (same : Numeral.decimal n ++ (sep ++ rest) = Numeral.decimal n' ++ (sep ++ rest')) :
    n = n' ∧ rest = rest' := by
  obtain ⟨numerals, following⟩ := field_inj begins (Numeral.not_mem_decimal rfl)
    (Numeral.not_mem_decimal rfl) same
  exact ⟨Numeral.decimal_injective numerals, following⟩

end

theorem truth_injective : Function.Injective truth := by
  have apart : ∀ b b', truth b = truth b' → b = b' := by decide
  exact fun b b' same => apart b b' same

theorem not_mem_truth {c : Char} (other : c ∉ ['T', 'r', 'u', 'e', 'F', 'a', 'l', 's']) (b : Bool) :
    c ∉ (truth b).toList := by
  cases b <;> simp_all [truth]

/-! ## Stack -/

namespace CallStack

variable {n : Nat} {s s' : CallStack n}

theorem ext_slot (depth : s.depth = s'.depth) (slots : ∀ i, s.slot i = s'.slot i) : s = s' := by
  obtain ⟨held, used, le⟩ := s
  obtain ⟨held', used', le'⟩ := s'
  obtain rfl : used = used' := depth
  congr 1
  ext i hi
  have same := slots i
  simpa only [slot, Vector.getElem?_eq_getElem hi, Option.getD_some] using same

theorem getElem?_used (s : CallStack n) {i : Nat} (used : i < s.depth) :
    (s.slots.toList.take s.depth)[i]? = some (s.slot i) := by
  have := s.depth_le
  rw [List.getElem?_take_of_lt used, Vector.getElem?_toList, slot,
    Vector.getElem?_eq_getElem (by omega), Option.getD_some]

/-- An address as the text of a stack lists it. -/
def addressText (a : Int) : String := "'0x" ++ Numeral.hex 3 a ++ "'"

theorem isPart_addressText {c : Char} (other : c ∉ ['\'', '0', 'x']) (mark : Numeral.isMark c = false)
    (a : Int) : IsPart c (addressText a) := by
  have free := Numeral.not_mem_hex 3 (n := a) mark
  simp only [List.mem_cons, List.not_mem_nil, or_false, not_or] at other
  simp [IsPart, addressText, String.toList_append, free, other]

theorem addressText_injective : Function.Injective addressText := by
  intro a a' same
  rw [addressText, addressText, String.append_left_inj, String.append_right_inj] at same
  exact Numeral.hex_injective 3 same

/-- The addresses that the text of a stack lists. -/
def addresses (s : CallStack n) : List String := (s.slots.toList.take s.depth).map addressText

theorem text_eq (s : CallStack n) :
    s.text = "SP:" ++ (Numeral.decimal s.depth ++ (" " ++ listing s.addresses)) := by
  have items : (fun a => "'0x" ++ (Numeral.hex 3 a ++ "'")) = addressText :=
    funext fun a => (String.append_assoc ..).symm
  simp only [text, addresses, String.append_assoc, toString, items]

/-- The text of a stack determines its depth and the slots in use. -/
theorem text_inj (same : s.text = s'.text) :
    s.depth = s'.depth ∧ ∀ i < s.depth, s.slot i = s'.slot i := by
  rw [text_eq, text_eq, String.append_right_inj] at same
  obtain ⟨depths, listed⟩ := decimalField_inj rfl same
  have depth : s.depth = s'.depth := Int.ofNat_inj.1 depths
  have held := listing_map_inj (isPart_addressText (by decide) rfl) addressText_injective listed
  refine ⟨depth, fun i used => ?_⟩
  have slots := s.getElem?_used used
  rw [held, s'.getElem?_used (depth ▸ used)] at slots
  exact (Option.some_inj.1 slots).symm

/-- It determines the whole stack if the slots that are not in use are zero. -/
theorem eq_of_text_eq (unused : ∀ i, s.depth ≤ i → s.slot i = 0)
    (unused' : ∀ i, s'.depth ≤ i → s'.slot i = 0) (same : s.text = s'.text) : s = s' := by
  obtain ⟨depth, used⟩ := text_inj same
  refine ext_slot depth fun i => ?_
  rcases Nat.lt_or_ge i s.depth with inside | outside
  · exact used i inside
  · rw [unused i outside, unused' i (depth ▸ outside)]

theorem newline_not_mem_text (s : CallStack n) : '\n' ∉ s.text.toList := by
  have depth := Numeral.not_mem_decimal (n := s.depth) (c := '\n') rfl
  have listed : '\n' ∉ (listing s.addresses).toList := by
    refine not_mem_listing (by decide) fun t among => ?_
    obtain ⟨a, -, rfl⟩ := List.mem_map.1 among
    exact (isPart_addressText (by decide) rfl a).2
  rw [text_eq]
  simp [String.toList_append, depth, listed]

end CallStack

/-! ## Keypad -/

namespace Keypad

/-- The row of keys determines which ones are pressed. -/
theorem text_injective : Function.Injective text := by
  intro k k' same
  have digit : ∀ key, Numeral.digit key ≠ '.' := by decide
  rw [text, text, String.ofList_inj] at same
  refine ext_isDown fun key => ?_
  have mark := List.map_inj_left.1 same key (List.mem_finRange key)
  cases down : k.isDown key <;> cases down' : k'.isDown key
  case false.false | true.true => rfl
  case false.true =>
    rw [down, down'] at mark
    exact absurd mark.symm (digit key)
  case true.false =>
    rw [down, down'] at mark
    exact absurd mark (digit key)

theorem newline_not_mem_text (k : Keypad) : '\n' ∉ k.text.toList := by
  have digit : ∀ key, Numeral.digit key ≠ '\n' := by decide
  rw [text, String.toList_ofList, List.mem_map]
  rintro ⟨key, -, mark⟩
  split at mark
  · exact digit key mark
  · cases mark

end Keypad

namespace Machine

variable {m m' : Machine}

/-! ## Lines -/

/-- The registers as the dump lists them. -/
def registerItems (m : Machine) : List String :=
  m.registers.values.map fun v => Numeral.decimal v.toNat

theorem registersText_eq (m : Machine) :
    m.registersText = "PC_REGISTER:0x" ++ (Numeral.hex 4 m.pc ++ (" | IDX_REGISTER:0x" ++
      (Numeral.hex 4 m.index ++ (" | " ++ ("VARIABLE_REGISTERS:" ++ listing m.registerItems))))) := by
  unfold registersText
  simp only [String.append_assoc, toString, registerItems]

theorem registersText_inj (same : m.registersText = m'.registersText) :
    m.pc = m'.pc ∧ m.index = m'.index ∧ m.registers = m'.registers := by
  have item (v : UInt8) : IsPart ',' (Numeral.decimal v.toNat) :=
    ⟨Numeral.decimal_ne_nil, Numeral.not_mem_decimal rfl⟩
  have determines : Function.Injective fun v : UInt8 => Numeral.decimal v.toNat := by
    intro v v' written
    exact UInt8.toNat_inj.1 (Int.ofNat_inj.1 (Numeral.decimal_injective written))
  rw [registersText_eq, registersText_eq, String.append_right_inj] at same
  obtain ⟨pc, same⟩ := hexField_inj rfl same
  obtain ⟨index, same⟩ := hexField_inj rfl same
  rw [String.append_right_inj] at same
  have values := listing_map_inj item determines same
  exact ⟨pc, index, congrArg Registers.mk values⟩

theorem isPart_registersText (m : Machine) : IsPart '\n' m.registersText := by
  have pc := Numeral.not_mem_hex 4 (n := m.pc) (c := '\n') rfl
  have index := Numeral.not_mem_hex 4 (n := m.index) (c := '\n') rfl
  have listed : '\n' ∉ (listing m.registerItems).toList := by
    refine not_mem_listing (by decide) fun t among => ?_
    obtain ⟨v, -, rfl⟩ := List.mem_map.1 among
    exact Numeral.not_mem_decimal rfl
  rw [registersText_eq]
  simp [IsPart, String.toList_append, pc, index, listed]

theorem timersText_eq (m : Machine) :
    m.timersText =
      "DELAY_TIMER:" ++ (Numeral.decimal m.delay ++ (" | SOUND_TIMER:" ++ Numeral.decimal m.sound)) := by
  simp only [timersText, String.append_assoc, toString]

theorem timersText_inj (same : m.timersText = m'.timersText) :
    m.delay = m'.delay ∧ m.sound = m'.sound := by
  rw [timersText_eq, timersText_eq, String.append_right_inj] at same
  obtain ⟨delay, sound⟩ := decimalField_inj rfl same
  exact ⟨delay, Numeral.decimal_injective sound⟩

theorem isPart_timersText (m : Machine) : IsPart '\n' m.timersText := by
  have delay := Numeral.not_mem_decimal (n := m.delay) (c := '\n') rfl
  have sound := Numeral.not_mem_decimal (n := m.sound) (c := '\n') rfl
  rw [timersText_eq]
  simp [IsPart, String.toList_append, delay, sound]

theorem flagsText_eq (m : Machine) :
    m.flagsText = "OPCODE:0x" ++ (Numeral.hex 4 m.opcode.toNat ++ (" | DRAW:" ++ (truth m.draw ++
      (" | " ++ ("ETI_660:" ++ truth (m.memory.platform == .eti660)))))) := by
  simp only [flagsText, String.append_assoc, toString]

theorem flagsText_inj (same : m.flagsText = m'.flagsText) :
    m.opcode = m'.opcode ∧ m.draw = m'.draw ∧ m.memory.platform = m'.memory.platform := by
  have platforms : ∀ p p' : Platform, (p == .eti660) = (p' == .eti660) → p = p' := by
    rintro (_ | _) (_ | _) <;> decide
  have blank := not_mem_truth (c := ' ') (by decide)
  rw [flagsText_eq, flagsText_eq, String.append_right_inj] at same
  obtain ⟨opcode, same⟩ := hexField_inj rfl same
  obtain ⟨draw, same⟩ := field_inj (c := ' ') rfl (blank _) (blank _) same
  rw [String.append_right_inj] at same
  exact ⟨UInt16.toNat_inj.1 (Int.ofNat_inj.1 opcode), truth_injective draw,
    platforms _ _ (truth_injective same)⟩

theorem isPart_flagsText (m : Machine) : IsPart '\n' m.flagsText := by
  have opcode := Numeral.not_mem_hex 4 (n := m.opcode.toNat) (c := '\n') rfl
  have flag := not_mem_truth (c := '\n') (by decide)
  rw [flagsText_eq]
  simp [IsPart, String.toList_append, opcode, flag]

/-! ## The whole dump -/

theorem dump_eq (m : Machine) :
    m.dump = "\n".intercalate
      [m.registersText, m.timersText, "STACK:" ++ m.stack.text, "KEYPAD:" ++ m.keypad.text,
        m.flagsText] := by
  unfold dump
  simp only [toString]

/-- The lines of a dump can be told apart. -/
theorem lines_of_dump_eq (same : m.dump = m'.dump) :
    m.registersText = m'.registersText ∧ m.timersText = m'.timersText ∧
      m.stack.text = m'.stack.text ∧ m.keypad.text = m'.keypad.text ∧ m.flagsText = m'.flagsText := by
  have line (m : Machine) : ∀ t ∈ [m.registersText, m.timersText, "STACK:" ++ m.stack.text,
      "KEYPAD:" ++ m.keypad.text, m.flagsText], IsPart '\n' t := by
    have stack : IsPart '\n' "STACK:" := ⟨by decide, by decide⟩
    have keypad : IsPart '\n' "KEYPAD:" := ⟨by decide, by decide⟩
    simp only [List.forall_mem_cons, List.not_mem_nil, false_implies, implies_true, and_true]
    exact ⟨m.isPart_registersText, m.isPart_timersText, stack.append m.stack.newline_not_mem_text,
      keypad.append m.keypad.newline_not_mem_text, m.isPart_flagsText⟩
  rw [dump_eq, dump_eq] at same
  have lines := parts_inj rfl (line m) (line m') same
  simpa only [List.cons.injEq, and_true, String.append_right_inj] using lines

/-- The dumps of two machines are the same exactly if the machines agree on the program counter, the
index, all registers, both timers, the whole stack, all keys, the last opcode, the signal of the screen and
the platform. -/
theorem Reachable.dump_eq_iff (h : m.Reachable) (h' : m'.Reachable) :
    m.dump = m'.dump ↔
      m.pc = m'.pc ∧ m.index = m'.index ∧ m.registers = m'.registers ∧ m.delay = m'.delay ∧
        m.sound = m'.sound ∧ m.stack = m'.stack ∧ m.keypad = m'.keypad ∧ m.opcode = m'.opcode ∧
        m.draw = m'.draw ∧ m.memory.platform = m'.memory.platform := by
  constructor
  · intro same
    obtain ⟨registers, timers, stack, keypad, flags⟩ := lines_of_dump_eq same
    obtain ⟨pc, index, values⟩ := registersText_inj registers
    obtain ⟨delay, sound⟩ := timersText_inj timers
    obtain ⟨opcode, draw, platform⟩ := flagsText_inj flags
    exact ⟨pc, index, values, delay, sound,
      CallStack.eq_of_text_eq h.bounded.unused h'.bounded.unused stack,
      Keypad.text_injective keypad, opcode, draw, platform⟩
  · rintro ⟨pc, index, registers, delay, sound, stack, keypad, opcode, draw, platform⟩
    simp only [dump_eq, registersText_eq, registerItems, timersText_eq, flagsText_eq, pc, index, registers,
      delay, sound, stack, keypad, opcode, draw, platform]

/-- A machine with a program and one with a key pressed, neither of which has gone through a cycle: only the
key shows. -/
theorem dump_eq_iff_pressed :
    (given 0x00 0xEE).Reachable ∧ ((fresh .standard).act (.move (.press 15 true))).Reachable ∧
      (given 0x00 0xEE).dump = (fresh .standard).dump ∧
      (given 0x00 0xEE).dump ≠ ((fresh .standard).act (.move (.press 15 true))).dump := by
  have loaded := reachable_given 0x00 0xEE
  have pressed := (Reachable.fresh .standard).act (.move (.press 15 true))
  refine ⟨loaded, pressed, (loaded.dump_eq_iff (.fresh .standard)).2 ?_, fun same => ?_⟩
  · exact ⟨rfl, rfl, rfl, rfl, rfl, rfl, rfl, rfl, rfl, rfl⟩
  · obtain ⟨-, -, -, -, -, -, keypad, -⟩ := (loaded.dump_eq_iff pressed).1 same
    cases (congrArg (Keypad.isDown · 15) keypad : false = true)

end Machine

end ChipEight
