import ChipEight.Proofs.Listings
import ChipEight.Proofs.Numerals
import ChipEight.Proofs.Trace

/-!
# What a mnemonic tells

A mnemonic is a name and its operands. It can be taken apart, since no name has a blank in it and no operand a
comma, and every operand is read back from its text (`Operand.read?_text`), be it written in decimal, in
hexadecimal or as a name. An instruction is determined by its name and its operands (`Instr.ofParts?_parts`),
so that it is determined by its mnemonic (`Instr.mnemonic_injective`). Opcodes with the same mnemonic are
codes of one instruction, and only the shifts have several.

The line of the trace shows the mnemonic of the opcode and is the only line of its severity that an opcode
causes, whatever the state of the machine and whichever way the instruction goes (`Machine.traced_execute`).
-/

namespace ChipEight

/-! ## Operands -/

/-- What an operand names. -/
inductive Operand
  | register (x : Fin 16)
  | address (a : Fin 4096)
  /-- A number in base ten. -/
  | number (n : Nat)
  /-- A byte in base sixteen. -/
  | mask (value : UInt8)
  | index
  /-- The memory that the index refers to. -/
  | memory
  | delay
  | sound
  | key
  | glyph
  | digits
  deriving DecidableEq

namespace Operand

/-- An operand in the notation of assemblers. -/
def text : Operand → String
  | register x => registerName x
  | address a => Instr.target a
  | number n => Numeral.decimal n
  | mask v => "0x" ++ Numeral.hex 2 v.toNat
  | index => "I"
  | memory => "[I]"
  | delay => "DT"
  | sound => "ST"
  | key => "K"
  | glyph => "F"
  | digits => "B"

/-- The operand that a text stands for. A mask has two hexadecimal digits, an address more. -/
def read? (text : List Char) : Option Operand :=
  if text.all Char.isDigit then some (number (Numeral.value 10 text))
  else
    match text with
    | ['V', d] => ((List.finRange 16).find? (Numeral.digit · == d)).map register
    | '0' :: 'x' :: ds =>
      let value := Numeral.value 16 ds
      if ds.length = 2 then some (mask (UInt8.ofNat value))
      else if h : value < 4096 then some (address ⟨value, h⟩)
      else none
    | ['I'] => some index
    | ['[', 'I', ']'] => some memory
    | ['D', 'T'] => some delay
    | ['S', 'T'] => some sound
    | ['K'] => some key
    | ['F'] => some glyph
    | ['B'] => some digits
    | _ => none

theorem toList_register (x : Fin 16) : (register x).text.toList = ['V', Numeral.digit x] := by
  simp [text, registerName]

theorem toList_address (a : Fin 4096) :
    (address a).text.toList = '0' :: 'x' :: Numeral.zeroFill 3 (Nat.toDigits 16 a.val) := by
  rw [← Numeral.hex_natCast]
  simp [text, Instr.target, toString, String.toList_append]

theorem toList_mask (v : UInt8) :
    (mask v).text.toList = '0' :: 'x' :: Numeral.zeroFill 2 (Nat.toDigits 16 v.toNat) := by
  rw [← Numeral.hex_natCast]
  simp [text, String.toList_append]

/-- An operand is read back from its text. -/
theorem read?_text (o : Operand) : read? o.text.toList = some o := by
  cases o with
  | register x =>
    have back : ∀ x, read? ['V', Numeral.digit x] = some (register x) := by decide
    rw [toList_register, back]
  | address a =>
    have length : (Numeral.zeroFill 3 (Nat.toDigits 16 a.val)).length ≠ 2 := by
      rw [Numeral.length_zeroFill]
      omega
    rw [toList_address]
    show (if _ = 2 then _ else if h : Numeral.value 16 _ < 4096 then some (address ⟨_, h⟩) else none) = _
    simp only [if_neg length, Numeral.value_hexDigits, a.isLt, dif_pos]
  | number n =>
    have all : (Nat.toDigits 10 n).all Char.isDigit :=
      List.all_eq_true.2 fun c among => isDigit_of_mem_decimal among
    rw [text, Numeral.decimal_natCast]
    unfold read?
    rw [if_pos all, Numeral.value_toDigits (by decide) (by decide)]
  | mask v =>
    have short : (Nat.toDigits 16 v.toNat).length ≤ 2 :=
      (Nat.length_toDigits_le_iff (by decide) (by decide)).2 v.toNat_lt
    have length : (Numeral.zeroFill 2 (Nat.toDigits 16 v.toNat)).length = 2 := by
      rw [Numeral.length_zeroFill]
      omega
    rw [toList_mask]
    show (if _ = 2 then some (mask (UInt8.ofNat _)) else _) = _
    rw [if_pos length, Numeral.value_hexDigits, UInt8.ofNat_toNat]
  | index | memory | delay | sound | key | glyph | digits => rfl

theorem text_injective : Function.Injective text := by
  intro o o' same
  have read := read?_text o
  rw [same, read?_text] at read
  exact (Option.some_inj.1 read).symm

/-- An operand can stand between commas. -/
theorem isPart_text (o : Operand) : IsPart ',' o.text := by
  have sixteen (width n : Nat) : ',' ∉ Numeral.zeroFill width (Nat.toDigits 16 n) := by
    rw [← Numeral.hex_natCast]
    exact Numeral.not_mem_hex width rfl
  cases o with
  | register x =>
    have digit : ∀ x, Numeral.digit x ≠ ',' := by decide
    rw [IsPart, toList_register]
    simp [(digit x).symm]
  | address a =>
    rw [IsPart, toList_address]
    simp [sixteen]
  | number n => exact ⟨Numeral.decimal_ne_nil, Numeral.not_mem_decimal rfl⟩
  | mask v =>
    rw [IsPart, toList_mask]
    simp [sixteen]
  | index | memory | delay | sound | key | glyph | digits => exact ⟨by decide, by decide⟩

end Operand

/-! ## The parts of a mnemonic -/

namespace Instr

/-- What a mnemonic starts with. -/
def name : Instr → String
  | machineCode _ => "SYS"
  | clearScreen => "CLS"
  | ret => "RET"
  | jump _ | jumpOffset _ => "JP"
  | call _ => "CALL"
  | skipEqual .. | skipSame .. => "SE"
  | skipUnequal .. | skipDifferent .. => "SNE"
  | load .. | copy .. | setIndex _ | readDelay _ | awaitKey _ | setDelay _ | setSound _ | selectGlyph _
  | storeDigits _ | storeRegisters _ | loadRegisters _ => "LD"
  | addValue .. | add .. | addIndex _ => "ADD"
  | or .. => "OR"
  | and .. => "AND"
  | xor .. => "XOR"
  | sub .. => "SUB"
  | shiftRight _ => "SHR"
  | subFrom .. => "SUBN"
  | shiftLeft _ => "SHL"
  | random .. => "RND"
  | draw .. => "DRW"
  | skipPressed _ => "SKP"
  | skipReleased _ => "SKNP"

/-- What follows the name. -/
def operands : Instr → List Operand
  | clearScreen | ret => []
  | machineCode a | jump a | call a => [.address a]
  | jumpOffset a => [.register Registers.offset, .address a]
  | setIndex a => [.index, .address a]
  | skipEqual x v | skipUnequal x v | load x v | addValue x v => [.register x, .number v.toNat]
  | skipSame x y | skipDifferent x y | copy x y | or x y | and x y | xor x y | add x y | sub x y
  | subFrom x y => [.register x, .register y]
  | shiftRight x | shiftLeft x | skipPressed x | skipReleased x => [.register x]
  | random x m => [.register x, .mask m]
  | draw x y n => [.register x, .register y, .number n.val]
  | readDelay x => [.register x, .delay]
  | awaitKey x => [.register x, .key]
  | setDelay x => [.delay, .register x]
  | setSound x => [.sound, .register x]
  | addIndex x => [.index, .register x]
  | selectGlyph x => [.glyph, .register x]
  | storeDigits x => [.digits, .register x]
  | storeRegisters x => [.memory, .register x]
  | loadRegisters x => [.register x, .memory]

/-- The instruction with a name and operands. -/
def ofParts? : String → List Operand → Option Instr
  | "SYS", [.address a] => some (machineCode a)
  | "CLS", [] => some clearScreen
  | "RET", [] => some ret
  | "JP", [.address a] => some (jump a)
  | "JP", [.register _, .address a] => some (jumpOffset a)
  | "CALL", [.address a] => some (call a)
  | "SE", [.register x, .number v] => some (skipEqual x (UInt8.ofNat v))
  | "SE", [.register x, .register y] => some (skipSame x y)
  | "SNE", [.register x, .number v] => some (skipUnequal x (UInt8.ofNat v))
  | "SNE", [.register x, .register y] => some (skipDifferent x y)
  | "LD", [.register x, .number v] => some (load x (UInt8.ofNat v))
  | "LD", [.register x, .register y] => some (copy x y)
  | "LD", [.index, .address a] => some (setIndex a)
  | "LD", [.register x, .delay] => some (readDelay x)
  | "LD", [.register x, .key] => some (awaitKey x)
  | "LD", [.delay, .register x] => some (setDelay x)
  | "LD", [.sound, .register x] => some (setSound x)
  | "LD", [.glyph, .register x] => some (selectGlyph x)
  | "LD", [.digits, .register x] => some (storeDigits x)
  | "LD", [.memory, .register x] => some (storeRegisters x)
  | "LD", [.register x, .memory] => some (loadRegisters x)
  | "ADD", [.register x, .number v] => some (addValue x (UInt8.ofNat v))
  | "ADD", [.register x, .register y] => some (add x y)
  | "ADD", [.index, .register x] => some (addIndex x)
  | "OR", [.register x, .register y] => some (or x y)
  | "AND", [.register x, .register y] => some (and x y)
  | "XOR", [.register x, .register y] => some (xor x y)
  | "SUB", [.register x, .register y] => some (sub x y)
  | "SHR", [.register x] => some (shiftRight x)
  | "SUBN", [.register x, .register y] => some (subFrom x y)
  | "SHL", [.register x] => some (shiftLeft x)
  | "RND", [.register x, .mask m] => some (random x m)
  | "DRW", [.register x, .register y, .number n] => if h : n < 16 then some (draw x y ⟨n, h⟩) else none
  | "SKP", [.register x] => some (skipPressed x)
  | "SKNP", [.register x] => some (skipReleased x)
  | _, _ => none

/-- The name and the operands determine the instruction. -/
theorem ofParts?_parts (i : Instr) : ofParts? i.name i.operands = some i := by
  have byte (v : UInt8) : UInt8.ofNat v.toNat = v := UInt8.ofNat_toNat
  cases i with
  | skipEqual x v => exact congrArg (some <| skipEqual x ·) (byte v)
  | skipUnequal x v => exact congrArg (some <| skipUnequal x ·) (byte v)
  | load x v => exact congrArg (some <| load x ·) (byte v)
  | addValue x v => exact congrArg (some <| addValue x ·) (byte v)
  | draw x y n => exact dif_pos n.isLt
  | _ => rfl

/-- A name with operands. -/
def phrase (name : String) : List String → String
  | [] => name
  | first :: rest => name ++ " " ++ ", ".intercalate (first :: rest)

theorem mnemonic_eq (i : Instr) : i.mnemonic = phrase i.name (i.operands.map Operand.text) := by
  have first : Numeral.digit Registers.offset = '0' := rfl
  apply String.toList_inj.1
  cases i <;>
    simp [mnemonic, phrase, name, operands, Operand.text, number, pair, target, registerName, toString,
      String.toList_append, first]

theorem blank_not_mem_name (i : Instr) : ' ' ∉ i.name.toList := by
  cases i <;> simp [name]

/-- A name with operands can be taken apart. -/
theorem phrase_inj {name name' : String} {texts texts' : List String} (free : ' ' ∉ name.toList)
    (free' : ' ' ∉ name'.toList) (all : ∀ t ∈ texts, IsPart ',' t) (all' : ∀ t ∈ texts', IsPart ',' t)
    (same : phrase name texts = phrase name' texts') : name = name' ∧ texts = texts' := by
  have blank (name rest : String) : ' ' ∈ (name ++ " " ++ rest).toList := by
    simp [String.toList_append]
  cases texts with
  | nil =>
    cases texts' with
    | nil => exact ⟨same, rfl⟩
    | cons t' rest' =>
      rw [phrase] at same
      exact absurd (same ▸ blank name' _) free
  | cons t rest =>
    cases texts' with
    | nil =>
      rw [phrase] at same
      exact absurd (same ▸ blank name _) free'
    | cons t' rest' =>
      rw [phrase, phrase, String.append_assoc, String.append_assoc] at same
      obtain ⟨names, following⟩ := field_inj (c := ' ') rfl free free' same
      exact ⟨names, parts_inj rfl all all' following⟩

/-- An instruction is determined by its mnemonic. -/
theorem mnemonic_injective : Function.Injective mnemonic := by
  intro i j same
  have parts (i : Instr) : ∀ t ∈ i.operands.map Operand.text, IsPart ',' t := by
    intro t among
    obtain ⟨o, -, rfl⟩ := List.mem_map.1 among
    exact o.isPart_text
  rw [mnemonic_eq, mnemonic_eq] at same
  obtain ⟨names, texts⟩ := phrase_inj i.blank_not_mem_name j.blank_not_mem_name (parts i) (parts j) same
  have operands := (List.map_inj_right fun _ _ written => Operand.text_injective written).1 texts
  have read := ofParts?_parts i
  rw [names, operands, ofParts?_parts] at read
  exact (Option.some_inj.1 read).symm

end Instr

/-! ## Opcodes with one mnemonic -/

theorem Instr.codes_shiftRight {n : Nat} {x y : Fin 16} (code : n = 0x8006 + 0x100 * x.val + 0x10 * y.val) :
    (shiftRight x).Codes n := by
  rw [Codes]
  omega

theorem Instr.codes_shiftLeft {n : Nat} {x y : Fin 16} (code : n = 0x800E + 0x100 * x.val + 0x10 * y.val) :
    (shiftLeft x).Codes n := by
  rw [Codes]
  omega

/-- Two codes of one instruction are the same, unless they are shifts of one register. -/
theorem Instr.eq_or_shifts_of_codes {n n' : Nat} {i : Instr} (codes : i.Codes n) (codes' : i.Codes n') :
    n = n' ∨ ∃ k ∈ [0x8006, 0x800E], ∃ x y y' : Fin 16,
      n = k + 0x100 * x.val + 0x10 * y.val ∧ n' = k + 0x100 * x.val + 0x10 * y'.val := by
  have third (n : Nat) : n / 0x10 % 0x10 < 16 := Nat.mod_lt _ (by decide)
  cases i with
  | shiftRight x => exact .inr ⟨0x8006, .head _, x, ⟨_, third n⟩, ⟨_, third n'⟩, codes, codes'⟩
  | shiftLeft x => exact .inr ⟨0x800E, .tail _ (.head _), x, ⟨_, third n⟩, ⟨_, third n'⟩, codes, codes'⟩
  | machineCode a => exact .inl (codes.1.trans codes'.1.symm)
  | _ => exact .inl (codes.trans codes'.symm)

/-- The mnemonics of two opcodes are the same exactly if the opcodes are, or if both shift one register in one
direction. -/
theorem mnemonic_eq_iff {op op' : Opcode} {i j : Instr} (decoded : decode op = some i)
    (decoded' : decode op' = some j) :
    i.mnemonic = j.mnemonic ↔
      op = op' ∨ ∃ k ∈ [0x8006, 0x800E], ∃ x y y' : Fin 16,
        op.toNat = k + 0x100 * x.val + 0x10 * y.val ∧ op'.toNat = k + 0x100 * x.val + 0x10 * y'.val := by
  constructor
  · intro same
    obtain rfl := Instr.mnemonic_injective same
    exact (Instr.eq_or_shifts_of_codes (Instr.codes_of_decode decoded)
      (Instr.codes_of_decode decoded')).imp_left UInt16.toNat_inj.1
  · rintro (rfl | ⟨k, key, x, y, y', code, code'⟩)
    · rw [Option.some_inj.1 (decoded.symm.trans decoded')]
    · simp only [List.mem_cons, List.not_mem_nil, or_false] at key
      rcases key with rfl | rfl
      · rw [Instr.eq_of_codes decoded (Instr.codes_shiftRight code),
          Instr.eq_of_codes decoded' (Instr.codes_shiftRight code')]
      · rw [Instr.eq_of_codes decoded (Instr.codes_shiftLeft code),
          Instr.eq_of_codes decoded' (Instr.codes_shiftLeft code')]

/-! ## The line of the trace -/

/-- Whether an outcome comes without a line of the severity of the trace. -/
def Outcome.Untraced (out : Outcome) : Prop := ∀ n ∈ out.warning, n.severity ≠ .debug

namespace Outcome.Untraced

variable {m : Machine}

theorem done : (done m).Untraced := nofun

theorem faulted (f : Fault) : (faulted m f).Untraced := nofun

theorem warned {n : Notice} (other : n.severity ≠ .debug) : (warned m n).Untraced := by
  rintro _ ⟨⟩
  exact other

theorem attempted (change : Except AccessError Machine) : (attempted m change).Untraced := by
  cases change <;> exact nofun

theorem after {α : Type} {access : Except AccessError α} {next : α → Outcome}
    (untraced : ∀ a, (next a).Untraced) : (after m access next).Untraced := by
  cases access with
  | error e => exact nofun
  | ok a => exact untraced a

end Outcome.Untraced

namespace Machine

variable (m : Machine)

theorem untraced_returnFromCall : m.returnFromCall.Untraced := by
  unfold returnFromCall
  split
  · exact .faulted _
  · dsimp only
    split
    · exact .done
    · exact .faulted _

theorem untraced_callAt (address : Int) : (m.callAt address).Untraced := by
  unfold callAt
  split
  · split
    · exact .faulted _
    · exact .done
  · exact .faulted _

theorem untraced_skipIfKey (x : Fin 16) (pressed : Bool) : (m.skipIfKey x pressed).Untraced := by
  refine .after fun key => ?_
  split
  · exact .faulted _
  · exact .done

theorem untraced_awaitKey (x : Fin 16) : (m.awaitKey x).Untraced := by
  unfold awaitKey
  split
  · exact .done
  · exact .after fun key => .attempted _

theorem untraced_setWithFlag (x : Fin 16) (v : UInt8) (flag : Bool) : (m.setWithFlag x v flag).Untraced :=
  .after fun _ => .attempted _

theorem untraced_storeDigits (x : Fin 16) : (m.storeDigits x).Untraced := by
  unfold storeDigits
  split
  · exact .faulted _
  · exact .attempted _

theorem untraced_blockTransfer (op : Opcode) : (m.blockTransfer op).Untraced := by
  unfold blockTransfer
  dsimp only
  split
  · rintro _ ⟨⟩
    exact nofun
  split
  · exact .done
  split
  · exact .attempted _
  · rintro _ ⟨⟩
    exact nofun

theorem untraced_drawSprite (left top : Nat) (height : Fin 16) :
    (m.drawSprite left top height).Untraced := by
  have clipped (condition : Prop) [Decidable condition] :
      ∀ n ∈ if condition then some (Notice.spriteClipped left top) else none, n.severity ≠ .debug := by
    split <;> rintro _ ⟨⟩
    exact nofun
  unfold drawSprite
  dsimp only
  split
  · exact .warned nofun
  split
  · exact .warned nofun
  split
  · rintro _ ⟨⟩
    exact nofun
  split <;> exact clipped _

end Machine

/-- No instruction is warned of in a line of the severity of the trace. -/
theorem Instr.untraced_run (m : Machine) (random : UInt8) (i : Instr) : (i.run m random).Untraced := by
  cases i with
  | machineCode => exact .warned nofun
  | clearScreen | jump | setIndex => exact .done
  | ret => exact m.untraced_returnFromCall
  | call a => exact m.untraced_callAt _
  | skipPressed x | skipReleased x => exact m.untraced_skipIfKey _ _
  | add | sub | subFrom | shiftRight | shiftLeft => exact .after fun _ => m.untraced_setWithFlag _ _ _
  | jumpOffset | addIndex =>
    refine .after fun offset => ?_
    dsimp only
    split
    · exact .warned nofun
    · exact .done
  | draw => exact .after fun _ => m.untraced_drawSprite _ _ _
  | awaitKey x => exact m.untraced_awaitKey x
  | storeDigits x => exact m.untraced_storeDigits x
  | storeRegisters | loadRegisters => exact m.untraced_blockTransfer _
  | _ => exact .attempted _

namespace Machine

variable {m : Machine}

theorem execute_of_decode {op : Opcode} {i : Instr} (decoded : decode op = some i) (random : List UInt8) :
    m.execute op random =
      ⟨(i.run (m.noted op) (random.headD 0)).machine, i.randomAfter random,
        (i.run (m.noted op) (random.headD 0)).warning.toList ++
          (if (i.run (m.noted op) (random.headD 0)).failure.isNone then
            [.executed m.instructionAddress i] else []),
        (i.run (m.noted op) (random.headD 0)).failure⟩ := by
  unfold execute
  rw [decoded]
  rfl

/-- An opcode that does not fail causes one line of the severity of the trace, which holds its mnemonic. -/
theorem traced_execute {op : Opcode} {i : Instr} (decoded : decode op = some i) {random : List UInt8}
    (ok : (m.execute op random).failure = none) :
    (m.execute op random).lines.filter (·.1 = .debug) =
      [(.debug, s!"mem_addr: 0x{Numeral.hex 4 m.instructionAddress}    instruction: {i.mnemonic}")] := by
  have untraced := i.untraced_run (m.noted op) (random.headD 0)
  rw [execute_of_decode decoded] at ok ⊢
  generalize i.run (m.noted op) (random.headD 0) = out at ok untraced ⊢
  have none : out.failure.isNone := Option.isNone_iff_eq_none.2 ok
  have warnings : (out.warning.toList.map Notice.line).filter (·.1 = .debug) = [] := by
    rw [List.filter_eq_nil_iff]
    rintro _ among
    obtain ⟨n, warning, rfl⟩ := List.mem_map.1 among
    rw [decide_eq_true_eq]
    exact untraced n (Option.mem_toList.1 warning)
  rw [Effect.lines, List.map_append, List.filter_append, warnings, List.nil_append, if_pos none]
  rfl

/-- Whatever the state of the machine, an opcode that does not fail is traced in one line. What stands in it
behind the address is the mnemonic of the instruction that the opcode decodes to, and the opcode can be told
from it, except for the third digit of a shift. -/
theorem mnemonics_identify :
    (∀ (m : Machine) (op : Opcode) (random : List UInt8) (i : Instr), decode op = some i →
      (m.execute op random).failure = none →
        (m.execute op random).lines.filter (·.1 = .debug) =
          [(.debug,
            s!"mem_addr: 0x{Numeral.hex 4 m.instructionAddress}    instruction: {i.mnemonic}")]) ∧
      ∀ (op op' : Opcode) (i j : Instr), decode op = some i → decode op' = some j →
        (i.mnemonic = j.mnemonic ↔
          op = op' ∨ ∃ k ∈ [0x8006, 0x800E], ∃ x y y' : Fin 16,
            op.toNat = k + 0x100 * x.val + 0x10 * y.val ∧
              op'.toNat = k + 0x100 * x.val + 0x10 * y'.val) := by
  exact ⟨fun m op random i decoded ok => traced_execute decoded ok,
    fun op op' i j decoded decoded' => mnemonic_eq_iff decoded decoded'⟩

/-- A draw of a sprite without rows, which is passed over, is traced like any other, and shifts of one
register in different directions can be told apart. -/
theorem mnemonics_identify_passed_over :
    ((fresh .standard).execute 0xD120 []).lines.filter (·.1 = .debug) =
        [(.debug, "mem_addr: 0x01fe    instruction: DRW V1, V2, 0")] ∧
      decode 0x8126 = some (.shiftRight 1) ∧ decode 0x812E = some (.shiftLeft 1) ∧
      (Instr.shiftRight 1).mnemonic ≠ (Instr.shiftLeft 1).mnemonic := by
  have ok : ((fresh .standard).execute 0xD120 []).failure = none := rfl
  have traced := mnemonics_identify.1 (fresh .standard) 0xD120 [] (.draw 1 2 0) rfl ok
  refine ⟨traced.trans rfl, rfl, rfl, fun same => ?_⟩
  rcases (mnemonics_identify.2 0x8126 0x812E _ _ rfl rfl).1 same with equal | ⟨k, -, x, y, y', code, code'⟩
  · exact absurd equal (by decide)
  · have right : 0x8126 = k + 0x100 * x.val + 0x10 * y.val := code
    have left : 0x812E = k + 0x100 * x.val + 0x10 * y'.val := code'
    omega

end Machine

end ChipEight
