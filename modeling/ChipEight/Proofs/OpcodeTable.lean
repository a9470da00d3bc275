import ChipEight.Proofs.Execute

/-!
# Decoding digit by digit

The instruction of an opcode can be found without masks: by its first hexadecimal digit, and where this
leaves several instructions, by its last digit or by its last two (`Instr.ofDigits`). Decoding finds the
same one, and none where there is none (`decode_eq_ofDigits`).

The groups of masks are tried in order. All that matters is that the group of the whole opcode comes before
the group of the first digit, which also knows the two opcodes without operands
(`MaskGroup.decode_reordered_iff`).
-/

namespace ChipEight

/-! ## By digits -/

namespace Instr

/-- The instructions with the first digit `0`. -/
def ofSystem (op : Opcode) : Instr :=
  match op.toNat with
  | 0x00E0 => .clearScreen
  | 0x00EE => .ret
  | _ => .machineCode (Opcode.address op)

/-- The operations on two registers, by the last digit. -/
def ofLastDigit (op : Opcode) : Option Instr :=
  match op.toNat % 0x10 with
  | 0x0 => some (.copy (Opcode.x op) (Opcode.y op))
  | 0x1 => some (.or (Opcode.x op) (Opcode.y op))
  | 0x2 => some (.and (Opcode.x op) (Opcode.y op))
  | 0x3 => some (.xor (Opcode.x op) (Opcode.y op))
  | 0x4 => some (.add (Opcode.x op) (Opcode.y op))
  | 0x5 => some (.sub (Opcode.x op) (Opcode.y op))
  | 0x6 => some (.shiftRight (Opcode.x op))
  | 0x7 => some (.subFrom (Opcode.x op) (Opcode.y op))
  | 0xE => some (.shiftLeft (Opcode.x op))
  | _ => none

/-- The instructions on keys, by the last two digits. -/
def ofKeyByte (op : Opcode) : Option Instr :=
  match op.toNat % 0x100 with
  | 0x9E => some (.skipPressed (Opcode.x op))
  | 0xA1 => some (.skipReleased (Opcode.x op))
  | _ => none

/-- The instructions on timers, the index and memory, by the last two digits. -/
def ofDeviceByte (op : Opcode) : Option Instr :=
  match op.toNat % 0x100 with
  | 0x07 => some (.readDelay (Opcode.x op))
  | 0x0A => some (.awaitKey (Opcode.x op))
  | 0x15 => some (.setDelay (Opcode.x op))
  | 0x18 => some (.setSound (Opcode.x op))
  | 0x1E => some (.addIndex (Opcode.x op))
  | 0x29 => some (.selectGlyph (Opcode.x op))
  | 0x33 => some (.storeDigits (Opcode.x op))
  | 0x55 => some (.storeRegisters (Opcode.x op))
  | 0x65 => some (.loadRegisters (Opcode.x op))
  | _ => none

/-- The instruction of an opcode, by its first digit and what this digit leaves to tell apart. -/
def ofDigits (op : Opcode) : Option Instr :=
  match op.toNat / 0x1000 with
  | 0x0 => some (ofSystem op)
  | 0x1 => some (.jump (Opcode.address op))
  | 0x2 => some (.call (Opcode.address op))
  | 0x3 => some (.skipEqual (Opcode.x op) (Opcode.byte op))
  | 0x4 => some (.skipUnequal (Opcode.x op) (Opcode.byte op))
  | 0x5 => if op.toNat % 0x10 = 0 then some (.skipSame (Opcode.x op) (Opcode.y op)) else none
  | 0x6 => some (.load (Opcode.x op) (Opcode.byte op))
  | 0x7 => some (.addValue (Opcode.x op) (Opcode.byte op))
  | 0x8 => ofLastDigit op
  | 0x9 => if op.toNat % 0x10 = 0 then some (.skipDifferent (Opcode.x op) (Opcode.y op)) else none
  | 0xA => some (.setIndex (Opcode.address op))
  | 0xB => some (.jumpOffset (Opcode.address op))
  | 0xC => some (.random (Opcode.x op) (Opcode.byte op))
  | 0xD => some (.draw (Opcode.x op) (Opcode.y op) (Opcode.n op))
  | 0xE => ofKeyByte op
  | 0xF => ofDeviceByte op
  | _ => none

variable {op : Opcode} {i : Instr}

/-! ### The instruction found has the opcode as its code -/

theorem codes_ofSystem (first : op.toNat / 0x1000 = 0) : (ofSystem op).Codes op.toNat := by
  unfold ofSystem
  split
  · assumption
  · assumption
  · next clear ret =>
    refine ⟨?_, clear, ret⟩
    simp only [Opcode.address]
    omega

theorem codes_ofLastDigit (first : op.toNat / 0x1000 = 8) (found : ofLastDigit op = some i) :
    i.Codes op.toNat := by
  unfold ofLastDigit at found
  split at found <;> cases found <;>
  · simp only [Codes, Opcode.x, Opcode.y]
    omega

theorem codes_ofKeyByte (first : op.toNat / 0x1000 = 14) (found : ofKeyByte op = some i) :
    i.Codes op.toNat := by
  unfold ofKeyByte at found
  split at found <;> cases found <;>
  · simp only [Codes, Opcode.x]
    omega

theorem codes_ofDeviceByte (first : op.toNat / 0x1000 = 15) (found : ofDeviceByte op = some i) :
    i.Codes op.toNat := by
  unfold ofDeviceByte at found
  split at found <;> cases found <;>
  · simp only [Codes, Opcode.x]
    omega

theorem codes_ofDigits (found : ofDigits op = some i) : i.Codes op.toNat := by
  have short := op.toNat_lt
  unfold ofDigits at found
  split at found
  · next first =>
    cases found
    exact codes_ofSystem first
  case h_9 first => exact codes_ofLastDigit first found
  case h_15 first => exact codes_ofKeyByte first found
  case h_16 first => exact codes_ofDeviceByte first found
  case h_17 => cases found
  case h_6 | h_10 =>
    split at found
    · cases found
      simp only [Codes, Opcode.x, Opcode.y]
      omega
    · cases found
  all_goals
    cases found
    simp only [Codes, Opcode.x, Opcode.y, Opcode.n, Opcode.address, Opcode.toNat_byte]
    omega

end Instr

open MaskGroup

/-! ### Where there is no instruction, no group knows the opcode -/

namespace MaskGroup

section
variable {op : Opcode}

/-- What the group of the first and the last digit knows. -/
theorem digits_of_knows_ends (knows : ends.Knows op) :
    (op.toNat / 0x1000 = 5 ∨ op.toNat / 0x1000 = 9) ∧ op.toNat % 0x10 = 0 ∨
      op.toNat / 0x1000 = 8 ∧ (op.toNat % 0x10 < 8 ∨ op.toNat % 0x10 = 0xE) := by
  simp only [Knows, ends, List.mem_cons, List.not_mem_nil, or_false, ← UInt16.toNat_inj,
    Opcode.toNat_ends, UInt16.reduceToNat] at knows
  omega

/-- What the group of the first digit and the last two knows. -/
theorem digits_of_knows_outer (knows : outer.Knows op) :
    op.toNat / 0x1000 = 0xE ∧ (op.toNat % 0x100 = 0x9E ∨ op.toNat % 0x100 = 0xA1) ∨
      op.toNat / 0x1000 = 0xF ∧
        (op.toNat % 0x100 = 0x07 ∨ op.toNat % 0x100 = 0x0A ∨ op.toNat % 0x100 = 0x15 ∨
          op.toNat % 0x100 = 0x18 ∨ op.toNat % 0x100 = 0x1E ∨ op.toNat % 0x100 = 0x29 ∨
          op.toNat % 0x100 = 0x33 ∨ op.toNat % 0x100 = 0x55 ∨ op.toNat % 0x100 = 0x65) := by
  simp only [Knows, outer, List.mem_cons, List.not_mem_nil, or_false, ← UInt16.toNat_inj,
    Opcode.toNat_outer, UInt16.reduceToNat] at knows
  have := op.toNat_lt
  obtain key | key | key | key | key | key | key | key | key | key | key := knows <;> omega

end

end MaskGroup

namespace Instr

section
variable {op : Opcode}

theorem not_knows_of_lastDigit (unknown : ofLastDigit op = none) : ¬ends.Knows op := by
  intro knows
  have digits := digits_of_knows_ends knows
  unfold ofLastDigit at unknown
  split at unknown
  case h_10 =>
    simp only [imp_false] at *
    omega
  all_goals cases unknown

theorem not_knows_of_keyByte (unknown : ofKeyByte op = none) (first : op.toNat / 0x1000 = 14) :
    ¬outer.Knows op := by
  intro knows
  have digits := digits_of_knows_outer knows
  unfold ofKeyByte at unknown
  split at unknown
  case h_3 =>
    simp only [imp_false] at *
    omega
  all_goals cases unknown

theorem not_knows_of_deviceByte (unknown : ofDeviceByte op = none) (first : op.toNat / 0x1000 = 15) :
    ¬outer.Knows op := by
  intro knows
  have digits := digits_of_knows_outer knows
  unfold ofDeviceByte at unknown
  split at unknown
  case h_10 =>
    simp only [imp_false] at *
    omega
  all_goals cases unknown

/-- A skip that compares two registers ends in zero. -/
theorem not_knows_of_skip (first : op.toNat / 0x1000 = 5 ∨ op.toNat / 0x1000 = 9)
    (last : op.toNat % 0x10 ≠ 0) : ¬ends.Knows op := by
  intro knows
  have digits := digits_of_knows_ends knows
  omega

/-- Only first digits that leave something to tell apart leave an opcode without an instruction. -/
theorem unknown_of_ofDigits (unknown : ofDigits op = none) :
    (op.toNat / 0x1000 = 5 ∨ op.toNat / 0x1000 = 8 ∨ op.toNat / 0x1000 = 9) ∧ ¬ends.Knows op ∨
      14 ≤ op.toNat / 0x1000 ∧ ¬outer.Knows op := by
  have short := op.toNat_lt
  unfold ofDigits at unknown
  split at unknown
  case h_6 first =>
    split at unknown
    · cases unknown
    · next last => exact .inl ⟨.inl first, not_knows_of_skip (.inl first) last⟩
  case h_9 first => exact .inl ⟨.inr (.inl first), not_knows_of_lastDigit unknown⟩
  case h_10 first =>
    split at unknown
    · cases unknown
    · next last => exact .inl ⟨.inr (.inr first), not_knows_of_skip (.inr first) last⟩
  case h_15 first => exact .inr ⟨by omega, not_knows_of_keyByte unknown first⟩
  case h_16 first => exact .inr ⟨by omega, not_knows_of_deviceByte unknown first⟩
  case h_17 =>
    simp only [imp_false] at *
    omega
  all_goals cases unknown

theorem not_knows_of_ofDigits (unknown : ofDigits op = none) : ∀ g ∈ table, ¬g.Knows op := by
  have kept := unknown_of_ofDigits unknown
  intro g among knows
  simp only [table, List.mem_cons, List.not_mem_nil, or_false] at among
  obtain rfl | rfl | rfl | rfl := among
  · have := knows_whole.1 knows
    omega
  · have := digit_of_knows_outer knows
    obtain ⟨first, -⟩ | ⟨-, free⟩ := kept
    · omega
    · exact free knows
  · have := digit_of_knows_ends knows
    obtain ⟨-, free⟩ | ⟨first, -⟩ := kept
    · exact free knows
    · omega
  · have := digit_of_knows_leading knows
    obtain ⟨first, -⟩ | ⟨first, -⟩ := kept <;> omega

end
end Instr

/-- No key is found exactly if no group knows the opcode. -/
theorem MaskGroup.key?_eq_none_iff {groups : List MaskGroup} {op : Opcode} :
    Opcode.key? groups op = none ↔ ∀ g ∈ groups, ¬g.Knows op := by
  simp only [Opcode.key?, List.findSome?_eq_none_iff, find?_eq_none_iff]

/-- Decoding by masks finds what the digits say. -/
theorem decode_eq_ofDigits (op : Opcode) : decode op = Instr.ofDigits op := by
  cases found : Instr.ofDigits op with
  | some i => exact Instr.decode_of_codes (Instr.codes_ofDigits found)
  | none =>
    have keyless := key?_eq_none_iff.2 (Instr.not_knows_of_ofDigits found)
    rw [decode, keyless, Option.bind_none]

/-! ## The order of the groups -/

namespace MaskGroup

section
variable {groups : List MaskGroup} {op k : Opcode} {g g' : MaskGroup}

/-- A key is found if some group knows the opcode and all that do agree on it. -/
theorem key?_eq_of_agree (known : ∃ g ∈ groups, g.Knows op)
    (agree : ∀ g ∈ groups, g.Knows op → op &&& g.mask = k) : Opcode.key? groups op = some k := by
  cases found : Opcode.key? groups op with
  | none =>
    obtain ⟨g, among, knows⟩ := known
    exact absurd knows (key?_eq_none_iff.1 found g among)
  | some k' =>
    obtain ⟨g, among, got⟩ := List.exists_of_findSome?_eq_some found
    obtain ⟨knows, rfl⟩ := find?_eq_some_iff.1 got
    rw [agree g among knows]

/-- An opcode with operands is known to one group at most. -/
theorem eq_of_knows (among : g ∈ table) (among' : g' ∈ table) (operands : ¬whole.Knows op)
    (knows : g.Knows op) (knows' : g'.Knows op) : g = g' := by
  have digits : ∀ g ∈ table, g.Knows op →
      g = outer ∧ 14 ≤ op.toNat / 4096 ∨
      g = ends ∧ (op.toNat / 4096 = 5 ∨ op.toNat / 4096 = 8 ∨ op.toNat / 4096 = 9) ∨
      g = leading ∧ (op.toNat / 4096 < 5 ∨ op.toNat / 4096 = 6 ∨ op.toNat / 4096 = 7 ∨
        10 ≤ op.toNat / 4096 ∧ op.toNat / 4096 < 14) := by
    intro g among knows
    simp only [table, List.mem_cons, List.not_mem_nil, or_false] at among
    obtain rfl | rfl | rfl | rfl := among
    · exact absurd knows operands
    · exact .inl ⟨rfl, digit_of_knows_outer knows⟩
    · exact .inr (.inl ⟨rfl, digit_of_knows_ends knows⟩)
    · exact .inr (.inr ⟨rfl, digit_of_knows_leading knows⟩)
  obtain ⟨rfl, first⟩ | ⟨rfl, first⟩ | ⟨rfl, first⟩ := digits g among knows <;>
  obtain ⟨rfl, first'⟩ | ⟨rfl, first'⟩ | ⟨rfl, first'⟩ := digits g' among' knows' <;>
  first
  | rfl
  | omega

/-- An opcode without operands is known to its own group and to that of the first digit. -/
theorem eq_of_knows_whole (among : g ∈ table) (bare : whole.Knows op) (knows : g.Knows op) :
    g = whole ∨ g = leading := by
  have code := knows_whole.1 bare
  simp only [table, List.mem_cons, List.not_mem_nil, or_false] at among
  obtain rfl | rfl | rfl | rfl := among
  · exact .inl rfl
  · have := digit_of_knows_outer knows
    omega
  · have := digit_of_knows_ends knows
    omega
  · exact .inr rfl

theorem nodup_table : table.Nodup := by
  apply List.Nodup.of_map mask
  decide

/-- In every order that tries the whole opcode before the first digit, the same keys are found. -/
theorem key?_reordered (perm : groups.Perm table) (order : [whole, leading].Sublist groups)
    (op : Opcode) : Opcode.key? groups op = Opcode.key? table op := by
  by_cases bare : whole.Knows op
  · obtain ⟨before, after, rfl, early, late⟩ := List.cons_sublist_iff.1 order
    have apart := (List.nodup_append.1 (perm.nodup_iff.2 nodup_table)).2.2
    have found : Opcode.key? before op = some (op &&& whole.mask) := by
      apply key?_eq_of_agree ⟨whole, early, bare⟩
      intro g among knows
      obtain rfl | rfl :=
        eq_of_knows_whole (perm.mem_iff.1 (List.mem_append_left _ among)) bare knows
      · rfl
      · exact absurd rfl (apart _ among _ (late.subset (List.mem_singleton_self _)))
    rw [key?_eq_some_iff.2 (.inl ⟨bare, rfl⟩)]
    rw [Opcode.key?] at found ⊢
    rw [List.findSome?_append, found, Option.some_or]
  · cases found : Opcode.key? table op with
    | none =>
      rw [key?_eq_none_iff] at found ⊢
      intro g among
      exact found g (perm.mem_iff.1 among)
    | some k =>
      obtain ⟨g, among, got⟩ := List.exists_of_findSome?_eq_some found
      obtain ⟨knows, rfl⟩ := find?_eq_some_iff.1 got
      apply key?_eq_of_agree ⟨g, perm.mem_iff.2 among, knows⟩
      intro g' among' knows'
      rw [eq_of_knows (perm.mem_iff.1 among') among bare knows' knows]

/-- An order that finds the instruction of `0x00E0` tries the whole opcode before the first digit. -/
theorem order_of_clearScreen (perm : groups.Perm table)
    (clear : (Opcode.key? groups 0x00E0).bind (Instr.ofKey? 0x00E0) = some .clearScreen) :
    [whole, leading].Sublist groups := by
  obtain ⟨k, found, clear⟩ := Option.bind_eq_some_iff.1 clear
  obtain ⟨before, g, after, rfl, got, free⟩ := List.findSome?_eq_some_iff.1 found
  obtain ⟨knows, rfl⟩ := find?_eq_some_iff.1 got
  obtain rfl | rfl :=
    eq_of_knows_whole (perm.mem_iff.1 (by simp)) (knows_whole.2 (.inl rfl)) knows
  -- the group of the first digit knows the opcode, so that it cannot have been tried before
  · have among : leading ∈ before ++ whole :: after := perm.mem_iff.2 (by simp [table])
    obtain early | late := List.mem_append.1 among
    · cases free leading early
    · obtain same | late := List.mem_cons.1 late
      · cases congrArg mask same
      · exact (List.singleton_sublist.2 late).cons_cons whole |>.trans (List.sublist_append_right ..)
  · cases clear

/-- The orders of the groups that decode as the table does are those that try the whole opcode before the
first digit. -/
theorem decode_reordered_iff (perm : groups.Perm table) :
    (∀ op, (Opcode.key? groups op).bind (Instr.ofKey? op) = decode op) ↔
      [whole, leading].Sublist groups := by
  constructor
  · intro same
    exact order_of_clearScreen perm (same 0x00E0)
  · intro order op
    rw [key?_reordered perm order op, decode]

end

end MaskGroup

/-! ## Transfers -/

/-- What decodes to a transfer of registers is one, so that a transfer fails for its span only. -/
theorem Machine.blockTransfer_expected {op : Opcode} {x : Fin 16}
    (decoded : decode op = some (.storeRegisters x) ∨ decode op = some (.loadRegisters x))
    (m : Machine) {f : Fault} (failed : (m.blockTransfer op).failure = some (.fault f)) :
    f.kind ≠ .unexpected := by
  obtain store | load := decoded
  · rw [Machine.blockTransfer_store (Instr.codes_of_decode store)] at failed
    split at failed
    · cases failed
      intro kind
      cases kind
    · cases failed
  · rw [Machine.blockTransfer_load (Instr.codes_of_decode load)] at failed
    split at failed
    · cases failed
      intro kind
      cases kind
    · unfold loadRegisters Outcome.attempted at failed
      split at failed <;> cases failed

/-! ## The table -/

/-- Decoding by masks is decoding digit by digit: it finds the instruction that the digits of an opcode say,
and none exactly where they say none; a key that is found is never missing among the instructions. The order
of the groups matters in one way: an order decodes as the table does exactly if it tries the whole opcode
before the first digit. And what decodes to a transfer of registers is one: it fails for its span only. -/
theorem decode_by_digits :
    (∀ op, decode op = Instr.ofDigits op) ∧
    (∀ op k, Opcode.key? table op = some k → ∃ i, Instr.ofKey? op k = some i ∧ decode op = some i) ∧
    (∀ groups, groups.Perm table →
      ((∀ op, (Opcode.key? groups op).bind (Instr.ofKey? op) = decode op) ↔
        [whole, leading].Sublist groups)) ∧
    (∀ op x, decode op = some (.storeRegisters x) ∨ decode op = some (.loadRegisters x) →
      ∀ (m : Machine) (f : Fault), (m.blockTransfer op).failure = some (.fault f) →
        f.kind ≠ .unexpected) := by
  refine ⟨decode_eq_ofDigits, ?_, ?_, ?_⟩
  · intro op k found
    obtain ⟨i, known⟩ := Option.isSome_iff_exists.1 (Instr.ofKey?_isSome found)
    refine ⟨i, known, ?_⟩
    rw [decode, found, Option.bind_some, known]
  · intro groups perm
    exact decode_reordered_iff perm
  · intro op x transfer m f failed
    exact Machine.blockTransfer_expected transfer m failed

/-- An order that differs in every place, a comparison that does not end in zero, and a transfer. -/
theorem decode_by_digits_shuffled :
    [ends, whole, leading, outer].Perm table ∧
    (∀ op, (Opcode.key? [ends, whole, leading, outer] op).bind (Instr.ofKey? op) = decode op) ∧
    decode 0x5AB0 = some (.skipSame 10 11) ∧ decode 0x5AB1 = none ∧
    Opcode.key? table 0xF355 = some 0xF055 ∧ decode 0xF355 = some (.storeRegisters 3) ∧
    ∀ (m : Machine) (f : Fault), (m.blockTransfer 0xF355).failure = some (.fault f) →
      f.kind ≠ .unexpected := by
  obtain ⟨digits, keys, order, transfer⟩ := decode_by_digits
  have shuffled : [ends, whole, leading, outer].Perm table := by
    refine (List.Perm.swap whole ends [leading, outer]).trans (.cons whole ?_)
    exact @List.perm_append_comm _ [ends, leading] [outer]
  have key : Opcode.key? table 0xF355 = some 0xF055 := by rfl
  have store : decode 0xF355 = some (.storeRegisters 3) := by
    obtain ⟨i, known, decoded⟩ := keys _ _ key
    cases known
    exact decoded
  refine ⟨shuffled, (order _ shuffled).2 ?_, digits _, digits _, key, store,
    transfer _ _ (.inl store)⟩
  exact (List.sublist_append_left [whole, leading] [outer]).cons ends

end ChipEight
