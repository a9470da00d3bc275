import ChipEight.Decode
import Mathlib.Algebra.Group.Nat.Defs

/-!
# What decoding finds

The codes of every instruction, written out digit by digit (`Instr.Codes`), are exactly the opcodes
that decode to it (`decode_eq_some_iff`). The two sides are built differently: decoding tries four
groups of masks one after another, the codes are sums of a key and the operands. They meet in the
arithmetic of the masks (`Opcode.toNat_outer` and its companions), and in the fact that at most one
group knows an opcode, except that the group of the first digit also knows the two opcodes without
operands (`MaskGroup.key?_eq_some_iff`). Every key that is found has an instruction
(`Instr.ofKey?_isSome`).
-/

namespace ChipEight

/-! ## Masks as arithmetic -/

/-- Masking with `count` ones from bit `start` on keeps these bits where they are. -/
theorem and_ones (n start count : Nat) :
    n &&& (2 ^ count - 1) * 2 ^ start = n / 2 ^ start % 2 ^ count * 2 ^ start := by
  apply Nat.eq_of_testBit_eq
  intro i
  rw [Nat.testBit_and, Nat.testBit_mul_two_pow, Nat.testBit_mul_two_pow,
    Nat.testBit_two_pow_sub_one, Nat.testBit_mod_two_pow, Nat.testBit_div_two_pow]
  by_cases h : start ≤ i
  · simp [h, Bool.and_comm]
  · simp [h]

/-- A mask of two parts that do not overlap keeps the sum of what the parts keep. -/
theorem and_ones_add (n start count low : Nat) (h : low < 2 ^ start) :
    n &&& ((2 ^ count - 1) * 2 ^ start + low) =
      n / 2 ^ start % 2 ^ count * 2 ^ start + (n &&& low) := by
  have hl : n &&& low < 2 ^ start := Nat.lt_of_le_of_lt Nat.and_le_right h
  rw [Nat.mul_comm _ (2 ^ start), Nat.two_pow_add_eq_or_of_lt h, Nat.and_or_distrib_left,
    Nat.mul_comm (2 ^ start), and_ones, Nat.mul_comm _ (2 ^ start),
    Nat.two_pow_add_eq_or_of_lt hl]

namespace Opcode

/-- The mask of `MaskGroup.whole` keeps all four digits. -/
theorem toNat_whole (op : Opcode) : (op &&& 0xFFFF).toNat = op.toNat := by
  have mask : op.toNat &&& 0xFFFF = op.toNat / 1 % 65536 * 1 := and_ones op.toNat 0 16
  have := op.toNat_lt
  rw [UInt16.toNat_and, UInt16.toNat_ofNat, mask]
  omega

/-- The mask of `MaskGroup.leading` keeps the first digit. -/
theorem toNat_leading (op : Opcode) : (op &&& 0xF000).toNat = op.toNat / 4096 * 4096 := by
  have mask : op.toNat &&& 0xF000 = op.toNat / 4096 % 16 * 4096 := and_ones op.toNat 12 4
  have := op.toNat_lt
  rw [UInt16.toNat_and, UInt16.toNat_ofNat, mask]
  omega

/-- The mask of `MaskGroup.ends` keeps the first and the last digit. -/
theorem toNat_ends (op : Opcode) :
    (op &&& 0xF00F).toNat = op.toNat / 4096 * 4096 + op.toNat % 16 := by
  have high : op.toNat &&& 0xF00F = op.toNat / 4096 % 16 * 4096 + (op.toNat &&& 0xF) :=
    and_ones_add op.toNat 12 4 0xF (by decide)
  have low : op.toNat &&& 0xF = op.toNat / 1 % 16 * 1 := and_ones op.toNat 0 4
  have := op.toNat_lt
  rw [UInt16.toNat_and, UInt16.toNat_ofNat, high, low]
  omega

/-- The mask of `MaskGroup.outer` keeps all digits but the second. -/
theorem toNat_outer (op : Opcode) :
    (op &&& 0xF0FF).toNat = op.toNat / 4096 * 4096 + op.toNat % 256 := by
  have high : op.toNat &&& 0xF0FF = op.toNat / 4096 % 16 * 4096 + (op.toNat &&& 0xFF) :=
    and_ones_add op.toNat 12 4 0xFF (by decide)
  have low : op.toNat &&& 0xFF = op.toNat / 1 % 256 * 1 := and_ones op.toNat 0 8
  have := op.toNat_lt
  rw [UInt16.toNat_and, UInt16.toNat_ofNat, high, low]
  omega

theorem toNat_byte (op : Opcode) : (byte op).toNat = op.toNat % 256 := by
  simp [byte]

/-! Operands, by their place in an opcode. -/

theorem x_eq {op : Opcode} {d : Fin 16} (h : op.toNat / 256 % 16 = d.val) : x op = d := Fin.ext h

theorem y_eq {op : Opcode} {d : Fin 16} (h : op.toNat / 16 % 16 = d.val) : y op = d := Fin.ext h

theorem n_eq {op : Opcode} {d : Fin 16} (h : op.toNat % 16 = d.val) : n op = d := Fin.ext h

theorem address_eq {op : Opcode} {a : Fin 4096} (h : op.toNat % 4096 = a.val) : address op = a :=
  Fin.ext h

theorem byte_eq {op : Opcode} {v : UInt8} (h : op.toNat % 256 = v.toNat) : byte op = v := by
  rw [← UInt8.toNat_inj, toNat_byte, h]

/-- The number of an opcode is that of its two bytes, the higher one first. -/
theorem toNat_ofBytes (high low : UInt8) :
    (ofBytes high low).toNat = 0x100 * high.toNat + low.toNat := by
  have := high.toNat_lt
  have hl := low.toNat_lt
  rw [ofBytes, UInt16.toNat_or, UInt16.toNat_shiftLeft, UInt8.toNat_toUInt16,
    UInt8.toNat_toUInt16]
  show high.toNat <<< 8 % 2 ^ 16 ||| low.toNat = _
  rw [Nat.shiftLeft_eq, Nat.mod_eq_of_lt (by omega), Nat.mul_comm,
    ← Nat.two_pow_add_eq_or_of_lt hl]

end Opcode

/-! ## Groups of masks -/

namespace MaskGroup

/-- Whether a group has a key for an opcode. -/
def Knows (g : MaskGroup) (op : Opcode) : Prop := op &&& g.mask ∈ g.keys

theorem find?_eq_some_iff {g : MaskGroup} {op k : Opcode} :
    g.find? op = some k ↔ g.Knows op ∧ op &&& g.mask = k := by
  simp only [find?, Knows, Option.ite_none_right_eq_some, Option.some.injEq]

theorem find?_eq_none_iff {g : MaskGroup} {op : Opcode} : g.find? op = none ↔ ¬ g.Knows op := by
  simp only [find?, Knows, ite_eq_right_iff, reduceCtorEq, imp_false]

theorem knows_whole {op : Opcode} :
    whole.Knows op ↔ op.toNat = 0x00E0 ∨ op.toNat = 0x00EE := by
  simp only [Knows, whole, List.mem_cons, List.not_mem_nil, or_false, ← UInt16.toNat_inj,
    Opcode.toNat_whole, UInt16.reduceToNat]

/-- The group `outer` knows opcodes with the first digits `E` and `F` only. -/
theorem digit_of_knows_outer {op : Opcode} (h : outer.Knows op) : 14 ≤ op.toNat / 4096 := by
  simp only [Knows, outer, List.mem_cons, List.not_mem_nil, or_false, ← UInt16.toNat_inj,
    Opcode.toNat_outer, UInt16.reduceToNat] at h
  omega

/-- The group `ends` knows opcodes with the first digits `5`, `8` and `9` only. -/
theorem digit_of_knows_ends {op : Opcode} (h : ends.Knows op) :
    op.toNat / 4096 = 5 ∨ op.toNat / 4096 = 8 ∨ op.toNat / 4096 = 9 := by
  simp only [Knows, ends, List.mem_cons, List.not_mem_nil, or_false, ← UInt16.toNat_inj,
    Opcode.toNat_ends, UInt16.reduceToNat] at h
  omega

/-- The group `leading` knows opcodes with the other first digits only. -/
theorem digit_of_knows_leading {op : Opcode} (h : leading.Knows op) :
    op.toNat / 4096 < 5 ∨ op.toNat / 4096 = 6 ∨ op.toNat / 4096 = 7 ∨
      10 ≤ op.toNat / 4096 ∧ op.toNat / 4096 < 14 := by
  simp only [Knows, leading, List.mem_cons, List.not_mem_nil, or_false, ← UInt16.toNat_inj,
    Opcode.toNat_leading, UInt16.reduceToNat] at h
  omega

/-- A key is found in the one group that knows the opcode. Of the groups that are tried earlier, only
`whole` can take an opcode away from a later one. -/
theorem key?_eq_some_iff {op k : Opcode} :
    Opcode.key? table op = some k ↔
      whole.Knows op ∧ op &&& whole.mask = k ∨
      outer.Knows op ∧ op &&& outer.mask = k ∨
      ends.Knows op ∧ op &&& ends.mask = k ∨
      (¬ whole.Knows op ∧ leading.Knows op) ∧ op &&& leading.mask = k := by
  have first : Opcode.key? table op =
      (whole.find? op).or ((outer.find? op).or ((ends.find? op).or (leading.find? op))) := by
    simp only [Opcode.key?, table, List.findSome?_cons, List.findSome?_nil]
    cases whole.find? op <;> cases outer.find? op <;> cases ends.find? op <;>
      cases leading.find? op <;> rfl
  simp only [first, Option.or_eq_some_iff, find?_eq_some_iff, find?_eq_none_iff]
  constructor
  · rintro (h | ⟨hw, h | ⟨-, h | ⟨-, h⟩⟩⟩)
    · exact .inl h
    · exact .inr (.inl h)
    · exact .inr (.inr (.inl h))
    · exact .inr (.inr (.inr ⟨⟨hw, h.1⟩, h.2⟩))
  -- the first digit tells that the groups before the right one do not know the opcode
  · rintro (h | h | h | ⟨⟨hw, hl⟩, h⟩)
    · exact .inl h
    · have digit := digit_of_knows_outer h.1
      refine .inr ⟨fun hw => ?_, .inl h⟩
      have := knows_whole.1 hw
      omega
    · have digit := digit_of_knows_ends h.1
      refine .inr ⟨fun hw => ?_, .inr ⟨fun ho => ?_, .inl h⟩⟩
      · have := knows_whole.1 hw
        omega
      · have := digit_of_knows_outer ho
        omega
    · have digit := digit_of_knows_leading hl
      refine .inr ⟨hw, .inr ⟨fun ho => ?_, .inr ⟨fun he => ?_, hl, h⟩⟩⟩
      · have := digit_of_knows_outer ho
        omega
      · have := digit_of_knows_ends he
        omega

/-- The value of an opcode under a mask, from its value as a number. -/
theorem and_mask_eq {g : MaskGroup} {op : Opcode} {k : Nat} (h : (op &&& g.mask).toNat = k) :
    op &&& g.mask = UInt16.ofNat k := by
  rw [← h, UInt16.ofNat_toNat]

end MaskGroup

open MaskGroup

namespace Instr

/-! ## Codes of instructions -/

/-- Whether a number is a code of an instruction. The third digit of a shift can be any. -/
def Codes (n : Nat) : Instr → Prop
  | machineCode a => n = 0x0000 + a.val ∧ n ≠ 0x00E0 ∧ n ≠ 0x00EE
  | clearScreen => n = 0x00E0
  | ret => n = 0x00EE
  | jump a => n = 0x1000 + a.val
  | call a => n = 0x2000 + a.val
  | skipEqual x v => n = 0x3000 + 0x100 * x.val + v.toNat
  | skipUnequal x v => n = 0x4000 + 0x100 * x.val + v.toNat
  | skipSame x y => n = 0x5000 + 0x100 * x.val + 0x10 * y.val
  | load x v => n = 0x6000 + 0x100 * x.val + v.toNat
  | addValue x v => n = 0x7000 + 0x100 * x.val + v.toNat
  | copy x y => n = 0x8000 + 0x100 * x.val + 0x10 * y.val
  | or x y => n = 0x8001 + 0x100 * x.val + 0x10 * y.val
  | and x y => n = 0x8002 + 0x100 * x.val + 0x10 * y.val
  | xor x y => n = 0x8003 + 0x100 * x.val + 0x10 * y.val
  | add x y => n = 0x8004 + 0x100 * x.val + 0x10 * y.val
  | sub x y => n = 0x8005 + 0x100 * x.val + 0x10 * y.val
  | shiftRight x => n = 0x8006 + 0x100 * x.val + 0x10 * (n / 0x10 % 0x10)
  | subFrom x y => n = 0x8007 + 0x100 * x.val + 0x10 * y.val
  | shiftLeft x => n = 0x800E + 0x100 * x.val + 0x10 * (n / 0x10 % 0x10)
  | skipDifferent x y => n = 0x9000 + 0x100 * x.val + 0x10 * y.val
  | setIndex a => n = 0xA000 + a.val
  | jumpOffset a => n = 0xB000 + a.val
  | random x mask => n = 0xC000 + 0x100 * x.val + mask.toNat
  | draw x y height => n = 0xD000 + 0x100 * x.val + 0x10 * y.val + height.val
  | skipPressed x => n = 0xE09E + 0x100 * x.val
  | skipReleased x => n = 0xE0A1 + 0x100 * x.val
  | readDelay x => n = 0xF007 + 0x100 * x.val
  | awaitKey x => n = 0xF00A + 0x100 * x.val
  | setDelay x => n = 0xF015 + 0x100 * x.val
  | setSound x => n = 0xF018 + 0x100 * x.val
  | addIndex x => n = 0xF01E + 0x100 * x.val
  | selectGlyph x => n = 0xF029 + 0x100 * x.val
  | storeDigits x => n = 0xF033 + 0x100 * x.val
  | storeRegisters x => n = 0xF055 + 0x100 * x.val
  | loadRegisters x => n = 0xF065 + 0x100 * x.val

section
variable {op : Opcode} {i : Instr}

/-! ## From the key to the code

One lemma for each group: the key that the group has found for an opcode, and the operands that were
taken from it, make up the opcode again.
-/

theorem codes_of_whole (hg : whole.Knows op) (hi : ofKey? op (op &&& whole.mask) = some i) :
    i.Codes op.toNat := by
  have hm := Opcode.toNat_whole op
  simp only [Knows, whole, List.mem_cons, List.not_mem_nil, or_false] at hg hi
  rcases hg with h | h <;>
  · rw [h] at hi hm
    cases hi
    exact hm.symm

theorem codes_of_outer (hg : outer.Knows op) (hi : ofKey? op (op &&& outer.mask) = some i) :
    i.Codes op.toNat := by
  have hn := op.toNat_lt
  have hm := Opcode.toNat_outer op
  simp only [Knows, outer, List.mem_cons, List.not_mem_nil, or_false] at hg hi
  rcases hg with h | h | h | h | h | h | h | h | h | h | h <;>
  · rw [h] at hi hm
    cases hi
    simp only [Codes, Opcode.x, UInt16.reduceToNat] at hm ⊢
    omega

theorem codes_of_ends (hg : ends.Knows op) (hi : ofKey? op (op &&& ends.mask) = some i) :
    i.Codes op.toNat := by
  have hn := op.toNat_lt
  have hm := Opcode.toNat_ends op
  simp only [Knows, ends, List.mem_cons, List.not_mem_nil, or_false] at hg hi
  rcases hg with h | h | h | h | h | h | h | h | h | h | h <;>
  · rw [h] at hi hm
    cases hi
    simp only [Codes, Opcode.x, Opcode.y, UInt16.reduceToNat] at hm ⊢
    omega

theorem codes_of_leading (hw : ¬ whole.Knows op) (hg : leading.Knows op)
    (hi : ofKey? op (op &&& leading.mask) = some i) : i.Codes op.toNat := by
  have hn := op.toNat_lt
  have hm := Opcode.toNat_leading op
  rw [knows_whole] at hw
  simp only [Knows, leading, List.mem_cons, List.not_mem_nil, or_false] at hg hi
  rcases hg with h | h | h | h | h | h | h | h | h | h | h <;>
  · rw [h] at hi hm
    cases hi
    simp only [Codes, Opcode.x, Opcode.y, Opcode.n, Opcode.address, Opcode.toNat_byte,
      UInt16.reduceToNat] at hm ⊢
    omega

/-- An opcode that decodes to an instruction is one of its codes. -/
theorem codes_of_decode (h : decode op = some i) : i.Codes op.toNat := by
  obtain ⟨k, hk, hi⟩ := Option.bind_eq_some_iff.1 h
  rcases key?_eq_some_iff.1 hk with ⟨hg, rfl⟩ | ⟨hg, rfl⟩ | ⟨hg, rfl⟩ | ⟨⟨hw, hg⟩, rfl⟩
  · exact codes_of_whole hg hi
  · exact codes_of_outer hg hi
  · exact codes_of_ends hg hi
  · exact codes_of_leading hw hg hi

end

/-! ## From the code to the key

One lemma for each way in which operands follow a key `k`. `f` is the instruction that waits for its
operands.
-/

section
variable {op : Opcode} {k : Nat}

/-- Masking an opcode with one operand gives its key. -/
theorem and_outer_eq {x : Fin 16} (h : op.toNat = k + 0x100 * x.val) (hk : k / 0x100 % 0x10 = 0) :
    op &&& outer.mask = UInt16.ofNat k := by
  have hn := op.toNat_lt
  exact and_mask_eq ((Opcode.toNat_outer op).trans (by omega))

theorem decode_outer {x : Fin 16} {f : Fin 16 → Instr} (h : op.toNat = k + 0x100 * x.val)
    (hk : UInt16.ofNat k ∈ outer.keys ∧ k / 0x100 % 0x10 = 0)
    (hi : ∀ op, ofKey? op (UInt16.ofNat k) = some (f (Opcode.x op))) : decode op = some (f x) := by
  have hm := and_outer_eq h hk.2
  have knows : outer.Knows op := by
    rw [Knows, hm]
    exact hk.1
  rw [decode, key?_eq_some_iff.2 (.inr (.inl ⟨knows, hm⟩)), Option.bind_some, hi,
    Opcode.x_eq (d := x) (by omega)]

theorem decode_ends {x y : Fin 16} {f : Fin 16 → Fin 16 → Instr}
    (h : op.toNat = k + 0x100 * x.val + 0x10 * y.val)
    (hk : UInt16.ofNat k ∈ ends.keys ∧ k / 0x10 % 0x100 = 0)
    (hi : ∀ op, ofKey? op (UInt16.ofNat k) = some (f (Opcode.x op) (Opcode.y op))) :
    decode op = some (f x y) := by
  have hn := op.toNat_lt
  have hm : op &&& ends.mask = UInt16.ofNat k :=
    and_mask_eq ((Opcode.toNat_ends op).trans (by omega))
  have knows : ends.Knows op := by
    rw [Knows, hm]
    exact hk.1
  rw [decode, key?_eq_some_iff.2 (.inr (.inr (.inl ⟨knows, hm⟩))), Option.bind_some, hi,
    Opcode.x_eq (d := x) (by omega), Opcode.y_eq (d := y) (by omega)]

theorem decode_leading {r : Nat} (h : op.toNat = k + r) (hr : r < 0x1000)
    (hk : UInt16.ofNat k ∈ leading.keys ∧ k % 0x1000 = 0)
    (hw : op.toNat ≠ 0x00E0 ∧ op.toNat ≠ 0x00EE) :
    decode op = ofKey? op (UInt16.ofNat k) := by
  have hn := op.toNat_lt
  have hm : op &&& leading.mask = UInt16.ofNat k :=
    and_mask_eq ((Opcode.toNat_leading op).trans (by omega))
  have free : ¬ whole.Knows op := by
    rw [knows_whole]
    omega
  have knows : leading.Knows op := by
    rw [Knows, hm]
    exact hk.1
  rw [decode, key?_eq_some_iff.2 (.inr (.inr (.inr ⟨⟨free, knows⟩, hm⟩))), Option.bind_some]

theorem decode_address {a : Fin 4096} {f : Fin 4096 → Instr} (h : op.toNat = k + a.val)
    (hk : UInt16.ofNat k ∈ leading.keys ∧ k % 0x1000 = 0)
    (hw : op.toNat ≠ 0x00E0 ∧ op.toNat ≠ 0x00EE)
    (hi : ∀ op, ofKey? op (UInt16.ofNat k) = some (f (Opcode.address op))) :
    decode op = some (f a) := by
  rw [decode_leading h a.isLt hk hw, hi, Opcode.address_eq (a := a) (by omega)]

theorem decode_byte {x : Fin 16} {v : UInt8} {f : Fin 16 → UInt8 → Instr}
    (h : op.toNat = k + 0x100 * x.val + v.toNat)
    (hk : UInt16.ofNat k ∈ leading.keys ∧ k % 0x1000 = 0 ∧ 0x1000 ≤ k)
    (hi : ∀ op, ofKey? op (UInt16.ofNat k) = some (f (Opcode.x op) (Opcode.byte op))) :
    decode op = some (f x v) := by
  have hv := v.toNat_lt
  rw [decode_leading (h.trans (Nat.add_assoc ..)) (by omega) ⟨hk.1, hk.2.1⟩ (by omega), hi,
    Opcode.x_eq (d := x) (by omega), Opcode.byte_eq (v := v) (by omega)]

theorem decode_nibbles {x y n : Fin 16} {f : Fin 16 → Fin 16 → Fin 16 → Instr}
    (h : op.toNat = k + 0x100 * x.val + 0x10 * y.val + n.val)
    (hk : UInt16.ofNat k ∈ leading.keys ∧ k % 0x1000 = 0 ∧ 0x1000 ≤ k)
    (hi : ∀ op, ofKey? op (UInt16.ofNat k) = some (f (Opcode.x op) (Opcode.y op) (Opcode.n op))) :
    decode op = some (f x y n) := by
  have hr : op.toNat = k + (0x100 * x.val + 0x10 * y.val + n.val) := by omega
  rw [decode_leading hr (by omega) ⟨hk.1, hk.2.1⟩ (by omega), hi, Opcode.x_eq (d := x) (by omega),
    Opcode.y_eq (d := y) (by omega), Opcode.n_eq (d := n) (by omega)]

end

/-- Every code of an instruction decodes to it. -/
theorem decode_of_codes {op : Opcode} {i : Instr} (h : i.Codes op.toNat) : decode op = some i := by
  cases i with
  | clearScreen =>
    obtain rfl : op = 0x00E0 := UInt16.toNat_inj.1 h
    rfl
  | ret =>
    obtain rfl : op = 0x00EE := UInt16.toNat_inj.1 h
    rfl
  | machineCode a => exact decode_address h.1 (by decide) h.2 fun _ => rfl
  | jump a | call a | setIndex a | jumpOffset a =>
    simp only [Codes] at h
    exact decode_address h (by decide) (by omega) fun _ => rfl
  | skipEqual x v | skipUnequal x v | load x v | addValue x v | random x v =>
    exact decode_byte h (by decide) fun _ => rfl
  | skipSame x y | skipDifferent x y | copy x y | or x y | and x y | xor x y | add x y | sub x y
  | subFrom x y => exact decode_ends h (by decide) fun _ => rfl
  | shiftRight x =>
    exact decode_ends (y := Opcode.y op) (f := fun x _ => shiftRight x) h (by decide) fun _ => rfl
  | shiftLeft x =>
    exact decode_ends (y := Opcode.y op) (f := fun x _ => shiftLeft x) h (by decide) fun _ => rfl
  | draw x y n => exact decode_nibbles h (by decide) fun _ => rfl
  | skipPressed x | skipReleased x | readDelay x | awaitKey x | setDelay x | setSound x | addIndex x
  | selectGlyph x | storeDigits x | storeRegisters x | loadRegisters x =>
    exact decode_outer h (by decide) fun _ => rfl

end Instr

/-- Every key that is found has an instruction, so that an opcode without an instruction is one that
no group knows. -/
theorem Instr.ofKey?_isSome {op k : Opcode} (h : Opcode.key? table op = some k) :
    (Instr.ofKey? op k).isSome := by
  have all : ∀ g ∈ table, ∀ k ∈ g.keys, (Instr.ofKey? op k).isSome := by
    simp only [table, whole, outer, ends, leading, List.forall_mem_cons, List.not_mem_nil,
      false_implies, implies_true, and_true]
    exact ⟨⟨rfl, rfl⟩, ⟨rfl, rfl, rfl, rfl, rfl, rfl, rfl, rfl, rfl, rfl, rfl⟩,
      ⟨rfl, rfl, rfl, rfl, rfl, rfl, rfl, rfl, rfl, rfl, rfl⟩,
      ⟨rfl, rfl, rfl, rfl, rfl, rfl, rfl, rfl, rfl, rfl, rfl⟩⟩
  obtain ⟨g, hg, hk⟩ := List.exists_of_findSome?_eq_some h
  obtain ⟨knows, rfl⟩ := find?_eq_some_iff.1 hk
  exact all g hg _ knows

/-- The opcodes that decode to an instruction are its codes. -/
theorem decode_eq_some_iff {op : Opcode} {i : Instr} : decode op = some i ↔ i.Codes op.toNat :=
  ⟨Instr.codes_of_decode, Instr.decode_of_codes⟩

/-- An instruction is known by its code. -/
theorem Instr.eq_of_codes {op : Opcode} {i j : Instr} (decoded : decode op = some i)
    (codes : j.Codes op.toNat) : i = j :=
  Option.some.inj (decoded.symm.trans (decode_of_codes codes))

end ChipEight
