import ChipEight.Proofs.Bounds

/-!
# Transfers between registers and memory

Three opcodes move values between the registers and the bytes from the index on. `Machine.Stored`,
`Machine.Loaded` and `Machine.Spelled` say what a machine becomes by each of them: which bytes or
registers are set, and that nothing else changes. A store and a load undo each other as far as both go
(`Stored.value_loaded`, `Loaded.memory_stored`), and the digits of a register can be loaded back
(`Spelled.digits_loaded`). A span that reaches beyond memory comes to a fault before anything is moved
(`Machine.transfers`).

Programs keep the index from being negative. A host can make it so, and a load may bring fewer bytes than
registers then (`Machine.transfers_astray`).
-/

namespace ChipEight

namespace Machine

/-! ## What the opcodes make of a machine -/

/-- What a machine becomes when its registers up to `x` are stored at the index. -/
structure Stored (m : Machine) (x : Fin 16) (m' : Machine) : Prop where
  bytes : ∀ y ≤ x, m'.memory.byte (m.index.toNat + y.val) = m.value y
  outside : ∀ a : Nat, ¬(m.index ≤ a ∧ a ≤ m.index + x.val) → m'.memory.byte a = m.memory.byte a
  /-- Memory is what an assignment of the registers to the slice gives, which is just as long. -/
  spliced : m'.memory.bytes.toList =
    splice m.memory.bytes.toList m.index.toNat (m.index.toNat + (x.val + 1))
      (m.registers.first (x.val + 1))
  others : m' =
    { m with opcode := m'.opcode, memory := { m.memory with bytes := m'.memory.bytes } }

/-- What a machine becomes when its registers up to `x` are loaded from the index. -/
structure Loaded (m : Machine) (x : Fin 16) (m' : Machine) : Prop where
  values : ∀ y ≤ x, m'.value y = m.memory.byte (m.index.toNat + y.val)
  kept : ∀ y, x < y → m'.value y = m.value y
  full : m'.registers.IsFull
  others : m' = { m with opcode := m'.opcode, registers := m'.registers }

/-- What a machine becomes when the decimal digits of a register are stored at the index. -/
structure Spelled (m : Machine) (x : Fin 16) (m' : Machine) : Prop where
  hundreds : m'.memory.byte m.index.toNat = m.value x / 100
  tens : m'.memory.byte (m.index.toNat + 1) = m.value x / 10 % 10
  ones : m'.memory.byte (m.index.toNat + 2) = m.value x % 10
  outside : ∀ a : Nat, ¬(m.index ≤ a ∧ a ≤ m.index + 2) → m'.memory.byte a = m.memory.byte a
  others : m' =
    { m with opcode := m'.opcode, memory := { m.memory with bytes := m'.memory.bytes } }

variable {m m' m'' : Machine} {x z : Fin 16}

theorem Stored.index_eq (stored : m.Stored x m') : m'.index = m.index := by
  rw [stored.others]

theorem Stored.platform_eq (stored : m.Stored x m') :
    m'.memory.platform = m.memory.platform := by
  rw [stored.others]

theorem Loaded.index_eq (loaded : m.Loaded x m') : m'.index = m.index := by
  rw [loaded.others]

theorem Loaded.memory_eq (loaded : m.Loaded x m') : m'.memory = m.memory := by
  rw [loaded.others]

theorem Spelled.index_eq (spelled : m.Spelled x m') : m'.index = m.index := by
  rw [spelled.others]

theorem Spelled.registers_eq (spelled : m.Spelled x m') : m'.registers = m.registers := by
  rw [spelled.others]

/-! ## One after another -/

/-- Registers that were stored are loaded back, whatever the registers hold by then. -/
theorem Stored.value_loaded (stored : m.Stored x m') {registers : Registers} (below : z ≤ x)
    (loaded : { m' with registers }.Loaded z m'') : ∀ y ≤ z, m''.value y = m.value y := by
  intro y within
  have start : { m' with registers }.index = m.index := stored.index_eq
  have value := loaded.values y within
  rw [start] at value
  exact value.trans (stored.bytes y (Fin.le_trans within below))

/-- Storing registers that were just loaded from the same place changes no byte. -/
theorem Loaded.memory_stored (loaded : m.Loaded x m') (stored : m'.Stored x m'')
    (positive : 0 ≤ m.index) : m''.memory = m.memory := by
  have platform : m''.memory.platform = m.memory.platform := by
    rw [stored.platform_eq, loaded.memory_eq]
  refine Memory.ext_byte platform fun a _ => ?_
  by_cases within : m.index ≤ a ∧ a ≤ m.index + x.val
  · -- The byte is one of those that a register was loaded from, and the same register is stored there.
    have register : a - m.index.toNat < 16 := by omega
    have below : (⟨a - m.index.toNat, register⟩ : Fin 16) ≤ x := by
      show a - m.index.toNat ≤ x.val
      omega
    have place : m.index.toNat + (a - m.index.toNat) = a := by omega
    have byte := stored.bytes _ below
    rw [loaded.index_eq, loaded.values _ below] at byte
    simpa only [place] using byte
  · rw [← loaded.index_eq] at within
    rw [stored.outside a within, loaded.memory_eq]

/-- The digits of a value make up the value. -/
theorem digits_eq (v : UInt8) :
    v / 100 ≤ 9 ∧ v / 10 % 10 ≤ 9 ∧ v % 10 ≤ 9 ∧
      100 * (v / 100).toNat + 10 * (v / 10 % 10).toNat + (v % 10).toNat = v.toNat := by
  have := v.toNat_lt
  simp only [UInt8.le_iff_toNat_le, UInt8.toNat_div, UInt8.toNat_mod]
  have hundred : (100 : UInt8).toNat = 100 := rfl
  have ten : (10 : UInt8).toNat = 10 := rfl
  have nine : (9 : UInt8).toNat = 9 := rfl
  rw [hundred, ten, nine]
  omega

/-- The digits of a register that were stored are loaded into the first three registers. -/
theorem Spelled.digits_loaded (spelled : m.Spelled x m') (loaded : m'.Loaded 2 m'') :
    m''.value 0 ≤ 9 ∧ m''.value 1 ≤ 9 ∧ m''.value 2 ≤ 9 ∧
      100 * (m''.value 0).toNat + 10 * (m''.value 1).toNat + (m''.value 2).toNat =
        (m.value x).toNat := by
  have value (y : Fin 16) (within : y ≤ 2) :
      m''.value y = m'.memory.byte (m.index.toNat + y.val) := by
    rw [loaded.values y within, spelled.index_eq]
  have hundreds : m''.value 0 = m.value x / 100 := (value 0 (by decide)).trans spelled.hundreds
  have tens : m''.value 1 = m.value x / 10 % 10 := (value 1 (by decide)).trans spelled.tens
  have ones : m''.value 2 = m.value x % 10 := (value 2 (by decide)).trans spelled.ones
  rw [hundreds, tens, ones]
  exact digits_eq (m.value x)

/-! ## Opcodes whose span fits -/

/-- An opcode whose instruction comes to no fault has the effect of the instruction. -/
theorem executed_of_codes (h : m.Sound) {op : Opcode} {i : Instr} (codes : i.Codes op.toNat)
    (sound : i.fault? (m.noted op) = none) (random : List UInt8) :
    (m.execute op random).failure = none ∧
      (m.execute op random).machine = i.effect (m.noted op) (random.headD 0) := by
  have decoded : decode op = some i := decode_eq_some_iff.2 codes
  rw [execute_eq h, decoded]
  simp only [sound, and_self]

/-- Storing registers that fit sets their bytes and no others. -/
theorem stored_effect (h : m.Sound) (fits : m.index + x.val < 4096) (op : Opcode) (random : UInt8) :
    m.Stored x ((Instr.storeRegisters x).effect (m.noted op) random) := by
  have noted : (m.noted op).Sound := h.noted op
  have h0 := h.index
  have size : (m.registers.first (x.val + 1)).toArray.size = x.val + 1 := by
    rw [List.size_toArray, h.registers.length_first]
  have memory : ((m.noted op).storeRegisters x).memory =
      m.memory.overlay m.index.toNat (m.registers.first (x.val + 1)).toArray := by
    rw [noted.storeRegisters_eq]
    rfl
  constructor
  case bytes =>
    intro y below
    have place : m.index.toNat + y.val - m.index.toNat = y.val := by omega
    have present := h.registers.lt_length y
    show ((m.noted op).storeRegisters x).memory.byte _ = m.registers.value y
    rw [memory, Memory.byte_overlay, dif_pos (by omega)]
    simp only [place, Registers.first, List.getElem_toArray, List.getElem_take, Registers.value,
      List.getElem?_eq_getElem present, Option.getD_some]
  case outside =>
    intro a outside
    show ((m.noted op).storeRegisters x).memory.byte _ = _
    rw [memory, Memory.byte_overlay, dif_neg (by omega)]
  case spliced => exact noted.storeRegisters_eq_splice fits
  case others => rfl

/-- Loading registers sets them and no others. -/
theorem loaded_effect (h : m.Sound) (x : Fin 16) (op : Opcode) (random : UInt8) :
    m.Loaded x ((Instr.loadRegisters x).effect (m.noted op) random) := by
  have count : (m.memory.span m.index.toNat (x.val + 1)).length = x.val + 1 := by
    rw [Memory.span, List.length_map, List.length_range]
  have value (y : Fin 16) :
      ((Instr.loadRegisters x).effect (m.noted op) random).value y =
        if y.val < x.val + 1 then (m.memory.span m.index.toNat (x.val + 1))[y.val]?.getD 0
        else m.value y :=
    Registers.value_replaceFirst count y
  constructor
  case values =>
    intro y below
    have within : y.val < x.val + 1 := Nat.lt_succ_of_le below
    rw [value, if_pos within, Memory.getElem?_span, if_pos within, Option.getD_some]
  case kept =>
    intro y above
    have beyond : ¬y.val < x.val + 1 := Nat.not_lt.2 above
    rw [value, if_neg beyond]
  case full => exact h.registers.replaceFirst count x.isLt
  case others => rfl

/-- Storing the digits of a register sets their three bytes and no others. -/
theorem spelled_effect (h : m.Sound) (fits : m.index + 2 < 4096) (x : Fin 16) (op : Opcode)
    (random : UInt8) : m.Spelled x ((Instr.storeDigits x).effect (m.noted op) random) := by
  have h0 := h.index
  have size : #[m.value x / 100, m.value x / 10 % 10, m.value x % 10].size = 3 := rfl
  have memory : ((Instr.storeDigits x).effect (m.noted op) random).memory =
      m.memory.overlay m.index.toNat #[m.value x / 100, m.value x / 10 % 10, m.value x % 10] := rfl
  have stored (k : Nat) (inside : k < 3) :
      ((Instr.storeDigits x).effect (m.noted op) random).memory.byte (m.index.toNat + k) =
        #[m.value x / 100, m.value x / 10 % 10, m.value x % 10][k] := by
    rw [memory, Memory.byte_overlay, dif_pos (by omega)]
    simp only [Nat.add_sub_cancel_left]
  constructor
  case hundreds => exact stored 0 (by omega)
  case tens => exact stored 1 (by omega)
  case ones => exact stored 2 (by omega)
  case outside =>
    intro a outside
    rw [memory, Memory.byte_overlay, dif_neg (by omega)]
  case others => rfl

theorem execute_store (h : m.Sound) (fits : m.index + x.val < 4096) {op : Opcode}
    (code : op.toNat = 0xF055 + 0x100 * x.val) (random : List UInt8) :
    (m.execute op random).failure = none ∧ m.Stored x (m.execute op random).machine := by
  have sound : (Instr.storeRegisters x).fault? (m.noted op) = none := if_neg (Int.not_le.2 fits)
  obtain ⟨ok, machine⟩ :=
    executed_of_codes h (i := .storeRegisters x) code sound random
  rw [machine]
  exact ⟨ok, stored_effect h fits op _⟩

theorem execute_load (h : m.Sound) (fits : m.index + x.val < 4096) {op : Opcode}
    (code : op.toNat = 0xF065 + 0x100 * x.val) (random : List UInt8) :
    (m.execute op random).failure = none ∧ m.Loaded x (m.execute op random).machine := by
  have sound : (Instr.loadRegisters x).fault? (m.noted op) = none := if_neg (Int.not_le.2 fits)
  obtain ⟨ok, machine⟩ :=
    executed_of_codes h (i := .loadRegisters x) code sound random
  rw [machine]
  exact ⟨ok, loaded_effect h x op _⟩

theorem execute_digits (h : m.Sound) (fits : m.index + 2 < 4096) {op : Opcode}
    (code : op.toNat = 0xF033 + 0x100 * x.val) (random : List UInt8) :
    (m.execute op random).failure = none ∧ m.Spelled x (m.execute op random).machine := by
  have sound : (Instr.storeDigits x).fault? (m.noted op) = none := if_neg (Int.not_le.2 fits)
  obtain ⟨ok, machine⟩ :=
    executed_of_codes h (i := .storeDigits x) code sound random
  rw [machine]
  exact ⟨ok, spelled_effect h fits x op _⟩

/-! ## Spans beyond memory -/

/-- A transfer beyond memory gives a warning and comes to a fault, whichever way it would go. -/
theorem execute_transfer_beyond {op : Opcode}
    (code : op.toNat = 0xF055 + 0x100 * x.val ∨ op.toNat = 0xF065 + 0x100 * x.val)
    (beyond : 4096 ≤ m.index + x.val) (random : List UInt8) :
    m.execute op random =
      ⟨{ m with opcode := op }, random,
        [.transferBeyondMemory op m.index (m.index + x.val)],
        some (.fault (.registersSpan x m.index))⟩ := by
  rcases code with store | load
  · have decoded : decode op = some (.storeRegisters x) := decode_eq_some_iff.2 store
    simp only [execute, decoded, Instr.run, blockTransfer_store store, if_pos beyond]
    rfl
  · have decoded : decode op = some (.loadRegisters x) := decode_eq_some_iff.2 load
    simp only [execute, decoded, Instr.run, blockTransfer_load load, if_pos beyond]
    rfl

/-- So do digits, without a warning. -/
theorem execute_digits_beyond {op : Opcode} (code : op.toNat = 0xF033 + 0x100 * x.val)
    (beyond : 4096 ≤ m.index + 2) (random : List UInt8) :
    m.execute op random =
      ⟨{ m with opcode := op }, random, [], some (.fault (.digitsSpan x m.index))⟩ := by
  have decoded : decode op = some (.storeDigits x) := decode_eq_some_iff.2 code
  have refused : ({ m with opcode := op } : Machine).storeDigits x =
      .faulted { m with opcode := op } (.digitsSpan x m.index) := by
    simp only [storeDigits, if_pos beyond]
  simp only [execute, decoded, Instr.run, refused]
  rfl

/-! ## All transfers -/

/-- Transfers between the registers and memory, in every machine that has all its registers.

A store and a load of the registers up to `x` whose span lies in memory do what `Stored` and `Loaded`
say. If the registers are changed after a store, a load up to `z ≤ x` brings these registers back and
leaves those beyond them as they were changed; and a store right after a load changes no byte of memory.
The digits of a register, stored and loaded, are three registers from zero to nine which make up the
value. A span that reaches beyond memory comes to a fault, and nothing but the opcode changes. -/
theorem transfers (full : m.registers.IsFull) :
    (∀ (x : Fin 16) (store load : Opcode), store.toNat = 0xF055 + 0x100 * x.val →
      load.toNat = 0xF065 + 0x100 * x.val → 0 ≤ m.index → m.index + x.val < 4096 →
      ∀ random random' : List UInt8,
        let stored := m.execute store random
        let loaded := m.execute load random
        (stored.failure = none ∧ m.Stored x stored.machine) ∧
          (loaded.failure = none ∧ m.Loaded x loaded.machine) ∧
          (∀ z ≤ x, ∀ again : Opcode, again.toNat = 0xF065 + 0x100 * z.val →
            ∀ registers : Registers, registers.IsFull →
              let m' := { stored.machine with registers }
              let e := m'.execute again random'
              e.failure = none ∧ m'.Loaded z e.machine ∧
                ∀ y, e.machine.value y = if y ≤ z then m.value y else registers.value y) ∧
          let e := loaded.machine.execute store random'
          e.failure = none ∧ loaded.machine.Stored x e.machine ∧ e.machine.memory = m.memory) ∧
      (∀ (x : Fin 16) (digits load : Opcode), digits.toNat = 0xF033 + 0x100 * x.val →
        load.toNat = 0xF265 → 0 ≤ m.index → m.index + 2 < 4096 → ∀ random random' : List UInt8,
          let spelled := m.execute digits random
          let e := spelled.machine.execute load random'
          (spelled.failure = none ∧ m.Spelled x spelled.machine) ∧
            (e.failure = none ∧ spelled.machine.Loaded 2 e.machine) ∧
            e.machine.value 0 ≤ 9 ∧ e.machine.value 1 ≤ 9 ∧ e.machine.value 2 ≤ 9 ∧
            100 * (e.machine.value 0).toNat + 10 * (e.machine.value 1).toNat +
              (e.machine.value 2).toNat = (m.value x).toNat) ∧
      ∀ (x : Fin 16) (op : Opcode) (random : List UInt8),
        (op.toNat = 0xF033 + 0x100 * x.val ∧ 4096 ≤ m.index + 2) ∨
            ((op.toNat = 0xF055 + 0x100 * x.val ∨ op.toNat = 0xF065 + 0x100 * x.val) ∧
              4096 ≤ m.index + x.val) →
          let e := m.execute op random
          e.machine = { m with opcode := op } ∧
            ∃ f : Fault, f.kind = .segmentation ∧ e.failure = some (.fault f) := by
  refine ⟨?_, ?_, ?_⟩
  · intro x store load storeCode loadCode positive fits random random' stored loaded
    have h : m.Sound := ⟨full, positive⟩
    obtain ⟨storeOk, stores⟩ := execute_store h fits storeCode random
    obtain ⟨loadOk, loads⟩ := execute_load h fits loadCode random
    refine ⟨⟨storeOk, stores⟩, ⟨loadOk, loads⟩, ?_, ?_⟩
    · intro z below again againCode registers others m' e
      have start : m'.index = m.index := stores.index_eq
      have sound : m'.Sound := ⟨others, start ▸ positive⟩
      have below' : z.val ≤ x.val := below
      obtain ⟨ok, reloads⟩ := execute_load sound (by omega) againCode random'
      refine ⟨ok, reloads, ?_⟩
      intro y
      split
      · next within => exact stores.value_loaded below reloads y within
      · next beyond => exact reloads.kept y (Fin.not_le.1 beyond)
    · intro e
      have start : loaded.machine.index = m.index := loads.index_eq
      have sound : loaded.machine.Sound := ⟨loads.full, start ▸ positive⟩
      obtain ⟨ok, restores⟩ := execute_store sound (by omega) storeCode random'
      exact ⟨ok, restores, loads.memory_stored restores positive⟩
  · intro x digits load digitsCode loadCode positive fits random random' spelled e
    have h : m.Sound := ⟨full, positive⟩
    have two : (2 : Fin 16).val = 2 := rfl
    obtain ⟨digitsOk, spells⟩ := execute_digits h fits digitsCode random
    have start : spelled.machine.index = m.index := spells.index_eq
    have sound : spelled.machine.Sound := ⟨spells.registers_eq ▸ full, start ▸ positive⟩
    obtain ⟨loadOk, loads⟩ := execute_load sound (x := 2) (by omega) loadCode random'
    exact ⟨⟨digitsOk, spells⟩, ⟨loadOk, loads⟩, spells.digits_loaded loads⟩
  · rintro x op random (⟨code, beyond⟩ | ⟨code, beyond⟩)
    · rw [execute_digits_beyond code beyond random]
      exact ⟨rfl, _, rfl, rfl⟩
    · rw [execute_transfer_beyond code beyond random]
      exact ⟨rfl, _, rfl, rfl⟩

/-- A new machine that has just as many bytes left from the index on as it has registers. -/
def brimming : Machine := { fresh .standard with index := 0xFF0 }

/-- All registers are stored up to the last byte, and loaded back when they were changed. -/
theorem transfers_brimming :
    brimming.registers.IsFull ∧ brimming.index + (15 : Fin 16).val = 4095 ∧
      ∀ registers : Registers, registers.IsFull →
        let stored := (brimming.execute 0xFF55 []).machine
        let e := { stored with registers }.execute 0xFF65 []
        e.failure = none ∧ ∀ y, e.machine.value y = brimming.value y := by
  have full : brimming.registers.IsFull := Registers.isFull_zeroed
  have positive : 0 ≤ brimming.index := by decide
  have fits : brimming.index + (15 : Fin 16).val < 4096 := by decide
  refine ⟨full, rfl, ?_⟩
  intro registers others stored e
  obtain ⟨-, -, back, -⟩ := (transfers full).1 15 0xFF55 0xFF65 rfl rfl positive fits [] []
  obtain ⟨ok, -, values⟩ := back 15 (Fin.le_refl _) 0xFF65 rfl registers others
  refine ⟨ok, fun y => ?_⟩
  have last : y ≤ 15 := Fin.le_last y
  rw [values y, if_pos last]

/-! ## Spans around the beginning of memory -/

/-- A new machine whose index was set to the place before the first byte, and a register to five. -/
def astray : Machine :=
  { fresh .standard with index := -1, registers := ⟨5 :: List.replicate 15 0⟩ }

/-- The machine when the digits of the register are stored, the first of them in the last byte. -/
def strayed (op : Opcode) : Machine :=
  { astray.noted op with
    memory := ((astray.memory.overlay 4095 #[0]).overlay 0 #[0]).overlay 1 #[5] }

theorem execute_astray : (astray.execute 0xF033 []).machine = strayed 0xF033 := by
  have put (i : Int) (k : Fin 4096) (place : Index.fromStart 4096 i = k.val) (m : Memory) (b : UInt8) :
      m.setByte i b = .ok (m.overlay k.val #[b]) :=
    m.setByte_of_resolve (Index.resolve_eq_some_iff.2 place) b
  have last (m : Memory) (b : UInt8) : m.setByte (-1) b = .ok (m.overlay 4095 #[b]) :=
    put (-1) (Fin.last 4095) rfl m b
  have first (m : Memory) (b : UInt8) : m.setByte 0 b = .ok (m.overlay 0 #[b]) := put 0 0 rfl m b
  have second (m : Memory) (b : UInt8) : m.setByte 1 b = .ok (m.overlay 1 #[b]) := put 1 1 rfl m b
  have inside : ¬4096 ≤ (astray.noted 0xF033).index + 2 := Int.not_le.2 (by decide)
  have value : (astray.noted 0xF033).register 0 = .ok 5 := rfl
  have index : (astray.noted 0xF033).index = -1 := rfl
  have stored : (astray.noted 0xF033).storeDigits 0 = .done (strayed 0xF033) := by
    rw [storeDigits, if_neg inside, value]
    simp only [bind, Except.bind, index, last, Int.reduceAdd, first, second]
    rfl
  have ran : (Instr.storeDigits 0).run (astray.noted 0xF033) 0 = .done (strayed 0xF033) := stored
  have decoded : decode 0xF033 = some (.storeDigits 0) := decode_eq_some_iff.2 rfl
  simp only [execute, decoded]
  exact congrArg Outcome.machine ran

/-- Loading from there brings no bytes, so that the registers behind the first three take their place. -/
theorem execute_strayed :
    ((strayed 0xF033).execute 0xF265 []).machine.registers = ⟨List.replicate 13 0⟩ := by
  have none : Slice.positions ⟨some (-1), some 2, none⟩ 4096 = some [] := rfl
  have bytes : (strayed 0xF265).memory.slice ⟨some (-1), some 2, .none⟩ = .ok [] :=
    Memory.slice_of_positions _ none
  have loaded : (strayed 0xF265).loadRegisters 2 =
      .done { strayed 0xF265 with registers := ⟨List.replicate 13 0⟩ } := by
    show Outcome.attempted _ ((strayed 0xF265).memory.slice ⟨some (-1), some 2, .none⟩ >>= _) = _
    rw [bytes]
    rfl
  have ran : (Instr.loadRegisters 2).run (strayed 0xF265) 0 =
      .done { strayed 0xF265 with registers := ⟨List.replicate 13 0⟩ } := by
    have inside : ¬4096 ≤ (strayed 0xF265).index + (2 : Fin 16).val := Int.not_le.2 (by decide)
    rw [Instr.run]
    exact (blockTransfer_load rfl).trans ((if_neg inside).trans loaded)
  have decoded : decode 0xF265 = some (.loadRegisters 2) := decode_eq_some_iff.2 rfl
  simp only [execute, decoded]
  exact congrArg (·.machine.registers) ran

/-- So not all digits can be loaded back where the index is negative. -/
theorem transfers_astray :
    ¬∀ (m : Machine) (x : Fin 16) (digits load : Opcode) (random random' : List UInt8),
      m.registers.IsFull → digits.toNat = 0xF033 + 0x100 * x.val → load.toNat = 0xF265 →
        m.index + 2 < 4096 →
        let spelled := m.execute digits random
        let e := spelled.machine.execute load random'
        100 * (e.machine.value 0).toNat + 10 * (e.machine.value 1).toNat +
          (e.machine.value 2).toNat = (m.value x).toNat := by
  intro always
  have full : astray.registers.IsFull := rfl
  have sum := always astray 0 0xF033 0xF265 [] [] full rfl rfl (by decide)
  simp only [value, execute_astray, execute_strayed] at sum
  -- the three registers hold zeros that were behind them before, and the register held five
  have zero : (0 : Nat) = 5 := sum
  cases zero

end Machine
end ChipEight
