import ChipEight.Proofs.Bounds

/-!
# Where a program goes on

The program counter is moved when an opcode is fetched, and may be moved again by its instruction.
`Instr.next` is where it is after both, and `Machine.Continues` says the same opcode by opcode: jumps,
calls and returns have a target, a wait for a key stays where it is, a skip whose condition holds leaves
out one opcode, and everything else goes on with the next one. `Machine.Reachable.continues` says that
every cycle which does not fail goes on like this, and that of two skips with opposite conditions
exactly one is made.
-/

namespace ChipEight

namespace Instr

/-- Whether an instruction skips the one behind it. -/
def skips (m : Machine) : Instr → Bool
  | skipEqual x v => m.value x == v
  | skipUnequal x v => m.value x != v
  | skipSame x y => m.value x == m.value y
  | skipDifferent x y => m.value x != m.value y
  | skipPressed x => m.holdsPressed x
  | skipReleased x => !m.holdsPressed x
  | _ => false

/-- Whether an instruction is a skip, be its condition met or not. -/
def IsSkip : Instr → Prop
  | skipEqual .. | skipUnequal .. | skipSame .. | skipDifferent .. | skipPressed _
  | skipReleased _ => True
  | _ => False

/-- Where the program goes on after an instruction that takes effect. The program counter is already
past it. -/
def next (m : Machine) : Instr → Int
  | jump a | call a => a.val
  | jumpOffset a => ((a.val + (m.value Registers.offset).toNat) % 0x1000 : Nat)
  | ret => m.stack.top
  | awaitKey _ =>
    match m.keypad.first? with
    | none => m.pc - 2
    | some _ => m.pc
  | i => if i.skips m then m.pc + 2 else m.pc

variable {m : Machine}

theorem next_awaitKey (x : Fin 16) :
    (awaitKey x).next m =
      match m.keypad.first? with
      | none => m.pc - 2
      | some _ => m.pc :=
  rfl

theorem pc_effect (random : UInt8) (i : Instr) : (i.effect m random).pc = i.next m := by
  cases i with
  | skipEqual | skipUnequal | skipSame | skipDifferent | skipPressed | skipReleased =>
    simp only [effect, Machine.skipIf_eq]
    rfl
  | draw x y height =>
    simp only [effect]
    split <;> rfl
  | awaitKey x =>
    simp only [effect, next_awaitKey]
    cases m.keypad.first? <;> rfl
  | _ => rfl

theorem skips_fetched (op : Opcode) (i : Instr) : i.skips (m.fetched op) = i.skips m := by
  cases i <;> rfl

/-- A skip leaves out the opcode behind it if its condition is met. -/
theorem IsSkip.next_eq {i : Instr} (skip : i.IsSkip) :
    i.next m = if i.skips m then m.pc + 2 else m.pc := by
  cases i with
  | skipEqual | skipUnequal | skipSame | skipDifferent | skipPressed | skipReleased => rfl
  | _ => exact skip.elim

/-- No other instruction skips anything. -/
theorem isSkip_of_skips {i : Instr} (skips : i.skips m = true) : i.IsSkip := by
  cases i with
  | skipEqual | skipUnequal | skipSame | skipDifferent | skipPressed | skipReleased => trivial
  | _ => cases skips

end Instr

namespace Machine

/-- The number is the code of a jump, a call or a return. -/
def Diverts (n : Nat) : Prop :=
  n = 0x00EE ∨
    ∃ a : Fin 4096, n = 0x1000 + a.val ∨ n = 0x2000 + a.val ∨ n = 0xB000 + a.val

/-- The number is the code of a wait for a key, and no key is pressed. -/
def Awaits (m : Machine) (n : Nat) : Prop :=
  (∃ x : Fin 16, n = 0xF00A + 0x100 * x.val) ∧ ∀ key, m.keypad.isDown key = false

/-- The number is the code of a skip whose condition holds. -/
inductive Skips (m : Machine) (n : Nat) : Prop
  | equal {x : Fin 16} {v : UInt8} (code : n = 0x3000 + 0x100 * x.val + v.toNat)
      (same : m.value x = v)
  | unequal {x : Fin 16} {v : UInt8} (code : n = 0x4000 + 0x100 * x.val + v.toNat)
      (apart : m.value x ≠ v)
  | same {x y : Fin 16} (code : n = 0x5000 + 0x100 * x.val + 0x10 * y.val)
      (same : m.value x = m.value y)
  | different {x y : Fin 16} (code : n = 0x9000 + 0x100 * x.val + 0x10 * y.val)
      (apart : m.value x ≠ m.value y)
  /-- The key that the register holds is pressed. -/
  | pressed {x key : Fin 16} (code : n = 0xE09E + 0x100 * x.val)
      (holds : (m.value x).toNat = key.val) (down : m.keypad.isDown key = true)
  /-- The key that the register holds is not pressed. -/
  | released {x : Fin 16} (code : n = 0xE0A1 + 0x100 * x.val)
      (up : ∀ key : Fin 16, (m.value x).toNat = key.val → m.keypad.isDown key = false)

/-- Where a program goes on after a cycle that does not fail, by the number of the opcode that the cycle
has executed. -/
structure Continues (m : Machine) (n : Nat) (pc : Int) : Prop where
  jump : ∀ a : Fin 4096, n = 0x1000 + a.val ∨ n = 0x2000 + a.val → pc = a.val
  /-- A jump that goes beyond the address space goes on at its beginning. -/
  jumpOffset : ∀ a : Fin 4096, n = 0xB000 + a.val →
    pc = ((a.val + (m.value Registers.offset).toNat) % 4096 : Nat)
  ret : n = 0x00EE → pc = m.stack.top
  awaits : m.Awaits n → pc = m.pc
  skips : m.Skips n → pc = m.pc + 4
  others : ¬Diverts n → ¬m.Awaits n → ¬m.Skips n → pc = m.pc + 2

/-- Codes of two skips with opposite conditions, in two machines that agree on what these look at. The
keypad has a key for the register that the last two look at. -/
inductive Opposes (m m' : Machine) : Nat → Nat → Prop
  | value {x : Fin 16} {v : UInt8} (same : m.value x = m'.value x) :
      Opposes m m' (0x3000 + 0x100 * x.val + v.toNat) (0x4000 + 0x100 * x.val + v.toNat)
  | registers {x y : Fin 16} (left : m.value x = m'.value x) (right : m.value y = m'.value y) :
      Opposes m m' (0x5000 + 0x100 * x.val + 0x10 * y.val) (0x9000 + 0x100 * x.val + 0x10 * y.val)
  | key {x : Fin 16} (same : m.value x = m'.value x) (inside : (m.value x).toNat ≤ 15)
      (keys : m.keypad = m'.keypad) :
      Opposes m m' (0xE09E + 0x100 * x.val) (0xE0A1 + 0x100 * x.val)

variable {m : Machine}

/-! ## Skips -/

theorem holdsPressed_iff {x : Fin 16} :
    m.holdsPressed x = true ↔
      ∃ key : Fin 16, (m.value x).toNat = key.val ∧ m.keypad.isDown key = true := by
  rw [holdsPressed]
  split
  · next inside =>
    constructor
    · exact fun down => ⟨⟨_, inside⟩, rfl, down⟩
    · rintro ⟨key, holds, down⟩
      rwa [show (⟨(m.value x).toNat, inside⟩ : Fin 16) = key from Fin.ext holds]
  · next missing =>
    refine iff_of_false Bool.false_ne_true ?_
    rintro ⟨key, holds, -⟩
    exact missing (holds ▸ key.isLt)

/-- An opcode is that of a skip whose condition holds exactly if its instruction skips. -/
theorem skips_iff {op : Opcode} {i : Instr} (decoded : decode op = some i) :
    m.Skips op.toNat ↔ i.skips m = true := by
  have codes := Instr.codes_of_decode decoded
  constructor
  · intro skips
    cases skips with
    | @equal x v code same =>
      obtain rfl := Instr.eq_of_codes (j := .skipEqual x v) decoded code
      exact beq_iff_eq.2 same
    | @unequal x v code apart =>
      obtain rfl := Instr.eq_of_codes (j := .skipUnequal x v) decoded code
      exact bne_iff_ne.2 apart
    | @same x y code same =>
      obtain rfl := Instr.eq_of_codes (j := .skipSame x y) decoded code
      exact beq_iff_eq.2 same
    | @different x y code apart =>
      obtain rfl := Instr.eq_of_codes (j := .skipDifferent x y) decoded code
      exact bne_iff_ne.2 apart
    | @pressed x key code holds down =>
      obtain rfl := Instr.eq_of_codes (j := .skipPressed x) decoded code
      exact holdsPressed_iff.2 ⟨key, holds, down⟩
    | @released x code up =>
      obtain rfl := Instr.eq_of_codes (j := .skipReleased x) decoded code
      rw [Instr.skips, Bool.not_eq_true', ← Bool.not_eq_true, holdsPressed_iff]
      rintro ⟨key, holds, down⟩
      rw [up key holds] at down
      cases down
  · intro skips
    cases i with
    | skipEqual x v => exact .equal codes (beq_iff_eq.1 skips)
    | skipUnequal x v => exact .unequal codes (bne_iff_ne.1 skips)
    | skipSame x y => exact .same codes (beq_iff_eq.1 skips)
    | skipDifferent x y => exact .different codes (bne_iff_ne.1 skips)
    | skipPressed x =>
      obtain ⟨key, holds, down⟩ := holdsPressed_iff.1 skips
      exact .pressed codes holds down
    | skipReleased x =>
      rw [Instr.skips, Bool.not_eq_true', ← Bool.not_eq_true, holdsPressed_iff] at skips
      exact .released codes fun key holds => Bool.eq_false_iff.2 fun down => skips ⟨key, holds, down⟩
    | _ => cases skips

/-! ## One cycle -/

/-- An instruction goes on as its opcode says. -/
theorem continues_next {op : Opcode} {i : Instr} (decoded : decode op = some i) :
    m.Continues op.toNat (i.next (m.fetched op)) := by
  have codes := Instr.codes_of_decode decoded
  constructor
  · rintro a (code | code)
    · rw [Instr.eq_of_codes (j := .jump a) decoded code]
      rfl
    · rw [Instr.eq_of_codes (j := .call a) decoded code]
      rfl
  · intro a code
    rw [Instr.eq_of_codes (j := .jumpOffset a) decoded code]
    rfl
  · intro code
    rw [Instr.eq_of_codes (j := .ret) decoded code]
    rfl
  · rintro ⟨⟨x, code⟩, idle⟩
    rw [Instr.eq_of_codes (j := .awaitKey x) decoded code]
    have none : (m.fetched op).keypad.first? = none := Keypad.first?_eq_none_iff.2 idle
    simp only [Instr.next_awaitKey, none, pc_fetched]
    omega
  · intro skips
    have skips := (skips_iff decoded).1 skips
    rw [(Instr.isSkip_of_skips skips).next_eq, i.skips_fetched, if_pos skips, pc_fetched]
    omega
  · intro straight waiting skips
    have unskipped : i.skips (m.fetched op) = false := by
      rw [i.skips_fetched op, Bool.eq_false_iff]
      exact fun holds => skips ((skips_iff decoded).2 holds)
    cases i with
    | ret => exact (straight (.inl codes)).elim
    | jump a => exact (straight (.inr ⟨a, .inl codes⟩)).elim
    | call a => exact (straight (.inr ⟨a, .inr (.inl codes)⟩)).elim
    | jumpOffset a => exact (straight (.inr ⟨a, .inr (.inr codes)⟩)).elim
    | awaitKey x =>
      cases first : (m.fetched op).keypad.first? with
      | none => exact (waiting ⟨⟨x, codes⟩, Keypad.first?_eq_none_iff.1 first⟩).elim
      | some key => simp only [Instr.next_awaitKey, first, pc_fetched]
    | skipEqual | skipUnequal | skipSame | skipDifferent | skipPressed | skipReleased =>
      exact if_neg (Bool.eq_false_iff.1 unskipped)
    | _ => rfl

/-- An opcode that is no instruction is passed over. -/
theorem continues_unknown {op : Opcode} (undecoded : decode op = none) :
    m.Continues op.toNat (m.pc + 2) := by
  have none {i : Instr} (codes : i.Codes op.toNat) : False := by
    rw [decode_eq_some_iff.2 codes] at undecoded
    cases undecoded
  constructor
  · rintro a (code | code)
    · exact (none (i := .jump a) code).elim
    · exact (none (i := .call a) code).elim
  · exact fun a code => (none (i := .jumpOffset a) code).elim
  · exact fun code => (none (i := .ret) code).elim
  · exact fun ⟨⟨x, code⟩, _⟩ => (none (i := .awaitKey x) code).elim
  · intro skips
    cases skips with
    | @equal x v code => exact (none (i := .skipEqual x v) code).elim
    | @unequal x v code => exact (none (i := .skipUnequal x v) code).elim
    | @same x y code => exact (none (i := .skipSame x y) code).elim
    | @different x y code => exact (none (i := .skipDifferent x y) code).elim
    | @pressed x key code => exact (none (i := .skipPressed x) code).elim
    | @released x code => exact (none (i := .skipReleased x) code).elim
  · exact fun _ _ _ => rfl

/-- A cycle that does not fail goes on as the opcode says that it has fetched. -/
theorem Cycled.continues_fetched {random : List UInt8} {e : Effect} (cycled : m.Cycled random e)
    (ok : e.failure = none) : ∃ op, m.fetch = .ok op ∧ m.Continues op.toNat e.machine.pc := by
  cases cycled with
  | unfetched | faulted => cases ok
  | @unknown op fetch undecoded => exact ⟨op, fetch, continues_unknown undecoded⟩
  | @executed op i fetch decoded sound =>
    refine ⟨op, fetch, ?_⟩
    show m.Continues op.toNat (i.effect (m.fetched op) (random.headD 0)).pc
    rw [Instr.pc_effect]
    exact continues_next decoded

/-- A cycle that fetches a skip does not fail if its key is there, and leaves out the opcode behind it
exactly if the instruction skips. -/
theorem Bounded.pc_skip (h : m.Bounded) {n : Nat} (code : m.Fetches n) {i : Instr} (codes : i.Codes n)
    (skip : i.IsSkip) (sound : i.fault? m = none) (random : List UInt8) :
    (m.cycle random).failure = none ∧
      (m.cycle random).machine.pc = if i.skips m then m.pc + 4 else m.pc + 2 := by
  obtain ⟨ok, op, -, machine⟩ := (h.cycled random).executed_of_codes code codes sound
  refine ⟨ok, ?_⟩
  rw [machine]
  show (i.effect (m.fetched op) (random.headD 0)).pc = _
  rw [Instr.pc_effect, skip.next_eq, Instr.skips_fetched, Machine.pc_fetched]
  split <;> omega

/-- Of two skips with opposite conditions, exactly one is made. -/
theorem Opposes.one {m' : Machine} {n n' : Nat} (opposes : m.Opposes m' n n') (h : m.Bounded)
    (h' : m'.Bounded) (code : m.Fetches n) (code' : m'.Fetches n') (random random' : List UInt8) :
    (m.cycle random).failure = none ∧ (m'.cycle random').failure = none ∧
      ((m.cycle random).machine.pc = m.pc + 4 ∧ (m'.cycle random').machine.pc = m'.pc + 2 ∨
        (m.cycle random).machine.pc = m.pc + 2 ∧ (m'.cycle random').machine.pc = m'.pc + 4) := by
  -- all three pairs differ in the two instructions only, one of which skips if the other does not
  suffices ∃ i j : Instr, (i.Codes n ∧ i.IsSkip ∧ i.fault? m = none) ∧
      (j.Codes n' ∧ j.IsSkip ∧ j.fault? m' = none) ∧ j.skips m' = !i.skips m by
    obtain ⟨i, j, ⟨codes, skip, sound⟩, ⟨codes', skip', sound'⟩, opposite⟩ := this
    obtain ⟨ok, pc⟩ := h.pc_skip code codes skip sound random
    obtain ⟨ok', pc'⟩ := h'.pc_skip code' codes' skip' sound' random'
    rw [opposite] at pc'
    refine ⟨ok, ok', ?_⟩
    cases skips : i.skips m with
    | true =>
      rw [skips] at pc pc'
      exact .inl ⟨pc, pc'⟩
    | false =>
      rw [skips] at pc pc'
      exact .inr ⟨pc, pc'⟩
  cases opposes with
  | @value x v same =>
    refine ⟨.skipEqual x v, .skipUnequal x v, ⟨rfl, trivial, rfl⟩, ⟨rfl, trivial, rfl⟩, ?_⟩
    simp only [Instr.skips, same]
    rfl
  | @registers x y left right =>
    refine ⟨.skipSame x y, .skipDifferent x y, ⟨rfl, trivial, rfl⟩, ⟨rfl, trivial, rfl⟩, ?_⟩
    simp only [Instr.skips, left, right]
    rfl
  | @key x same inside keys =>
    have inside' : (m'.value x).toNat ≤ 15 := same ▸ inside
    refine ⟨.skipPressed x, .skipReleased x, ⟨rfl, trivial, if_pos (by omega)⟩,
      ⟨rfl, trivial, if_pos (by omega)⟩, ?_⟩
    simp only [Instr.skips, holdsPressed, same, keys]

/-! ## All cycles -/

/-- Where programs go on. Every cycle that does not fail has fetched an opcode, and goes on as this opcode
says. Two skips with opposite conditions do not fail, and exactly one of them is made, in any two states
that agree on what the conditions are about. -/
theorem Reachable.continues (h : m.Reachable) (random : List UInt8) :
    ((m.cycle random).failure = none →
      ∃ op, m.fetch = .ok op ∧ m.Continues op.toNat (m.cycle random).machine.pc) ∧
      ∀ {m' : Machine}, m'.Reachable → ∀ {n n' : Nat}, m.Fetches n → m'.Fetches n' →
        m.Opposes m' n n' → ∀ random' : List UInt8,
        (m.cycle random).failure = none ∧ (m'.cycle random').failure = none ∧
          ((m.cycle random).machine.pc = m.pc + 4 ∧ (m'.cycle random').machine.pc = m'.pc + 2 ∨
            (m.cycle random).machine.pc = m.pc + 2 ∧ (m'.cycle random').machine.pc = m'.pc + 4) :=
  ⟨(h.bounded.cycled random).continues_fetched, fun h' _ _ code code' opposes random' =>
    opposes.one h.bounded h'.bounded code code' random random'⟩

/-- Asked whether a register that holds zero is zero, one new machine skips and another does not. -/
theorem continues_given :
    (given 0x30 0x00).Reachable ∧ (given 0x40 0x00).Reachable ∧
      ((given 0x30 0x00).cycle []).machine.pc = 0x204 ∧
      ((given 0x40 0x00).cycle []).machine.pc = 0x202 := by
  have equal : (given 0x30 0x00).Fetches 0x3000 := fetches_given 0x30 0x00
  have unequal : (given 0x40 0x00).Fetches 0x4000 := fetches_given 0x40 0x00
  have zero (high low : UInt8) : (given high low).value 0 = 0 := rfl
  have opposes : (given 0x30 0x00).Opposes (given 0x40 0x00) 0x3000 0x4000 :=
    .value (x := 0) (v := 0) ((zero _ _).trans (zero _ _).symm)
  have skips : (given 0x30 0x00).Skips 0x3000 := .equal (x := 0) (v := 0) rfl (zero _ _)
  have start (high low : UInt8) : (given high low).pc = 0x200 := rfl
  obtain ⟨goes, one⟩ := (reachable_given 0x30 0x00).continues []
  obtain ⟨ok, -, one⟩ := one (reachable_given 0x40 0x00) equal unequal opposes []
  obtain ⟨op, fetch, continues⟩ := goes ok
  have number : op.toNat = 0x3000 := Fetches.eq ⟨op, fetch, rfl⟩ equal
  rw [number] at continues
  have first := continues.skips skips
  rw [start] at first one
  rw [start] at one
  exact ⟨reachable_given _ _, reachable_given _ _, by omega, by omega⟩

end Machine
end ChipEight
