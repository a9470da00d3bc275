import ChipEight.Proofs.Execute

/-!
# What a cycle does

A cycle goes one of four ways (`Machine.Cycled`): there is nothing to fetch, the opcode is no
instruction, the instruction comes to a fault, or it takes effect and the timers tick.
`Machine.cycle_cycled` says so of every sound machine whose program counter is not negative, so that
what holds of all cycles is shown by cases on these four.
-/

namespace ChipEight

namespace Machine

/-- The opcode at the program counter is a given number. -/
def Fetches (m : Machine) (n : Nat) : Prop := ∃ op, m.fetch = .ok op ∧ op.toNat = n

/-- The machine with an opcode noted as the one that is executed. -/
def noted (m : Machine) (op : Opcode) : Machine := { m with opcode := op }

/-- The machine with an opcode fetched: the opcode is noted, and the program counter is past it. -/
def fetched (m : Machine) (op : Opcode) : Machine :=
  { m with draw := false, pc := m.pc + 2, opcode := op }

/-- The instruction that a machine is about to execute, if there is one. -/
def upcoming? (m : Machine) : Option Instr := m.fetch.toOption.bind decode

/-- The machine after both timers have ticked. -/
def ticked (m : Machine) : Machine := m.tick.1

section
variable (m : Machine)

@[simp] theorem pc_fetched (op : Opcode) : (m.fetched op).pc = m.pc + 2 := rfl

@[simp] theorem value_fetched (op : Opcode) (x : Fin 16) : (m.fetched op).value x = m.value x := rfl

/-- The delay timer counts down to zero. -/
theorem delay_ticked : m.ticked.delay = if 0 < m.delay then m.delay - 1 else m.delay := rfl

/-- The sound timer counts down to zero. -/
theorem sound_ticked : m.ticked.sound = if 0 < m.sound then m.sound - 1 else m.sound := by
  simp [ticked, tick]

end

/-! ## Fetching -/

variable {m : Machine}

/-- There is an opcode at the program counter if both of its bytes lie in memory. -/
theorem fetch_eq (h : 0 ≤ m.pc) :
    m.fetch =
      if 4096 ≤ m.pc + 1 then .error (.fault (.fetch m.pc))
      else .ok (Opcode.ofBytes (m.memory.byte m.pc.toNat) (m.memory.byte (m.pc.toNat + 1))) := by
  have low : (m.pc + 1).toNat = m.pc.toNat + 1 := by omega
  rw [fetch]
  split
  · rfl
  · rw [m.memory.get_eq h (by omega), m.memory.get_eq (show 0 ≤ m.pc + 1 by omega) (by omega), low]
    rfl

/-- What a machine fetches are the two bytes of memory from the program counter on. -/
theorem fetches_of_lt (h : 0 ≤ m.pc) (hlt : m.pc + 1 < 4096) :
    m.Fetches
      (0x100 * (m.memory.byte m.pc.toNat).toNat + (m.memory.byte (m.pc.toNat + 1)).toNat) := by
  refine ⟨_, ?_, Opcode.toNat_ofBytes ..⟩
  rw [fetch_eq h, if_neg (by omega)]

/-- A machine that is in a program which was laid over memory fetches from the program. -/
theorem fetches_of_overlay {memory : Memory} {start k : Nat} {program : Array UInt8}
    (loaded : m.memory = memory.overlay start program) (pc : m.pc = (start + k : Nat))
    (inside : k + 1 < program.size) (room : start + program.size ≤ 4096) :
    m.Fetches (0x100 * program[k].toNat + program[k + 1].toNat) := by
  have fetches := fetches_of_lt (m := m) (by omega) (by omega)
  have high : m.memory.byte m.pc.toNat = program[k] := by
    rw [loaded, Memory.byte_overlay, dif_pos (by omega)]
    congr 1
    omega
  have low : m.memory.byte (m.pc.toNat + 1) = program[k + 1] := by
    rw [loaded, Memory.byte_overlay, dif_pos (by omega)]
    congr 1
    omega
  rwa [high, low] at fetches

/-- A machine that fetches something has it in its memory. -/
theorem Fetches.lt {n : Nat} (h : m.Fetches n) : m.pc + 1 < 4096 := by
  obtain ⟨op, fetch, -⟩ := h
  rw [Machine.fetch] at fetch
  split at fetch
  · cases fetch
  · omega

/-- A machine fetches one opcode only. -/
theorem Fetches.eq {n k : Nat} (h : m.Fetches n) (h' : m.Fetches k) : n = k := by
  obtain ⟨op, fetch, rfl⟩ := h
  obtain ⟨op', fetch', rfl⟩ := h'
  rw [Except.ok.inj (fetch.symm.trans fetch')]

/-- The instruction that a machine is about to execute is the one that its opcode decodes to. -/
theorem upcoming?_eq {op : Opcode} (fetch : m.fetch = .ok op) : m.upcoming? = decode op := by
  rw [upcoming?, fetch]
  rfl

/-- A machine fetches a code of the instruction that it is about to execute. -/
theorem upcoming?_eq_some_iff {i : Instr} :
    m.upcoming? = some i ↔ ∃ n, m.Fetches n ∧ i.Codes n := by
  constructor
  · intro upcoming
    cases fetch : m.fetch with
    | error f =>
      rw [upcoming?, fetch] at upcoming
      cases upcoming
    | ok op =>
      rw [upcoming?_eq fetch] at upcoming
      exact ⟨op.toNat, ⟨op, fetch, rfl⟩, Instr.codes_of_decode upcoming⟩
  · rintro ⟨_, ⟨op, fetch, rfl⟩, codes⟩
    rw [upcoming?_eq fetch]
    exact decode_eq_some_iff.2 codes

/-- A machine that fetches a code of an instruction is about to execute this instruction. -/
theorem Fetches.upcoming {n : Nat} (h : m.Fetches n) {i : Instr} (codes : i.Codes n) :
    m.upcoming? = some i :=
  upcoming?_eq_some_iff.2 ⟨n, h, codes⟩

theorem Fetches.instr_eq {n : Nat} (h : m.Fetches n) {i j : Instr} (upcoming : m.upcoming? = some i)
    (codes : j.Codes n) : i = j :=
  Option.some.inj (upcoming.symm.trans (h.upcoming codes))

/-- An instruction with a single code is executed where that code is fetched. -/
theorem fetches_iff {i : Instr} {n : Nat} (single : ∀ k, i.Codes k ↔ k = n) :
    m.Fetches n ↔ m.upcoming? = some i := by
  rw [upcoming?_eq_some_iff]
  constructor
  · exact fun code => ⟨n, code, (single n).2 rfl⟩
  · rintro ⟨k, code, codes⟩
    rwa [(single k).1 codes] at code

end Machine

/-! ## Instructions in a machine that has fetched them -/

namespace Instr

variable {m : Machine}

/-- Whether an instruction comes to a fault does not depend on where it was fetched from. -/
@[simp] theorem fault?_fetched (op : Opcode) (i : Instr) : i.fault? (m.fetched op) = i.fault? m := by
  cases i <;> rfl

/-- An instruction that comes to a fault takes no random byte. -/
theorem randomAfter_of_fault {i : Instr} {f : Fault} (h : i.fault? m = some f)
    (random : List UInt8) : i.randomAfter random = random := by
  cases i with
  | random x mask => cases h
  | _ => rfl

end Instr

/-! ## The ways of a cycle -/

namespace Machine

variable {m : Machine}

/-- The effects that a cycle can have. -/
inductive Cycled (m : Machine) (random : List UInt8) : Effect → Prop
  /-- There is no opcode at the program counter. -/
  | unfetched (beyond : 4096 ≤ m.pc + 1) :
      Cycled m random ⟨{ m with draw := false }, random, [], some (.fault (.fetch m.pc))⟩
  /-- The opcode is no instruction, and is passed over. -/
  | unknown {op : Opcode} (fetch : m.fetch = .ok op) (undecoded : decode op = none) :
      Cycled m random
        ⟨(m.fetched op).ticked, random,
          .unknownOpcode op (m.fetched op).instructionAddress :: (m.fetched op).tick.2, none⟩
  /-- The instruction comes to a fault. -/
  | faulted {op : Opcode} {i : Instr} {f : Fault} (fetch : m.fetch = .ok op)
      (decoded : decode op = some i) (fault : i.fault? m = some f) :
      Cycled m random
        ⟨i.leftover (m.fetched op), random, (i.warning? (m.fetched op)).toList, some (.fault f)⟩
  /-- The instruction takes effect, and the timers tick. -/
  | executed {op : Opcode} {i : Instr} (fetch : m.fetch = .ok op) (decoded : decode op = some i)
      (sound : i.fault? m = none) :
      Cycled m random
        ⟨(i.effect (m.fetched op) (random.headD 0)).ticked, i.randomAfter random,
          (i.warning? (m.fetched op)).toList ++
            [.executed (m.fetched op).instructionAddress i] ++
            (i.effect (m.fetched op) (random.headD 0)).tick.2,
          none⟩

theorem Sound.noted (h : m.Sound) (op : Opcode) : (m.noted op).Sound := ⟨h.registers, h.index⟩

/-- What comes of an opcode: it is noted and passed over if it is no instruction, and otherwise its
instruction comes to a fault or takes effect. -/
theorem execute_eq (h : m.Sound) (op : Opcode) (random : List UInt8) :
    m.execute op random =
      match decode op with
      | none => ⟨m.noted op, random, [.unknownOpcode op (m.noted op).instructionAddress], none⟩
      | some i =>
        match i.fault? (m.noted op) with
        | some f =>
          ⟨i.leftover (m.noted op), random, (i.warning? (m.noted op)).toList, some (.fault f)⟩
        | none =>
          ⟨i.effect (m.noted op) (random.headD 0), i.randomAfter random,
            (i.warning? (m.noted op)).toList ++ [.executed (m.noted op).instructionAddress i],
            none⟩ := by
  have same : { m with opcode := op } = m.noted op := rfl
  rw [execute, same]
  cases decoded : decode op with
  | none => rfl
  | some i =>
    have run := Instr.run_eq (h.noted op) (random.headD 0) (i := i) decoded
    simp only [run]
    cases fault : i.fault? (m.noted op) with
    | none => rfl
    | some f => simp [Instr.randomAfter_of_fault fault]

/-- What comes of an opcode that was fetched, before the timers tick. -/
theorem execute_fetched (h : m.Sound) (op : Opcode) (random : List UInt8) :
    ({ m with draw := false, pc := m.pc + 2 } : Machine).execute op random =
      match decode op with
      | none =>
        ⟨m.fetched op, random, [.unknownOpcode op (m.fetched op).instructionAddress], none⟩
      | some i =>
        match i.fault? m with
        | some f =>
          ⟨i.leftover (m.fetched op), random, (i.warning? (m.fetched op)).toList, some (.fault f)⟩
        | none =>
          ⟨i.effect (m.fetched op) (random.headD 0), i.randomAfter random,
            (i.warning? (m.fetched op)).toList ++
              [.executed (m.fetched op).instructionAddress i],
            none⟩ := by
  have past : ({ m with draw := false, pc := m.pc + 2 } : Machine).Sound := ⟨h.registers, h.index⟩
  have noted : ({ m with draw := false, pc := m.pc + 2 } : Machine).noted op = m.fetched op := rfl
  simp only [execute_eq past, noted, Instr.fault?_fetched]

/-- Without an opcode at the program counter, there is nothing but the failure to fetch one. -/
theorem cycle_of_unfetched {f : Failure} (fetch : m.fetch = .error f) (random : List UInt8) :
    m.cycle random = ⟨{ m with draw := false }, random, [], some f⟩ := by
  have same : ({ m with draw := false } : Machine).fetch = m.fetch := rfl
  simp only [cycle, same, fetch]

/-- What comes of a cycle that fetches an opcode. -/
theorem cycle_of_fetch (h : m.Sound) {op : Opcode} (fetch : m.fetch = .ok op)
    (random : List UInt8) :
    m.cycle random =
      match decode op with
      | none =>
        ⟨(m.fetched op).ticked, random,
          .unknownOpcode op (m.fetched op).instructionAddress :: (m.fetched op).tick.2, none⟩
      | some i =>
        match i.fault? m with
        | some f =>
          ⟨i.leftover (m.fetched op), random, (i.warning? (m.fetched op)).toList, some (.fault f)⟩
        | none =>
          ⟨(i.effect (m.fetched op) (random.headD 0)).ticked, i.randomAfter random,
            (i.warning? (m.fetched op)).toList ++
              [.executed (m.fetched op).instructionAddress i] ++
              (i.effect (m.fetched op) (random.headD 0)).tick.2,
            none⟩ := by
  have same : ({ m with draw := false } : Machine).fetch = m.fetch := rfl
  simp only [cycle, same, fetch, execute_fetched h]
  cases decode op with
  | none => rfl
  | some i =>
    cases fault : i.fault? m with
    | some f => simp only [fault]
    | none => simp only [fault]; rfl

/-- Every cycle of a sound machine goes one of the four ways. -/
theorem cycle_cycled (h : m.Sound) (hpc : 0 ≤ m.pc) (random : List UInt8) :
    m.Cycled random (m.cycle random) := by
  have fetch := fetch_eq hpc
  split at fetch
  · next beyond =>
    rw [cycle_of_unfetched fetch]
    exact .unfetched beyond
  generalize Opcode.ofBytes _ _ = op at fetch
  rw [cycle_of_fetch h fetch]
  cases decoded : decode op with
  | none => exact .unknown fetch decoded
  | some i =>
    cases fault : i.fault? m with
    | some f =>
      simp only [fault]
      exact .faulted fetch decoded fault
    | none =>
      simp only [fault]
      exact .executed fetch decoded fault

section
variable {random : List UInt8} {e : Effect}

/-- Without an opcode at the program counter, a cycle fails at once. -/
theorem Cycled.of_beyond (cycled : m.Cycled random e) (beyond : 4096 ≤ m.pc + 1) :
    e = ⟨{ m with draw := false }, random, [], some (.fault (.fetch m.pc))⟩ := by
  have none {op : Opcode} (fetch : m.fetch = .ok op) : False := by
    have := Fetches.lt ⟨op, fetch, rfl⟩
    omega
  cases cycled with
  | unfetched => rfl
  | unknown fetch => exact (none fetch).elim
  | faulted fetch => exact (none fetch).elim
  | executed fetch => exact (none fetch).elim

/-- A cycle that fetches an instruction is one of the last two. -/
theorem Cycled.of_decode (cycled : m.Cycled random e) {op : Opcode} (fetch : m.fetch = .ok op)
    {i : Instr} (decoded : decode op = some i) :
    e.failure = (i.fault? m).map .fault ∧
      e.machine = match i.fault? m with
        | some _ => i.leftover (m.fetched op)
        | none => (i.effect (m.fetched op) (random.headD 0)).ticked := by
  cases cycled with
  | unfetched beyond =>
    have := Fetches.lt ⟨op, fetch, rfl⟩
    omega
  | unknown fetch' undecoded =>
    obtain rfl : op = _ := Except.ok.inj (fetch.symm.trans fetch')
    rw [decoded] at undecoded
    cases undecoded
  | faulted fetch' decoded' fault =>
    obtain rfl : op = _ := Except.ok.inj (fetch.symm.trans fetch')
    obtain rfl : i = _ := Option.some.inj (decoded.symm.trans decoded')
    simp [fault]
  | executed fetch' decoded' sound =>
    obtain rfl : op = _ := Except.ok.inj (fetch.symm.trans fetch')
    obtain rfl : i = _ := Option.some.inj (decoded.symm.trans decoded')
    simp [sound]

/-- A cycle comes to the fault of the instruction with the code that it fetches. -/
theorem Cycled.failure_of_codes (cycled : m.Cycled random e) {n : Nat} (fetches : m.Fetches n)
    {i : Instr} (codes : i.Codes n) : e.failure = (i.fault? m).map .fault := by
  obtain ⟨op, fetch, rfl⟩ := fetches
  exact (cycled.of_decode fetch (decode_eq_some_iff.2 codes)).1

/-- A cycle that does not fail gives the effect of the instruction with the code that it fetches. -/
theorem Cycled.effect_of_codes (cycled : m.Cycled random e) {n : Nat} (fetches : m.Fetches n)
    {i : Instr} (codes : i.Codes n) (ok : e.failure = none) :
    ∃ op : Opcode, op.toNat = n ∧ i.fault? m = none ∧
      e.machine = (i.effect (m.fetched op) (random.headD 0)).ticked := by
  obtain ⟨op, fetch, rfl⟩ := fetches
  obtain ⟨failure, machine⟩ := cycled.of_decode fetch (decode_eq_some_iff.2 codes)
  rw [failure, Option.map_eq_none_iff] at ok
  rw [ok] at machine
  exact ⟨op, rfl, ok, machine⟩

/-- A cycle that fetches the code of an instruction without a fault does not fail, and gives the effect
of the instruction. -/
theorem Cycled.executed_of_codes (cycled : m.Cycled random e) {n : Nat} (fetches : m.Fetches n)
    {i : Instr} (codes : i.Codes n) (sound : i.fault? m = none) :
    e.failure = none ∧
      ∃ op : Opcode, op.toNat = n ∧
        e.machine = (i.effect (m.fetched op) (random.headD 0)).ticked := by
  have ok : e.failure = none := by
    rw [cycled.failure_of_codes fetches codes, sound]
    rfl
  obtain ⟨op, number, -, machine⟩ := cycled.effect_of_codes fetches codes ok
  exact ⟨ok, op, number, machine⟩

end

end Machine
end ChipEight
