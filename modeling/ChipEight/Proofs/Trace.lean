import ChipEight.Proofs.Notices
import ChipEight.Proofs.Parity
import ChipEight.Proofs.Stages

/-!
# The trace of a run

A log that keeps everything is a record of the run: of every cycle it holds a warning if there is one to
give (`Machine.Warns`), then the line of the trace if an instruction was carried out
(`Stage.trace?`), then the signals of the timers (`Effect.timerLines`). `Stage.lines_eq` says so of one
cycle, and `Machine.Reachable.traced` of all runs.
-/

namespace ChipEight

/-- A line of a log: how much it matters, and what it says. -/
abbrev Line := Severity × String

/-- The line that a notice is written in. -/
def Notice.line (n : Notice) : Line := (n.severity, n.text)

theorem Notice.line_executed (a : Nat) (i : Instr) :
    (Notice.executed a i).line =
      (.debug, s!"mem_addr: 0x{Numeral.hex 4 a}    instruction: {i.mnemonic}") :=
  rfl

/-- The lines of a log. -/
def Log.lines (l : Log) : List Line := l.notices.toList.map Notice.line

namespace Effect

/-- The lines of an effect, if all of them are written. -/
def lines (e : Effect) : List Line := e.notices.map Notice.line

/-- The lines about the timers, which tick if nothing has failed. -/
def timerLines (e : Effect) : List Line :=
  if e.failure = none then
    (if e.machine.delayExpired then [(.info, "Delay expired!")] else []) ++
      (if e.machine.beep then [(.info, "BEEP!")] else [])
  else []

end Effect

/-- The line of the trace, if the opcode that is fetched is that of an instruction and this instruction
does not fail. It tells the address that the opcode is fetched from. -/
def Stage.trace? (s : Stage) : Option Line :=
  if s.effect.failure = none then
    s.machine.upcoming?.map fun i =>
      (.debug, s!"mem_addr: 0x{Numeral.hex 4 s.machine.pc}    instruction: {i.mnemonic}")
  else none

namespace Instr

/-- What an instruction is warned of: machine code at all events, a jump beyond the address space, an
index beyond sixteen bits, a transfer beyond memory, and a sprite that has no rows, starts outside the
screen, reaches beyond memory at eight bytes a row, or crosses the right or the lower edge of the
screen. -/
def Warned (m : Machine) : Instr → Prop
  | machineCode _ => True
  | jumpOffset a => 0xFFF < a.val + (m.value Registers.offset).toNat
  | addIndex x => 0xFFFF < m.index + (m.value x).toNat
  | draw x y height =>
    height.val = 0 ∨ (64 ≤ (m.value x).toNat ∨ 32 ≤ (m.value y).toNat) ∨
      4096 < m.index + 8 * height.val ∨
      (64 < (m.value x).toNat + 8 ∨ 32 < (m.value y).toNat + height.val)
  | storeRegisters x | loadRegisters x => 4096 ≤ m.index + x.val
  | _ => False

variable {m : Machine}

/-- An instruction comes with a warning exactly if it is one to be warned of. -/
theorem isSome_warning? (i : Instr) : (i.warning? m).isSome = true ↔ i.Warned m := by
  cases i with
  | machineCode a => exact iff_of_true rfl trivial
  | jumpOffset | addIndex | storeRegisters | loadRegisters => exact Option.isSome_ite
  | draw x y height =>
    have chain {p : Prop} [Decidable p] {n : Notice} {rest : Option Notice} :
        (if p then some n else rest).isSome = true ↔ p ∨ rest.isSome = true := by
      split <;> simp [*]
    simp only [warning?, chain, Option.isSome_none, Bool.false_eq_true, or_false]
    rfl
  | _ => exact iff_of_false Bool.false_ne_true id

/-- What comes with an instruction is a warning, and no other notice. -/
theorem severity_of_warning? (i : Instr) : ∀ n ∈ i.warning? m, n.severity = .warning := by
  have none : ∀ n ∈ (none : Option Notice), n.severity = .warning := by simp
  have chain {p : Prop} [Decidable p] {first : Notice} {rest : Option Notice}
      (warns : first.severity = .warning) (rest_warns : ∀ n ∈ rest, n.severity = .warning) :
      ∀ n ∈ if p then some first else rest, n.severity = .warning := by
    split
    · simpa using warns
    · exact rest_warns
  cases i with
  | machineCode a => simp [warning?, Notice.severity]
  | jumpOffset | addIndex | storeRegisters | loadRegisters => exact chain rfl none
  | draw => exact chain rfl (chain rfl (chain rfl (chain rfl none)))
  | _ => exact none

/-- So it is written as one. -/
theorem line_warning? (i : Instr) :
    (i.warning? m).toList.map Notice.line =
      ((i.warning? m).map Notice.text).toList.map (Severity.warning, ·) := by
  have severity := i.severity_of_warning? (m := m)
  cases warns : i.warning? m with
  | none => rfl
  | some n => simp [Notice.line, severity n warns]

/-- Where an instruction was fetched from makes no difference to whether it is warned of. -/
theorem warned_fetched (op : Opcode) (i : Instr) : i.Warned (m.fetched op) ↔ i.Warned m := by
  cases i <;> rfl

end Instr

namespace Machine

/-- What a machine warns of when it executes the opcode that it fetches. -/
inductive Warns (m : Machine) : Prop
  /-- The opcode is no instruction. -/
  | unknown {op : Opcode} (fetch : m.fetch = .ok op) (undecoded : decode op = none)
  /-- A routine of the host's processor is called. -/
  | machineCode {a : Fin 4096} (code : m.Fetches a.val) (clear : a.val ≠ 0x00E0) (ret : a.val ≠ 0x00EE)
  /-- A jump goes beyond the address space. -/
  | jumpOffset {a : Fin 4096} (code : m.Fetches (0xB000 + a.val))
      (beyond : 0xFFF < a.val + (m.value Registers.offset).toNat)
  /-- The index grows beyond sixteen bits. -/
  | addIndex {x : Fin 16} (code : m.Fetches (0xF01E + 0x100 * x.val))
      (beyond : 0xFFFF < m.index + (m.value x).toNat)
  /-- A sprite has no rows, starts outside the screen, reaches beyond memory at eight bytes a row, or
  crosses the right or the lower edge of the screen. -/
  | draw {x y height : Fin 16}
      (code : m.Fetches (0xD000 + 0x100 * x.val + 0x10 * y.val + height.val))
      (poor : height.val = 0 ∨ (64 ≤ (m.value x).toNat ∨ 32 ≤ (m.value y).toNat) ∨
        4096 < m.index + 8 * height.val ∨
        (64 < (m.value x).toNat + 8 ∨ 32 < (m.value y).toNat + height.val))
  /-- Registers are stored or loaded beyond memory. -/
  | transfer {x : Fin 16}
      (code : m.Fetches (0xF055 + 0x100 * x.val) ∨ m.Fetches (0xF065 + 0x100 * x.val))
      (beyond : 4096 ≤ m.index + x.val)

variable {m : Machine}

/-! ## Warnings -/

/-- A machine warns of an instruction exactly if the instruction is one to be warned of. -/
theorem warns_iff {i : Instr} (upcoming : m.upcoming? = some i) : m.Warns ↔ i.Warned m := by
  constructor
  · intro warns
    cases warns with
    | unknown fetch undecoded =>
      rw [upcoming?_eq fetch, undecoded] at upcoming
      cases upcoming
    | @machineCode a code clear ret =>
      obtain rfl := code.instr_eq (j := .machineCode a) upcoming ⟨(Nat.zero_add _).symm, clear, ret⟩
      trivial
    | @jumpOffset a code beyond =>
      obtain rfl := code.instr_eq (j := .jumpOffset a) upcoming rfl
      exact beyond
    | @addIndex x code beyond =>
      obtain rfl := code.instr_eq (j := .addIndex x) upcoming rfl
      exact beyond
    | @draw x y height code poor =>
      obtain rfl := code.instr_eq (j := .draw x y height) upcoming rfl
      exact poor
    | @transfer x code beyond =>
      rcases code with store | load
      · obtain rfl := store.instr_eq (j := .storeRegisters x) upcoming rfl
        exact beyond
      · obtain rfl := load.instr_eq (j := .loadRegisters x) upcoming rfl
        exact beyond
  · intro warned
    cases i with
    | machineCode a =>
      obtain ⟨_, code, rfl, clear, ret⟩ := upcoming?_eq_some_iff.1 upcoming
      rw [Nat.zero_add] at code clear ret
      exact .machineCode code clear ret
    | jumpOffset a => exact .jumpOffset ((fetches_iff fun _ => Iff.rfl).2 upcoming) warned
    | addIndex x => exact .addIndex ((fetches_iff fun _ => Iff.rfl).2 upcoming) warned
    | draw x y height => exact .draw ((fetches_iff fun _ => Iff.rfl).2 upcoming) warned
    | storeRegisters x =>
      exact .transfer (.inl ((fetches_iff fun _ => Iff.rfl).2 upcoming)) warned
    | loadRegisters x =>
      exact .transfer (.inr ((fetches_iff fun _ => Iff.rfl).2 upcoming)) warned
    | _ => exact warned.elim

/-- A machine that warns has fetched an opcode. -/
theorem Warns.lt (warns : m.Warns) : m.pc + 1 < 4096 := by
  cases warns with
  | unknown fetch => exact Fetches.lt ⟨_, fetch, rfl⟩
  | machineCode code | jumpOffset code | addIndex code | draw code => exact code.lt
  | transfer code => exact code.elim Fetches.lt Fetches.lt

/-- A machine warns exactly if there is a warning of the instruction that it has fetched. -/
theorem isSome_text_warning? {op : Opcode} {i : Instr} (fetch : m.fetch = .ok op)
    (decoded : decode op = some i) :
    ((i.warning? (m.fetched op)).map Notice.text).isSome = true ↔ m.Warns := by
  rw [Option.isSome_map, i.isSome_warning?, i.warned_fetched,
    warns_iff ((upcoming?_eq fetch).trans decoded)]

/-! ## Cycles -/

/-- What a tick reports are the lines about the timers. -/
theorem lines_tick (m : Machine) :
    m.tick.2.map Notice.line =
      (if m.ticked.delayExpired then [(.info, "Delay expired!")] else []) ++
        (if m.ticked.beep then [(.info, "BEEP!")] else []) := by
  rw [ticked, tick, List.map_append, apply_ite (List.map Notice.line),
    apply_ite (List.map Notice.line)]
  rfl

/-- What a fetched instruction is traced with is the address that it was fetched from. -/
theorem instructionAddress_fetched (h : 0 ≤ m.pc) (op : Opcode) (inside : m.pc + 1 < 4096) :
    ((m.fetched op).instructionAddress : Int) = m.pc := by
  rw [instructionAddress, pc_fetched]
  omega

end Machine

/-- The lines about the timers after a tick. -/
theorem Effect.timerLines_ticked (m : Machine) (random : List UInt8) (notices : List Notice) :
    (⟨m.ticked, random, notices, none⟩ : Effect).timerLines = m.tick.2.map Notice.line := by
  rw [m.lines_tick, timerLines, if_pos rfl]

/-- What a cycle writes: a warning if there is something to warn of, the line of the trace if an
instruction has taken effect, and the lines about the timers. -/
theorem Stage.lines_eq (s : Stage) (h : s.machine.Bounded) :
    ∃ warning : Option String,
      (warning.isSome = true ↔ s.machine.Warns) ∧
        s.effect.lines =
          warning.toList.map (.warning, ·) ++ s.trace?.toList ++ s.effect.timerLines := by
  obtain ⟨m, random⟩ := s
  have cycled : m.Cycled random (Stage.effect ⟨m, random⟩) := h.cycled random
  rw [trace?]
  generalize Stage.effect ⟨m, random⟩ = e at cycled ⊢
  cases cycled with
  | unfetched beyond =>
    refine ⟨none, iff_of_false Bool.false_ne_true fun warns => ?_, rfl⟩
    have : m.pc + 1 < 4096 := warns.lt
    omega
  | @unknown op fetch undecoded =>
    refine ⟨some (Notice.unknownOpcode op (m.fetched op).instructionAddress).text,
      iff_of_true rfl (.unknown fetch undecoded), ?_⟩
    rw [if_pos rfl, Machine.upcoming?_eq fetch, undecoded, Effect.timerLines_ticked]
    rfl
  | @faulted op i f fetch decoded fault =>
    refine ⟨_, Machine.isSome_text_warning? fetch decoded, ?_⟩
    simp [Effect.lines, Effect.timerLines, i.line_warning?]
  | @executed op i fetch decoded sound =>
    refine ⟨_, Machine.isSome_text_warning? fetch decoded, ?_⟩
    have address := m.instructionAddress_fetched h.pc.1 op (Machine.Fetches.lt ⟨op, fetch, rfl⟩)
    rw [if_pos rfl, Machine.upcoming?_eq fetch, decoded, Effect.timerLines_ticked, Effect.lines,
      List.map_append, List.map_append, i.line_warning?, List.map_singleton, Notice.line_executed,
      address]
    rfl

/-- All lines of the trace are of the lowest severity. -/
theorem Stage.severity_trace? (s : Stage) : ∀ line ∈ s.trace?, line.1 = .debug := by
  rw [trace?]
  split
  · cases s.machine.upcoming? <;> simp
  · simp

/-- All lines about the timers are information. -/
theorem Effect.severity_timerLines (e : Effect) : ∀ line ∈ e.timerLines, line.1 = .info := by
  rw [timerLines]
  split
  · cases e.machine.delayExpired <;> cases e.machine.beep <;> simp
  · simp

/-- What a cycle writes is never an error. -/
theorem Stage.severity_lines (s : Stage) (h : s.machine.Bounded) :
    ∀ line ∈ s.effect.lines, line.1 ≠ .error := by
  obtain ⟨warning, -, lines⟩ := s.lines_eq h
  intro line mem
  rw [lines, List.mem_append, List.mem_append, List.mem_map, Option.mem_toList] at mem
  rcases mem with (⟨text, -, rfl⟩ | trace) | timer
  · simp
  · simp [s.severity_trace? line trace]
  · simp [s.effect.severity_timerLines line timer]

/-- The lines of the lowest severity that a cycle writes are those of the trace. -/
theorem Stage.filter_lines (s : Stage) (h : s.machine.Bounded) :
    s.effect.lines.filter (·.1 = .debug) = s.trace?.toList := by
  obtain ⟨warning, -, lines⟩ := s.lines_eq h
  have warnings : (warning.toList.map (Severity.warning, ·)).filter (·.1 = .debug) = [] := by
    simp [List.filter_eq_nil_iff]
  have timers : s.effect.timerLines.filter (·.1 = .debug) = [] :=
    List.filter_eq_nil_iff.2 fun line mem => by simp [s.effect.severity_timerLines line mem]
  have trace : s.trace?.toList.filter (·.1 = .debug) = s.trace?.toList :=
    List.filter_eq_self.2 fun line mem => by simp [s.severity_trace? line (Option.mem_toList.1 mem)]
  rw [lines, List.filter_append, List.filter_append, warnings, timers, trace, List.nil_append,
    List.append_nil]

/-! ## Runs -/

namespace Effect

/-- The log of everything that several effects write, one after another. -/
def log (effects : List Effect) : Log :=
  effects.foldl (fun l e => l.record e.notices) (Log.empty .debug)

/-- A log of everything keeps all that can be written. -/
theorem lines_foldl_record {effects : List Effect}
    (writable : ∀ e ∈ effects, ∀ n ∈ e.notices, n.isWritable = true) {l : Log}
    (all : l.threshold = .debug) :
    (effects.foldl (fun l e => l.record e.notices) l).lines = l.lines ++ effects.flatMap lines := by
  induction effects generalizing l with
  | nil => simp
  | cons e rest ih =>
    obtain ⟨first, writable⟩ := List.forall_mem_cons.1 writable
    have kept : e.notices.filter (fun n => Log.keeps l.threshold n && n.isWritable) = e.notices := by
      refine List.filter_eq_self.2 fun n hn => ?_
      rw [all, first n hn, Bool.and_true]
      exact decide_eq_true (Nat.zero_le _)
    have recorded : (l.record e.notices).lines = l.lines ++ e.lines := by
      simp [Log.lines, Log.record, lines, kept]
    rw [List.foldl_cons, ih writable (l := l.record e.notices) all, recorded, List.flatMap_cons,
      List.append_assoc]

/-- The log of effects whose notices can all be written holds the lines of all of them. -/
theorem lines_log {effects : List Effect}
    (writable : ∀ e ∈ effects, ∀ n ∈ e.notices, n.isWritable = true) :
    (log effects).lines = effects.flatMap lines :=
  lines_foldl_record writable rfl

end Effect

namespace Machine

variable {m : Machine}

/-- The trace is a record of the run. In a log of everything, each cycle has a line of warning if there
is something to warn of, then a line of the trace with the address that the opcode was fetched from,
unless the opcode is no instruction or its instruction fails, and then a line for each timer that has
given a signal. No cycle writes anything else, in particular no error. So the lines of the trace list
the instructions of the run that have taken effect, one after another. -/
theorem Reachable.traced (h : m.Reachable) (keypads : List Keypad) (random : List UInt8) :
    (∀ s ∈ m.stages keypads random,
      (∀ n ∈ s.effect.notices, n.isWritable = true) ∧
        (∃ warning : Option String,
          (warning.isSome = true ↔ s.machine.Warns) ∧
            s.effect.lines =
              warning.toList.map (.warning, ·) ++ s.trace?.toList ++ s.effect.timerLines) ∧
        ∀ line ∈ s.effect.lines, line.1 ≠ .error) ∧
      (Effect.log (m.cycles keypads random)).lines =
        (m.stages keypads random).flatMap (·.effect.lines) ∧
      (Effect.log (m.cycles keypads random)).lines.filter (·.1 = .debug) =
        (m.stages keypads random).filterMap Stage.trace? := by
  have bounded := h.bounded.stages keypads random
  rw [cycles_eq]
  generalize m.stages keypads random = stages at bounded ⊢
  have writable : ∀ s ∈ stages, ∀ n ∈ s.effect.notices, n.isWritable = true := fun s hs =>
    (bounded s hs).writable_cycle s.random
  have log : (Effect.log (stages.map Stage.effect)).lines = stages.flatMap (·.effect.lines) := by
    rw [Effect.lines_log (List.forall_mem_map.2 writable), List.flatMap_map]
  refine ⟨fun s hs => ?_, log, ?_⟩
  · exact ⟨writable s hs, s.lines_eq (bounded s hs), s.severity_lines (bounded s hs)⟩
  · rw [log, List.filter_flatMap, List.filterMap_eq_flatMap_toList]
    exact List.flatMap_congr fun s hs => s.filter_lines (bounded s hs)

/-- The trace of a machine that clears its screen. -/
theorem traced_clearing :
    clearing.Reachable ∧
      (Effect.log (clearing.cycles [.released] [])).lines.filter (·.1 = .debug) =
        [(.debug, "mem_addr: 0x0200    instruction: CLS")] := by
  have code : (clearing.stage .released []).machine.Fetches 0x00E0 := fetches_clearing .released
  have upcoming : (clearing.stage .released []).machine.upcoming? = some .clearScreen :=
    upcoming?_eq_some_iff.2 ⟨_, code, rfl⟩
  have ok : (clearing.stage .released []).effect.failure = none :=
    ((reachable_clearing.bounded.stage .released []).cycled []).failure_of_codes code
      (i := .clearScreen) rfl
  have trace : (clearing.stage .released []).trace? =
      some (.debug, "mem_addr: 0x0200    instruction: CLS") := by
    have pc : (clearing.stage .released []).machine.pc = 0x200 := rfl
    rw [Stage.trace?, if_pos ok, upcoming, pc]
    rfl
  refine ⟨reachable_clearing, ?_⟩
  rw [(reachable_clearing.traced [.released] []).2.2, stages, stages, List.filterMap_cons, trace]
  rfl

end Machine
end ChipEight
