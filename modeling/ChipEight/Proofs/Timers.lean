import ChipEight.Proofs.Effects
import ChipEight.Proofs.Stages

/-!
# Timers over runs

Both timers go alike: one opcode sets them, a cycle that does not fail lets them tick once, and the tick
may come with a signal. `Timer` is one of them, so that what holds of both is said once: what a cycle
does to a timer (`Machine.Bounded.timer_cycle`), and how a timer that no opcode sets runs down
(`Machine.Bounded.countdown`). `Machine.Reachable.timers` puts both together for all runs.
-/

namespace ChipEight

/-- The timers of a machine. -/
inductive Timer
  | delay
  | sound
  deriving DecidableEq

namespace Timer

/-- What a timer shows. -/
def value (m : Machine) : Timer → Int
  | delay => m.delay
  | sound => m.sound

/-- The signal of the last tick of a timer. -/
def signal (m : Machine) : Timer → Bool
  | delay => m.delayExpired
  | sound => m.beep

/-- Whether a tick from some value gives the signal: the delay timer does when it runs out, and the
sound timer as long as it runs. -/
def Signals (value : Int) : Timer → Prop
  | delay => value = 1
  | sound => 0 < value

/-- How many of `n` ticks from some value give the signal. -/
def signals (value : Int) (n : Nat) : Timer → Nat
  | delay => if 1 ≤ value ∧ value ≤ n then 1 else 0
  | sound => min value.toNat n

/-- The instruction that sets a timer to a register. -/
def setter (x : Fin 16) : Timer → Instr
  | delay => .setDelay x
  | sound => .setSound x

/-- The code of the instruction that sets a timer to the first register; the other registers follow in
steps of 0x100. -/
def code : Timer → Nat
  | delay => 0xF015
  | sound => 0xF018

variable {m : Machine} (t : Timer)

/-- A timer is set where the code for it is fetched. -/
theorem fetches_code_iff (x : Fin 16) :
    m.Fetches (t.code + 0x100 * x.val) ↔ m.upcoming? = some (t.setter x) :=
  Machine.fetches_iff fun _ => by cases t <;> exact Iff.rfl

theorem signals_zero (value : Int) : t.signals value 0 = 0 := by
  cases t with
  | delay => exact if_neg (by omega)
  | sound => exact Nat.min_zero _

/-- One tick more is one signal more if the first of the ticks gives one. -/
theorem signals_succ {value : Int} {first : Bool} (signal : first = true ↔ t.Signals value)
    (n : Nat) :
    t.signals value (n + 1) = t.signals (max 0 (value - 1)) n + if first then 1 else 0 := by
  cases t with
  | delay =>
    simp only [Signals] at signal
    simp only [signals, signal]
    split <;> split <;> split <;> omega
  | sound =>
    simp only [Signals] at signal
    simp only [signals, signal]
    split <;> omega

/-! ## Ticks and instructions -/

theorem value_ticked (h : m.Bounded) : t.value m.ticked = max 0 (t.value m - 1) := by
  cases t with
  | delay =>
    have := h.delay
    simp only [value, Machine.delay_ticked]
    split <;> omega
  | sound =>
    have := h.sound
    simp only [value, Machine.sound_ticked]
    split <;> omega

theorem signal_ticked : t.signal m.ticked = true ↔ t.Signals (t.value m) := by
  cases t with
  | delay => exact beq_iff_eq
  | sound => exact decide_eq_true_iff

/-- An instruction that does not set a timer leaves it as it is. -/
theorem value_effect (h : m.Sound) {random : UInt8} {i : Instr} (sound : i.fault? m = none)
    (other : ∀ x, i ≠ t.setter x) : t.value (i.effect m random) = t.value m := by
  have touches := Instr.touches_effect h random sound
  by_contra changed
  cases t with
  | delay =>
    obtain ⟨x, rfl⟩ := touches.of_delay changed
    exact other x rfl
  | sound =>
    obtain ⟨x, rfl⟩ := touches.of_sound changed
    exact other x rfl

theorem value_setter (m : Machine) (random : UInt8) (x : Fin 16) :
    t.value ((t.setter x).effect m random) = (m.value x).toNat := by
  cases t <;> rfl

@[simp] theorem value_fetched (op : Opcode) : t.value (m.fetched op) = t.value m := by
  cases t <;> rfl

theorem value_leftover (i : Instr) : t.value (i.leftover m) = t.value m := by
  cases i with
  | ret => cases t <;> rfl
  | _ => rfl

end Timer

namespace Machine

variable {m : Machine}

theorem Bounded.timer_nonneg (h : m.Bounded) (t : Timer) : 0 ≤ t.value m := by
  cases t with
  | delay => exact h.delay.1
  | sound => exact h.sound.1

/-! ## One cycle -/

/-- The value from which a timer ticks in a cycle: what the opcode that is fetched sets it to, or what
it shows before the cycle if this opcode does not set it. -/
inductive TicksFrom (m : Machine) (t : Timer) : Int → Prop
  | set {x : Fin 16} (code : m.Fetches (t.code + 0x100 * x.val)) : TicksFrom m t (m.value x).toNat
  | kept (other : ∀ x : Fin 16, ¬m.Fetches (t.code + 0x100 * x.val)) : TicksFrom m t (t.value m)

/-- A timer ticks from one value only. -/
theorem TicksFrom.eq {t : Timer} {d d' : Int} (h : m.TicksFrom t d) (h' : m.TicksFrom t d') :
    d = d' := by
  cases h with
  | @set x code =>
    cases h' with
    | @set x' code' =>
      have same : x = x' := Fin.ext (by have := code.eq code'; omega)
      rw [same]
    | kept other => exact (other x code).elim
  | kept other =>
    cases h' with
    | @set x code => exact (other x code).elim
    | kept => rfl

/-- A cycle that does not fail lets a timer tick. -/
theorem Bounded.timer_cycle (h : m.Bounded) (t : Timer) {random : List UInt8}
    (ok : (m.cycle random).failure = none) :
    ∃ d, m.TicksFrom t d ∧ t.value (m.cycle random).machine = max 0 (d - 1) ∧
      (t.signal (m.cycle random).machine = true ↔ t.Signals d) := by
  -- the state in which the timers tick, with what the timer shows there
  suffices ∃ m' : Machine, m'.Bounded ∧ (m.cycle random).machine = m'.ticked ∧
      m.TicksFrom t (t.value m') by
    obtain ⟨m', bounded, machine, from'⟩ := this
    rw [machine]
    exact ⟨t.value m', from', t.value_ticked bounded, t.signal_ticked⟩
  have cycled := h.cycled random
  generalize m.cycle random = e at cycled ok
  cases cycled with
  | unfetched | faulted => cases ok
  | @unknown op fetch undecoded =>
    have upcoming : m.upcoming? = none := (upcoming?_eq fetch).trans undecoded
    refine ⟨m.fetched op, h.fetched fetch, rfl, ?_⟩
    rw [t.value_fetched]
    refine .kept fun x code => ?_
    rw [t.fetches_code_iff, upcoming] at code
    cases code
  | @executed op i fetch decoded sound =>
    have upcoming : m.upcoming? = some i := (upcoming?_eq fetch).trans decoded
    have sound' : i.fault? (m.fetched op) = none := (i.fault?_fetched op).trans sound
    refine ⟨i.effect (m.fetched op) (random.headD 0),
      (h.fetched fetch).effect (h.pc_fetched fetch) _ sound', rfl, ?_⟩
    by_cases sets : ∃ x, i = t.setter x
    · obtain ⟨x, rfl⟩ := sets
      rw [t.value_setter]
      exact .set ((t.fetches_code_iff x).2 upcoming)
    · have other : ∀ x, i ≠ t.setter x := fun x same => sets ⟨x, same⟩
      rw [t.value_effect (h.fetched fetch).soundness sound' other, t.value_fetched]
      refine .kept fun x code => other x ?_
      rw [t.fetches_code_iff, upcoming] at code
      exact Option.some.inj code

/-- A cycle that fails leaves a timer as it is. -/
theorem Bounded.timer_failed (h : m.Bounded) (t : Timer) {random : List UInt8}
    (failed : (m.cycle random).failure ≠ none) :
    t.value (m.cycle random).machine = t.value m := by
  have cycled := h.cycled random
  generalize m.cycle random = e at cycled failed ⊢
  cases cycled with
  | unfetched => cases t <;> rfl
  | unknown | executed => exact absurd rfl failed
  | faulted => exact (t.value_leftover _).trans (t.value_fetched _)

/-- The cycle that reads the delay timer into a register reads it before it ticks. -/
theorem Bounded.readDelay_cycle (h : m.Bounded) {x : Fin 16}
    (code : m.Fetches (0xF007 + 0x100 * x.val)) (random : List UInt8) :
    (m.cycle random).failure = none ∧
      ((m.cycle random).machine.value x).toNat = m.delay := by
  obtain ⟨ok, op, -, machine⟩ :=
    (h.cycled random).executed_of_codes code (i := .readDelay x) rfl rfl
  have read : (m.cycle random).machine.value x = UInt8.ofNat m.delay.toNat := by
    rw [machine]
    exact h.registers.value_assign_self ..
  refine ⟨ok, ?_⟩
  rw [read, h.inRange.read_delay]

/-! ## Runs -/

/-- Through cycles that do not fail and none of which sets it, a timer runs down to zero, and its
signals are those of as many ticks. -/
theorem Bounded.countdown (h : m.Bounded) (t : Timer) {keypads : List Keypad} {random : List UInt8}
    (quiet : ∀ s ∈ m.stages keypads random, s.effect.failure = none ∧
      ∀ x : Fin 16, ¬s.machine.Fetches (t.code + 0x100 * x.val)) :
    t.value (m.finish keypads random) = max 0 (t.value m - keypads.length) ∧
      (m.stages keypads random).countP (fun s => t.signal s.effect.machine) =
        t.signals (t.value m) keypads.length := by
  induction keypads generalizing m random with
  | nil =>
    have := h.timer_nonneg t
    refine ⟨?_, (t.signals_zero _).symm⟩
    show t.value m = max 0 (t.value m - (0 : Nat))
    omega
  | cons keypad rest ih =>
    have pressed := h.stage keypad random
    obtain ⟨⟨ok, other⟩, quiet⟩ := List.forall_mem_cons.1 quiet
    obtain ⟨d, from', ticked, signal⟩ := pressed.timer_cycle t ok
    obtain rfl : d = t.value m := by
      cases from' with
      | set code => exact (other _ code).elim
      | kept => cases t <;> rfl
    obtain ⟨value, count⟩ := ih (pressed.cycle random) quiet
    constructor
    · calc t.value (m.finish (keypad :: rest) random)
          = max 0 (t.value (m.stage keypad random).effect.machine - rest.length) := value
        _ = max 0 (max 0 (t.value m - 1) - rest.length) := by rw [← ticked]; rfl
        _ = max 0 (t.value m - (keypad :: rest).length) := by rw [List.length_cons]; omega
    · rw [Machine.stages, List.countP_cons, List.length_cons, t.signals_succ signal, ← ticked]
      exact congrArg (· + _) count

end Machine

/-- What the cycle of a stage does to the timers. -/
structure Stage.Timed (s : Stage) : Prop where
  /-- If it does not fail, the delay timer ticks, and has run out exactly if it has ticked from one. -/
  delay : s.effect.failure = none →
    ∃ d, s.machine.TicksFrom .delay d ∧ s.effect.machine.delay = max 0 (d - 1) ∧
      (s.effect.machine.delayExpired = true ↔ d = 1)
  /-- So does the sound timer, which is heard exactly if it was running. -/
  sound : s.effect.failure = none →
    ∃ d, s.machine.TicksFrom .sound d ∧ s.effect.machine.sound = max 0 (d - 1) ∧
      (s.effect.machine.beep = true ↔ 0 < d)
  failed : s.effect.failure ≠ none →
    s.effect.machine.delay = s.machine.delay ∧ s.effect.machine.sound = s.machine.sound
  /-- A register that the delay timer is read into holds what it showed before it ticked. -/
  read : ∀ x : Fin 16, s.machine.Fetches (0xF007 + 0x100 * x.val) →
    s.effect.failure = none ∧ (s.effect.machine.value x).toNat = s.machine.delay

namespace Machine

variable {m : Machine}

/-- The timers over a run. Each cycle lets both tick or fails and leaves both as they are. So through
cycles that do not fail, each timer runs down to zero unless an opcode sets it. The delay timer then
tells once that it runs out, if there are cycles enough for it to do so, and the sound timer is heard in
as many cycles as it has to go, or in all of them. -/
theorem Reachable.timers (h : m.Reachable) (keypads : List Keypad) (random : List UInt8) :
    (∀ s ∈ m.stages keypads random, s.Timed) ∧
      ((∀ s ∈ m.stages keypads random, s.effect.failure = none ∧
          ∀ x : Fin 16, ¬s.machine.Fetches (0xF015 + 0x100 * x.val)) →
        (m.finish keypads random).delay = max 0 (m.delay - keypads.length) ∧
          (m.stages keypads random).countP (fun s => s.effect.machine.delayExpired) =
            if 1 ≤ m.delay ∧ m.delay ≤ keypads.length then 1 else 0) ∧
      ((∀ s ∈ m.stages keypads random, s.effect.failure = none ∧
          ∀ x : Fin 16, ¬s.machine.Fetches (0xF018 + 0x100 * x.val)) →
        (m.finish keypads random).sound = max 0 (m.sound - keypads.length) ∧
          (m.stages keypads random).countP (fun s => s.effect.machine.beep) =
            min m.sound.toNat keypads.length) := by
  refine ⟨fun s hs => ?_, h.bounded.countdown .delay, h.bounded.countdown .sound⟩
  have bounded := h.bounded.stages keypads random s hs
  exact
    { delay := bounded.timer_cycle .delay
      sound := bounded.timer_cycle .sound
      failed := fun failed => ⟨bounded.timer_failed .delay failed, bounded.timer_failed .sound failed⟩
      read := fun x code => bounded.readDelay_cycle code s.random }

/-- What two cycles make of a machine by loading a value into the first register and setting the delay
timer to it. -/
structure LoadedDelay (m : Machine) (v : UInt8) (m' : Machine) : Prop where
  memory : m'.memory = m.memory
  stack : m'.stack = m.stack
  pc : m'.pc = m.pc + 4
  delay : m'.delay = max 0 ((v.toNat : Int) - 1)
  delayExpired : m'.delayExpired = true ↔ v.toNat = 1

/-- A machine that fetches this opcode loads its first register, and goes on. -/
theorem Bounded.loaded_value (h : m.Bounded) {v : UInt8} (load : m.Fetches (0x6000 + v.toNat)) :
    (m.cycle []).machine.memory = m.memory ∧ (m.cycle []).machine.stack = m.stack ∧
      (m.cycle []).machine.pc = m.pc + 2 ∧ (m.cycle []).machine.value 0 = v := by
  have codes : (Instr.load 0 v).Codes (0x6000 + v.toNat) := rfl
  obtain ⟨-, op, -, first⟩ := (h.cycled []).executed_of_codes load codes rfl
  rw [first]
  exact ⟨rfl, rfl, rfl, h.registers.value_assign_self ..⟩

/-- A machine that fetches these two opcodes sets its delay timer, which has ticked once by then. -/
theorem Bounded.loaded_delay (h : m.Bounded) {v : UInt8} (load : m.Fetches (0x6000 + v.toNat))
    (set : ({ m with pc := m.pc + 2 } : Machine).Fetches 0xF015) :
    m.LoadedDelay v ((m.cycle []).machine.cycle []).machine := by
  obtain ⟨memory, stack, pc, loaded⟩ := h.loaded_value load
  have set' : (m.cycle []).machine.Fetches (Timer.delay.code + 0x100 * (0 : Fin 16).val) := by
    rwa [Fetches, fetch, memory, pc]
  obtain ⟨ok, op', -, second⟩ :=
    ((h.cycle []).cycled []).executed_of_codes set' (i := .setDelay 0) rfl rfl
  obtain ⟨d, from', delay, expired⟩ := (h.cycle []).timer_cycle .delay ok
  obtain rfl : d = v.toNat := by
    rw [from'.eq (.set set'), loaded]
  refine ⟨?_, ?_, ?_, delay, ?_⟩
  · rw [second, ← memory]
    rfl
  · rw [second, ← stack]
    rfl
  · rw [second]
    show (m.cycle []).machine.pc + 2 = m.pc + 4
    rw [pc]
    omega
  · exact expired.trans Int.ofNat_inj

/-- A new machine that is given a program which sets the delay timer to two, and then stays where it
is. -/
def delaying : Machine := (fresh .standard).act (.load #[0x60, 0x02, 0xF0, 0x15, 0x12, 0x04])

theorem fetches_delaying {m : Machine} (memory : m.memory = delaying.memory) :
    (m.pc = 0x200 → m.Fetches 0x6002) ∧ (m.pc = 0x202 → m.Fetches 0xF015) ∧
      (m.pc = 0x204 → m.Fetches 0x1204) := by
  have loaded : m.memory =
      (Memory.fresh .standard).overlay 0x200 #[0x60, 0x02, 0xF0, 0x15, 0x12, 0x04] := memory
  exact ⟨fun pc => fetches_of_overlay (k := 0) loaded pc (by decide) (by decide),
    fun pc => fetches_of_overlay (k := 2) loaded pc (by decide) (by decide),
    fun pc => fetches_of_overlay (k := 4) loaded pc (by decide) (by decide)⟩

theorem reachable_delaying : delaying.Reachable := (Reachable.fresh .standard).act _

/-- After two cycles the timer shows one, and the next cycle jumps to where it is. -/
theorem delaying_set :
    ((delaying.cycle []).machine.cycle []).machine.delay = 1 ∧
      ((delaying.cycle []).machine.cycle []).machine.Fetches 0x1204 := by
  have codes := fetches_delaying (m := delaying) rfl
  have set := reachable_delaying.bounded.loaded_delay (v := 2) (codes.1 rfl)
    ((fetches_delaying (m := { delaying with pc := delaying.pc + 2 }) rfl).2.1 rfl)
  exact ⟨set.delay, (fetches_delaying set.memory).2.2 set.pc⟩

/-- The next cycle tells that the timer runs out. -/
theorem timers_delaying :
    ((delaying.cycle []).machine.cycle []).machine.Reachable ∧
      (((delaying.cycle []).machine.cycle []).machine.finish [.released] []).delay = 0 ∧
      (((delaying.cycle []).machine.cycle []).machine.stages [.released] []).countP
        (fun s => s.effect.machine.delayExpired) = 1 := by
  -- how the machine has come to show one does not matter
  have runsOut (m : Machine) (reached : m.Reachable) (delay : m.delay = 1)
      (code : m.Fetches 0x1204) :
      (m.finish [.released] []).delay = 0 ∧
        (m.stages [.released] []).countP (fun s => s.effect.machine.delayExpired) = 1 := by
    have pressed : (m.stage .released []).machine.Fetches 0x1204 := code
    have ok := ((reached.bounded.stage .released []).cycled []).failure_of_codes pressed
      (i := .jump 0x204) rfl
    have quiet : ∀ s ∈ m.stages [.released] [], s.effect.failure = none ∧
        ∀ x : Fin 16, ¬s.machine.Fetches (0xF015 + 0x100 * x.val) := by
      refine List.forall_mem_singleton.2 ⟨ok, fun x sets => ?_⟩
      have := pressed.eq sets
      omega
    obtain ⟨finish, count⟩ := (reached.timers [.released] []).2.1 quiet
    rw [delay] at finish count
    exact ⟨finish, count⟩
  have reached := (reachable_delaying.cycle []).cycle []
  exact ⟨reached, runsOut _ reached delaying_set.1 delaying_set.2⟩

end Machine
end ChipEight
