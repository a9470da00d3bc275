import ChipEight.Proofs.Faults
import ChipEight.Proofs.Parity
import ChipEight.Proofs.Timers

/-!
# Signals of a cycle

A cycle leaves three signals for the host: something was drawn, the delay timer has run out, the sound
timer was running. `Machine.Signals` says when each of them is set. The first is cleared when a cycle
begins, the other two only when the timers tick. So a cycle that fails tells that nothing was drawn, and
leaves the signals of the timers as they were before it (`Machine.Reachable.signals`); such a signal
outlives the cycle that it tells of (`Machine.expired_outlives`).
-/

namespace ChipEight

namespace Instr

/-- Whether an instruction paints if it takes effect. -/
def Paints (m : Machine) : Instr → Prop
  | clearScreen => True
  | draw x y height => m.Draws x y height
  | _ => False

variable {m : Machine}

/-- An instruction that takes effect signals that something was drawn exactly if it paints. -/
theorem draw_effect (h : m.Sound) (undrawn : m.draw = false) (random : UInt8) {i : Instr}
    (sound : i.fault? m = none) : (i.effect m random).draw = true ↔ i.Paints m := by
  have touches := touches_effect h random sound
  cases i with
  | clearScreen => exact iff_of_true rfl trivial
  | draw x y height =>
    simp only [effect, Paints]
    split
    · next draws => exact iff_of_true rfl draws
    · next skipped => exact iff_of_false (by simp [undrawn]) skipped
  | _ =>
    refine iff_of_false (fun drawn => ?_) id
    have painted := (touches.of_screen (.inr (by simp [drawn, undrawn]))).2
    simp at painted

theorem draw_leftover (i : Instr) : (i.leftover m).draw = m.draw := by cases i <;> rfl

end Instr

theorem Timer.signal_leftover {m : Machine} (t : Timer) (i : Instr) :
    t.signal (i.leftover m) = t.signal m := by
  cases i with
  | ret => cases t <;> rfl
  | _ => rfl

namespace Machine

/-- The opcode that is fetched paints: it clears the screen, or it draws a sprite that has rows and
starts on the screen. -/
def Repaints (m : Machine) : Prop :=
  m.Fetches 0x00E0 ∨ ∃ x y height : Fin 16,
    m.Fetches (0xD000 + 0x100 * x.val + 0x10 * y.val + height.val) ∧ m.Draws x y height

/-- In a cycle with some effect, a timer ticks from a value. In one that fails, none does. -/
def Ticks (m : Machine) (e : Effect) (t : Timer) (value : Int) : Prop :=
  e.failure = none ∧ m.TicksFrom t value

/-- What the signals after a cycle tell. -/
structure Signals (m : Machine) (e : Effect) : Prop where
  /-- The cycle has not failed, and has executed an opcode that paints. -/
  draw : e.machine.draw = true ↔ e.failure = none ∧ m.Repaints
  /-- The tick of the cycle has taken the delay timer from a positive value to zero, or there was no
  tick and this signal was set before. -/
  delayExpired : e.machine.delayExpired = true ↔
    (∃ d, m.Ticks e .delay d ∧ 0 < d ∧ e.machine.delay = 0) ∨
      e.failure ≠ none ∧ m.delayExpired = true
  /-- The tick of the cycle has taken one off the sound timer, or there was no tick and this signal was
  set before. -/
  beep : e.machine.beep = true ↔
    (∃ d, m.Ticks e .sound d ∧ e.machine.sound = d - 1) ∨ e.failure ≠ none ∧ m.beep = true

variable {m : Machine} {random : List UInt8}

/-! ## Drawing -/

/-- A machine that is about to execute an instruction paints exactly if the instruction does. -/
theorem repaints_iff {i : Instr} (upcoming : m.upcoming? = some i) : m.Repaints ↔ i.Paints m := by
  constructor
  · rintro (clear | ⟨x, y, height, code, draws⟩)
    · obtain rfl := clear.instr_eq (j := .clearScreen) upcoming rfl
      trivial
    · obtain rfl := code.instr_eq (j := .draw x y height) upcoming rfl
      exact draws
  · intro paints
    cases i with
    | clearScreen => exact .inl ((fetches_iff fun _ => Iff.rfl).2 upcoming)
    | draw x y height =>
      exact .inr ⟨x, y, height, (fetches_iff fun _ => Iff.rfl).2 upcoming, paints⟩
    | _ => exact paints.elim

/-- A machine that paints is about to execute an instruction. -/
theorem Repaints.upcoming (h : m.Repaints) : m.upcoming? ≠ none := by
  rcases h with clear | ⟨x, y, height, code, -⟩
  · simp [clear.upcoming (i := .clearScreen) rfl]
  · simp [code.upcoming (i := .draw x y height) rfl]

/-- A cycle tells that something was drawn if it does not fail and its opcode paints. -/
theorem Bounded.draw_cycle (h : m.Bounded) :
    (m.cycle random).machine.draw = true ↔ (m.cycle random).failure = none ∧ m.Repaints := by
  have cycled := h.cycled random
  generalize m.cycle random = e at cycled ⊢
  cases cycled with
  | unfetched => exact iff_of_false Bool.false_ne_true fun ok => nomatch ok.1
  | unknown fetch undecoded =>
    refine iff_of_false Bool.false_ne_true fun painted => painted.2.upcoming ?_
    rw [upcoming?_eq fetch, undecoded]
  | faulted =>
    refine iff_of_false ?_ fun ok => nomatch ok.1
    rw [Instr.draw_leftover]
    exact Bool.false_ne_true
  | @executed op i fetch decoded sound =>
    have drawn := Instr.draw_effect (h.fetched fetch).soundness rfl (random.headD 0)
      ((i.fault?_fetched op).trans sound)
    have paints : i.Paints (m.fetched op) ↔ i.Paints m := by cases i <;> rfl
    rw [repaints_iff ((upcoming?_eq fetch).trans decoded), ← paints, ← drawn]
    exact (and_iff_right rfl).symm

/-! ## Timers -/

/-- A timer that ticks from a value goes down by one, but not below zero, and gives its signal if this
value is one to give it. -/
theorem Ticks.timer (h : m.Bounded) {t : Timer} {d : Int} (ticks : m.Ticks (m.cycle random) t d) :
    t.value (m.cycle random).machine = max 0 (d - 1) ∧
      (t.signal (m.cycle random).machine = true ↔ t.Signals d) := by
  obtain ⟨d', from', timed⟩ := h.timer_cycle t ticks.1
  obtain rfl := from'.eq ticks.2
  exact timed

/-- A signal of a timer is given by the tick of the cycle, or has been there before a cycle that fails. -/
theorem Bounded.signal_cycle (h : m.Bounded) (t : Timer) :
    t.signal (m.cycle random).machine = true ↔
      (∃ d, m.Ticks (m.cycle random) t d ∧ t.Signals d) ∨
        (m.cycle random).failure ≠ none ∧ t.signal m = true := by
  by_cases ok : (m.cycle random).failure = none
  · have timed {d : Int} (ticks : m.Ticks (m.cycle random) t d) := ticks.timer h
    obtain ⟨d, from', -⟩ := h.timer_cycle t ok
    constructor
    · exact fun signal => .inl ⟨d, ⟨ok, from'⟩, (timed ⟨ok, from'⟩).2.1 signal⟩
    · rintro (⟨d', ticks, signals⟩ | ⟨failed, -⟩)
      · exact (timed ticks).2.2 signals
      · exact absurd ok failed
  · have same : t.signal (m.cycle random).machine = t.signal m := by
      have cycled := h.cycled random
      generalize m.cycle random = e at cycled ok ⊢
      cases cycled with
      | unfetched => cases t <;> rfl
      | unknown | executed => exact absurd rfl ok
      | faulted => exact (t.signal_leftover _).trans (by cases t <;> rfl)
    rw [same]
    constructor
    · exact fun signal => .inr ⟨ok, signal⟩
    · rintro (⟨d, ticks, -⟩ | ⟨-, signal⟩)
      · exact absurd ticks.1 ok
      · exact signal

/-! ## All signals -/

/-- The signals after a cycle. In every state that a machine can be in, and whether the cycle fails or
not, the first one tells exactly of this cycle, and so do those of the timers if it does not fail. If it
fails, the timers do not tick, and their signals are those from before it. -/
theorem Reachable.signals (h : m.Reachable) (random : List UInt8) : m.Signals (m.cycle random) where
  draw := h.bounded.draw_cycle
  delayExpired := by
    refine (h.bounded.signal_cycle .delay).trans (or_congr_left (exists_congr fun d => ?_))
    refine and_congr_right fun ticks => ?_
    have value : (m.cycle random).machine.delay = max 0 (d - 1) := (ticks.timer h.bounded).1
    rw [value, Timer.Signals]
    omega
  beep := by
    refine (h.bounded.signal_cycle .sound).trans (or_congr_left (exists_congr fun d => ?_))
    refine and_congr_right fun ticks => ?_
    have value : (m.cycle random).machine.sound = max 0 (d - 1) := (ticks.timer h.bounded).1
    rw [value, Timer.Signals]
    omega

/-- A new machine that is given a program which sets the delay timer to one, and then returns without
a call. -/
def expiring : Machine := (fresh .standard).act (.load #[0x60, 0x01, 0xF0, 0x15, 0x00, 0xEE])

theorem fetches_expiring {m : Machine} (memory : m.memory = expiring.memory) :
    (m.pc = 0x200 → m.Fetches 0x6001) ∧ (m.pc = 0x202 → m.Fetches 0xF015) ∧
      (m.pc = 0x204 → m.Fetches 0x00EE) := by
  have loaded : m.memory =
      (Memory.fresh .standard).overlay 0x200 #[0x60, 0x01, 0xF0, 0x15, 0x00, 0xEE] := memory
  exact ⟨fun pc => fetches_of_overlay (k := 0) loaded pc (by decide) (by decide),
    fun pc => fetches_of_overlay (k := 2) loaded pc (by decide) (by decide),
    fun pc => fetches_of_overlay (k := 4) loaded pc (by decide) (by decide)⟩

theorem reachable_expiring : expiring.Reachable := (Reachable.fresh .standard).act _

/-- The second cycle of this machine sets its delay timer, lets it run out and tells so. Nothing was drawn. -/
theorem signals_expiring :
    (expiring.cycle []).machine.Reachable ∧
      ((expiring.cycle []).machine.cycle []).machine.delayExpired = true ∧
      ((expiring.cycle []).machine.cycle []).machine.draw = false := by
  obtain ⟨memory, -, pc, loaded⟩ := reachable_expiring.bounded.loaded_value (v := 1)
    ((fetches_expiring (m := expiring) rfl).1 rfl)
  have reached := reachable_expiring.cycle []
  -- how the machine has come to hold one does not matter
  have expires (m : Machine) (reached : m.Reachable) (loaded : m.value 0 = 1) (code : m.Fetches 0xF015) :
      (m.cycle []).machine.delayExpired = true ∧ (m.cycle []).machine.draw = false := by
    have ok := (reached.bounded.cycled []).failure_of_codes code (i := .setDelay 0) rfl
    have ticks : m.Ticks (m.cycle []) .delay 1 := by
      have ticked := TicksFrom.set (t := .delay) (x := 0) code
      rw [loaded] at ticked
      exact ⟨ok, ticked⟩
    have signals := reached.signals []
    have unpainted : ¬m.Repaints := fun repaints =>
      (repaints_iff (code.upcoming (i := .setDelay 0) rfl)).1 repaints
    exact ⟨signals.delayExpired.2 (.inl ⟨1, ticks, by decide, (ticks.timer reached.bounded).1⟩),
      Bool.eq_false_iff.2 fun drawn => unpainted (signals.draw.1 drawn).2⟩
  exact ⟨reached, expires _ reached loaded ((fetches_expiring memory).2.1 pc)⟩

/-! ## A signal that outlives its cycle -/

/-- After two cycles of this machine, its delay timer has just run out. The next one fails, so that the
timers do not tick, and still it tells that the delay timer has run out. -/
theorem expired_outlives :
    ((expiring.cycle []).machine.cycle []).machine.Reachable ∧
      ¬((((expiring.cycle []).machine.cycle []).machine.cycle []).machine.delayExpired = true ↔
        ∃ d, ((expiring.cycle []).machine.cycle []).machine.Ticks
            (((expiring.cycle []).machine.cycle []).machine.cycle []) .delay d ∧
          0 < d ∧ (((expiring.cycle []).machine.cycle []).machine.cycle []).machine.delay = 0) := by
  -- how the machine has come to signal this does not matter
  have outlives (m : Machine) (reached : m.Reachable) (signal : m.delayExpired = true)
      (empty : m.stack.depth = 0) (code : m.Fetches 0x00EE) :
      ¬((m.cycle []).machine.delayExpired = true ↔
        ∃ d, m.Ticks (m.cycle []) .delay d ∧ 0 < d ∧ (m.cycle []).machine.delay = 0) := by
    have cycled := reached.bounded.cycled []
    obtain ⟨f, failed, -⟩ := (Raises.returnEmpty code empty).failure cycled
    have failed : (m.cycle []).failure ≠ none := by simp [failed]
    intro tells
    obtain ⟨d, ticks, -⟩ := tells.1 ((reached.bounded.signal_cycle .delay).2 (.inr ⟨failed, signal⟩))
    exact failed ticks.1
  have reached := (reachable_expiring.cycle []).cycle []
  have set := reachable_expiring.bounded.loaded_delay (v := 1)
    ((fetches_expiring (m := expiring) rfl).1 rfl)
    ((fetches_expiring (m := { expiring with pc := expiring.pc + 2 }) rfl).2.1 rfl)
  have none : expiring.stack.depth = 0 := rfl
  have empty := (congrArg CallStack.depth set.stack).trans none
  exact ⟨reached, outlives _ reached (set.delayExpired.2 rfl) empty
    ((fetches_expiring set.memory).2.2 set.pc)⟩

end Machine
end ChipEight
