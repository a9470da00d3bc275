import ChipEight.Proofs.Bounds

/-!
# Waiting for a key

A wait for a key is an instruction that steps back to itself until a key is pressed. Meanwhile only the
timers go on: `Machine.waited` is what a machine has come to after some cycles of waiting
(`Machine.Bounded.run_waiting`). The first cycle with a key pressed ends the wait
(`Machine.Bounded.cycle_pressed`). `Machine.Reachable.waits` puts both together.
-/

namespace ChipEight

namespace Machine

/-- The machine after some cycles, at least one, in which it has waited for a key with this opcode. -/
def waited (m : Machine) (op : Opcode) (n : Nat) : Machine :=
  { m with
    delay := max 0 (m.delay - n)
    sound := max 0 (m.sound - n)
    opcode := op
    draw := false
    delayExpired := m.delay == n
    beep := decide (n ≤ m.sound) }

/-- What the cycle does that ends a wait, with some keys pressed. -/
structure Wakes (m : Machine) (x : Fin 16) (keypad : Keypad) (e : Effect) : Prop where
  ok : e.failure = none
  /-- The register holds the lowest of the keys. -/
  loaded : ∃ key, keypad.isDown key = true ∧ (∀ lower < key, keypad.isDown lower = false) ∧
    (e.machine.value x).toNat = key.val
  /-- The program goes on behind the instruction. -/
  pc : e.machine.pc = m.pc + 2
  keypad : e.machine.keypad = keypad

variable {m : Machine} {op : Opcode} {x : Fin 16}

/-- To wait for some cycles and then for some more is to wait for all of them. -/
theorem waited_waited (op : Opcode) (n : Nat) {k : Nat} (pos : 0 < k) :
    (m.waited op n).waited op k = m.waited op (n + k) := by
  have delay : max 0 (max 0 (m.delay - n) - k) = max 0 (m.delay - (n + k : Nat)) := by omega
  have sound : max 0 (max 0 (m.sound - n) - k) = max 0 (m.sound - (n + k : Nat)) := by omega
  have expired : (max 0 (m.delay - n) == (k : Int)) = (m.delay == ((n + k : Nat) : Int)) := by
    rw [Bool.eq_iff_iff, beq_iff_eq, beq_iff_eq]
    omega
  have sounding : (k : Int) ≤ max 0 (m.sound - n) ↔ ((n + k : Nat) : Int) ≤ m.sound := by omega
  simp only [waited, delay, sound, expired, sounding]

/-- A machine that has waited is within the bounds. -/
theorem Bounded.waited (h : m.Bounded) (op : Opcode) (n : Nat) : (m.waited op n).Bounded := by
  have hd := h.delay
  have hs := h.sound
  refine { h with delay := ?_, sound := ?_ }
  · show 0 ≤ max 0 (m.delay - n) ∧ max 0 (m.delay - n) ≤ 255
    omega
  · show 0 ≤ max 0 (m.sound - n) ∧ max 0 (m.sound - n) ≤ 255
    omega

/-- Fetching an opcode and letting the timers tick is all there is to a cycle of waiting, but that the
program counter has moved on. -/
theorem Bounded.ticked_fetched (h : m.Bounded) (op : Opcode) :
    (m.fetched op).ticked = { m.waited op 1 with pc := m.pc + 2 } := by
  have hd := h.delay
  have hs := h.sound
  have delay : (m.fetched op).ticked.delay = max 0 (m.delay - 1) := by
    rw [delay_ticked]
    show (if 0 < m.delay then m.delay - 1 else m.delay) = _
    split <;> omega
  have sound : (m.fetched op).ticked.sound = max 0 (m.sound - 1) := by
    rw [sound_ticked]
    show (if 0 < m.sound then m.sound - 1 else m.sound) = _
    split <;> omega
  calc (m.fetched op).ticked
      = { m.waited op 1 with
          pc := m.pc + 2
          delay := (m.fetched op).ticked.delay
          sound := (m.fetched op).ticked.sound } := rfl
    _ = { m.waited op 1 with pc := m.pc + 2 } := by rw [delay, sound]; rfl

/-! ## Cycles -/

/-- A cycle that waits for a key takes no random byte, and comes to no fault. -/
theorem Bounded.cycle_awaitKey (h : m.Bounded) (fetch : m.fetch = .ok op)
    (decoded : decode op = some (.awaitKey x)) (random : List UInt8) :
    (m.cycle random).failure = none ∧ (m.cycle random).random = random ∧
      (m.cycle random).machine = ((Instr.awaitKey x).effect (m.fetched op) 0).ticked := by
  simp only [cycle_of_fetch h.soundness fetch random, decoded, Instr.fault?]
  exact ⟨trivial, rfl, rfl⟩

/-- A cycle without a key pressed is one of waiting. -/
theorem Bounded.cycle_waiting (h : m.Bounded) (fetch : m.fetch = .ok op)
    (decoded : decode op = some (.awaitKey x)) (idle : m.keypad.first? = none)
    (random : List UInt8) :
    (m.cycle random).failure = none ∧ (m.cycle random).random = random ∧
      (m.cycle random).machine = m.waited op 1 := by
  obtain ⟨ok, bytes, machine⟩ := h.cycle_awaitKey fetch decoded random
  have back : (Instr.awaitKey x).effect (m.fetched op) 0 =
      { m.fetched op with pc := m.pc + 2 - 2 } := by
    have idle : (m.fetched op).keypad.first? = none := idle
    simp only [Instr.effect, idle]
    rfl
  refine ⟨ok, bytes, machine.trans ?_⟩
  calc ((Instr.awaitKey x).effect (m.fetched op) 0).ticked
      = { (m.fetched op).ticked with pc := m.pc + 2 - 2 } := by rw [back]; rfl
    _ = { m.waited op 1 with pc := m.pc } := by
        rw [h.ticked_fetched, Int.add_sub_cancel]
    _ = m.waited op 1 := rfl

/-- A cycle with a key pressed ends the wait. -/
theorem Bounded.cycle_pressed (h : m.Bounded) (fetch : m.fetch = .ok op)
    (decoded : decode op = some (.awaitKey x)) (touched : ∃ key, m.keypad.isDown key = true)
    (random : List UInt8) : m.Wakes x m.keypad (m.cycle random) := by
  obtain ⟨ok, -, machine⟩ := h.cycle_awaitKey fetch decoded random
  obtain ⟨key, first⟩ := Keypad.exists_first touched
  obtain ⟨down, lowest⟩ := Keypad.first?_eq_some_iff.1 first
  have loaded : (m.cycle random).machine =
      ((m.fetched op).assign x (UInt8.ofNat key.val)).ticked := by
    have first : (m.fetched op).keypad.first? = some key := first
    simp only [machine, Instr.effect, first]
  have value : (m.registers.assign x (UInt8.ofNat key.val)).value x = UInt8.ofNat key.val :=
    h.registers.value_assign_self ..
  refine ⟨ok, ⟨key, down, lowest, ?_⟩, ?_, ?_⟩
  · rw [loaded]
    show ((m.registers.assign x (UInt8.ofNat key.val)).value x).toNat = key.val
    rw [value, UInt8.toNat_ofNat']
    omega
  · rw [loaded]
    rfl
  · rw [loaded]
    rfl

/-! ## Runs -/

/-- A run whose first cycle does not fail goes on with the other cycles. -/
theorem run_succ_of_ok {random : List UInt8} (ok : (m.cycle random).failure = none) (n : Nat) :
    let e := m.cycle random
    let rest := e.machine.run n e.random
    m.run (n + 1) random =
      ⟨{ rest.effect with notices := e.notices ++ rest.effect.notices }, e.machine :: rest.states⟩ := by
  simp only [run, ok]

/-- A run without a key pressed does nothing but wait. -/
theorem Bounded.run_waiting (h : m.Bounded) (fetch : m.fetch = .ok op)
    (decoded : decode op = some (.awaitKey x)) (idle : m.keypad.first? = none) (n : Nat)
    (random : List UInt8) :
    (m.run (n + 1) random).effect.failure = none ∧ (m.run (n + 1) random).effect.random = random ∧
      (m.run (n + 1) random).effect.machine = m.waited op (n + 1) := by
  obtain ⟨ok, bytes, machine⟩ := h.cycle_waiting fetch decoded idle random
  induction n generalizing m with
  | zero =>
    rw [run_succ_of_ok ok, bytes, machine]
    exact ⟨rfl, rfl, rfl⟩
  | succ n ih =>
    -- the other cycles start from a machine that has waited for one, and wait for the same opcode
    have bounded := h.waited op 1
    have again := bounded.cycle_waiting (m := m.waited op 1) fetch decoded idle random
    have rest := ih bounded fetch idle again.1 again.2.1 again.2.2
    have sum : 1 + (n + 1) = n + 1 + 1 := by omega
    rw [waited_waited op 1 n.succ_pos, sum] at rest
    rw [run_succ_of_ok ok, bytes, machine]
    exact rest

/-- A wait for a key. While no key is pressed, no cycle fails or takes a random byte, and afterwards the
machine is as it was but for its timers, their signals and the opcode. The first cycle in which keys are
pressed ends the wait. -/
theorem Reachable.waits (h : m.Reachable) (code : m.Fetches (0xF00A + 0x100 * x.val))
    (idle : ∀ key, m.keypad.isDown key = false) {n : Nat} (pos : 0 < n) (random : List UInt8) :
    ∃ op : Opcode, op.toNat = 0xF00A + 0x100 * x.val ∧
      (m.run n random).effect.failure = none ∧ (m.run n random).effect.random = random ∧
      (m.run n random).effect.machine = m.waited op n ∧
      ∀ keypad : Keypad, (∃ key, keypad.isDown key = true) → ∀ random' : List UInt8,
        m.Wakes x keypad ({ (m.run n random).effect.machine with keypad }.cycle random') := by
  obtain ⟨op, fetch, same⟩ := code
  have decoded : decode op = some (.awaitKey x) := decode_eq_some_iff.2 same
  obtain ⟨n, rfl⟩ : ∃ k, n = k + 1 := ⟨n - 1, by omega⟩
  obtain ⟨ok, bytes, machine⟩ :=
    h.bounded.run_waiting fetch decoded (Keypad.first?_eq_none_iff.2 idle) n random
  refine ⟨op, same, ok, bytes, machine, fun keypad touched random' => ?_⟩
  have bounded : { m.waited op (n + 1) with keypad }.Bounded :=
    { h.bounded.waited op (n + 1) with }
  have wakes := bounded.cycle_pressed fetch decoded touched random'
  rw [machine]
  exact { wakes with }

/-- A machine that has waited for two cycles when a key is pressed. -/
theorem waits_given :
    (given 0xF0 0x0A).Reachable ∧
      ∃ op : Opcode, ((given 0xF0 0x0A).run 2 []).effect.machine = (given 0xF0 0x0A).waited op 2 ∧
        (({ ((given 0xF0 0x0A).run 2 []).effect.machine with
            keypad := Keypad.released.press 7 true }.cycle []).machine.value 0).toNat = 7 := by
  have idle : ∀ key, (given 0xF0 0x0A).keypad.isDown key = false := Keypad.first?_eq_none_iff.1 rfl
  have pressed (key : Fin 16) : (Keypad.released.press 7 true).isDown key = decide (7 = key) := by
    have up : Keypad.released.isDown key = false := Keypad.first?_eq_none_iff.1 rfl key
    rw [Keypad.isDown_press, up]
    split <;> simp [*]
  obtain ⟨op, -, -, -, machine, wakes⟩ := (reachable_given 0xF0 0x0A).waits (x := 0)
    (fetches_given 0xF0 0x0A) idle (n := 2) (by omega) []
  obtain ⟨key, down, -, value⟩ := (wakes (Keypad.released.press 7 true) ⟨7, pressed 7⟩ []).loaded
  obtain rfl : 7 = key := of_decide_eq_true ((pressed key).symm.trans down)
  exact ⟨reachable_given .., op, machine, value⟩

end Machine
end ChipEight
