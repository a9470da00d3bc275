import ChipEight.Machine.Execute

/-!
# Cycles

One cycle of the machine fetches an opcode, moves the program counter past it, executes it and lets
the timers tick (`Machine.cycle`). A cycle that fails does not get as far as the timers.
`Machine.run` makes several cycles and stops at the first failure.
-/

namespace ChipEight

namespace Machine

/-- Lets both timers tick: each counts down by one unless it stands still. -/
def tick (m : Machine) : Machine × List Notice :=
  let expired := m.delay == 1
  let sounding := decide (0 < m.sound)
  ({ m with
      delay := if 0 < m.delay then m.delay - 1 else m.delay
      sound := if sounding then m.sound - 1 else m.sound
      delayExpired := expired
      beep := sounding },
    (if expired then [.delayExpired] else []) ++ (if sounding then [.beep] else []))

/-- The opcode at the program counter. A negative program counter counts from the end of memory. -/
def fetch (m : Machine) : Except Failure Opcode :=
  if 4096 ≤ m.pc + 1 then .error (.fault (.fetch m.pc))
  else do
    let high ← (m.memory.get m.pc).mapError Failure.access
    let low ← (m.memory.get (m.pc + 1)).mapError Failure.access
    return Opcode.ofBytes high low

/-- One cycle. -/
def cycle (m : Machine) (random : List UInt8) : Effect :=
  let m := { m with draw := false }
  match m.fetch with
  | .error f => ⟨m, random, [], some f⟩
  | .ok op =>
    let e := { m with pc := m.pc + 2 }.execute op random
    match e.failure with
    | some _ => e
    | none =>
      let (after, ticked) := e.machine.tick
      { e with machine := after, notices := e.notices ++ ticked }

/-- What several cycles have done: the effect of all of them together, and the state after each cycle
that did not fail. -/
structure Progress where
  effect : Effect
  states : List Machine

/-- Makes at most `n` cycles, and stops at the first one that fails. -/
def run : Nat → Machine → List UInt8 → Progress
  | 0, m, random => ⟨⟨m, random, [], none⟩, []⟩
  | n + 1, m, random =>
    let e := m.cycle random
    match e.failure with
    | some _ => ⟨e, []⟩
    | none =>
      let rest := run n e.machine e.random
      ⟨{ rest.effect with notices := e.notices ++ rest.effect.notices }, e.machine :: rest.states⟩

end Machine

end ChipEight
