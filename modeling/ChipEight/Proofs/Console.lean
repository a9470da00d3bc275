import ChipEight.Console
import ChipEight.Proofs.Keyboard
import ChipEight.Proofs.Reachable

/-!
# Turns of a console

A run of a console is made of turns. `Console.turn` is one of them, from a poll of the event queue to the
next, and the run of one more cycle is a turn and a run (`Console.run_of_turned`). So two runs one after the
other are one run (`Console.run_add`), and what every turn preserves holds at every poll and at the end
(`Console.run_invariant`). What a turn does besides a poll is said once (`Console.exists_advance_eq`): it makes
one cycle, and goes on with the machine that this leads to (`Setup.onward`). So it does nothing to the
machine but what hosts do to machines (`Console.preserved_turn`). `Console.polled` lists the consoles as
they are when the queue is polled.
-/

namespace ChipEight

/-! ## Counting cycles -/

namespace Ending

/-- The ending of a run that was preceded by `n` cycles. -/
def later (n : Nat) : Ending → Ending
  | bounded k => bounded (n + k)
  | quit k => quit (n + k)
  | crashed text => crashed text
  | failed e => failed e

@[simp] theorem later_zero (ending : Ending) : ending.later 0 = ending := by
  cases ending <;> simp [later]

@[simp] theorem later_later (m n : Nat) (ending : Ending) :
    (ending.later m).later n = ending.later (n + m) := by
  cases ending <;> simp [later, Nat.add_assoc]

end Ending

/-! ## Turns -/

/-- The machine that a run goes on with after a cycle: under `Policy.reset`, a fault leads to a machine that
was reset, with the program loaded if it can be. -/
def Setup.onward (setup : Setup) (e : Effect) : Machine :=
  match setup.policy, e.failure with
  | .reset, some (.fault _) => e.machine.reset.act (.loadFile setup.read setup.program)
  | _, _ => e.machine

namespace Console

variable {d : Display} {s : Int} (setup : Setup)

/-- Showing the screen changes the window only. -/
theorem exists_refresh_eq (c : Console d s) : ∃ window, c.refresh.1 = { c with window } := by
  unfold refresh
  split
  · exact ⟨_, rfl⟩
  · exact ⟨c.window, rfl⟩

/-- Starting the machine again resets it and loads the program if it can be. Apart from that, it changes
the window and the log only, and not its threshold. -/
theorem exists_restart_eq (c : Console d s) (f : Fault) :
    ∃ window log,
      (c.restart setup f).1 =
          { c with
            machine := c.machine.reset.act (.loadFile setup.read setup.program)
            window
            log } ∧
        log.threshold = c.log.threshold := by
  have reset : (report { c with machine := c.machine.reset } [.resetting f]).machine =
      c.machine.reset := rfl
  unfold restart
  simp only [Machine.act, reset]
  split
  · next unread =>
    rw [unread]
    exact ⟨_, _, rfl, rfl⟩
  · next read =>
    rw [read]
    exact ⟨_, _, rfl, rfl⟩

/-- To advance is to make one cycle and to go on with the machine that it leads to. Apart from that, it
changes the window and the log only, and not its threshold. -/
theorem exists_advance_eq (c : Console d s) :
    ∃ window log,
      (c.advance setup).1 =
          { c with
            machine := setup.onward (c.machine.cycle c.random)
            window
            random := (c.machine.cycle c.random).random
            log
            cycled := c.cycled + 1 } ∧
        log.threshold = c.log.threshold := by
  have cycled : c.cycle = (c.cycle.1, (c.machine.cycle c.random).failure) := rfl
  unfold advance Setup.onward
  rw [cycled]
  rcases (c.machine.cycle c.random).failure with _ | f | f
  · obtain ⟨window, refreshed⟩ := c.cycle.1.exists_refresh_eq
    cases setup.policy <;> exact ⟨window, _, refreshed, rfl⟩
  · cases setup.policy with
    | abort => exact ⟨c.window, _, rfl, rfl⟩
    | reset =>
      obtain ⟨window, log, restarted, threshold⟩ := c.cycle.1.exists_restart_eq setup f
      exact ⟨window, log, restarted, threshold⟩
  all_goals cases setup.policy <;> exact ⟨c.window, _, rfl, rfl⟩

/-- One turn of the loop, and the ending of the run if the run ends with it. -/
def turn (events : List Event) (c : Console d s) : Console d s × Option Ending :=
  match Clock.tick setup.rate with
  | .error e => (c, some (.failed (.setup e)))
  | .ok () =>
    match c.poll events with
    | (c, false) => (c, some (.quit 1))
    | (c, true) => c.advance setup

/-- Starting the machine again puts it back to its start, loads its program and clears the window, if the
program can be read and fits. -/
theorem restart_eq {c : Console d s} {f : Fault} {program : Array UInt8} {loaded : Machine}
    (found : setup.read setup.program = .ok program)
    (loads : (Machine.fresh c.machine.memory.platform).load program = .ok loaded) :
    c.restart setup f =
      ({ c with
          machine := loaded
          window := c.window.clear
          log := (c.log.record [.resetting f]).record [.loaded setup.program program.size] },
        none) := by
  have read : c.machine.reset.loadFile setup.read setup.program =
      .ok (loaded, .loaded setup.program program.size) := by
    rw [Machine.reset_eq_fresh, Machine.loadFile_of_read found]
    rw [Machine.load] at loads
    cases memory : (Machine.fresh c.machine.memory.platform).memory.load program with
    | error e =>
      rw [memory] at loads
      cases loads
    | ok memory' =>
      rw [memory] at loads
      cases loads
      rfl
  unfold restart
  simp only [report, read]

/-- A turn that is not asked to stop advances. -/
theorem turn_of_goesOn {c : Console d s} {events : List Event} (ticks : Clock.tick setup.rate = .ok ())
    (goesOn : (c.poll events).2 = true) : c.turn setup events = (c.poll events).1.advance setup := by
  unfold turn
  rw [ticks]
  generalize c.poll events = polled at *
  rcases polled with ⟨c, _ | _⟩
  · cases goesOn
  · rfl

/-- If the machine does not fail, its screen is shown. -/
theorem advance_of_ok {c : Console d s} (ok : (c.machine.cycle c.random).failure = none) :
    c.advance setup = c.cycle.1.refresh := by
  have sound : c.cycle.2 = none := ok
  unfold advance
  generalize c.cycle = made at *
  obtain ⟨next, ended⟩ := made
  cases sound
  rfl

/-- A fault leads to what the policy is. -/
theorem advance_of_fault {c : Console d s} {f : Fault}
    (faults : (c.machine.cycle c.random).failure = some (.fault f)) :
    c.advance setup =
      match setup.policy with
      | .reset => c.cycle.1.restart setup f
      | .abort => (report c.cycle.1 [.crashed f], some (.crashed (crashText c.cycle.1.machine))) := by
  have fails : c.cycle.2 = some (.fault f) := faults
  unfold advance
  generalize c.cycle = made at *
  obtain ⟨next, ended⟩ := made
  cases fails
  cases setup.policy <;> rfl

/-- A cycle ends a run with a crash or a failure only. -/
theorem ending_advance {c : Console d s} {ending : Ending} (ended : (c.advance setup).2 = some ending) :
    (∃ text, ending = .crashed text) ∨ ∃ e, ending = .failed e := by
  unfold advance at ended
  split at ended
  · unfold refresh at ended
    split at ended
    · obtain ⟨e, -, rfl⟩ := Option.map_eq_some_iff.1 ended
      exact .inr ⟨_, rfl⟩
    · cases ended
  · split at ended
    · unfold restart at ended
      dsimp only at ended
      split at ended
      · cases ended
        exact .inr ⟨_, rfl⟩
      · cases ended
    · cases ended
      exact .inl ⟨_, rfl⟩
  · cases ended
    exact .inr ⟨_, rfl⟩

/-- A turn does not end a run because its bound is reached. -/
theorem ending_turn {c : Console d s} {events : List Event} {ending : Ending}
    (ended : (c.turn setup events).2 = some ending) (k : Nat) : ending ≠ .bounded k := by
  rintro rfl
  unfold turn at ended
  split at ended
  · cases ended
  split at ended
  · cases ended
  · rcases ending_advance setup ended with ⟨text, ⟨⟩⟩ | ⟨e, ⟨⟩⟩

section
variable {P : Machine → Prop} (acts : ∀ m a, P m → P (m.act a)) {c : Console d s}
include acts

/-- What actions preserve, every poll does: it presses and releases keys. -/
theorem preserved_poll (h : P c.machine) (events : List Event) : P (c.poll events).1.machine := by
  have followed {m : Machine} (h : P m) (events : List Event) :
      P { m with keypad := events.foldl Keypad.follow m.keypad } := by
    induction events generalizing m with
    | nil => exact h
    | cons e events ih =>
      have pressed : P { m with keypad := m.keypad.follow e } := by
        unfold Keypad.follow
        split
        · exact acts m (.move (.press _ _)) h
        · exact h
      exact ih pressed
  rw [poll, Keyboard.handle_eq]
  exact followed h events

/-- So does every turn. -/
theorem preserved_turn (h : P c.machine) (events : List Event) :
    P (c.turn setup events).1.machine := by
  have advanced {c : Console d s} (h : P c.machine) : P (c.advance setup).1.machine := by
    have cycled : P (c.machine.cycle c.random).machine := acts _ (.move (.cycle c.random)) h
    obtain ⟨window, log, advanced, -⟩ := c.exists_advance_eq setup
    rw [advanced, Setup.onward]
    split
    · exact acts _ (.loadFile setup.read setup.program) (acts _ .reset cycled)
    · exact cycled
  have polled := preserved_poll acts h events
  unfold turn
  split
  · exact h
  · generalize c.poll events = handled at *
    rcases handled with ⟨next, _ | _⟩
    · exact polled
    · exact advanced polled

end

/-- The loop is made of turns. -/
theorem loop_succ (bound cycles : Nat) (batches : List (List Event)) (c : Console d s) :
    loop setup (bound + 1) cycles batches c =
      match c.turn setup (batches.headD []) with
      | (c, some ending) => (c, ending.later cycles)
      | (c, none) => loop setup bound (cycles + 1) batches.tail c := by
  rw [loop, turn]
  cases Clock.tick setup.rate with
  | error e => rfl
  | ok =>
    rcases c.poll (batches.headD []) with ⟨c, _ | _⟩
    · rfl
    · cases advanced : c.advance setup with
      | mk after ended =>
        cases ended with
        | none => simp only [advanced]
        | some ending =>
          have kinds := ending_advance setup (congrArg Prod.snd advanced)
          have same : ending.later cycles = ending := by
            rcases kinds with ⟨text, rfl⟩ | ⟨e, rfl⟩ <;> rfl
          simp only [advanced, same]

/-- Cycles that were counted before a run only add to the number of its cycles. -/
theorem loop_eq_run (bound cycles : Nat) (batches : List (List Event)) (c : Console d s) :
    loop setup bound cycles batches c =
      ((c.run setup bound batches).1, (c.run setup bound batches).2.later cycles) := by
  rw [run]
  induction bound generalizing cycles batches c with
  | zero => simp [loop, Ending.later]
  | succ bound ih =>
    rw [loop_succ, loop_succ]
    rcases c.turn setup (batches.headD []) with ⟨c, _ | ending⟩
    · dsimp only
      rw [ih (cycles + 1), ih (0 + 1), Ending.later_later, Nat.zero_add]
    · simp

section
variable {bound : Nat} {batches : List (List Event)} {c next : Console d s} {ending : Ending}

/-- A turn that ends the run is the last one. -/
theorem run_of_ended (turned : c.turn setup (batches.headD []) = (next, some ending)) :
    c.run setup (bound + 1) batches = (next, ending) := by
  rw [run, loop_succ, turned]
  simp

/-- A turn that does not end the run is followed by the run of the cycles that are left. -/
theorem run_of_turned (turned : c.turn setup (batches.headD []) = (next, none)) :
    c.run setup (bound + 1) batches =
      ((next.run setup bound batches.tail).1, (next.run setup bound batches.tail).2.later 1) := by
  rw [run, loop_succ, turned]
  exact loop_eq_run ..

end

/-- A run that reaches its bound has made as many cycles. -/
theorem bound_of_run {bound k : Nat} {batches : List (List Event)} {c c' : Console d s}
    (ran : c.run setup bound batches = (c', .bounded k)) : k = bound := by
  induction bound generalizing batches c k with
  | zero =>
    cases ran
    rfl
  | succ bound ih =>
    cases turned : c.turn setup (batches.headD []) with
    | mk next ended =>
      cases ended with
      | some ending =>
        rw [run_of_ended setup turned] at ran
        cases ran
        exact absurd rfl (ending_turn setup (congrArg Prod.snd turned) k)
      | none =>
        rw [run_of_turned setup turned] at ran
        cases rest : next.run setup bound batches.tail with
        | mk last ending =>
          rw [rest] at ran
          cases ending with
          | bounded j =>
            cases ran
            rw [ih rest, Nat.add_comm]
          | quit | crashed | failed => cases ran

/-- Two runs one after the other are one run. -/
theorem run_add (m n : Nat) (batches : List (List Event)) (c : Console d s) :
    c.run setup (m + n) batches =
      match c.run setup m batches with
      | (c, .bounded k) =>
        ((c.run setup n (batches.drop m)).1, (c.run setup n (batches.drop m)).2.later k)
      | (c, ending) => (c, ending) := by
  induction m generalizing batches c with
  | zero =>
    have start : c.run setup 0 batches = (c, .bounded 0) := rfl
    simp [start]
  | succ m ih =>
    rw [Nat.succ_add]
    cases turned : c.turn setup (batches.headD []) with
    | mk next ended =>
      cases ended with
      | none =>
        rw [run_of_turned setup turned, run_of_turned setup turned, ih, List.drop_tail]
        rcases next.run setup m batches.tail with ⟨last, k | k | text | e⟩
        · simp only [Ending.later_later]
          rfl
        all_goals rfl
      | some ending =>
        rw [run_of_ended setup turned, run_of_ended setup turned]
        cases ending with
        | bounded k => exact absurd rfl (ending_turn setup (congrArg Prod.snd turned) k)
        | quit | crashed | failed => rfl

/-! ## Polls -/

/-- The consoles of a run as they are when the event queue is polled. -/
def polled : (bound : Nat) → List (List Event) → Console d s → List (Console d s)
  | 0, _, _ => []
  | bound + 1, batches, c =>
    match Clock.tick setup.rate with
    | .error _ => []
    | .ok () =>
      c :: match c.turn setup (batches.headD []) with
        | (_, some _) => []
        | (c, none) => polled bound batches.tail c

/-- A turn that does not end the run has waited for the clock. -/
theorem tick_of_turned {events : List Event} {c next : Console d s}
    (turned : c.turn setup events = (next, none)) : Clock.tick setup.rate = .ok () := by
  unfold turn at turned
  split at turned
  · cases turned
  · assumption

section
variable {bound : Nat} {batches : List (List Event)} {c next : Console d s} {ending : Ending}

theorem polled_of_ended (turned : c.turn setup (batches.headD []) = (next, some ending)) :
    c.polled setup (bound + 1) batches =
      match Clock.tick setup.rate with
      | .error _ => []
      | .ok () => [c] := by
  rw [polled, turned]

theorem polled_of_turned (turned : c.turn setup (batches.headD []) = (next, none)) :
    c.polled setup (bound + 1) batches = c :: next.polled setup bound batches.tail := by
  rw [polled, turned, tick_of_turned setup turned]

end

/-- Two runs one after the other poll as one run does. -/
theorem polled_add (m n : Nat) (batches : List (List Event)) (c : Console d s) :
    c.polled setup (m + n) batches =
      c.polled setup m batches ++
        match c.run setup m batches with
        | (c, .bounded _) => c.polled setup n (batches.drop m)
        | _ => [] := by
  induction m generalizing batches c with
  | zero =>
    have start : c.run setup 0 batches = (c, .bounded 0) := rfl
    simp [start, polled]
  | succ m ih =>
    rw [Nat.succ_add]
    cases turned : c.turn setup (batches.headD []) with
    | mk next ended =>
      cases ended with
      | none =>
        rw [polled_of_turned setup turned, polled_of_turned setup turned, run_of_turned setup turned, ih,
          List.drop_tail, List.cons_append]
        rcases next.run setup m batches.tail with ⟨last, k | k | text | e⟩ <;> rfl
      | some ending =>
        rw [polled_of_ended setup turned, polled_of_ended setup turned, run_of_ended setup turned]
        cases ending with
        | bounded k => exact absurd rfl (ending_turn setup (congrArg Prod.snd turned) k)
        | quit | crashed | failed => rw [List.append_nil]

/-- What holds at the start of a run and after every turn that does not end it holds at every poll of
the event queue; and so does what follows from it at the end of the run, in whichever way it ends. -/
theorem run_invariant {P : Console d s → Prop} {Q : Console d s → Ending → Prop}
    (bounded : ∀ c k, P c → Q c (.bounded k))
    (later : ∀ c ending, Q c ending → Q c (ending.later 1))
    (turns : ∀ c events, P c →
      match c.turn setup events with
      | (c, none) => P c
      | (c, some ending) => Q c ending)
    (bound : Nat) (batches : List (List Event)) {c : Console d s} (h : P c) :
    (∀ c' ∈ c.polled setup bound batches, P c') ∧
      Q (c.run setup bound batches).1 (c.run setup bound batches).2 := by
  induction bound generalizing batches c with
  | zero => exact ⟨List.forall_mem_nil _, bounded c 0 h⟩
  | succ bound ih =>
    have after := turns c (batches.headD []) h
    cases turned : c.turn setup (batches.headD []) with
    | mk next ended =>
      rw [turned] at after
      cases ended with
      | some ending =>
        rw [run_of_ended setup turned, polled_of_ended setup turned]
        refine ⟨fun c' inside => ?_, after⟩
        split at inside
        · cases inside
        · rwa [List.mem_singleton.1 inside]
      | none =>
        obtain ⟨polls, ends⟩ := ih batches.tail after
        rw [run_of_turned setup turned, polled_of_turned setup turned]
        exact ⟨List.forall_mem_cons.2 ⟨h, polls⟩, later _ _ ends⟩

/-- A turn polls the event queue once, unless the clock fails before it. -/
theorem polls_turn (events : List Event) (c : Console d s) :
    (c.turn setup events).1.polls =
      match Clock.tick setup.rate with
      | .error _ => c.polls
      | .ok () => c.polls + 1 := by
  have polled : (c.poll events).1.polls = c.polls + 1 := rfl
  unfold turn
  cases Clock.tick setup.rate with
  | error e => rfl
  | ok =>
    rw [← polled]
    rcases c.poll events with ⟨c, _ | _⟩
    · rfl
    · obtain ⟨window, log, advanced, -⟩ := c.exists_advance_eq setup
      dsimp only
      rw [advanced]

/-- Every poll of the event queue is listed. -/
theorem polls_run (bound : Nat) (batches : List (List Event)) (c : Console d s) :
    (c.run setup bound batches).1.polls = c.polls + (c.polled setup bound batches).length := by
  induction bound generalizing batches c with
  | zero => rfl
  | succ bound ih =>
    have polls := polls_turn setup (batches.headD []) c
    cases turned : c.turn setup (batches.headD []) with
    | mk next ended =>
      cases ended with
      | some ending =>
        rw [run_of_ended setup turned, polled_of_ended setup turned]
        rw [turned] at polls
        rw [polls]
        split <;> rfl
      | none =>
        rw [run_of_turned setup turned, ih, polled_of_turned setup turned, List.length_cons]
        rw [turned, tick_of_turned setup turned] at polls
        rw [show next.polls = c.polls + 1 from polls]
        omega

end Console
end ChipEight
