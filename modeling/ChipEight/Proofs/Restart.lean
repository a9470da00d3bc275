import ChipEight.Proofs.Faults
import ChipEight.Proofs.Painting
import ChipEight.Proofs.Relogging

/-!
# After a restart

A fault under `Policy.reset` leaves nothing of the machine and the window behind: the machine is a new one
with its program loaded, and the window is as windows open. So the run goes on as that of a console which
has just started does (`Console.run_after_fault`). All that it keeps is what was logged and counted so
far (`Console.after`), and no run looks at that (`Console.run_after`).
-/

namespace ChipEight

/-- A log with the notices of an earlier one in front. -/
def Log.after (l past : Log) : Log := { l with notices := past.notices ++ l.notices }

theorem Log.record_after (l past : Log) (ns : List Notice) :
    (l.after past).record ns = (l.record ns).after past := by
  simp only [record, after, Log.mk.injEq, true_and]
  apply Array.toList_inj.1
  simp only [Array.toList_appendList, Array.toList_append, List.append_assoc]

namespace Console

variable {d : Display} {s : Int} (setup : Setup)

/-- A console with what an earlier one has logged and counted. -/
def after (c past : Console d s) : Console d s :=
  { c with
    log := c.log.after past.log
    polls := past.polls + c.polls
    cycled := past.cycled + c.cycled }

/-! ## The past has no influence -/

/-- A past is a change of the log and of what was counted. -/
def past (past : Console d s) : Relogging where
  log := (·.after past.log)
  polls := (past.polls + ·)
  cycled := (past.cycled + ·)
  record l ns := l.record_after past.log ns
  polls_succ n := Nat.add_assoc past.polls n 1
  cycled_succ n := Nat.add_assoc past.cycled n 1

/-- What was logged and counted before a run makes no difference to it. -/
theorem run_after (bound : Nat) (batches : List (List Event)) (c past : Console d s) :
    (c.after past).run setup bound batches =
        ((c.run setup bound batches).1.after past, (c.run setup bound batches).2) ∧
      (c.after past).polled setup bound batches =
        (c.polled setup bound batches).map (·.after past) :=
  c.run_relogged setup past.past bound batches

/-- A console that has just started has no past. -/
theorem start_after (c : Console d s) :
    (start c.machine c.window (Log.empty c.log.threshold) c.random).after c = c := by
  simp [start, after, Log.after, Log.empty]

/-! ## What stays the same -/

/-- The platform of the machine, and the severity from which on notices are logged. -/
structure Fixed (p : Platform) (t : Severity) (c : Console d s) : Prop where
  platform : c.machine.memory.platform = p
  threshold : c.log.threshold = t

/-- No turn changes the severity from which on notices are logged. -/
theorem threshold_turn (events : List Event) (c : Console d s) :
    (c.turn setup events).1.log.threshold = c.log.threshold := by
  have advanced (c : Console d s) : (c.advance setup).1.log.threshold = c.log.threshold := by
    obtain ⟨window, log, advanced, threshold⟩ := c.exists_advance_eq setup
    rw [advanced, threshold]
  have polled : (c.poll events).1.log.threshold = c.log.threshold := rfl
  unfold turn
  split
  · rfl
  · generalize c.poll events = handled at *
    rcases handled with ⟨next, _ | _⟩
    · exact polled
    · exact (advanced next).trans polled

namespace Fixed

variable {p : Platform} {t : Severity} {c : Console d s} (fixed : c.Fixed p t)
include fixed

theorem turn (events : List Event) : (c.turn setup events).1.Fixed p t where
  platform :=
    preserved_turn setup (P := (·.memory.platform = p))
      (fun _ a on => (Machine.platform_act a).trans on) fixed.platform events
  threshold := (threshold_turn setup events c).trans fixed.threshold

theorem run (bound : Nat) (batches : List (List Event)) : (c.run setup bound batches).1.Fixed p t := by
  refine (run_invariant setup (P := Fixed p t) (Q := fun c _ => c.Fixed p t) (fun _ _ h => h)
    (fun _ _ h => h) (fun c events h => ?_) bound batches fixed).2
  have turned := h.turn setup events
  generalize c.turn setup events = after at *
  rcases after with ⟨next, _ | ending⟩ <;> exact turned

end Fixed

/-! ## The turn of a fault -/

/-- A run does not end before cycle `k + 1`, which comes to a fault. -/
structure FaultsAfter (batches : List (List Event)) (c : Console d s) (k : Nat) (before : Console d s)
    (f : Fault) : Prop where
  ran : c.run setup k batches = (before, .bounded k)
  ticks : Clock.tick setup.rate = .ok ()
  goesOn : (before.poll ((batches.drop k).headD [])).2 = true
  fault : ((before.poll ((batches.drop k).headD [])).1.machine.cycle before.random).failure =
    some (.fault f)

variable {setup}

/-- The turn of the fault leaves a new machine with the program loaded, and clears the window. -/
theorem FaultsAfter.turn {batches : List (List Event)} {c before : Console d s} {k : Nat} {f : Fault}
    (h : FaultsAfter setup batches c k before f) (policy : setup.policy = .reset)
    {program : Array UInt8} (found : setup.read setup.program = .ok program) {loaded : Machine}
    (loads : (Machine.fresh before.machine.memory.platform).load program = .ok loaded) :
    ∃ past, before.turn setup ((batches.drop k).headD []) = (past, none) ∧
      past.machine = loaded ∧ past.window = before.window.clear ∧
      past.random = ((before.poll ((batches.drop k).headD [])).1.machine.cycle before.random).random := by
  obtain ⟨-, ticks, goesOn, fault⟩ := h
  have platform : ((before.poll ((batches.drop k).headD [])).1.machine.cycle
      before.random).machine.memory.platform = before.machine.memory.platform :=
    Machine.platform_cycle _ _
  rw [turn_of_goesOn setup ticks goesOn, advance_of_fault setup fault, policy]
  exact ⟨_, restart_eq setup found (platform ▸ loads), rfl, rfl, rfl⟩

/-! ## Runs -/

/-- A reset brings any machine back to a new one. So under `Policy.reset`, if the cycle `k + 1` of a run
comes to a fault and the program can be read and fits, then from there on the run is the one of a new
machine with the program loaded and of a cleared window, which is as a window that just opened, for the
cycles, the events and the random bytes that are left: they come to the same consoles at every poll and at
the end, but for what was logged and counted before, and end in the same way, but for the cycles that were
made before. -/
theorem run_after_fault :
    (∀ m : Machine, m.reset = Machine.fresh m.memory.platform) ∧
      ∀ (setup : Setup) (batches : List (List Event)) (c before : Console d s) (k : Nat) (f : Fault)
        (program : Array UInt8), FaultsAfter setup batches c k before f → setup.policy = .reset →
        setup.read setup.program = .ok program → program.size ≤ c.machine.memory.capacity →
        ∃ loaded past,
          (Machine.fresh c.machine.memory.platform).load program = .ok loaded ∧
          c.run setup (k + 1) batches = (past, .bounded (k + 1)) ∧
          past.machine = loaded ∧ past.window = before.window.clear ∧
          (d.Lawful → ∀ opened, Window.create d 64 32 s = .ok opened → past.window = opened) ∧
          past.random =
            ((before.poll ((batches.drop k).headD [])).1.machine.cycle before.random).random ∧
          ∀ n,
            let again := start loaded past.window (Log.empty c.log.threshold) past.random
            let left := batches.drop (k + 1)
            c.run setup (k + 1 + n) batches =
                ((again.run setup n left).1.after past, (again.run setup n left).2.later (k + 1)) ∧
              c.polled setup (k + 1 + n) batches =
                c.polled setup (k + 1) batches ++ (again.polled setup n left).map (·.after past) := by
  refine ⟨Machine.reset_eq_fresh, fun setup batches c before k f program h policy found fits => ?_⟩
  have fixed : c.Fixed c.machine.memory.platform c.log.threshold := ⟨rfl, rfl⟩
  obtain ⟨loaded, loads⟩ := Machine.exists_load_fresh fits
  have fixed' := fixed.run setup k batches
  rw [h.ran] at fixed'
  obtain ⟨past, turned, machine, window, random⟩ := h.turn policy found (fixed'.platform.symm ▸ loads)
  have ran : c.run setup (k + 1) batches = (past, .bounded (k + 1)) := by
    rw [run_add, h.ran]
    simp only [run_of_turned setup turned]
    rfl
  have threshold : past.log.threshold = c.log.threshold :=
    (ran ▸ fixed.run setup (k + 1) batches).threshold
  refine ⟨loaded, past, loads, ran, machine, window, fun lawful opened opens => ?_, random, fun n => ?_⟩
  · exact window.trans (Window.clear_eq_of_create lawful opens before.window)
  -- The console after the turn of the fault is a new one with a past.
  have again :
      (start loaded past.window (Log.empty c.log.threshold) past.random).after past = past := by
    rw [← machine, ← threshold]
    exact start_after past
  obtain ⟨run, polled⟩ := run_after setup n (batches.drop (k + 1))
    (start loaded past.window (Log.empty c.log.threshold) past.random) past
  rw [again] at run polled
  rw [run_add, polled_add, ran]
  dsimp only
  rw [run, polled]
  exact ⟨rfl, rfl⟩

/-- A machine that faults at once, with a window that just opened. -/
def returning : Console .plain 15 :=
  start Machine.returning (.plain 64 32 15) (Log.empty .warning) []

/-- It is started again after every fault. -/
def restarting : Setup := ⟨.reset, fun _ => .ok #[0x00, 0xEE], "return", 300⟩

theorem faultsAfter_returning : ∃ f, FaultsAfter restarting [] returning 0 returning f := by
  obtain ⟨f, failed⟩ := Machine.failure_returning
  exact ⟨f, rfl, by decide +kernel, rfl, failed⟩

/-- The console is as it started after its first cycle, since that comes to a fault. -/
theorem run_after_fault_returning :
    ∃ f, FaultsAfter restarting [] returning 0 returning f ∧ restarting.policy = .reset ∧
      restarting.read restarting.program = .ok #[0x00, 0xEE] ∧
      2 ≤ returning.machine.memory.capacity ∧
      ∃ past, returning.run restarting 1 [] = (past, .bounded 1) ∧
        past.machine = returning.machine ∧ past.window = returning.window := by
  obtain ⟨f, faults⟩ := faultsAfter_returning
  have platform : Machine.returning.memory.platform = .standard := Machine.platform_act _
  have fits : 2 ≤ returning.machine.memory.capacity := by
    show 2 ≤ Machine.returning.memory.capacity
    rw [Memory.capacity, platform]
    decide
  obtain ⟨loaded, past, loads, ran, machine, -, window, -⟩ :=
    run_after_fault.2 restarting [] returning returning 0 f #[0x00, 0xEE] faults rfl rfl fits
  have same : loaded = Machine.returning := by
    rw [show returning.machine.memory.platform = .standard from platform] at loads
    simp only [Machine.returning, Machine.act, loads]
  exact ⟨f, faults, rfl, rfl, fits, past, ran, machine.trans same, window Display.plain_lawful _ rfl⟩

end Console
end ChipEight
