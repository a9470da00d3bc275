import ChipEight.Proofs.Console

/-!
# What a run takes no notice of

Nothing that a console does depends on what was logged or counted before it. A `Relogging` changes both,
in a way that commutes with logging and with counting more; it then commutes with every turn
(`Console.turn_relogged`) and so with whole runs (`Console.run_relogged`): the same happens to the
machine, the window and the random bytes, and the run ends in the same way.
-/

namespace ChipEight

/-- A change of a log and of the numbers of polls and cycles, which makes no difference to what is logged
and counted from then on. -/
structure Relogging where
  log : Log → Log
  polls : Nat → Nat
  cycled : Nat → Nat
  record : ∀ (l : Log) (ns : List Notice), (log l).record ns = log (l.record ns)
  polls_succ : ∀ n, polls n + 1 = polls (n + 1)
  cycled_succ : ∀ n, cycled n + 1 = cycled (n + 1)

namespace Console

variable {d : Display} {s : Int}

/-- A console with its log and the numbers of its polls and cycles changed. -/
def relogged (f : Relogging) (c : Console d s) : Console d s :=
  { c with log := f.log c.log, polls := f.polls c.polls, cycled := f.cycled c.cycled }

variable (setup : Setup) (f : Relogging) (c : Console d s)

theorem report_relogged (ns : List Notice) :
    (c.relogged f).report ns = (c.report ns).relogged f := by
  simp only [report, relogged, f.record]

theorem poll_relogged (events : List Event) :
    (c.relogged f).poll events = ((c.poll events).1.relogged f, (c.poll events).2) := by
  simp only [poll, report, relogged, f.record, f.polls_succ]

theorem refresh_relogged :
    (c.relogged f).refresh = (c.refresh.1.relogged f, c.refresh.2) := by
  have machine : (c.relogged f).machine = c.machine := rfl
  unfold refresh
  rw [machine]
  split <;> rfl

theorem restart_relogged (fault : Fault) :
    (c.relogged f).restart setup fault =
      ((c.restart setup fault).1.relogged f, (c.restart setup fault).2) := by
  unfold restart
  dsimp only [report, relogged]
  split <;> simp only [f.record]

theorem cycle_relogged : (c.relogged f).cycle = (c.cycle.1.relogged f, c.cycle.2) := by
  simp only [cycle, report, relogged, f.record, f.cycled_succ]

theorem advance_relogged :
    (c.relogged f).advance setup = ((c.advance setup).1.relogged f, (c.advance setup).2) := by
  unfold advance
  rw [cycle_relogged]
  rcases c.cycle with ⟨c, _ | fault | e⟩
  · exact c.refresh_relogged f
  · dsimp only
    split
    · exact c.restart_relogged setup f fault
    · rw [report_relogged]
      rfl
  all_goals rfl

/-- A turn takes no notice of the log and of what was counted. -/
theorem turn_relogged (events : List Event) :
    (c.relogged f).turn setup events =
      ((c.turn setup events).1.relogged f, (c.turn setup events).2) := by
  unfold turn
  cases Clock.tick setup.rate with
  | error e => rfl
  | ok =>
    dsimp only
    rw [poll_relogged]
    rcases c.poll events with ⟨polled, _ | _⟩
    · rfl
    · exact advance_relogged setup f polled

/-- Nor does a run. -/
theorem run_relogged (bound : Nat) (batches : List (List Event)) :
    (c.relogged f).run setup bound batches =
        ((c.run setup bound batches).1.relogged f, (c.run setup bound batches).2) ∧
      (c.relogged f).polled setup bound batches =
        (c.polled setup bound batches).map (·.relogged f) := by
  induction bound generalizing batches c with
  | zero => exact ⟨rfl, rfl⟩
  | succ bound ih =>
    have changed := c.turn_relogged setup f (batches.headD [])
    cases turned : c.turn setup (batches.headD []) with
    | mk next ended =>
      rw [turned] at changed
      cases ended with
      | some ending =>
        rw [run_of_ended setup changed, run_of_ended setup turned, polled_of_ended setup changed,
          polled_of_ended setup turned]
        refine ⟨rfl, ?_⟩
        split <;> rfl
      | none =>
        obtain ⟨run, polled⟩ := ih next batches.tail
        rw [run_of_turned setup changed, run_of_turned setup turned, polled_of_turned setup changed,
          polled_of_turned setup turned, run, polled]
        exact ⟨rfl, rfl⟩

end Console
end ChipEight
