import ChipEight.Proofs.Accounting
import ChipEight.Proofs.Mirror

/-!
# How runs end

If the clock does not fail, the display keeps its promises, so that every window can be painted, and the
program can be read again where it has to be, then only the user, the bound and, under `Policy.abort`, a
fault end a run. So a run that comes to a batch of events with the wish to stop returns there, unless there
was a fault before under that policy (`Console.quits_or_faults`), which ends it with a dump of the machine
(`Console.FaultsAfter.run_abort`).
-/

namespace ChipEight

/-! ## Restarting -/

/-- A machine in a state that it can be in, whose program can be read again if it has to be. -/
structure Machine.Restartable (setup : Setup) (m : Machine) : Prop where
  reached : m.Reachable
  reloads : setup.Reloads m

theorem Machine.Restartable.act {setup : Setup} {m : Machine} (h : m.Restartable setup) (a : Action) :
    (m.act a).Restartable setup where
  reached := h.reached.act a
  reloads := by
    rw [Setup.Reloads, Memory.capacity, platform_act]
    exact h.reloads

namespace Console

variable {d : Display} {s : Int} {setup : Setup}

/-- Starting the machine again does not end a run if its program can be read again. -/
theorem restart_ok {c : Console d s} (h : c.machine.Restartable setup) (policy : setup.policy = .reset)
    (f : Fault) : (c.restart setup f).2 = none := by
  obtain ⟨program, found, small⟩ := h.reloads policy
  obtain ⟨loaded, loads⟩ := Machine.exists_load_fresh small
  rw [restart_eq setup found loads]

/-! ## Turns -/

section
variable (lawful : d.Lawful) (scale : 0 < s)
include lawful scale

/-- Showing the screen does not end a run. -/
theorem refresh_ok (c : Console d s) : c.refresh.2 = none := by
  obtain ⟨painted, -⟩ := Window.colourAt_draw lawful scale c.window c.machine.screen
  unfold refresh
  split
  · simp [painted]
  · rfl

/-- A cycle ends a run only at a fault, and only if that is the policy. -/
theorem advance_ok {c : Console d s} (h : c.machine.Restartable setup) :
    (c.advance setup).2 = none ∨
      setup.policy = .abort ∧ ∃ f, (c.machine.cycle c.random).failure = some (.fault f) := by
  have restartable : c.cycle.1.machine.Restartable setup := h.act (.move (.cycle c.random))
  rcases h.reached.bounded.failure_cycle c.random with ok | ⟨f, fault⟩
  · rw [advance_of_ok setup ok]
    exact .inl (refresh_ok lawful scale c.cycle.1)
  · rw [advance_of_fault setup fault]
    cases policy : setup.policy with
    | abort => exact .inr ⟨rfl, f, fault⟩
    | reset => exact .inl (restart_ok restartable policy f)

/-- A turn ends a run only if its events ask for it, or at a fault. -/
theorem turn_ok (ticks : Clock.tick setup.rate = .ok ()) {c : Console d s}
    (h : c.machine.Restartable setup) {events : List Event} (goes : events.any Keyboard.quits = false) :
    (c.turn setup events).2 = none ∨
      setup.policy = .abort ∧
        ∃ f, ((c.poll events).1.machine.cycle c.random).failure = some (.fault f) := by
  have polled : (c.poll events).1.machine.Restartable setup :=
    preserved_poll (fun _ a h => h.act a) h events
  have goesOn : (c.poll events).2 = true := by rw [poll_eq, goes]; rfl
  rw [turn_of_goesOn setup ticks goesOn]
  exact advance_ok lawful scale polled

end

/-! ## Faults -/

/-- Under `Policy.abort` the turn of a fault ends the run with a dump of the machine as the cycle has left
it. -/
theorem FaultsAfter.turn_abort {batches : List (List Event)} {c before : Console d s} {k : Nat} {f : Fault}
    (h : FaultsAfter setup batches c k before f) (policy : setup.policy = .abort) :
    (before.turn setup ((batches.drop k).headD [])).2 =
      some (.crashed (crashText
        ((before.poll ((batches.drop k).headD [])).1.machine.cycle before.random).machine)) := by
  obtain ⟨-, ticks, goesOn, fault⟩ := h
  rw [turn_of_goesOn setup ticks goesOn, advance_of_fault setup fault, policy]
  rfl

/-- So the run ends there, with one poll more. -/
theorem FaultsAfter.run_abort {batches : List (List Event)} {c before : Console d s} {k : Nat} {f : Fault}
    (h : FaultsAfter setup batches c k before f) (policy : setup.policy = .abort) {bound : Nat}
    (inside : k < bound) :
    (c.run setup bound batches).2 =
        .crashed (crashText
          ((before.poll ((batches.drop k).headD [])).1.machine.cycle before.random).machine) ∧
      (c.run setup bound batches).1.polls = c.polls + (k + 1) := by
  obtain ⟨n, rfl⟩ := Nat.exists_eq_add_of_lt inside
  have ended := h.turn_abort policy
  have polls := polls_turn setup ((batches.drop k).headD []) before
  cases turned : before.turn setup ((batches.drop k).headD []) with
  | mk last ending =>
    rw [turned] at ended polls
    subst ended
    rw [h.ticks] at polls
    have counted : last.polls = c.polls + (k + 1) := by
      rw [show last.polls = before.polls + 1 from polls, (run_cut setup h.ran).2.1, Nat.add_assoc]
    rw [Nat.add_assoc, run_add, h.ran]
    dsimp only
    rw [run_of_ended setup turned]
    exact ⟨rfl, counted⟩

/-! ## Runs -/

/-- A run whose events ask it to stop at some point does so when they do it first, unless it comes to a
fault before under `Policy.abort`. -/
theorem quits_or_faults (lawful : d.Lawful) (scale : 0 < s) (ticks : Clock.tick setup.rate = .ok ())
    {batches : List (List Event)} (stops : ∃ b ∈ batches, b.any Keyboard.quits = true) {bound : Nat}
    (long : batches.length ≤ bound) {c : Console d s} (h : c.machine.Restartable setup) :
    (c.run setup bound batches).2 = .quit (batches.findIdx (·.any Keyboard.quits) + 1) ∨
      setup.policy = .abort ∧
        ∃ k before f, k < bound ∧ FaultsAfter setup batches c k before f := by
  induction batches generalizing bound c with
  | nil => simp at stops
  | cons events rest ih =>
    obtain ⟨bound, rfl⟩ : ∃ n, bound = n + 1 := Nat.exists_eq_add_one.2 (by simp at long; omega)
    cases stop : events.any Keyboard.quits with
    | true =>
      have turned : c.turn setup ((events :: rest).headD []) = ((c.poll events).1, some (.quit 1)) :=
        turn_of_quits setup ticks stop
      left
      rw [run_of_ended setup turned, List.findIdx_cons, stop]
      rfl
    | false =>
      rcases turn_ok lawful scale ticks h stop with ended | ⟨policy, f, fault⟩
      · have restartable := preserved_turn setup (P := Machine.Restartable setup)
          (fun _ a h => h.act a) h events
        have stops : ∃ b ∈ rest, b.any Keyboard.quits = true := by
          obtain ⟨b, hb, asks⟩ := stops
          rcases List.mem_cons.1 hb with rfl | hb
          · rw [stop] at asks
            cases asks
          · exact ⟨b, hb, asks⟩
        cases turned : c.turn setup events with
        | mk next ending =>
          rw [turned] at ended restartable
          subst ended
          have turned : c.turn setup ((events :: rest).headD []) = (next, none) := turned
          rw [run_of_turned setup turned, List.tail_cons]
          rcases ih stops (Nat.le_of_succ_le_succ long) restartable with
            quit | ⟨policy, k, before, f, inside, faults⟩
          · left
            rw [quit, List.findIdx_cons, stop]
            exact congrArg Ending.quit (Nat.add_comm 1 _)
          · refine .inr ⟨policy, k + 1, before, f, Nat.succ_lt_succ inside, ?_, ticks, faults.goesOn,
              faults.fault⟩
            rw [run_of_turned setup turned, List.tail_cons, faults.ran]
            exact congrArg (Prod.mk before) (congrArg Ending.bounded (Nat.add_comm 1 k))
      · refine .inr ⟨policy, 0, c, f, Nat.succ_pos bound, rfl, ticks, ?_, fault⟩
        rw [poll_eq, List.drop_zero, List.headD_cons, stop]
        rfl

/-- A run that returns has polled as often as it says. -/
theorem polls_of_quit {bound k : Nat} {batches : List (List Event)} {c : Console d s}
    (quit : (c.run setup bound batches).2 = .quit k) :
    (c.run setup bound batches).1.polls = c.polls + k := by
  rw [polls_run, length_polled setup (.inr (Prod.ext rfl quit))]

/-- How a run ends whose events ask it to stop at some point. Under `Policy.reset` it returns at the first
batch with the wish to stop; so it does under `Policy.abort` if it comes to no fault before, and if it
does, it ends there with a dump of the machine. -/
theorem run_to_stop (lawful : d.Lawful) (scale : 0 < s) (ticks : Clock.tick setup.rate = .ok ())
    {batches : List (List Event)} (stops : ∃ b ∈ batches, b.any Keyboard.quits = true) {bound : Nat}
    (long : batches.length ≤ bound) {c : Console d s} (h : c.machine.Restartable setup) :
    ((setup.policy = .reset ∨ ∀ k before f, ¬FaultsAfter setup batches c k before f) →
      (c.run setup bound batches).2 = .quit (batches.findIdx (·.any Keyboard.quits) + 1) ∧
        (c.run setup bound batches).1.polls =
          c.polls + (batches.findIdx (·.any Keyboard.quits) + 1)) ∧
    (setup.policy = .abort → ∀ k before f, FaultsAfter setup batches c k before f →
      (c.run setup bound batches).2 =
          .crashed (crashText
            ((before.poll ((batches.drop k).headD [])).1.machine.cycle before.random).machine) ∧
        (c.run setup bound batches).1.polls = c.polls + (k + 1)) := by
  have ends := quits_or_faults lawful scale ticks stops long h
  constructor
  · intro unfaulted
    rcases ends with quit | ⟨policy, k, before, f, -, faults⟩
    · exact ⟨quit, polls_of_quit quit⟩
    · rcases unfaulted with reset | none
      · rw [reset] at policy
        cases policy
      · exact absurd faults (none k before f)
  · intro policy k before f faults
    refine faults.run_abort policy (Nat.lt_of_not_le fun beyond => ?_)
    -- Otherwise the run would have reached its bound.
    have unbounded : ∀ j, (c.run setup bound batches).2 ≠ .bounded j := by
      intro j reached
      rcases ends with quit | ⟨-, k, before, f, inside, faults⟩
      · rw [quit] at reached
        cases reached
      · rw [(faults.run_abort policy inside).1] at reached
        cases reached
    obtain ⟨n, rfl⟩ := Nat.exists_eq_add_of_le beyond
    have ran := faults.ran
    rw [run_stable setup unbounded] at ran
    exact unbounded _ (congrArg Prod.snd ran)

end Console
end ChipEight
