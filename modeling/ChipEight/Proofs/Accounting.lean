import ChipEight.Proofs.Keyboard
import ChipEight.Proofs.Restart

/-!
# The polls and cycles of a run

A run counts its polls of the event queue, and returns their number (`Console.length_polled`). Each of
them is followed by one cycle of the machine (`Console.machine_turn`), but for the one that finds the wish
to stop (`Console.cycled_run`), which is the last one (`Console.run_of_quits`). Cut at any place where its
bound could have been, a run is two runs one after the other (`Console.run_cut`); once it has ended
otherwise than by its bound, a greater bound makes no difference to it (`Console.run_stable`).
-/

namespace ChipEight

/-- How many polls of a run with this ending are not followed by a cycle, if the clock does not fail. -/
def Ending.idle : Ending → Nat
  | .quit _ => 1
  | _ => 0

@[simp] theorem Ending.idle_later (n : Nat) (ending : Ending) :
    (ending.later n).idle = ending.idle := by
  cases ending <;> rfl

namespace Console

variable {d : Display} {s : Int} (setup : Setup)

/-! ## Polls -/

/-- A poll follows every event to the keypad, and the host goes on unless one of them asks it to stop. -/
theorem poll_eq (c : Console d s) (events : List Event) :
    c.poll events =
      (report
        { c with
          machine := { c.machine with keypad := events.foldl Keypad.follow c.machine.keypad }
          polls := c.polls + 1 }
        (events.filterMap Keyboard.notice?),
      !events.any Keyboard.quits) := by
  rw [poll, Keyboard.handle_eq]

/-- A turn whose events ask the host to stop ends the run right after the poll. -/
theorem turn_of_quits {c : Console d s} {events : List Event}
    (ticks : Clock.tick setup.rate = .ok ()) (stops : events.any Keyboard.quits = true) :
    c.turn setup events = ((c.poll events).1, some (.quit 1)) := by
  rw [turn, ticks, poll_eq, stops]
  rfl

/-- A turn that asks the host to stop is one whose events do. -/
theorem quits_of_turn {c : Console d s} {events : List Event} {k : Nat}
    (ended : (c.turn setup events).2 = some (.quit k)) :
    k = 1 ∧ Clock.tick setup.rate = .ok () ∧ events.any Keyboard.quits = true := by
  unfold turn at ended
  rw [poll_eq] at ended
  split at ended
  · cases ended
  · next ticks =>
    cases stops : events.any Keyboard.quits with
    | true =>
      rw [stops] at ended
      cases ended
      exact ⟨rfl, ticks, rfl⟩
    | false =>
      rw [stops] at ended
      rcases ending_advance setup ended with ⟨text, ⟨⟩⟩ | ⟨e, ⟨⟩⟩

/-- A console that polls the event queue has got there by a run that reached its bound. -/
theorem run_of_polled {bound k : Nat} {batches : List (List Event)} {c before : Console d s}
    (polls : (c.polled setup bound batches)[k]? = some before) :
    c.run setup k batches = (before, .bounded k) ∧ k < bound ∧ Clock.tick setup.rate = .ok () := by
  induction bound generalizing batches c k with
  | zero => simp [polled] at polls
  | succ bound ih =>
    cases turned : c.turn setup (batches.headD []) with
    | mk next ended =>
      cases ended with
      | some ending =>
        rw [polled_of_ended setup turned] at polls
        cases ticks : Clock.tick setup.rate with
        | error e => simp [ticks] at polls
        | ok =>
          obtain ⟨rfl, rfl⟩ : k = 0 ∧ c = before := by
            cases k <;> simp_all
          exact ⟨rfl, Nat.succ_pos bound, rfl⟩
      | none =>
        rw [polled_of_turned setup turned] at polls
        cases k with
        | zero =>
          cases polls
          exact ⟨rfl, Nat.succ_pos bound, tick_of_turned setup turned⟩
        | succ k =>
          obtain ⟨ran, inside, ticks⟩ := ih polls
          rw [run_of_turned setup turned, ran]
          exact ⟨congrArg _ (congrArg Ending.bounded (Nat.add_comm 1 k)), Nat.succ_lt_succ inside, ticks⟩

/-- A run returns the number of its polls. -/
theorem length_polled {bound k : Nat} {batches : List (List Event)} {c last : Console d s}
    (returns : c.run setup bound batches = (last, .bounded k) ∨
      c.run setup bound batches = (last, .quit k)) :
    (c.polled setup bound batches).length = k := by
  induction bound generalizing batches c k with
  | zero => rcases returns with ⟨⟨⟩⟩ | ⟨⟨⟩⟩; rfl
  | succ bound ih =>
    cases turned : c.turn setup (batches.headD []) with
    | mk next ended =>
      cases ended with
      | some ending =>
        have ends : (c.turn setup (batches.headD [])).2 = some ending := congrArg Prod.snd turned
        rw [run_of_ended setup turned] at returns
        rw [polled_of_ended setup turned]
        rcases returns with ⟨⟨⟩⟩ | ⟨⟨⟩⟩
        · exact absurd rfl (ending_turn setup ends k)
        · obtain ⟨rfl, ticks, -⟩ := quits_of_turn setup ends
          rw [ticks]
          rfl
      | none =>
        rw [run_of_turned setup turned] at returns
        rw [polled_of_turned setup turned, List.length_cons]
        -- The rest of the run returns one less.
        cases rest : next.run setup bound batches.tail with
        | mk last' ending =>
          rw [rest] at returns
          cases ending with
          | bounded j =>
            obtain ⟨rfl, rfl⟩ : last' = last ∧ 1 + j = k := by simpa [Ending.later] using returns
            rw [ih (.inl rest), Nat.add_comm]
          | quit j =>
            obtain ⟨rfl, rfl⟩ : last' = last ∧ 1 + j = k := by simpa [Ending.later] using returns
            rw [ih (.inr rest), Nat.add_comm]
          | crashed | failed => simp [Ending.later] at returns

/-! ## Cycles -/

/-- A turn whose events do not ask the host to stop makes one cycle, of the machine with the keys as the
events leave them. -/
theorem machine_turn {c : Console d s} {events : List Event} (ticks : Clock.tick setup.rate = .ok ())
    (goesOn : events.any Keyboard.quits = false) :
    let pressed := { c.machine with keypad := events.foldl Keypad.follow c.machine.keypad }
    let next := (c.turn setup events).1
    next.machine = setup.onward (pressed.cycle c.random) ∧
      next.random = (pressed.cycle c.random).random ∧ next.cycled = c.cycled + 1 := by
  have goes : (c.poll events).2 = true := by
    rw [poll_eq, goesOn]
    rfl
  obtain ⟨window, log, advanced, -⟩ := (c.poll events).1.exists_advance_eq setup
  rw [← turn_of_goesOn setup ticks goes, poll_eq] at advanced
  intro pressed next
  rw [show next = _ from advanced]
  exact ⟨rfl, rfl, rfl⟩

/-- A turn makes a cycle unless it ends the run before it. -/
theorem cycled_turn (events : List Event) (c : Console d s) :
    (c.turn setup events).1.cycled + (c.turn setup events).2.elim 0 Ending.idle =
      match Clock.tick setup.rate with
      | .error _ => c.cycled
      | .ok () => c.cycled + 1 := by
  have polled : (c.poll events).1.cycled = c.cycled := rfl
  unfold turn
  cases Clock.tick setup.rate with
  | error e => rfl
  | ok =>
    rw [← polled]
    rcases c.poll events with ⟨polled, _ | _⟩
    · rfl
    · have idle : (polled.advance setup).2.elim 0 Ending.idle = 0 := by
        cases ended : (polled.advance setup).2 with
        | none => rfl
        | some ending => rcases ending_advance setup ended with ⟨text, rfl⟩ | ⟨e, rfl⟩ <;> rfl
      obtain ⟨window, log, advanced, -⟩ := polled.exists_advance_eq setup
      dsimp only
      rw [idle, advanced]

/-- Every poll is followed by a cycle, but for the one that finds the wish to stop. -/
theorem cycled_run (bound : Nat) (batches : List (List Event)) (c : Console d s) :
    (c.run setup bound batches).1.cycled + (c.run setup bound batches).2.idle =
      c.cycled + (c.polled setup bound batches).length := by
  induction bound generalizing batches c with
  | zero => rfl
  | succ bound ih =>
    have cycled := cycled_turn setup (batches.headD []) c
    cases turned : c.turn setup (batches.headD []) with
    | mk next ended =>
      rw [turned] at cycled
      cases ended with
      | some ending =>
        rw [run_of_ended setup turned, polled_of_ended setup turned]
        refine cycled.trans ?_
        cases Clock.tick setup.rate <;> rfl
      | none =>
        rw [tick_of_turned setup turned] at cycled
        rw [run_of_turned setup turned, polled_of_turned setup turned, Ending.idle_later,
          List.length_cons, ih, show next.cycled = c.cycled + 1 from cycled]
        omega

/-! ## Runs -/

/-- A run that reaches its bound has polled and made cycles as often, and any longer run from the same start
is it and then the run of the cycles and events that are left, which starts anew on the machine, the window
and the random bytes that the first has left. -/
theorem run_cut {m k : Nat} {batches : List (List Event)} {c past : Console d s}
    (ran : c.run setup m batches = (past, .bounded k)) :
    k = m ∧ past.polls = c.polls + m ∧ past.cycled = c.cycled + m ∧
      ∀ n,
        let again := start past.machine past.window (Log.empty c.log.threshold) past.random
        let left := batches.drop m
        c.run setup (m + n) batches =
            ((again.run setup n left).1.after past, (again.run setup n left).2.later m) ∧
          c.polled setup (m + n) batches =
            c.polled setup m batches ++ (again.polled setup n left).map (·.after past) := by
  obtain rfl := bound_of_run setup ran
  have polls := polls_run setup k batches c
  have cycled := cycled_run setup k batches c
  rw [ran, length_polled setup (.inl ran)] at polls cycled
  have fixed : c.Fixed c.machine.memory.platform c.log.threshold := ⟨rfl, rfl⟩
  have threshold : past.log.threshold = c.log.threshold := (ran ▸ fixed.run setup k batches).threshold
  refine ⟨rfl, polls, cycled, fun n => ?_⟩
  have whole :
      (start past.machine past.window (Log.empty c.log.threshold) past.random).after past = past :=
    threshold ▸ start_after past
  obtain ⟨run, polled⟩ := run_after setup n (batches.drop k)
    (start past.machine past.window (Log.empty c.log.threshold) past.random) past
  rw [whole] at run polled
  rw [run_add, polled_add, ran]
  dsimp only
  rw [run, polled]
  exact ⟨rfl, rfl⟩

/-- Once a run has ended otherwise than by its bound, a greater bound makes no difference. -/
theorem run_stable {m : Nat} {batches : List (List Event)} {c : Console d s}
    (ended : ∀ k, (c.run setup m batches).2 ≠ .bounded k) (n : Nat) :
    c.run setup (m + n) batches = c.run setup m batches := by
  rw [run_add]
  generalize c.run setup m batches = r at *
  obtain ⟨last, ending⟩ := r
  cases ending with
  | bounded k => exact absurd rfl (ended k)
  | quit | crashed | failed => rfl

/-- The first poll whose events ask the host to stop is the last one. All its events have reached the
keypad, and no cycle follows it. -/
theorem run_of_quits {bound k : Nat} {batches : List (List Event)} {c before : Console d s}
    (polls : (c.polled setup bound batches)[k]? = some before)
    (stops : ((batches.drop k).headD []).any Keyboard.quits = true) :
    c.run setup bound batches = ((before.poll ((batches.drop k).headD [])).1, .quit (k + 1)) := by
  obtain ⟨ran, inside, ticks⟩ := run_of_polled setup polls
  obtain ⟨n, rfl⟩ := Nat.exists_eq_add_of_lt inside
  rw [Nat.add_assoc, run_add, ran]
  dsimp only
  rw [run_of_ended setup (turn_of_quits setup ticks stops)]
  rfl

/-- The run up to a poll and the turn that begins with it. -/
theorem run_succ_of_polled {bound k : Nat} {batches : List (List Event)} {c before : Console d s}
    (polls : (c.polled setup bound batches)[k]? = some before) :
    (c.run setup (k + 1) batches).1 = (before.turn setup ((batches.drop k).headD [])).1 := by
  rw [run_add, (run_of_polled setup polls).1]
  dsimp only
  cases turned : before.turn setup ((batches.drop k).headD []) with
  | mk next ended =>
    cases ended with
    | some ending => rw [run_of_ended setup turned]
    | none =>
      rw [run_of_turned setup turned]
      rfl

/-- What a run is made of, and what it counts. A run that reaches its bound `m` has polled `m` times, has
made `m` cycles and returns `m`; a run with the bound `m + n` then comes to what a run with the bound `n`
comes to on the machine and the window that the first has left, with the events and random bytes that are
left: it logs what both log, in order, and counts what both count. A run that has ended in another way
comes to the same with every greater bound. A run that returns, returns the number of its polls. As many
cycles as polls were made before every poll. If its events do not ask the host to stop, one cycle follows
it, of the machine with the keys as the events leave them, and the run goes on with the machine
to which that leads. If they do, it is the last poll, all its events have reached the keypad, and no cycle
follows it. -/
theorem run_accounts (setup : Setup) (batches : List (List Event)) (c : Console d s) :
    (∀ m k past, c.run setup m batches = (past, .bounded k) →
      k = m ∧ past.polls = c.polls + m ∧ past.cycled = c.cycled + m ∧
        ∀ n,
          let again := start past.machine past.window (Log.empty c.log.threshold) past.random
          let left := batches.drop m
          c.run setup (m + n) batches =
              ((again.run setup n left).1.after past, (again.run setup n left).2.later m) ∧
            c.polled setup (m + n) batches =
              c.polled setup m batches ++ (again.polled setup n left).map (·.after past)) ∧
    (∀ m, (∀ k, (c.run setup m batches).2 ≠ .bounded k) → ∀ n,
      c.run setup (m + n) batches = c.run setup m batches) ∧
    (∀ m k last,
      c.run setup m batches = (last, .bounded k) ∨ c.run setup m batches = (last, .quit k) →
        last.polls = c.polls + k ∧ (c.polled setup m batches).length = k) ∧
    ∀ m k before, (c.polled setup m batches)[k]? = some before →
      let events := (batches.drop k).headD []
      let pressed :=
        { before.machine with keypad := events.foldl Keypad.follow before.machine.keypad }
      before.polls = c.polls + k ∧ before.cycled = c.cycled + k ∧
        (events.any Keyboard.quits = false →
          let next := (c.run setup (k + 1) batches).1
          next.cycled = c.cycled + k + 1 ∧
            next.machine = setup.onward (pressed.cycle before.random) ∧
            next.random = (pressed.cycle before.random).random) ∧
        (events.any Keyboard.quits = true →
          ∃ last, c.run setup m batches = (last, .quit (k + 1)) ∧
            last.machine = pressed ∧ last.cycled = c.cycled + k) := by
  refine ⟨fun m k past ran => run_cut setup ran, fun m ended n => run_stable setup ended n,
    fun m k last returns => ?_, fun m k before polls => ?_⟩
  · have counted := polls_run setup m batches c
    have length := length_polled setup returns
    rw [length] at counted
    rcases returns with ran | ran
    all_goals
      rw [ran] at counted
      exact ⟨counted, length⟩
  · obtain ⟨ran, -, ticks⟩ := run_of_polled setup polls
    obtain ⟨-, polled, cycled, -⟩ := run_cut setup ran
    refine ⟨polled, cycled, fun goesOn => ?_, fun stops => ?_⟩
    · rw [run_succ_of_polled setup polls, ← cycled]
      obtain ⟨machine, random, counted⟩ := machine_turn setup (c := before) ticks goesOn
      exact ⟨counted, machine, random⟩
    · refine ⟨_, run_of_quits setup polls stops, ?_, cycled⟩
      rw [poll_eq]
      rfl

/-- A machine that faults at once goes on if it is started again. -/
theorem turns_returning : ∃ past, returning.turn restarting [] = (past, none) := by
  obtain ⟨f, faults⟩ := faultsAfter_returning
  have fits : (#[0x00, 0xEE] : Array UInt8).size ≤ returning.machine.memory.capacity := by decide
  obtain ⟨loaded, loads⟩ := Machine.exists_load_fresh fits
  obtain ⟨past, turned, -⟩ := faults.turn rfl rfl loads
  exact ⟨past, turned⟩

/-- At the second poll the user presses a key and closes the window. -/
def leaving : List (List Event) := [[], [.keyDown "1", .quit]]

/-- The run returns at the second poll, after one cycle. -/
theorem run_accounts_returning :
    ∃ past last,
      returning.run restarting 1 leaving = (past, .bounded 1) ∧ past.polls = 1 ∧ past.cycled = 1 ∧
        returning.run restarting 7 leaving = (last, .quit 2) ∧ last.polls = 2 ∧ last.cycled = 1 ∧
        last.machine.keypad = past.machine.keypad.press 1 true := by
  obtain ⟨past, turned⟩ : ∃ past, returning.turn restarting (leaving.headD []) = (past, none) :=
    turns_returning
  have ran : returning.run restarting 1 leaving = (past, .bounded 1) := run_of_turned restarting turned
  have polls : (returning.polled restarting 7 leaving)[1]? = some past := by
    rw [polled_of_turned restarting turned, polled, tick_of_turned restarting turned]
    rfl
  obtain ⟨cut, -, returns, each⟩ := run_accounts restarting leaving returning
  obtain ⟨-, polled, cycled, -⟩ := cut 1 1 past ran
  obtain ⟨last, stopped, machine, counted⟩ := (each 7 1 past polls).2.2.2 rfl
  refine ⟨past, last, ran, polled, cycled, stopped, (returns 7 2 last (.inr stopped)).1, counted, ?_⟩
  rw [machine]
  rfl

end Console
end ChipEight
