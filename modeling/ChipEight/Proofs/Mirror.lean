import ChipEight.Proofs.Effects
import ChipEight.Proofs.Painting
import ChipEight.Proofs.Restart

/-!
# The window mirrors the screen

The host paints the window only when the machine signals that it has drawn, and clears it only when it
starts the machine again. That is enough: if the window reads as the screen of the machine does when a
run begins, it does so at every poll of the event queue and at the end of the run
(`Console.run_mirrors`). No cycle changes the screen without the signal, and one that fails does not
change it at all.
-/

namespace ChipEight

/-! ## Reloading -/

/-- If the policy is to start the machine again, the program can be read again and fits. -/
def Setup.Reloads (setup : Setup) (m : Machine) : Prop :=
  setup.policy = .reset →
    ∃ program, setup.read setup.program = .ok program ∧ program.size ≤ m.memory.capacity

namespace Console

variable {d : Display} {s : Int} {setup : Setup}

/-- The window reads as the screen of the machine does, pixel by pixel. -/
def Mirrors (c : Console d s) : Prop := c.window.Shows c.machine.screen

/-- The state between two turns: the machine is in a state that it can be in, the window mirrors its
screen, and the program can be loaded again if it has to be. -/
structure Faithful (setup : Setup) (c : Console d s) : Prop where
  reached : c.machine.Reachable
  mirrors : c.Mirrors
  reloads : setup.Reloads c.machine

/-- The state at the end of a run: the window mirrors the screen, and if a failure has ended the run, it is
one of the clock. -/
def Ends (setup : Setup) (c : Console d s) (ending : Ending) : Prop :=
  c.Mirrors ∧ ∀ e, ending = .failed e → ∃ e', Clock.tick setup.rate = .error e' ∧ e = .setup e'

theorem Ends.later {c : Console d s} {ending : Ending} (ends : c.Ends setup ending) (n : Nat) :
    c.Ends setup (ending.later n) := by
  cases ending with
  | failed e => exact ends
  | bounded | quit | crashed => exact ⟨ends.1, nofun⟩

section
variable (lawful : d.Lawful) (scale : 0 < s)
include lawful scale

/-- Starting the machine again clears both its screen and the window. -/
theorem faithful_restart {c : Console d s} (reached : c.machine.Reachable)
    (reloads : setup.Reloads c.machine) (policy : setup.policy = .reset) (f : Fault) :
    ∃ again, c.restart setup f = (again, none) ∧ again.Faithful setup := by
  obtain ⟨program, found, small⟩ := reloads policy
  obtain ⟨loaded, loads⟩ := Machine.exists_load_fresh small
  have again : (c.machine.act .reset).act (.load program) = loaded := by
    simp only [Machine.act, Machine.reset_eq_fresh, loads]
  obtain ⟨blank, platform⟩ : loaded.screen = Framebuffer.blank ∧
      loaded.memory.platform = c.machine.memory.platform := by
    obtain ⟨-, rfl⟩ := Machine.load_eq_ok_iff.1 loads
    exact ⟨rfl, Machine.platform_fresh _⟩
  refine ⟨_, restart_eq setup found loads, ?_, ?_, fun _ => ⟨program, found, ?_⟩⟩
  · exact again ▸ (reached.act .reset).act (.load program)
  · rw [Mirrors, blank]
    exact Window.shows_clear lawful scale c.window
  · rw [Memory.capacity, platform]
    exact small

/-- Showing the screen after a cycle does not fail, and makes the window mirror it. -/
theorem shows_refresh {c : Console d s} (kept : c.machine.draw = false → c.Mirrors) :
    ∃ window, c.refresh = ({ c with window }, none) ∧ window.Shows c.machine.screen := by
  unfold Console.refresh
  cases drawn : c.machine.draw with
  | true =>
    have painted := (Window.colourAt_draw lawful scale c.window c.machine.screen).1
    refine ⟨_, ?_, Window.shows_draw lawful scale c.window c.machine.screen⟩
    simp [painted]
  | false => exact ⟨c.window, by simp, kept drawn⟩

/-- A cycle, and what follows from it, leaves the window as faithful as it was. It ends a run with a
crash only. -/
theorem Faithful.advance {c : Console d s} (h : c.Faithful setup) :
    match c.advance setup with
    | (c, none) => c.Faithful setup
    | (c, some ending) => c.Mirrors ∧ ∃ text, ending = .crashed text := by
  have cycled := h.reached.bounded.cycled c.random
  have reached : c.cycle.1.machine.Reachable := h.reached.act (.move (.cycle c.random))
  have reloads : setup.Reloads c.cycle.1.machine := by
    have platform : c.cycle.1.machine.memory.platform = c.machine.memory.platform :=
      c.machine.platform_cycle c.random
    rw [Setup.Reloads, Memory.capacity, platform]
    exact h.reloads
  -- If the window is not painted, it still shows the screen from before the cycle.
  have kept (undrawn : c.cycle.2 ≠ none ∨ c.cycle.1.machine.draw = false) : c.cycle.1.Mirrors := by
    have screen : c.cycle.1.machine.screen = c.machine.screen :=
      cycled.screen_eq h.reached.bounded.soundness undrawn
    rw [Mirrors, screen]
    exact h.mirrors
  rcases h.reached.bounded.failure_cycle c.random with ok | ⟨f, fault⟩
  · obtain ⟨window, refreshed, shows⟩ :=
      shows_refresh lawful scale (c := c.cycle.1) fun undrawn => kept (.inr undrawn)
    rw [advance_of_ok setup ok, refreshed]
    exact ⟨reached, shows, reloads⟩
  · have failed : c.cycle.2 = some (.fault f) := fault
    rw [advance_of_fault setup fault]
    cases policy : setup.policy with
    | abort => exact ⟨kept (.inl (failed ▸ Option.some_ne_none _)), _, rfl⟩
    | reset =>
      obtain ⟨again, restarted, faithful⟩ := faithful_restart lawful scale reached reloads policy f
      dsimp only
      rw [restarted]
      exact faithful

/-- So does a turn, which may also end with the wish of the user or with a failure of the clock. -/
theorem Faithful.turn {c : Console d s} (h : c.Faithful setup) (events : List Event) :
    match c.turn setup events with
    | (c, none) => c.Faithful setup
    | (c, some ending) => c.Ends setup ending := by
  unfold Console.turn
  cases ticked : Clock.tick setup.rate with
  | error e =>
    refine ⟨h.mirrors, fun e' same => ⟨e, ticked, ?_⟩⟩
    cases same
    rfl
  | ok =>
    have faithful : (c.poll events).1.Faithful setup :=
      ⟨preserved_poll (fun _ a reached => reached.act a) h.reached events, h.mirrors, h.reloads⟩
    dsimp only
    generalize c.poll events = handled at *
    rcases handled with ⟨polled, _ | _⟩
    · exact ⟨faithful.mirrors, nofun⟩
    · have advanced := faithful.advance lawful scale
      dsimp only at advanced ⊢
      generalize polled.advance setup = after at *
      rcases after with ⟨next, _ | ending⟩
      · exact advanced
      · obtain ⟨mirrors, text, rfl⟩ := advanced
        exact ⟨mirrors, nofun⟩

end

/-! ## Runs -/

/-- On a display that keeps its promises, if the window mirrors the screen of the machine, it does so
whenever the event queue is polled and at the end of the run, however it ends, and however often the
machine was started again. Apart from the bound, the user and a crash, only the clock can end the run. A run
without a bound makes the turns of the runs with a bound, one after another, so that all its polls and its
end are among theirs. -/
theorem run_mirrors {c : Console d s} (lawful : d.Lawful) (scale : 1 ≤ s) (reached : c.machine.Reachable)
    (mirrors : c.Mirrors) (reloads : setup.Reloads c.machine) (bound : Nat)
    (batches : List (List Event)) :
    (∀ c' ∈ c.polled setup bound batches, c'.Mirrors) ∧
      (c.run setup bound batches).1.Mirrors ∧
      (c.run setup bound batches).1.polls = c.polls + (c.polled setup bound batches).length ∧
      ∀ e, (c.run setup bound batches).2 = .failed e →
        ∃ e', Clock.tick setup.rate = .error e' ∧ e = .setup e' := by
  obtain ⟨polls, ends, failed⟩ := run_invariant setup (P := Faithful setup) (Q := Ends setup)
    (fun c k h => ⟨h.mirrors, nofun⟩) (fun c ending ends => ends.later 1)
    (fun c events h => h.turn lawful scale events) bound batches ⟨reached, mirrors, reloads⟩
  exact ⟨fun c' inside => (polls c' inside).mirrors, ends, polls_run setup bound batches c, failed⟩

theorem mirrors_returning : returning.Mirrors :=
  Window.shows_clear Display.plain_lawful (by decide) (.plain 64 32 15)

/-- The window stays blank, as the screen of this machine does. -/
theorem run_mirrors_returning :
    Display.plain.Lawful ∧ returning.machine.Reachable ∧ returning.Mirrors ∧
      restarting.Reloads returning.machine ∧ (returning.run restarting 3 [[.keyDown "1"]]).1.Mirrors := by
  have reached : returning.machine.Reachable := Machine.reachable_returning
  have reloads : restarting.Reloads returning.machine := fun _ => ⟨#[0x00, 0xEE], rfl, by decide⟩
  exact ⟨Display.plain_lawful, reached, mirrors_returning, reloads,
    (run_mirrors Display.plain_lawful (by decide) reached mirrors_returning reloads 3 _).2.1⟩

end Console
end ChipEight
