import ChipEight.Proofs.Bounds
import ChipEight.Proofs.Normal

/-!
# Runs, stage by stage

A run makes cycles one after another, whether they fail or not, with the keys of the keypad as they are
pressed before each (`Machine.cycles`). `Machine.stages` keeps for every cycle the state from which it
starts, so that what a cycle reports can be compared with what it was given, and `Machine.finish` is the
state in which the run ends.
-/

namespace ChipEight

/-- One cycle of a run: the machine from which it starts, and the random bytes that are there for it. -/
structure Stage where
  machine : Machine
  random : List UInt8

/-- What the cycle does. -/
def Stage.effect (s : Stage) : Effect := s.machine.cycle s.random

namespace Machine

/-- The cycle that a machine makes with some keys pressed. -/
def stage (m : Machine) (keypad : Keypad) (random : List UInt8) : Stage := ⟨{ m with keypad }, random⟩

/-- The cycles of a run. Each takes the random bytes that the ones before it have left. -/
def stages : List Keypad → Machine → List UInt8 → List Stage
  | [], _, _ => []
  | keypad :: rest, m, random =>
    let s := m.stage keypad random
    s :: stages rest s.effect.machine s.effect.random

/-- The machine after a run. -/
def finish : List Keypad → Machine → List UInt8 → Machine
  | [], m, _ => m
  | keypad :: rest, m, random =>
    let s := m.stage keypad random
    finish rest s.effect.machine s.effect.random

variable {m : Machine}

/-- The effects of a run are those of its stages. -/
theorem cycles_eq (keypads : List Keypad) (random : List UInt8) :
    m.cycles keypads random = (m.stages keypads random).map Stage.effect := by
  induction keypads generalizing m random with
  | nil => rfl
  | cons keypad rest ih => exact congrArg _ (ih _)

/-- Pressing keys keeps to the bounds. -/
theorem Bounded.stage (h : m.Bounded) (keypad : Keypad) (random : List UInt8) :
    (m.stage keypad random).machine.Bounded :=
  { h with }

/-- Every cycle of a run starts within the bounds. -/
theorem Bounded.stages (h : m.Bounded) (keypads : List Keypad) (random : List UInt8) :
    ∀ s ∈ m.stages keypads random, s.machine.Bounded := by
  induction keypads generalizing m random with
  | nil => exact List.forall_mem_nil _
  | cons keypad rest ih =>
    have pressed := h.stage keypad random
    exact List.forall_mem_cons.2 ⟨pressed, ih (pressed.cycle random) _⟩

/-- Two runs go alike if each cycle does: what holds of two machines before a cycle, and of the stage and
the keys in it, has to give what is to hold of the effects, and to hold of the machines again. -/
theorem forall₂_cycles {R : Machine → Machine → Prop} {K : Stage → Keypad × Keypad → Prop}
    {E : Effect → Effect → Prop}
    (step : ∀ {m m' : Machine} {keys : Keypad × Keypad} {random : List UInt8}, m.Bounded →
      m'.Bounded → R m m' → K (m.stage keys.1 random) keys →
      let e := (m.stage keys.1 random).effect
      let e' := (m'.stage keys.2 random).effect
      E e e' ∧ e.random = e'.random ∧ R e.machine e'.machine)
    {m' : Machine} (h : m.Bounded) (h' : m'.Bounded) (related : R m m')
    {keys : List (Keypad × Keypad)} {random : List UInt8}
    (fine : ∀ p ∈ (m.stages (keys.map Prod.fst) random).zip keys, K p.1 p.2) :
    List.Forall₂ E (m.cycles (keys.map Prod.fst) random) (m'.cycles (keys.map Prod.snd) random) := by
  induction keys generalizing m m' random with
  | nil => exact .nil
  | cons key rest ih =>
    obtain ⟨here, later⟩ := List.forall_mem_cons.1 fine
    obtain ⟨effects, bytes, machines⟩ := step h h' related here
    refine .cons effects ?_
    have rest := ih ((h.stage key.1 random).cycle random) ((h'.stage key.2 random).cycle random)
      machines later
    exact bytes ▸ rest

end Machine
end ChipEight
