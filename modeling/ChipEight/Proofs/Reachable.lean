import ChipEight.Machine.Cycle

/-!
# States that a machine can be in

While a program runs, a host makes a machine go through cycles, whether they fail or not, and writes
to its keypad (`Move`). Between programs it may also load another one and bring the machine back to
its start (`Action`). The states that come about in this way from a new machine are the `Reachable`
ones.
-/

namespace ChipEight

/-- What a host does to a machine while a program runs. -/
inductive Move
  /-- One cycle, with the random bytes that are there for it. -/
  | cycle (random : List UInt8)
  /-- A key is pressed or released. -/
  | press (key : Fin 16) (down : Bool)

/-- Whatever a host does to a machine. -/
inductive Action
  | move (move : Move)
  /-- A program is loaded, if it fits. -/
  | load (program : Array UInt8)
  /-- A program is loaded from a file, if it can be read and fits. -/
  | loadFile (read : Reader) (path : String)
  /-- The machine is brought back to its start. -/
  | reset

namespace Machine

/-- The machine after a move. A cycle that fails leaves what it had changed by then. -/
def move (m : Machine) : Move → Machine
  | .cycle random => (m.cycle random).machine
  | .press key down => { m with keypad := m.keypad.press key down }

/-- The machine after several moves. -/
def moves (m : Machine) (actions : List Move) : Machine := actions.foldl move m

/-- The machine after an action. Loading that fails leaves the machine as it was. -/
def act (m : Machine) : Action → Machine
  | .move a => m.move a
  | .load program =>
    match m.load program with
    | .ok m => m
    | .error _ => m
  | .loadFile read path =>
    match m.loadFile read path with
    | .ok (m, _) => m
    | .error _ => m
  | .reset => m.reset

/-- The states that a machine can be in. -/
inductive Reachable : Machine → Prop
  | fresh (platform : Platform) : Reachable (fresh platform)
  | act {m : Machine} (reached : Reachable m) (a : Action) : Reachable (m.act a)

variable {m : Machine}

@[simp] theorem moves_nil : m.moves [] = m := rfl

@[simp] theorem moves_cons (a : Move) (rest : List Move) :
    m.moves (a :: rest) = (m.move a).moves rest := rfl

/-- Whatever moves are made, the machine stays in a state that it can be in. -/
theorem Reachable.moves (h : m.Reachable) (actions : List Move) : (m.moves actions).Reachable := by
  induction actions generalizing m with
  | nil => exact h
  | cons a rest ih => exact ih (h.act (.move a))

/-- A cycle leads to a state that the machine can be in, whether it fails or not. -/
theorem Reachable.cycle (h : m.Reachable) (random : List UInt8) : (m.cycle random).machine.Reachable :=
  h.act (.move (.cycle random))

/-! ## Loading -/

/-- A program that is loaded fits into the workspace, and nothing else of the machine changes. -/
theorem load_eq_ok_iff {program : Array UInt8} {m' : Machine} :
    m.load program = .ok m' ↔
      program.size ≤ m.memory.capacity ∧
        m' = { m with memory := m.memory.overlay m.memory.platform.workspaceStart program } := by
  simp only [load, Memory.load]
  split
  · next fits =>
    simp only [Except.map, Except.ok.injEq, fits, true_and]
    exact eq_comm
  · next long => simp [Except.map, long]

theorem platform_fresh (p : Platform) : (fresh p).memory.platform = p := rfl

/-- A program that fits into the workspace of a machine can be loaded into a new one. -/
theorem exists_load_fresh {program : Array UInt8} (fits : program.size ≤ m.memory.capacity) :
    ∃ loaded, (fresh m.memory.platform).load program = .ok loaded := by
  refine ⟨_, load_eq_ok_iff.2 ⟨?_, rfl⟩⟩
  rwa [Memory.capacity, platform_fresh]

/-- Loading a file that can be read is loading the program in it. -/
theorem loadFile_of_read {read : Reader} {path : String} {program : Array UInt8}
    (found : read path = .ok program) :
    m.loadFile read path =
      match m.memory.load program with
      | .ok memory => .ok ({ m with memory }, .loaded path program.size)
      | .error f => .error (.fault f) := by
  rw [loadFile, Memory.loadFile, Memory.loadFrom, Source.program, found]
  show Except.map _ (Except.bind ((m.memory.load program).mapError Failure.fault) fun memory =>
    .ok (memory, program.size)) = _
  cases m.memory.load program <;> rfl

/-- A file that is loaded holds a program that is loaded. -/
theorem loadFile_eq_ok {read : Reader} {path : String} {m' : Machine} {n : Notice}
    (h : m.loadFile read path = .ok (m', n)) :
    ∃ program, read path = .ok program ∧ m.load program = .ok m' := by
  cases found : read path with
  | error e =>
    rw [loadFile, Memory.loadFile, Memory.loadFrom, Source.program, found] at h
    cases h
  | ok program =>
    rw [loadFile_of_read found] at h
    cases loaded : m.memory.load program with
    | error f =>
      rw [loaded] at h
      cases h
    | ok memory =>
      rw [loaded] at h
      cases h
      refine ⟨program, rfl, ?_⟩
      rw [load, loaded]
      rfl

end Machine

end ChipEight
