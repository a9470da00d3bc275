import ChipEight.Proofs.Effects
import ChipEight.Proofs.Parity
import ChipEight.Proofs.Stages

/-!
# What a program can observe

A program sees neither the sound timer nor the signals to the host nor the opcode that was executed
last, and it sees keys by three opcodes only. `Machine.Unseen` is that part of a machine, and
`Machine.core` is what is left. Whatever the unseen part holds, an instruction does the same to the rest
(`Instr.effect_showing`), so that cycles from machines with the same core are alike
(`Machine.Sound.alike_cycle`), and so are runs, as long as the keys agree whenever one of the three
opcodes is fetched (`Machine.Reachable.observes`).
-/

namespace ChipEight

namespace Instr

/-- Whether an instruction looks at keys. -/
def ReadsKeys : Instr → Prop
  | skipPressed _ | skipReleased _ | awaitKey _ => True
  | _ => False

end Instr

namespace Machine

/-- What a program does not see of a machine, unless it asks for keys. -/
structure Unseen where
  sound : Int
  opcode : Opcode
  keypad : Keypad
  draw : Bool
  delayExpired : Bool
  beep : Bool

/-- What a program does not see of this machine. -/
def unseen (m : Machine) : Unseen := ⟨m.sound, m.opcode, m.keypad, m.draw, m.delayExpired, m.beep⟩

/-- The machine with another unseen part. -/
def showing (m : Machine) (u : Unseen) : Machine :=
  { m with
    sound := u.sound
    opcode := u.opcode
    keypad := u.keypad
    draw := u.draw
    delayExpired := u.delayExpired
    beep := u.beep }

/-- What a program sees of a machine: memory, stack, registers, program counter, index, delay timer and
screen. -/
def core (m : Machine) : Machine :=
  { m with
    sound := 0, opcode := 0, keypad := .released, draw := false, delayExpired := false, beep := false }

/-- The opcode that is fetched is one of those that look at keys. -/
def ReadsKeys (m : Machine) : Prop :=
  ∃ x : Fin 16, m.Fetches (0xE09E + 0x100 * x.val) ∨ m.Fetches (0xE0A1 + 0x100 * x.val) ∨
    m.Fetches (0xF00A + 0x100 * x.val)

variable {m m' : Machine} {u : Unseen}

/-- Machines with the same core differ in what a program does not see only. -/
theorem eq_showing (same : m.core = m'.core) : m' = m.showing m'.unseen :=
  (congrArg (·.showing m'.unseen) same).symm

theorem fetched_showing (op : Opcode) :
    (m.showing u).fetched op = (m.fetched op).showing { u with opcode := op, draw := false } := rfl

theorem fetch_showing : (m.showing u).fetch = m.fetch := rfl

/-- A machine that is about to execute an instruction which looks at keys has fetched its code. -/
theorem readsKeys_of_upcoming {i : Instr} (upcoming : m.upcoming? = some i) (reads : i.ReadsKeys) :
    m.ReadsKeys := by
  cases i with
  | skipPressed x => exact ⟨x, .inl ((fetches_iff fun _ => Iff.rfl).2 upcoming)⟩
  | skipReleased x => exact ⟨x, .inr (.inl ((fetches_iff fun _ => Iff.rfl).2 upcoming))⟩
  | awaitKey x => exact ⟨x, .inr (.inr ((fetches_iff fun _ => Iff.rfl).2 upcoming))⟩
  | _ => exact reads.elim

/-- The signals of the sound timer apart, what a tick reports does not depend on the unseen part. -/
theorem tick_showing :
    (m.showing u).tick.2.filter (· ≠ .beep) = m.tick.2.filter (· ≠ .beep) := by
  have beep (sounding : Bool) :
      (if sounding then [Notice.beep] else []).filter (· ≠ .beep) = [] := by
    cases sounding <;> rfl
  simp only [tick, List.filter_append, beep]
  rfl

end Machine

/-! ## Instructions -/

namespace Instr

variable {m : Machine} {u : Machine.Unseen} {i : Instr}

theorem fault?_showing : i.fault? (m.showing u) = i.fault? m := by cases i <;> rfl

theorem warning?_showing (opcode : u.opcode = m.opcode) :
    i.warning? (m.showing u) = i.warning? m := by
  cases i <;> simp only [warning?, Machine.showing, opcode] <;> rfl

theorem leftover_showing : i.leftover (m.showing u) = (i.leftover m).showing u := by
  cases i <;> rfl

/-- What an instruction does to the part that a program sees does not depend on the unseen part. Of
that, only the sound timer and the signal that something was drawn may change. -/
theorem effect_showing (keys : i.ReadsKeys → u.keypad = m.keypad) (draw : u.draw = m.draw)
    (random : UInt8) :
    ∃ sound, i.effect (m.showing u) random =
      (i.effect m random).showing { u with sound, draw := (i.effect m random).draw } := by
  obtain ⟨sound, opcode, keypad, _, expired, beep⟩ := u
  obtain rfl := draw
  cases i with
  | setSound x => exact ⟨(m.value x).toNat, rfl⟩
  | draw x y height =>
    refine ⟨sound, ?_⟩
    have same (n : Machine) (v : Machine.Unseen) :
        (n.showing v).Draws x y height ↔ n.Draws x y height := Iff.rfl
    simp only [effect, same]
    split <;> rfl
  | skipEqual | skipUnequal | skipSame | skipDifferent =>
    refine ⟨sound, ?_⟩
    simp only [effect, Machine.skipIf_eq]
    rfl
  | skipPressed x | skipReleased x =>
    obtain rfl := keys trivial
    refine ⟨sound, ?_⟩
    simp only [effect, Machine.skipIf_eq]
    rfl
  | awaitKey x =>
    obtain rfl := keys trivial
    refine ⟨sound, ?_⟩
    have same (v : Machine.Unseen) : (m.showing v).keypad = v.keypad := rfl
    simp only [effect, same]
    cases m.keypad.first? <;> rfl
  | _ => exact ⟨sound, rfl⟩

end Instr

/-! ## Cycles -/

/-- Two effects that differ in nothing which a program sees: they fail in the same way or not at all,
leave the same random bytes and the same core, and report the same, but for the sound timer. -/
structure Effect.Alike (e e' : Effect) : Prop where
  failure : e.failure = e'.failure
  random : e.random = e'.random
  core : e.machine.core = e'.machine.core
  draw : e.machine.draw = e'.machine.draw
  notices : e.notices.filter (· ≠ .beep) = e'.notices.filter (· ≠ .beep)

namespace Machine

variable {m m' : Machine}

/-- The machine with its sound timer at rest. -/
def mute (m : Machine) : Machine := { m with sound := 0, beep := false }

section
variable {u : Unseen} (keypad : m.keypad = u.keypad) (opcode : m.opcode = u.opcode)
  (draw : m.draw = u.draw)
include keypad opcode draw

theorem mute_showing (expired : m.delayExpired = u.delayExpired) : m.mute = (m.showing u).mute := by
  simp only [mute, showing, keypad, opcode, draw, expired]

/-- A tick makes up for a signal of the delay timer from before it. -/
theorem mute_ticked_showing : m.ticked.mute = (m.showing u).ticked.mute := by
  simp only [mute, ticked, tick, showing, keypad, opcode, draw]
  rfl

end

/-- Cycles from machines with the same core are alike, if the keys agree or are not looked at. Machines
that differ in their sound timers only still do so after a cycle. -/
theorem Sound.alike_cycle (h : m.Sound) (same : m.core = m'.core)
    (keys : m.ReadsKeys → m.keypad = m'.keypad) (random : List UInt8) :
    (m.cycle random).Alike (m'.cycle random) ∧
      (m.mute = m'.mute → (m.cycle random).machine.mute = (m'.cycle random).machine.mute) := by
  -- the second machine is the first one with another unseen part
  obtain ⟨u, rfl⟩ : ∃ u, m' = m.showing u := ⟨_, eq_showing same⟩
  have sound : (m.showing u).Sound := ⟨h.registers, h.index⟩
  have fetch' : (m.showing u).fetch = m.fetch := fetch_showing
  have kept (muted : m.mute = (m.showing u).mute) :
      m.keypad = u.keypad ∧ m.delayExpired = u.delayExpired := by
    injection muted with _ _ _ _ _ _ _ _ _ keypad _ expired _
    exact ⟨keypad, expired⟩
  cases fetch : m.fetch with
  | error f =>
    rw [cycle_of_unfetched fetch, cycle_of_unfetched (fetch'.trans fetch)]
    exact ⟨⟨rfl, rfl, rfl, rfl, rfl⟩, congrArg fun m : Machine => { m with draw := false }⟩
  | ok op =>
    rw [cycle_of_fetch h fetch, cycle_of_fetch sound (fetch'.trans fetch), fetched_showing]
    -- from here on both opcodes are the same, and nothing is drawn yet in either machine
    cases decoded : decode op with
    | none =>
      refine ⟨⟨rfl, rfl, rfl, rfl, ?_⟩, fun muted => mute_ticked_showing (kept muted).1 rfl rfl⟩
      exact congrArg (.unknownOpcode op (m.fetched op).instructionAddress :: ·) tick_showing.symm
    | some i =>
      have warning : i.warning? ((m.fetched op).showing { u with opcode := op, draw := false }) =
          i.warning? (m.fetched op) := Instr.warning?_showing rfl
      simp only [Instr.fault?_showing, warning]
      cases fault : i.fault? m with
      | some f =>
        simp only [Instr.leftover_showing]
        have left : (i.leftover (m.fetched op)).unseen = (m.fetched op).unseen := by cases i <;> rfl
        injection left with _ opcode keypad draw expired _
        refine ⟨⟨rfl, rfl, rfl, draw, rfl⟩, fun muted => ?_⟩
        exact mute_showing (keypad.trans (kept muted).1) opcode draw (expired.trans (kept muted).2)
      | none =>
        have touches := Instr.touches_effect (m := m.fetched op) ⟨h.registers, h.index⟩
          (random.headD 0) ((i.fault?_fetched op).trans fault)
        have upcoming : m.upcoming? = some i := (upcoming?_eq fetch).trans decoded
        obtain ⟨sound, effect⟩ := Instr.effect_showing (m := m.fetched op)
          (u := { u with opcode := op, draw := false })
          (fun reads => (keys (readsKeys_of_upcoming upcoming reads)).symm) rfl (random.headD 0)
        simp only [effect]
        refine ⟨⟨rfl, rfl, rfl, rfl, ?_⟩, fun muted => ?_⟩
        · simp only [List.filter_append, tick_showing]
          rfl
        · exact mute_ticked_showing (touches.keypad_eq.trans (kept muted).1) touches.opcode_eq rfl

/-! ## Runs -/

/-- What a program can observe. Two runs of machines that differ at most in what a program does not see
go alike, cycle by cycle, if the keys agree whenever an opcode is fetched that looks at them; at all other
times the keys may be any. In particular, the sound timer makes no difference to anything but itself and
its own signals. -/
theorem Reachable.observes (h : m.Reachable) (h' : m'.Reachable) (random : List UInt8) :
    (m.core = m'.core → ∀ keys : List (Keypad × Keypad),
      (∀ p ∈ (m.stages (keys.map Prod.fst) random).zip keys,
        p.1.machine.ReadsKeys → p.2.1 = p.2.2) →
      List.Forall₂ Effect.Alike (m.cycles (keys.map Prod.fst) random)
        (m'.cycles (keys.map Prod.snd) random)) ∧
      (m.mute = m'.mute → ∀ keypads : List Keypad,
        List.Forall₂ (fun e e' => e.Alike e' ∧ e.machine.mute = e'.machine.mute)
          (m.cycles keypads random) (m'.cycles keypads random)) := by
  constructor
  · intro same keys agree
    refine forall₂_cycles (R := fun m m' => m.core = m'.core)
      (K := fun s keys => s.machine.ReadsKeys → keys.1 = keys.2) ?_ h.bounded h'.bounded same agree
    intro m m' keys random h h' same agree
    have core : (m.stage keys.1 random).machine.core = (m'.stage keys.2 random).machine.core := same
    have alike := (h.stage keys.1 random).soundness.alike_cycle core agree random
    exact ⟨alike.1, alike.1.random, alike.1.core⟩
  · intro muted keypads
    have runs : ∀ keys : List (Keypad × Keypad), (∀ p ∈ keys, p.1 = p.2) →
        List.Forall₂ (fun e e' => e.Alike e' ∧ e.machine.mute = e'.machine.mute)
          (m.cycles (keys.map Prod.fst) random) (m'.cycles (keys.map Prod.snd) random) := by
      intro keys same
      refine forall₂_cycles (R := fun m m' => m.mute = m'.mute) (K := fun _ keys => keys.1 = keys.2) ?_
        h.bounded h'.bounded muted fun p mem => same _ (List.of_mem_zip mem).2
      intro m m' keys random h h' muted same
      have core : (m.stage keys.1 random).machine.core = (m'.stage keys.2 random).machine.core := by
        show m.mute.core = m'.mute.core
        rw [muted]
      have muted : (m.stage keys.1 random).machine.mute = (m'.stage keys.2 random).machine.mute := by
        rw [← same]
        exact congrArg (fun m : Machine => { m with keypad := keys.1 }) muted
      have alike := (h.stage keys.1 random).soundness.alike_cycle core (fun _ => same) random
      exact ⟨⟨alike.1, alike.2 muted⟩, alike.1.random, alike.2 muted⟩
    have twice := runs (keypads.map fun keypad => (keypad, keypad)) (by simp)
    simpa [Function.comp_def] using twice

/-- A key that is pressed while a program clears the screen is not seen by the program. -/
theorem observes_clearing :
    clearing.Reachable ∧ (clearing.act (.move (.press 3 true))).Reachable ∧
      List.Forall₂ Effect.Alike (clearing.cycles [.released] [])
        ((clearing.act (.move (.press 3 true))).cycles [Keypad.released.press 3 true] []) := by
  have reached := reachable_clearing.act (.move (.press 3 true))
  have unread : ¬(clearing.stage .released []).machine.ReadsKeys := by
    have code : (clearing.stage .released []).machine.Fetches 0x00E0 := fetches_clearing .released
    rintro ⟨x, pressed | released | await⟩
    · have := code.eq pressed
      omega
    · have := code.eq released
      omega
    · have := code.eq await
      omega
  refine ⟨reachable_clearing, reached, ?_⟩
  refine (reachable_clearing.observes reached []).1 rfl [(.released, Keypad.released.press 3 true)] ?_
  exact List.forall_mem_singleton.2 fun reads => absurd reads unread

end Machine
end ChipEight
