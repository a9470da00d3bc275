import ChipEight.Proofs.Reachable

/-!
# What no instruction changes

A machine stays one for the platform that it was made for, whatever is done to it
(`Machine.platform_act`), and so its workspace stays where it is. If its delay timer and its index are in
range, they stay there (`Machine.InRange.act`), so that the timer is read as it is
(`Machine.InRange.read_delay`). One pass over the instructions shows both (`Machine.Steady`). Nothing else is
assumed of the machine: an access that is denied does not change that either.
-/

namespace ChipEight

/-- A machine is for the same platform as another, and in range if that is. -/
def Machine.Steady (m m₀ : Machine) : Prop :=
  m.memory.platform = m₀.memory.platform ∧ (m₀.InRange → m.InRange)

/-- Whatever a change gives, it is such a machine. -/
def Machine.Keeps (m₀ : Machine) (change : Except AccessError Machine) : Prop :=
  ∀ m, change = .ok m → m.Steady m₀

/-- The machine of an outcome is such a machine. -/
def Outcome.Steady (out : Outcome) (m₀ : Machine) : Prop := out.machine.Steady m₀

/-! ## Changes -/

namespace Machine.Keeps

variable {m₀ m : Machine}

theorem ok (on : m.Steady m₀) : m₀.Keeps (.ok m) := by
  rintro _ ⟨⟩
  exact on

theorem bind {α : Type} {access : Except AccessError α} {next : α → Except AccessError Machine}
    (keeps : ∀ a, access = .ok a → m₀.Keeps (next a)) : m₀.Keeps (access >>= next) := by
  cases access with
  | error e => rintro _ ⟨⟩
  | ok a => exact keeps a rfl

theorem map {α : Type} {access : Except AccessError α} {next : α → Machine}
    (keeps : ∀ a, access = .ok a → (next a).Steady m₀) : m₀.Keeps (access.map next) := by
  cases access with
  | error e => rintro _ ⟨⟩
  | ok a => exact ok (keeps a rfl)

theorem setRegister (on : m.Steady m₀) (x : Fin 16) (v : UInt8) : m₀.Keeps (m.setRegister x v) :=
  map fun _ _ => on

end Machine.Keeps

namespace Outcome.Steady

variable {m₀ m : Machine} (on : m.Steady m₀)
include on

theorem attempted {change : Except AccessError Machine} (keeps : m₀.Keeps change) :
    (attempted m change).Steady m₀ := by
  cases change with
  | error e => exact on
  | ok m' => exact keeps m' rfl

theorem after {α : Type} {access : Except AccessError α} {next : α → Outcome}
    (keeps : ∀ a, access = .ok a → (next a).Steady m₀) : (after m access next).Steady m₀ := by
  cases access with
  | error e => exact on
  | ok a => exact keeps a rfl

end Outcome.Steady

/-! ## Instructions -/

namespace Machine

variable {m₀ m : Machine} (on : m.Steady m₀)
include on

theorem steady_skipIf (condition : Bool) : (m.skipIf condition).Steady m₀ := by
  rw [skipIf_eq]
  exact on

theorem steady_returnFromCall : m.returnFromCall.Steady m₀ := by
  unfold returnFromCall
  split
  · exact on
  · dsimp only
    split <;> exact on

theorem steady_callAt (address : Int) : (m.callAt address).Steady m₀ := by
  unfold callAt
  split
  · split <;> exact on
  · exact on

theorem steady_skipIfKey (x : Fin 16) (pressed : Bool) : (m.skipIfKey x pressed).Steady m₀ := by
  refine .after on fun key _ => ?_
  split
  · exact on
  · exact steady_skipIf on _

theorem steady_awaitKey (x : Fin 16) : (m.awaitKey x).Steady m₀ := by
  unfold awaitKey
  split
  · exact on
  · exact .after on fun key _ => .attempted on (.setRegister on _ _)

theorem steady_setWithFlag (x : Fin 16) (v : UInt8) (flag : Bool) :
    (m.setWithFlag x v flag).Steady m₀ := by
  refine .after on fun m' set => ?_
  have on' : m'.Steady m₀ := Keeps.setRegister on x v m' set
  exact .attempted on' (.setRegister on' _ _)

theorem steady_storeDigits (x : Fin 16) : (m.storeDigits x).Steady m₀ := by
  have kept {mem mem' : Memory} {j : Int} {byte : UInt8} (set : mem.setByte j byte = .ok mem') :
      mem'.platform = mem.platform := by
    unfold Memory.setByte at set
    split at set <;> cases set
    rfl
  unfold storeDigits
  split
  · exact on
  refine .attempted on
    (.bind fun v _ => .bind fun _ set₁ => .bind fun _ set₂ => .bind fun _ set₃ => .ok ⟨?_, on.2⟩)
  exact (kept set₃).trans ((kept set₂).trans ((kept set₁).trans on.1))

theorem steady_blockTransfer (op : Opcode) : (m.blockTransfer op).Steady m₀ := by
  unfold blockTransfer
  dsimp only
  split
  · exact on
  split
  · exact on
  split
  · exact .attempted on (.bind fun bytes _ => .ok on)
  · exact on

theorem steady_drawSprite (left top : Nat) (height : Fin 16) :
    (m.drawSprite left top height).Steady m₀ := by
  unfold drawSprite
  dsimp only
  split
  · exact on
  split
  · exact on
  split
  · exact on
  split
  · exact on
  · next screen collision _ =>
    have on' : ({ m with screen } : Machine).Steady m₀ := on
    exact Outcome.Steady.attempted on' (.map fun m' set => Keeps.setRegister on' _ _ m' set)

end Machine

/-- No instruction moves the workspace. Each leaves the index and the delay timer as they are, or sets the
index to a word or the timer to a byte. -/
theorem Instr.steady_run (m : Machine) (random : UInt8) (i : Instr) : (i.run m random).Steady m := by
  have on : m.Steady m := ⟨rfl, id⟩
  cases i with
  | machineCode | clearScreen | jump => exact on
  | setIndex a => exact ⟨rfl, fun range => ⟨range.1, Int.natCast_nonneg _⟩⟩
  | ret => exact Machine.steady_returnFromCall on
  | call a => exact Machine.steady_callAt on _
  | skipEqual | skipUnequal =>
    exact .attempted on (.bind fun a _ => .ok (Machine.steady_skipIf on _))
  | skipSame | skipDifferent =>
    exact .attempted on (.bind fun (a, b) _ => .ok (Machine.steady_skipIf on _))
  | skipPressed x | skipReleased x => exact Machine.steady_skipIfKey on _ _
  | load | random | readDelay => exact .attempted on (.setRegister on _ _)
  | addValue | copy => exact .attempted on (.bind fun a _ => .setRegister on _ _)
  | or | and | xor => exact .attempted on (.bind fun (a, b) _ => .setRegister on _ _)
  | add | sub | subFrom =>
    exact .after on fun (a, b) _ => Machine.steady_setWithFlag on _ _ _
  | shiftRight | shiftLeft => exact .after on fun a _ => Machine.steady_setWithFlag on _ _ _
  | jumpOffset a =>
    refine .after on fun offset _ => ?_
    dsimp only
    split <;> exact on
  | addIndex x =>
    refine .after on fun offset _ => ?_
    have word : ({ m with index := (m.index + offset.toNat) % 0x10000 } : Machine).Steady m :=
      ⟨rfl, fun range => ⟨range.1, Int.emod_nonneg _ (by decide)⟩⟩
    dsimp only
    split <;> exact word
  | draw => exact .after on fun (a, b) _ => Machine.steady_drawSprite on _ _ _
  | awaitKey x => exact Machine.steady_awaitKey on x
  | setDelay =>
    refine .attempted on (.bind fun a _ => .ok ⟨rfl, fun range => ⟨⟨Int.natCast_nonneg _, ?_⟩, range.2⟩⟩)
    have := a.toNat_lt
    dsimp only
    omega
  | setSound => exact .attempted on (.bind fun a _ => .ok on)
  | selectGlyph x =>
    refine .attempted on (.bind fun a _ => .ok ⟨rfl, fun range => ⟨range.1, ?_⟩⟩)
    simp only [Memory.glyphStart, Memory.glyphSize]
    omega
  | storeDigits x => exact Machine.steady_storeDigits on x
  | storeRegisters | loadRegisters => exact Machine.steady_blockTransfer on _

/-! ## Machines -/

namespace Machine

variable (m : Machine)

/-- Nor does any opcode. -/
theorem steady_execute (op : Opcode) (random : List UInt8) :
    (m.execute op random).machine.Steady m := by
  unfold execute
  dsimp only
  split
  · exact ⟨rfl, id⟩
  · next i _ => exact i.steady_run { m with opcode := op } (random.headD 0)

/-- Nor does a cycle, in which the timer may count down. -/
theorem steady_cycle (random : List UInt8) : (m.cycle random).machine.Steady m := by
  have ticked {m' : Machine} (on : m'.Steady m) : m'.tick.1.Steady m := by
    refine ⟨on.1, fun range => ⟨?_, (on.2 range).2⟩⟩
    have timer := (on.2 range).1
    simp only [tick]
    split <;> omega
  unfold cycle
  dsimp only
  split
  · exact ⟨rfl, id⟩
  · next op _ =>
    have executed := steady_execute { m with draw := false, pc := m.pc + 2 } op random
    split
    · exact executed
    · exact ticked executed

/-- Nor does anything else that is done to a machine. -/
theorem steady_act (a : Action) : (m.act a).Steady m := by
  have kept : m.Steady m := ⟨rfl, id⟩
  have loaded {program : Array UInt8} {m' : Machine} (loads : m.load program = .ok m') : m'.Steady m := by
    obtain ⟨-, rfl⟩ := load_eq_ok_iff.1 loads
    exact kept
  cases a with
  | move a =>
    cases a with
    | cycle random => exact m.steady_cycle random
    | press key down => exact kept
  | load program =>
    simp only [act]
    split
    · next loads => exact loaded loads
    · exact kept
  | loadFile read path =>
    simp only [act]
    split
    · next loads =>
      obtain ⟨program, -, loads⟩ := loadFile_eq_ok loads
      exact loaded loads
    · exact kept
  | reset => exact ⟨rfl, fun _ => ⟨⟨Int.le_refl 0, Int.natCast_nonneg 0xFF⟩, Int.le_refl 0⟩⟩

theorem platform_cycle (random : List UInt8) :
    (m.cycle random).machine.memory.platform = m.memory.platform :=
  (m.steady_cycle random).1

theorem platform_moves (actions : List Move) :
    (m.moves actions).memory.platform = m.memory.platform := by
  induction actions generalizing m with
  | nil => rfl
  | cons a rest ih => exact (ih (m.move a)).trans (m.steady_act (.move a)).1

variable {m}

theorem platform_act (a : Action) : (m.act a).memory.platform = m.memory.platform := (m.steady_act a).1

/-! ## The range -/

namespace InRange

variable (h : m.InRange)
include h

/-- Whatever is done to a machine in range, it stays there. -/
theorem act (a : Action) : (m.act a).InRange := (m.steady_act a).2 h

/-- A register that the delay timer is read into holds its value. -/
theorem read_delay : ((UInt8.ofNat m.delay.toNat).toNat : Int) = m.delay := by
  have := h.1
  rw [UInt8.toNat_ofNat']
  omega

end InRange

end Machine
end ChipEight
