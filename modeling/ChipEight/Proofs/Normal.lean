import ChipEight.Proofs.Drawing
import ChipEight.Machine.Cycle

/-!
# Any pixel but zero is set

The pixels of the screen are whole numbers, and every number but zero stands for a pixel that is set.
`Framebuffer.normal` puts a one for each of them. A sprite toggles a pixel of either screen to the same
value, and meets the same pixels on both (`Framebuffer.drawRows_normal`), and no other instruction looks
at the screen. So normalising commutes with every instruction (`Instr.run_normal`), and with any number
of cycles (`Machine.cycles_normal`).
-/

namespace ChipEight

/-! ## Pixels -/

/-- Zero for zero, and one for every other number. -/
def Framebuffer.mark (pixel : Int) : Int := if pixel = 0 then 0 else 1

/-- The screen with a one at every pixel that is set. -/
def Framebuffer.normal {w h : Nat} (f : Framebuffer w h) : Framebuffer w h := ⟨f.cells.map mark⟩

namespace Framebuffer

variable {w h : Nat}

@[simp] theorem mark_eq_zero {pixel : Int} : mark pixel = 0 ↔ pixel = 0 := by
  unfold mark
  split <;> simp_all

@[simp] theorem bne_mark (pixel : Int) : (mark pixel != 0) = (pixel != 0) := by
  rw [Bool.eq_iff_iff, bne_iff_ne, bne_iff_ne, ne_eq, mark_eq_zero]

@[simp] theorem mark_ite (p : Prop) [Decidable p] :
    mark (if p then 1 else 0) = if p then 1 else 0 := by
  split <;> rfl

theorem get_normal (f : Framebuffer w h) (x : Fin w) (y : Fin h) :
    Grid.get f.normal x y = mark (Grid.get f x y) := by
  simp [normal, Grid.get]

theorem set_normal (f : Framebuffer w h) (x : Fin w) (y : Fin h) (pixel : Int) :
    Grid.set f.normal x y (mark pixel) = normal (Grid.set f x y pixel) := by
  refine Grid.ext_get fun x' y' => ?_
  rw [get_normal, Grid.get_set, Grid.get_set, get_normal]
  split <;> rfl

theorem clear_normal (f : Framebuffer w h) : f.normal.clear = normal f.clear := by
  refine Grid.ext_get fun x y => ?_
  rw [get_normal, clear, clear, Grid.get_fill, Grid.get_fill]
  rfl

/-- Normalising is not seen by a look at single pixels, wherever they are. -/
theorem readPixel_normal (f : Framebuffer w h) (x y : Int) :
    f.normal.readPixel x y = f.readPixel x y := by
  unfold readPixel pixelAt
  cases Index.resolve (w * h) (y * w + x) with
  | none => rfl
  | some k => simp [Except.map, normal]

/-- What is drawn, with the screen normalised. -/
def drawnNormal (drawn : Framebuffer w h × Bool) : Framebuffer w h × Bool := (drawn.1.normal, drawn.2)

end Framebuffer

open Framebuffer

/-! ## Sprites -/

namespace Row

variable {w h : Nat} (r : Row w h)

/-- A pixel is toggled to the same value, and was set on both screens or on neither. -/
theorem toggle_normal (x : Int) (drawn : Framebuffer w h × Bool) :
    r.toggle x (drawnNormal drawn) = drawnNormal <$> r.toggle x drawn := by
  unfold toggle get set
  cases r.column x with
  | error e => rfl
  | ok k =>
    show Except.ok _ = Except.ok _
    simp only [drawnNormal, get_normal, bne_mark, mark_eq_zero, ← set_normal, mark_ite]

theorem drawByte_normal (byte : UInt8) (x : Int) (columns : Nat) (drawn : Framebuffer w h × Bool) :
    r.drawByte byte x columns (drawnNormal drawn) =
      drawnNormal <$> r.drawByte byte x columns drawn := by
  unfold drawByte
  induction List.range columns generalizing drawn with
  | nil => rfl
  | cons j js ih =>
    rw [List.foldlM_cons, List.foldlM_cons]
    split
    · rw [toggle_normal]
      cases r.toggle (x + j) drawn with
      | error e => rfl
      | ok toggled => exact ih toggled
    · exact ih drawn

end Row

/-- A sprite comes to the same on both screens, collisions and failures included. -/
theorem Framebuffer.drawRows_normal {w h : Nat} (rows : List UInt8) (x y : Int) (columns : Nat)
    (drawn : Framebuffer w h × Bool) :
    drawRows rows x y columns (drawnNormal drawn) =
      drawnNormal <$> drawRows rows x y columns drawn := by
  induction rows generalizing y drawn with
  | nil => rfl
  | cons byte rest ih =>
    have view : (drawnNormal drawn).1.row y = drawn.1.row y := rfl
    rw [drawRows, drawRows, view, map_bind]
    congr 1
    funext r
    rw [r.drawByte_normal, map_bind]
    cases r.drawByte byte x columns drawn with
    | error e => rfl
    | ok drawn => exact ih (y + 1) drawn

/-! ## Instructions -/

/-- The machine with its screen normalised. -/
def Machine.normal (m : Machine) : Machine := { m with screen := m.screen.normal }

/-- The outcome with its screen normalised. -/
def Outcome.normal (out : Outcome) : Outcome := { out with machine := out.machine.normal }

/-- The effect with its screen normalised. -/
def Effect.normal (e : Effect) : Effect := { e with machine := e.machine.normal }

namespace Outcome

variable {m : Machine}

theorem attempted_normal {change change' : Except AccessError Machine}
    (same : change' = Machine.normal <$> change) :
    attempted m.normal change' = (attempted m change).normal := by
  subst same
  cases change <;> rfl

theorem after_normal {α : Type} {access : Except AccessError α} {next next' : α → Outcome}
    (same : ∀ a, next' a = (next a).normal) :
    after m.normal access next' = (after m access next).normal := by
  cases access with
  | error e => rfl
  | ok a => exact same a

end Outcome

namespace Machine

variable (m : Machine)

theorem skipIf_normal (condition : Bool) : m.normal.skipIf condition = (m.skipIf condition).normal := by
  cases condition <;> rfl

theorem setRegister_normal (x : Fin 16) (v : UInt8) :
    m.normal.setRegister x v = normal <$> m.setRegister x v := by
  unfold setRegister setRegisterAt
  rw [show m.normal.registers = m.registers from rfl]
  cases m.registers.set x.val v <;> rfl

theorem returnFromCall_normal : m.normal.returnFromCall = m.returnFromCall.normal := by
  unfold returnFromCall
  rw [show m.normal.stack = m.stack from rfl]
  cases m.stack.pop with
  | error f => rfl
  | ok popped =>
    dsimp only
    rw [show m.normal.memory = m.memory from rfl]
    split <;> rfl

theorem callAt_normal (address : Int) : m.normal.callAt address = (m.callAt address).normal := by
  unfold callAt
  rw [show m.normal.memory = m.memory from rfl, show m.normal.stack = m.stack from rfl,
    show m.normal.pc = m.pc from rfl]
  split
  · cases m.stack.push m.pc <;> rfl
  · rfl

theorem skipIfKey_normal (x : Fin 16) (pressed : Bool) :
    m.normal.skipIfKey x pressed = (m.skipIfKey x pressed).normal := by
  refine Outcome.after_normal fun key => ?_
  rw [show m.normal.keypad = m.keypad from rfl]
  cases m.keypad.get key.toNat with
  | error f => rfl
  | ok down => exact congrArg Outcome.done (m.skipIf_normal _)

theorem awaitKey_normal (x : Fin 16) : m.normal.awaitKey x = (m.awaitKey x).normal := by
  unfold awaitKey
  rw [show m.normal.keypad = m.keypad from rfl]
  split
  · rfl
  · exact Outcome.after_normal fun key => Outcome.attempted_normal (m.setRegister_normal ..)

theorem setWithFlag_normal (x : Fin 16) (v : UInt8) (flag : Bool) :
    m.normal.setWithFlag x v flag = (m.setWithFlag x v flag).normal := by
  unfold setWithFlag
  rw [setRegister_normal]
  cases m.setRegister x v with
  | error e => rfl
  | ok m' => exact Outcome.attempted_normal (m'.setRegister_normal ..)

theorem storeDigits_normal (x : Fin 16) : m.normal.storeDigits x = (m.storeDigits x).normal := by
  unfold storeDigits
  rw [show m.normal.index = m.index from rfl]
  split
  · rfl
  · exact Outcome.attempted_normal (by simp only [map_bind]; rfl)

theorem blockTransfer_normal (op : Opcode) :
    m.normal.blockTransfer op = (m.blockTransfer op).normal := by
  unfold blockTransfer
  rw [show m.normal.index = m.index from rfl]
  dsimp only
  split
  · rfl
  split
  · rfl
  split
  · exact Outcome.attempted_normal (by rw [map_bind]; rfl)
  · rfl

theorem drawSprite_normal (left top : Nat) (height : Fin 16) :
    m.normal.drawSprite left top height = (m.drawSprite left top height).normal := by
  have rows : m.normal.spriteRows top height.val = m.spriteRows top height.val := rfl
  have screen : (m.normal.screen, false) = drawnNormal (m.screen, false) := rfl
  unfold drawSprite
  rw [show m.normal.index = m.index from rfl, show m.normal.opcode = m.opcode from rfl, rows, screen]
  dsimp only
  split
  · rfl
  split
  · rfl
  split
  · rfl
  cases m.spriteRows top height.val with
  | error e => rfl
  | ok bytes =>
    simp only [bind, Except.bind, drawRows_normal]
    cases drawRows bytes left top (min (left + Sprite.width) 64 - left) (m.screen, false) with
    | error e => rfl
    | ok drawn =>
      obtain ⟨screen, collision⟩ := drawn
      have flagged : (({ m with screen } : Machine).normal.setFlag collision).map
            (fun m => { m with draw := true }) =
          ((({ m with screen } : Machine).setFlag collision).map fun m => { m with draw := true }).map
            normal := by
        rw [setFlag, setRegister_normal, ← setFlag]
        cases ({ m with screen } : Machine).setFlag collision <;> rfl
      have same := Outcome.attempted_normal (m := { m with screen }) flagged
      have machine := congrArg Outcome.machine same
      have failure := congrArg Outcome.failure same
      exact (Outcome.mk.injEq ..).mpr ⟨machine, rfl, failure⟩

end Machine

/-- Every instruction comes to the same on a machine and on the one with its screen normalised: to the same
warning and failure, and to states with the same screen once it is normalised. -/
theorem Instr.run_normal (m : Machine) (random : UInt8) (i : Instr) :
    i.run m.normal random = (i.run m random).normal := by
  have opcode : m.normal.opcode = m.opcode := rfl
  cases i with
  | machineCode | jump | setIndex => rfl
  | clearScreen => simp only [run, Machine.normal, clear_normal]; rfl
  | ret => exact m.returnFromCall_normal
  | call a => exact m.callAt_normal _
  | skipEqual | skipUnequal | skipSame | skipDifferent =>
    refine Outcome.attempted_normal ?_
    rw [map_bind]
    simp only [Machine.skipIf_normal]
    rfl
  | skipPressed x | skipReleased x => exact m.skipIfKey_normal _ _
  | load | random | readDelay => exact Outcome.attempted_normal (m.setRegister_normal ..)
  | addValue | copy | or | and | xor =>
    refine Outcome.attempted_normal ?_
    rw [map_bind]
    simp only [Machine.setRegister_normal]
    rfl
  | add | sub | subFrom | shiftRight | shiftLeft =>
    exact Outcome.after_normal fun a => m.setWithFlag_normal _ _ _
  | jumpOffset | addIndex =>
    refine Outcome.after_normal fun a => ?_
    rw [show m.normal.index = m.index from rfl]
    dsimp only
    split <;> rfl
  | draw => exact Outcome.after_normal fun a => m.drawSprite_normal _ _ _
  | awaitKey x => exact m.awaitKey_normal x
  | setDelay | setSound | selectGlyph =>
    exact Outcome.attempted_normal (by rw [map_bind]; rfl)
  | storeDigits x => exact m.storeDigits_normal x
  | storeRegisters | loadRegisters => exact m.blockTransfer_normal _

/-! ## Cycles -/

namespace Machine

variable (m : Machine)

theorem execute_normal (op : Opcode) (random : List UInt8) :
    m.normal.execute op random = (m.execute op random).normal := by
  have noted : ({ m.normal with opcode := op } : Machine) = normal { m with opcode := op } := rfl
  unfold execute
  rw [noted]
  cases decode op with
  | none => rfl
  | some i =>
    dsimp only
    rw [i.run_normal]
    rfl

theorem cycle_normal (random : List UInt8) :
    m.normal.cycle random = (m.cycle random).normal := by
  have undrawn : ({ m.normal with draw := false } : Machine) = normal { m with draw := false } := rfl
  unfold cycle
  rw [undrawn]
  generalize ({ m with draw := false } : Machine) = m
  have fetches : m.normal.fetch = m.fetch := rfl
  have moved : ({ m.normal with pc := m.normal.pc + 2 } : Machine) = normal { m with pc := m.pc + 2 } := rfl
  dsimp only
  rw [fetches]
  cases m.fetch with
  | error f => rfl
  | ok op =>
    dsimp only
    rw [moved, execute_normal]
    generalize ({ m with pc := m.pc + 2 } : Machine).execute op random = e
    rw [show e.normal.failure = e.failure from rfl]
    cases e.failure <;> rfl

/-- Makes cycles one after another, whether they fail or not, with the keys of the keypad as they are pressed
before each, and lists their effects. A cycle takes the random bytes that the ones before it have left. -/
def cycles : List Keypad → Machine → List UInt8 → List Effect
  | [], _, _ => []
  | keypad :: rest, m, random =>
    let e := { m with keypad }.cycle random
    e :: cycles rest e.machine e.random

/-- Whatever is pressed, any number of cycles comes to the same on a machine and on the one with its screen
normalised: the same failures, notices and random bytes, so that every log records the same of them, and
states with all parts the same except for the screens, which come to the same once they are
normalised, and read the same at every place. -/
theorem cycles_normal (keypads : List Keypad) (random : List UInt8) :
    m.normal.cycles keypads random = (m.cycles keypads random).map Effect.normal ∧
      (∀ (e : Effect) (l : Log), l.record e.normal.notices = l.record e.notices) ∧
      ∀ (m : Machine) (x y : Int), m.normal.screen.readPixel x y = m.screen.readPixel x y := by
  refine ⟨?_, fun e l => rfl, fun m => readPixel_normal m.screen⟩
  induction keypads generalizing m random with
  | nil => rfl
  | cons keypad rest ih =>
    have pressed : ({ m.normal with keypad } : Machine) = normal { m with keypad } := rfl
    rw [cycles, cycles, pressed, cycle_normal, List.map_cons]
    exact congrArg _ (ih _ _)

end Machine
end ChipEight
