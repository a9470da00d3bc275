import ChipEight.Proofs.Bounds
import ChipEight.Proofs.Steady

/-!
# Calls and returns

Every return goes back behind the call that it belongs to, however the program runs in between
(`Machine.Reachable.calls_match`). Only calls and returns touch the stack, and each of them one slot
(`Machine.StackMove`), so that the slots up to the one that a call has filled stay as they are while
the stack is deeper than before the call (`Machine.StaysAbove.slot_eq`).
-/

namespace ChipEight

/-! ## What instructions do to the stack -/

namespace Instr

variable (m : Machine) (random : UInt8)

/-- Only calls and returns touch the stack. -/
theorem stack_effect (i : Instr) :
    (i.effect m random).stack =
      match i with
      | ret => m.stack.popped
      | call _ => m.stack.pushed m.pc
      | _ => m.stack := by
  cases i with
  | skipEqual | skipUnequal | skipSame | skipDifferent | skipPressed | skipReleased =>
    simp only [effect, Machine.skipIf_eq]
  | draw x y height =>
    simp only [effect]
    split <;> rfl
  | awaitKey x =>
    simp only [effect]
    split <;> rfl
  | _ => rfl

end Instr

namespace Machine

variable {m : Machine} {random : List UInt8} {e : Effect}

/-- What a cycle can do to the stack. -/
inductive StackMove (m : Machine) (e : Effect) : Prop
  | kept (stack : e.machine.stack = m.stack)
  /-- A call fills the first free slot. -/
  | called {a : Fin 4096} (code : m.Fetches (0x2000 + a.val))
      (target : m.memory.inWorkspace a.val = true) (free : m.stack.depth < 16)
      (ok : e.failure = none) (stack : e.machine.stack = m.stack.pushed (m.pc + 2))
      (pc : e.machine.pc = a.val)
  /-- A return goes to the address that it takes off the stack. -/
  | returned (code : m.Fetches 0x00EE) (some : 0 < m.stack.depth)
      (target : m.memory.inWorkspace m.stack.top = true) (ok : e.failure = none)
      (stack : e.machine.stack = m.stack.popped) (pc : e.machine.pc = m.stack.top)
  /-- A return does not go to an address outside the workspace, but takes it off the stack. -/
  | refused (code : m.Fetches 0x00EE) (some : 0 < m.stack.depth)
      (outside : ¬m.memory.inWorkspace m.stack.top = true)
      (failed : e.failure = Option.some (.fault (.returnTarget m.stack.top)))
      (stack : e.machine.stack = m.stack.popped) (pc : e.machine.pc = m.pc + 2)

/-- Every cycle does one of these things to the stack. -/
theorem Cycled.stackMove (cycled : m.Cycled random e) : m.StackMove e := by
  cases cycled with
  | unfetched | unknown => exact .kept rfl
  | @faulted op i f fetch decoded fault =>
    cases i with
    | ret =>
      have code : m.Fetches 0x00EE := ⟨op, fetch, Instr.codes_of_decode decoded⟩
      rcases Instr.fault?_ret_eq_some.1 fault with ⟨empty, rfl⟩ | ⟨some, outside, rfl⟩
      · exact .kept (CallStack.popped_of_empty _ empty)
      · exact .refused code some outside rfl rfl rfl
    | _ => exact .kept rfl
  | @executed op i fetch decoded sound =>
    cases i with
    | ret =>
      obtain ⟨some, target⟩ := Instr.fault?_ret_eq_none.1 sound
      exact .returned ⟨op, fetch, Instr.codes_of_decode decoded⟩ some target rfl rfl rfl
    | call a =>
      obtain ⟨target, free⟩ := Instr.fault?_call_eq_none.1 sound
      exact .called ⟨op, fetch, Instr.codes_of_decode decoded⟩ target free rfl rfl rfl
    | _ => exact .kept (Instr.stack_effect ..)

/-- A slot that is in use before and after a cycle holds the same address. -/
theorem StackMove.slot_eq (h : m.StackMove e) {i : Nat} (before : i < m.stack.depth)
    (after : i < e.machine.stack.depth) : e.machine.stack.slot i = m.stack.slot i := by
  cases h with
  | kept stack => rw [stack]
  | called code target free ok stack pc => rw [stack, CallStack.slot_pushed _ free, if_neg (by omega)]
  | returned code some target ok stack pc =>
    rw [stack, CallStack.depth_popped] at after
    rw [stack, CallStack.slot_popped, if_neg (by omega)]
  | refused code some outside failed stack pc =>
    rw [stack, CallStack.depth_popped] at after
    rw [stack, CallStack.slot_popped, if_neg (by omega)]

/-- A call that does not fail goes into the workspace, and puts the address behind it on the stack. -/
theorem Cycled.of_call (cycled : m.Cycled random e) {a : Fin 4096}
    (code : m.Fetches (0x2000 + a.val)) (ok : e.failure = none) :
    m.memory.inWorkspace a.val = true ∧ m.stack.depth < 16 ∧
      e.machine.stack = m.stack.pushed (m.pc + 2) ∧ e.machine.pc = a.val := by
  obtain ⟨op, -, sound, machine⟩ := cycled.effect_of_codes code (i := .call a) rfl ok
  obtain ⟨target, free⟩ := Instr.fault?_call_eq_none.1 sound
  rw [machine]
  exact ⟨target, free, rfl, rfl⟩

/-- A return that does not fail goes into the workspace. -/
theorem Cycled.of_ret (cycled : m.Cycled random e) (code : m.Fetches 0x00EE)
    (ok : e.failure = none) :
    m.memory.inWorkspace m.stack.top = true ∧ e.machine.pc = m.stack.top := by
  obtain ⟨op, -, sound, machine⟩ := cycled.effect_of_codes code (i := .ret) rfl ok
  obtain ⟨-, target⟩ := Instr.fault?_ret_eq_none.1 sound
  rw [machine]
  exact ⟨target, rfl⟩

/-! ## Runs above a depth -/

/-- The stack is deeper than `d` before, between and after moves. -/
def StaysAbove (m : Machine) (d : Nat) (actions : List Move) : Prop :=
  ∀ first, first <+: actions → d < (m.moves first).stack.depth

section
variable {d : Nat} {a : Move} {actions : List Move}

theorem StaysAbove.start (h : m.StaysAbove d actions) : d < m.stack.depth := h [] List.nil_prefix

theorem StaysAbove.last (h : m.StaysAbove d actions) : d < (m.moves actions).stack.depth :=
  h actions List.prefix_rfl

theorem StaysAbove.tail (h : m.StaysAbove d (a :: actions)) : (m.move a).StaysAbove d actions :=
  fun first hf => h (a :: first) (List.cons_prefix_cons.2 ⟨rfl, hf⟩)

theorem Bounded.slot_move (h : m.Bounded) {i : Nat} (before : i < m.stack.depth)
    (after : i < (m.move a).stack.depth) : (m.move a).stack.slot i = m.stack.slot i := by
  cases a with
  | cycle random => exact (h.cycled random).stackMove.slot_eq before after
  | press key down => rfl

/-- While the stack stays deeper than `d`, the slots up to `d` keep their addresses. -/
theorem StaysAbove.slot_eq (above : m.StaysAbove d actions) (h : m.Bounded) {i : Nat} (hi : i ≤ d) :
    (m.moves actions).stack.slot i = m.stack.slot i := by
  induction actions generalizing m with
  | nil => rfl
  | cons a actions ih =>
    have before := above.start
    have after := above.tail.start
    rw [moves_cons, ih above.tail (h.move a), h.slot_move (by omega) (by omega)]

end

/-! ## Matching -/

/-- How a cycle in a later state returns from the call that the cycle of `m` has executed. -/
structure ReturnsFrom (m now : Machine) (e : Effect) : Prop where
  code : now.Fetches 0x00EE
  /-- The return goes behind the call, unless the call is the last instruction of memory or lies below
  the workspace; then it fails behind the return. -/
  target :
    if m.memory.platform.workspaceStart ≤ m.pc + 2 ∧ m.pc + 2 < 4096 then
      e.failure = none ∧ e.machine.pc = m.pc + 2
    else
      (m.pc = 0xFFE ∨ m.pc < m.memory.platform.workspaceStart) ∧
        (∃ f, e.failure = some (.fault f) ∧ f.kind = .segmentation) ∧ e.machine.pc = now.pc + 2
  depth : e.machine.stack.depth = m.stack.depth
  below : ∀ i < m.stack.depth, e.machine.stack.slot i = m.stack.slot i
  freed : e.machine.stack.slot m.stack.depth = 0

/-- The slots of a call and of those below it are as the call has left them. -/
structure Within (m now : Machine) : Prop where
  platform : now.memory.platform = m.memory.platform
  deeper : m.stack.depth < now.stack.depth
  below : ∀ i < m.stack.depth, now.stack.slot i = m.stack.slot i
  behind : now.stack.slot m.stack.depth = m.pc + 2

/-- What makes the stack as deep as before a call is the return from it. -/
theorem StackMove.returnsFrom {now : Machine} (h : now.StackMove e) (within : m.Within now)
    (hpc : m.pc + 1 < 4096) (back : e.machine.stack.depth = m.stack.depth) :
    m.ReturnsFrom now e := by
  have deeper := within.deeper
  have below : ∀ i < m.stack.depth, e.machine.stack.slot i = m.stack.slot i := fun i hi => by
    rw [h.slot_eq (by omega) (by omega), within.below i hi]
  have popped (stack : e.machine.stack = now.stack.popped) :
      now.stack.top = m.pc + 2 ∧ e.machine.stack.slot m.stack.depth = 0 := by
    rw [stack, CallStack.depth_popped] at back
    rw [stack, CallStack.slot_popped, if_pos (by omega), CallStack.top, back, within.behind]
    exact ⟨rfl, rfl⟩
  cases h with
  | kept stack =>
    rw [stack] at back
    omega
  | called code target free ok stack pc =>
    rw [stack, CallStack.depth_pushed _ free] at back
    omega
  | returned code some target ok stack pc =>
    obtain ⟨top, freed⟩ := popped stack
    rw [Memory.inWorkspace_iff, top, within.platform] at target
    refine ⟨code, ?_, back, below, freed⟩
    rw [if_pos target]
    exact ⟨ok, pc.trans top⟩
  | refused code some outside failed stack pc =>
    obtain ⟨top, freed⟩ := popped stack
    rw [Memory.inWorkspace_iff, top, within.platform] at outside
    refine ⟨code, ?_, back, below, freed⟩
    rw [if_neg outside]
    exact ⟨by omega, ⟨_, failed, rfl⟩, pc⟩

/-- Right after a call, and as long as the stack stays deeper than before it, its slot holds the address
behind it. -/
theorem Bounded.within (h : m.Bounded) {a : Fin 4096} (code : m.Fetches (0x2000 + a.val))
    (ok : (m.cycle random).failure = none) {actions : List Move}
    (above : (m.cycle random).machine.StaysAbove m.stack.depth actions) :
    m.Within ((m.cycle random).machine.moves actions) := by
  obtain ⟨-, free, stack, -⟩ := (h.cycled random).of_call code ok
  refine ⟨?_, above.last, fun i hi => ?_, ?_⟩
  · rw [Machine.platform_moves, Machine.platform_cycle]
  · rw [above.slot_eq (h.cycle random) (Nat.le_of_lt hi), stack, CallStack.slot_pushed _ free,
      if_neg (by omega)]
  · rw [above.slot_eq (h.cycle random) (Nat.le_refl _), stack, CallStack.slot_pushed _ free,
      if_pos rfl]

/-- A call is matched by the return that frees its slot. Let a cycle execute a call in a state that a
machine can be in, and let any moves follow during which the stack stays deeper than before the call.
Then the slots below the one of the call are as before it, that one holds the address behind the call,
and the first cycle that makes the stack as deep as before returns from the call. Every call and every
return that does not fail goes into the workspace. -/
theorem Reachable.calls_match (h : m.Reachable) (random : List UInt8) :
    (∀ a : Fin 4096, m.Fetches (0x2000 + a.val) → (m.cycle random).failure = none →
      ∀ actions : List Move, (m.cycle random).machine.StaysAbove m.stack.depth actions →
        ∀ now : Machine, now = (m.cycle random).machine.moves actions →
          (∀ i < m.stack.depth, now.stack.slot i = m.stack.slot i) ∧
            now.stack.slot m.stack.depth = m.pc + 2 ∧
            ∀ random' : List UInt8, (now.cycle random').machine.stack.depth = m.stack.depth →
              m.ReturnsFrom now (now.cycle random')) ∧
      ((m.Fetches 0x00EE ∨ ∃ a : Fin 4096, m.Fetches (0x2000 + a.val)) →
        (m.cycle random).failure = none →
        m.memory.platform.workspaceStart ≤ (m.cycle random).machine.pc ∧
          (m.cycle random).machine.pc < 4096) := by
  have bounded := h.bounded
  have cycled := bounded.cycled random
  refine ⟨?_, fun code ok => ?_⟩
  · rintro a code ok actions above now rfl
    have within := bounded.within code ok above
    refine ⟨within.below, within.behind, fun random' back => ?_⟩
    have later := (h.act (.move (.cycle random))).moves actions
    exact (later.bounded.cycled random').stackMove.returnsFrom within code.lt back
  · rw [← Memory.inWorkspace_iff]
    rcases code with code | ⟨a, code⟩
    · obtain ⟨target, pc⟩ := cycled.of_ret code ok
      rwa [pc]
    · obtain ⟨target, -, -, pc⟩ := cycled.of_call code ok
      rwa [pc]

/-- A new machine that is given a program which calls the return behind its second instruction. -/
def calling : Machine := (fresh .standard).act (.load #[0x22, 0x04, 0x12, 0x02, 0x00, 0xEE])

theorem reachable_calling : calling.Reachable := (Reachable.fresh .standard).act _

/-- What a machine with this program fetches at its call and behind its second instruction. -/
theorem fetches_calling {m : Machine} (memory : m.memory = calling.memory) :
    (m.pc = 0x200 → m.Fetches 0x2204) ∧ (m.pc = 0x204 → m.Fetches 0x00EE) := by
  have loaded : calling.memory =
      (Memory.fresh .standard).overlay 0x200 #[0x22, 0x04, 0x12, 0x02, 0x00, 0xEE] := rfl
  exact ⟨fun pc => fetches_of_overlay (k := 0) (memory.trans loaded) pc (by decide) (by decide),
    fun pc => fetches_of_overlay (k := 4) (memory.trans loaded) pc (by decide) (by decide)⟩

/-- The call of this machine goes well, and the next cycle returns behind it. -/
theorem calls_match_calling :
    calling.Reachable ∧ calling.Fetches 0x2204 ∧ (calling.cycle []).failure = none ∧
      ((calling.cycle []).machine.cycle []).machine.stack.depth = calling.stack.depth ∧
      ((calling.cycle []).machine.cycle []).machine.pc = calling.pc + 2 := by
  have bounded := reachable_calling.bounded
  have code : calling.Fetches 0x2204 := (fetches_calling rfl).1 rfl
  have cycled := bounded.cycled []
  have ok : (calling.cycle []).failure = none := by
    rw [cycled.failure_of_codes code (i := .call 0x204) rfl]
    rfl
  obtain ⟨op, -, -, machine⟩ := cycled.effect_of_codes code (i := .call 0x204) rfl ok
  have above : (calling.cycle []).machine.StaysAbove calling.stack.depth [] := by
    intro first hf
    rw [List.prefix_nil.1 hf, machine]
    exact Nat.zero_lt_one
  have code' : (calling.cycle []).machine.Fetches 0x00EE := by
    rw [machine]
    refine (fetches_calling ?_).2 ?_ <;> rfl
  have cycled' := (bounded.cycle []).cycled []
  have ok' : ((calling.cycle []).machine.cycle []).failure = none := by
    rw [cycled'.failure_of_codes code' (i := .ret) rfl, machine]
    rfl
  obtain ⟨op', -, -, machine'⟩ := cycled'.effect_of_codes code' (i := .ret) rfl ok'
  have depth : ((calling.cycle []).machine.cycle []).machine.stack.depth = calling.stack.depth := by
    rw [machine', machine]
    rfl
  have inside : calling.memory.platform.workspaceStart ≤ calling.pc + 2 ∧ calling.pc + 2 < 4096 := by
    have pc : calling.pc = 0x200 := rfl
    have start : calling.memory.platform.workspaceStart = 0x200 := rfl
    omega
  obtain ⟨-, -, returns⟩ := (reachable_calling.calls_match []).1 0x204 code ok [] above
    (calling.cycle []).machine moves_nil.symm
  have target := (returns [] depth).target
  rw [if_pos inside] at target
  exact ⟨reachable_calling, code, ok, depth, target.2⟩

end Machine
end ChipEight
