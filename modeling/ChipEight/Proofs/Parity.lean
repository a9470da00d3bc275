import ChipEight.Proofs.Bounds
import ChipEight.Proofs.Effects
import Mathlib.Data.Fintype.Prod
import Mathlib.Data.List.DropRight
import Mathlib.Data.Multiset.Count

/-!
# The screen as a sum of sprites

Only two instructions paint: one clears the screen, the other toggles the pixels that a sprite sets on
it. `Machine.paints` lists what a run paints, in order, each sprite as the set of pixels that it sets
(`Machine.placement`) at the moment when it is drawn. A pixel is then the number of sprites that set it
since the screen was last cleared, modulo two (`Machine.Reachable.pixel_parity`), so that the order of
the sprites does not matter.
-/

namespace ChipEight

/-- What can happen to a screen at once. -/
inductive Paint
  | clear
  /-- A sprite is drawn that sets these pixels. -/
  | sprite (lit : Finset (Fin 64 × Fin 32))
  deriving DecidableEq

namespace Paint

/-- The pixels that are set by a sprite. -/
def lit? : Paint → Option (Finset (Fin 64 × Fin 32))
  | clear => none
  | sprite lit => some lit

/-- The sprites that were drawn since the screen was last cleared, or since the beginning if it was not
cleared at all. -/
def sprites (paints : List Paint) : Multiset (Finset (Fin 64 × Fin 32)) :=
  ((paints.rtakeWhile (· ≠ clear)).filterMap lit? : List _)

variable (paints : List Paint)

theorem sprites_clear : sprites (paints ++ [clear]) = 0 := by
  rw [sprites, List.rtakeWhile_concat_neg _ _ _ (by simp)]
  rfl

theorem sprites_sprite (lit : Finset (Fin 64 × Fin 32)) :
    sprites (paints ++ [sprite lit]) = lit ::ₘ sprites paints := by
  rw [sprites, List.rtakeWhile_concat_pos _ _ _ (by simp), List.filterMap_append, ← Multiset.coe_add,
    add_comm]
  rfl

end Paint

namespace Machine

/-- The pixels of the screen that the sprite at the index sets if it is drawn with its corner where two
registers say: the rows of the sprite are the bytes from the index on, its columns their bits, the
highest one on the left. What lies beyond the screen is left out. -/
def placement (m : Machine) (x y height : Fin 16) : Finset (Fin 64 × Fin 32) :=
  Finset.univ.filter fun p =>
    ((m.value x).toNat ≤ p.1.val ∧ p.1.val < (m.value x).toNat + 8) ∧
      ((m.value y).toNat ≤ p.2.val ∧ p.2.val < (m.value y).toNat + height.val) ∧
      (m.memory.byte (m.index.toNat + (p.2.val - (m.value y).toNat))).toNat.testBit
        (7 - (p.1.val - (m.value x).toNat)) = true

/-- What a move paints: nothing unless it is a cycle that does not fail. A sprite without rows and one
that starts outside the screen are passed over. -/
def paint? (m : Machine) : Move → Option Paint
  | .press .. => none
  | .cycle random =>
    if (m.cycle random).failure = none then
      match m.upcoming? with
      | some .clearScreen => some .clear
      | some (.draw x y height) =>
        if m.Draws x y height then some (.sprite (m.placement x y height)) else none
      | _ => none
    else none

/-- What a run paints, in order. -/
def paints (m : Machine) : List Move → List Paint
  | [] => []
  | a :: rest => (m.paint? a).toList ++ (m.move a).paints rest

variable {m : Machine}

theorem moves_append (first rest : List Move) :
    m.moves (first ++ rest) = (m.moves first).moves rest :=
  List.foldl_append

theorem paints_append (first rest : List Move) :
    m.paints (first ++ rest) = m.paints first ++ (m.moves first).paints rest := by
  induction first generalizing m with
  | nil => rfl
  | cons a first ih => simp only [List.cons_append, paints, moves_cons, ih, List.append_assoc]

/-! ## One move -/

/-- The pixels that a sprite toggles are those of its placement. -/
theorem mem_spritePixels {x y height : Fin 16} {p : Fin 64 × Fin 32} :
    p ∈ m.spritePixels (m.value x).toNat (m.value y).toNat height.val ↔
      p ∈ m.placement x y height := by
  rw [spritePixels, Memory.span, Sprite.mem_pixels_map, placement, Finset.mem_filter]
  exact (and_iff_right (Finset.mem_univ p)).symm

theorem nodup_spritePixels (m : Machine) (left top height : Nat) :
    (m.spritePixels left top height).Nodup :=
  Sprite.nodup_pixels ..

/-- Drawing a sprite adds one, modulo two, to the pixels of its placement. -/
theorem Bounded.get_blit (h : m.Bounded) (x y height : Fin 16) (px : Fin 64) (py : Fin 32) :
    Grid.get (m.screen.blit
        (m.spritePixels (m.value x).toNat (m.value y).toNat height.val)).1 px py =
      (Grid.get m.screen px py + if (px, py) ∈ m.placement x y height then 1 else 0) % 2 := by
  rw [Framebuffer.get_blit _ (m.nodup_spritePixels ..), Framebuffer.isSet]
  simp only [mem_spritePixels]
  split
  · rcases h.screen px py with unset | lit
    · simp [unset]
    · simp [lit]
  · rcases h.screen px py with unset | lit
    · simp [unset]
    · simp [lit]

/-- What a move does to a screen of zeros and ones. -/
theorem Bounded.get_move (h : m.Bounded) (a : Move) (x : Fin 64) (y : Fin 32) :
    Grid.get (m.move a).screen x y =
      match m.paint? a with
      | none => Grid.get m.screen x y
      | some .clear => 0
      | some (.sprite lit) => (Grid.get m.screen x y + if (x, y) ∈ lit then 1 else 0) % 2 := by
  cases a with
  | press key down => rfl
  | cycle random =>
    have cycled := h.cycled random
    simp only [paint?, Machine.move]
    generalize m.cycle random = e at cycled
    cases cycled with
    | unfetched => rfl
    | unknown fetch undecoded =>
      rw [if_pos rfl, upcoming?_eq fetch, undecoded]
      rfl
    | @faulted op i f fetch decoded fault =>
      rw [if_neg (by simp), Instr.screen_leftover]
      rfl
    | @executed op i fetch decoded sound =>
      have screen := Instr.screen_effect (h.fetched fetch).soundness (random.headD 0)
        ((Instr.fault?_fetched op i).trans sound)
      have ticked : (i.effect (m.fetched op) (random.headD 0)).ticked.screen =
          (i.effect (m.fetched op) (random.headD 0)).screen := rfl
      rw [if_pos rfl, upcoming?_eq fetch, decoded, ticked, screen]
      cases i with
      | clearScreen => exact Grid.get_fill ..
      | draw x' y' height =>
        have draws : (m.fetched op).Draws x' y' height ↔ m.Draws x' y' height := Iff.rfl
        simp only [draws]
        split
        · exact h.get_blit x' y' height x y
        · rfl
      | _ => rfl

/-! ## Runs -/

/-- A pixel after a run is the number of sprites that set it since the screen was last cleared, on top
of what it was before the run if the screen was not cleared at all, modulo two. -/
theorem Bounded.get_moves (h : m.Bounded) (actions : List Move) (x : Fin 64) (y : Fin 32) :
    Grid.get (m.moves actions).screen x y =
      ((if .clear ∈ m.paints actions then 0 else Grid.get m.screen x y) +
        ((Paint.sprites (m.paints actions)).countP ((x, y) ∈ ·) : Nat)) % 2 := by
  induction actions using List.reverseRecOn with
  | nil =>
    have pixel : Grid.get m.screen x y % 2 = Grid.get m.screen x y := by
      rcases h.screen x y with unset | lit
      · rw [unset]
        rfl
      · rw [lit]
        rfl
    simpa [paints, Paint.sprites] using pixel.symm
  | append_singleton actions a ih =>
    have last : m.paints (actions ++ [a]) =
        m.paints actions ++ ((m.moves actions).paint? a).toList := by
      rw [paints_append, paints, paints, List.append_nil]
    have step := (h.moves actions).get_move a x y
    rw [moves_append, moves_cons, moves_nil, step, last]
    cases (m.moves actions).paint? a with
    | none => simpa using ih
    | some paint =>
      cases paint with
      | clear => simp [Paint.sprites_clear]
      | sprite lit =>
        have cleared : Paint.clear ∈ m.paints actions ++ [.sprite lit] ↔
            Paint.clear ∈ m.paints actions := by
          simp
        simp only [Option.toList_some, Paint.sprites_sprite, Multiset.countP_cons, ih, cleared]
        by_cases sets : (x, y) ∈ lit
        · simp only [sets, if_true]
          omega
        · simp only [sets, if_false]
          omega

/-- What a run does to the screen. A pixel is what it was before, or zero if the run has cleared the
screen, with one added for every sprite that was drawn since then and sets it, modulo two. So if two
runs have both cleared the screen and have drawn the same sprites at the same places since then, as
often as each other but in any order, they end with the same screen, whatever else they did. -/
theorem Reachable.pixel_parity (h : m.Reachable) (actions : List Move) :
    (∀ x y, Grid.get (m.moves actions).screen x y =
      ((if .clear ∈ m.paints actions then 0 else Grid.get m.screen x y) +
        ((Paint.sprites (m.paints actions)).countP ((x, y) ∈ ·) : Nat)) % 2) ∧
      ∀ {m' : Machine}, m'.Reachable → ∀ actions' : List Move,
        .clear ∈ m.paints actions → .clear ∈ m'.paints actions' →
        Paint.sprites (m.paints actions) = Paint.sprites (m'.paints actions') →
        (m.moves actions).screen = (m'.moves actions').screen := by
  refine ⟨h.bounded.get_moves actions, fun h' actions' cleared cleared' same => ?_⟩
  refine Grid.ext_get fun x y => ?_
  rw [h.bounded.get_moves, h'.bounded.get_moves, if_pos cleared, if_pos cleared', same]

/-- A new machine that is given a program which sets the index to the program itself, clears the screen and
draws the first byte of the program. -/
def brushing : Machine := (fresh .standard).act (.load #[0xA2, 0x00, 0x00, 0xE0, 0xD0, 0x01])

theorem reachable_brushing : brushing.Reachable := (Reachable.fresh .standard).act _

theorem fetches_brushing {m : Machine} (memory : m.memory = brushing.memory) :
    (m.pc = 0x200 → m.Fetches 0xA200) ∧ (m.pc = 0x202 → m.Fetches 0x00E0) ∧
      (m.pc = 0x204 → m.Fetches 0xD001) := by
  have loaded : m.memory =
      (Memory.fresh .standard).overlay 0x200 #[0xA2, 0x00, 0x00, 0xE0, 0xD0, 0x01] := memory
  exact ⟨fun pc => fetches_of_overlay (k := 0) loaded pc (by decide) (by decide),
    fun pc => fetches_of_overlay (k := 2) loaded pc (by decide) (by decide),
    fun pc => fetches_of_overlay (k := 4) loaded pc (by decide) (by decide)⟩

/-- The cycles of the program. -/
def brushes : List Move := [.cycle [], .cycle [], .cycle []]

/-- The machine when it draws, as far as the sprite depends on it. -/
def brush : Machine := { brushing with index := 0x200 }

/-- The program paints a sprite on a cleared screen, whatever keys are pressed. -/
theorem Bounded.paints_brushes (h : m.Bounded) (memory : m.memory = brushing.memory)
    (registers : m.registers = brushing.registers) (pc : m.pc = 0x200) :
    m.paints brushes =
      [.clear, .sprite (brush.placement 0 0 1)] := by
  have set := (fetches_brushing memory).1 pc
  obtain ⟨ok, op, -, first⟩ := (h.cycled []).executed_of_codes set (i := .setIndex 0x200) rfl rfl
  have clear : (m.cycle []).machine.Fetches 0x00E0 := by
    refine (fetches_brushing ?_).2.1 ?_
    · rw [first]
      exact memory
    · rw [first]
      exact congrArg (· + 2) pc
  obtain ⟨ok', op', -, second⟩ :=
    ((h.cycle []).cycled []).executed_of_codes clear (i := .clearScreen) rfl rfl
  have same : ((m.cycle []).machine.cycle []).machine.memory = brushing.memory ∧
      ((m.cycle []).machine.cycle []).machine.registers = brushing.registers ∧
      ((m.cycle []).machine.cycle []).machine.index = 0x200 ∧
      ((m.cycle []).machine.cycle []).machine.pc = 0x204 := by
    rw [second, first]
    exact ⟨memory, registers, rfl, congrArg (· + 2 + 2) pc⟩
  have bounded := (h.cycle []).cycle []
  simp only [brushes, paints, Machine.move]
  generalize ((m.cycle []).machine.cycle []).machine = m' at same bounded
  obtain ⟨memory, registers, index, pc⟩ := same
  have draw := (fetches_brushing memory).2.2 pc
  have values (x : Fin 16) : m'.value x = brushing.value x := by rw [value, registers]; rfl
  have draws : m'.Draws 0 0 1 := by
    rw [Draws, values]
    decide
  have sound : (Instr.draw 0 0 1).fault? m' = none := by
    rw [Instr.fault?, spriteStop, index]
    exact if_neg fun beyond => absurd beyond.2 (by decide)
  obtain ⟨ok'', -⟩ := (bounded.cycled []).executed_of_codes draw (i := .draw 0 0 1) rfl sound
  have placement : m'.placement 0 0 1 = brush.placement 0 0 1 := by
    simp only [Machine.placement, values, memory, index]
    rfl
  rw [paint?, if_pos ok, set.upcoming (i := .setIndex 0x200) rfl, paint?, if_pos ok',
    clear.upcoming (i := .clearScreen) rfl, paint?, if_pos ok'', draw.upcoming (i := .draw 0 0 1) rfl]
  simp only [if_pos draws, placement]
  rfl

/-- A key that is pressed before makes no difference to what the program paints. -/
theorem Bounded.paints_press_brushes (h : m.Bounded) (memory : m.memory = brushing.memory)
    (registers : m.registers = brushing.registers) (pc : m.pc = 0x200) :
    m.paints (.press 3 true :: brushes) = [.clear, .sprite (brush.placement 0 0 1)] :=
  (h.move (.press 3 true)).paints_brushes memory registers pc

/-- A pixel that is set by a single sprite on a cleared screen. -/
theorem countP_sprites_of_mem {lit : Finset (Fin 64 × Fin 32)} {p : Fin 64 × Fin 32} (sets : p ∈ lit) :
    (Paint.sprites [.clear, .sprite lit]).countP (p ∈ ·) = 1 := by
  have sprites : Paint.sprites [.clear, .sprite lit] = lit ::ₘ Paint.sprites ([] ++ [.clear]) :=
    Paint.sprites_sprite [.clear] lit
  rw [sprites, Paint.sprites_clear, Multiset.countP_cons, if_pos sets, Multiset.countP_zero]

/-- The sprite sets the pixel in the corner. -/
theorem exists_countP_brush :
    ∃ x y, (Paint.sprites [.clear, .sprite (brush.placement 0 0 1)]).countP ((x, y) ∈ ·) = 1 := by
  have corner : brush.value 0 = 0 := rfl
  have byte : brush.memory.byte 0x200 = 0xA2 := by
    show ((Memory.fresh .standard).overlay 0x200 #[0xA2, 0x00, 0x00, 0xE0, 0xD0, 0x01]).byte 0x200 =
      0xA2
    rw [Memory.byte_overlay, dif_pos (by decide)]
    rfl
  have start : brush.index.toNat + (0 - (0 : UInt8).toNat) = 0x200 := rfl
  obtain ⟨x, column⟩ : ∃ x : Fin 64, x.val = 0 := ⟨0, rfl⟩
  obtain ⟨y, row⟩ : ∃ y : Fin 32, y.val = 0 := ⟨0, rfl⟩
  refine ⟨x, y, countP_sprites_of_mem ?_⟩
  simp only [placement, Finset.mem_filter, Finset.mem_univ, true_and, corner, column, row, start, byte]
  decide

/-- The first byte of the program is shown on the cleared screen, and a key that is pressed before makes no
difference to that. -/
theorem pixel_parity_brushing :
    brushing.Reachable ∧
      (∃ (x : Fin 64) (y : Fin 32), Grid.get (brushing.moves brushes).screen x y = 1) ∧
      (brushing.moves brushes).screen = (brushing.moves (.press 3 true :: brushes)).screen := by
  have painted := reachable_brushing.bounded.paints_brushes rfl rfl rfl
  have painted' : brushing.paints (.press 3 true :: brushes) = brushing.paints brushes := by
    rw [painted]
    exact reachable_brushing.bounded.paints_press_brushes rfl rfl rfl
  obtain ⟨parity, agree⟩ := reachable_brushing.pixel_parity brushes
  refine ⟨reachable_brushing, ?_, agree reachable_brushing _ ?_ ?_ ?_⟩
  · obtain ⟨x, y, count⟩ := exists_countP_brush
    refine ⟨x, y, ?_⟩
    rw [parity, painted, if_pos List.mem_cons_self, count]
    rfl
  · simp [painted]
  · simp [painted', painted]
  · rw [painted']

end Machine
end ChipEight
