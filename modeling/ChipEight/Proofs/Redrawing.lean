import ChipEight.Proofs.Sprites

/-!
# Drawing a sprite twice

A sprite that is drawn twice in a row leaves the screen as it was. The second time, the register of flags
tells whether the sprite sets a pixel that was zero before the first time (`Machine.redraws`): a sprite
all of whose pixels are already on the screen takes them away first, and comes upon none of them when it
puts them back (`Machine.redraws_over_ones`).

The index may be negative here, as a host can leave it. The rows of a sprite are then counted from the
end of memory, and those from zero on from its beginning (`Machine.footprint`).
-/

namespace ChipEight

namespace Machine

/-- The pixels of the screen that the sprite at the index sets, as `Machine.placement` has them, but with
the rows at negative places counted from the end of memory. -/
def footprint (m : Machine) (x y height : Fin 16) : Finset (Fin 64 × Fin 32) :=
  Finset.univ.filter fun p =>
    ((m.value x).toNat ≤ p.1.val ∧ p.1.val < (m.value x).toNat + 8) ∧
      ((m.value y).toNat ≤ p.2.val ∧ p.2.val < (m.value y).toNat + height.val) ∧
      (m.memory.byte (spanStart (m.index + (p.2.val - (m.value y).toNat : Nat)))).toNat.testBit
        (7 - (p.1.val - (m.value x).toNat)) = true

variable {m m' m'' : Machine} {lit : Finset (Fin 64 × Fin 32)} {x y height : Fin 16}

theorem mem_footprint {p : Fin 64 × Fin 32} :
    p ∈ m.footprint x y height ↔
      ((m.value x).toNat ≤ p.1.val ∧ p.1.val < (m.value x).toNat + 8) ∧
        ((m.value y).toNat ≤ p.2.val ∧ p.2.val < (m.value y).toNat + height.val) ∧
        (m.memory.byte (spanStart (m.index + (p.2.val - (m.value y).toNat : Nat)))).toNat.testBit
          (7 - (p.1.val - (m.value x).toNat)) = true := by
  rw [footprint, Finset.mem_filter]
  simp only [Finset.mem_univ, true_and]

/-! ## What a sprite leaves alone -/

theorem Toggled.value_eq (toggled : m.Toggled lit m') {z : Fin 16} (other : z ≠ Registers.flag) :
    m'.value z = m.value z :=
  toggled.registers z other

theorem Toggled.index_eq (toggled : m.Toggled lit m') : m'.index = m.index := by
  rw [toggled.others]

theorem Toggled.memory_eq (toggled : m.Toggled lit m') : m'.memory = m.memory := by
  rw [toggled.others]

/-- A sprite sets the same pixels again, unless its place is in the register of flags. -/
theorem Toggled.footprint_eq (toggled : m.Toggled lit m') (hx : x ≠ Registers.flag)
    (hy : y ≠ Registers.flag) : m'.footprint x y height = m.footprint x y height := by
  simp only [footprint, toggled.value_eq hx, toggled.value_eq hy, toggled.index_eq,
    toggled.memory_eq]

/-! ## Twice the same pixels -/

section
variable {op : Opcode} (first : m.Toggled lit m') (second : (m'.noted op).Toggled lit m'')
include first second

/-- Toggling pixels twice leaves all pixels as they were, if they were zeros and ones. -/
theorem Toggled.screen_eq (binary : m.screen.IsBinary) : m''.screen = m.screen := by
  refine Grid.ext_get fun px py => ?_
  have again : Grid.get m''.screen px py =
      if (px, py) ∈ lit then (if Grid.get m'.screen px py = 0 then 1 else 0)
      else Grid.get m'.screen px py := second.pixels px py
  rw [again, first.pixels]
  split
  · rcases binary px py with zero | one
    · simp only [zero, if_true, one_ne_zero, if_false]
    · simp only [one, one_ne_zero, if_false, if_true]
  · rfl

/-- The second time, a pixel is found set if it was zero before the first time. -/
theorem Toggled.flag_eq :
    m''.value Registers.flag = if ∃ p ∈ lit, Grid.get m.screen p.1 p.2 = 0 then 1 else 0 := by
  have found : ∀ p ∈ lit, Grid.get m'.screen p.1 p.2 ≠ 0 ↔ Grid.get m.screen p.1 p.2 = 0 := by
    intro p inside
    rw [first.pixels, if_pos inside]
    split
    · next zero => simp only [zero, ne_eq, one_ne_zero, not_false_eq_true]
    · next lit => simp only [lit, ne_eq, not_true_eq_false]
  have flag : m''.value Registers.flag =
      if ∃ p ∈ lit, Grid.get m'.screen p.1 p.2 ≠ 0 then 1 else 0 := second.flag
  rw [flag]
  simp only [exists_congr fun p => and_congr_right (found p)]

end

/-! ## The opcode -/

/-- What the opcode of a sprite that starts on the screen comes to is what drawing comes to. -/
theorem execute_of_drawSprite (full : m.registers.IsFull) {op : Opcode}
    (code : op.toNat = 0xD000 + 0x100 * x.val + 0x10 * y.val + height.val) {out : Outcome}
    (drawn : (m.noted op).drawSprite (m.value x).toNat (m.value y).toNat height = out)
    (random : List UInt8) :
    (m.execute op random).machine = out.machine ∧ (m.execute op random).failure = out.failure := by
  have decoded : decode op = some (.draw x y height) := decode_eq_some_iff.2 code
  have corner : (m.noted op).registerPair x y = .ok (m.value x, m.value y) := registerPair_eq full x y
  have ran : (Instr.draw x y height).run (m.noted op) (random.headD 0) = out := by
    simp only [Instr.run, corner, Outcome.after, drawn]
  simp only [execute, decoded]
  rw [show ({ m with opcode := op } : Machine) = m.noted op from rfl, ran]
  exact ⟨rfl, rfl⟩

/-- A sprite that starts on the screen and ends in memory is drawn, if it does not start below the
beginning of memory counted from the end. -/
theorem execute_draw_of_ge (full : m.registers.IsFull) {op : Opcode}
    (code : op.toNat = 0xD000 + 0x100 * x.val + 0x10 * y.val + height.val)
    (draws : m.Draws x y height) (fits : ¬4096 < m.spriteStop height) (low : -4096 ≤ m.index)
    (random : List UInt8) :
    (m.noted op).Toggled (m.footprint x y height) (m.execute op random).machine ∧
      (m.execute op random).failure = none := by
  have inside : m.index + height.val ≤ 4096 := by
    simp only [spriteStop, Sprite.width] at fits
    omega
  have top := draws.2.2
  have drawn := drawSprite_of_rows (m := m.noted op) full draws.1 draws.2 fits
    (spriteRows_of_ge low inside) (by simp only [List.length_map, List.length_range]; omega)
  obtain ⟨machine, failure⟩ := execute_of_drawSprite full code drawn random
  rw [machine]
  refine ⟨toggled_plotted (m := m.noted op) full (Sprite.nodup_pixels ..) fun p => ?_, failure⟩
  exact Sprite.mem_pixels_map.trans mem_footprint.symm

/-- One that does start there comes to a failure before any pixel is toggled. -/
theorem execute_draw_of_lt (full : m.registers.IsFull) {op : Opcode}
    (code : op.toNat = 0xD000 + 0x100 * x.val + 0x10 * y.val + height.val)
    (draws : m.Draws x y height) (fits : ¬4096 < m.spriteStop height) (below : m.index < -4096)
    (random : List UInt8) :
    (m.execute op random).machine = m.noted op ∧
      (m.execute op random).failure = some (.access (.byteIndex m.index)) := by
  have drawn := drawSprite_of_lt (m := m.noted op) draws.1 draws.2 fits below
  exact execute_of_drawSprite full code drawn random

/-- Drawing twice toggles the same pixels twice. -/
theorem execute_draw_twice (full : m.registers.IsFull) {op : Opcode}
    (code : op.toNat = 0xD000 + 0x100 * x.val + 0x10 * y.val + height.val)
    (hx : x ≠ Registers.flag) (hy : y ≠ Registers.flag) (draws : m.Draws x y height)
    (fits : ¬4096 < m.spriteStop height) (low : -4096 ≤ m.index) (random random' : List UInt8) :
    let e := m.execute op random
    let e' := e.machine.execute op random'
    ((m.noted op).Toggled (m.footprint x y height) e.machine ∧ e.failure = none) ∧
      (e.machine.noted op).Toggled (m.footprint x y height) e'.machine ∧ e'.failure = none := by
  intro e e'
  obtain ⟨first, ok⟩ := execute_draw_of_ge full code draws fits low random
  have left : e.machine.value x = m.value x := first.value_eq hx
  have top : e.machine.value y = m.value y := first.value_eq hy
  have place : e.machine.index = m.index := first.index_eq
  have same : e.machine.footprint x y height = m.footprint x y height := first.footprint_eq hx hy
  have draws' : e.machine.Draws x y height := by
    rw [Draws, left, top]
    exact draws
  have fits' : ¬4096 < e.machine.spriteStop height := by
    rw [spriteStop, place]
    exact fits
  obtain ⟨second, ok'⟩ :=
    execute_draw_of_ge first.full code draws' fits' (place ▸ low) random'
  rw [same] at second
  exact ⟨⟨first, ok⟩, second, ok'⟩

/-- Drawing a sprite twice in a row, on a screen of zeros and ones, by an opcode that has its place in
other registers than that of flags, and whose sprite has rows, starts on the screen and ends in memory.

The screen is as it was before. Both times nothing fails, if the rows of the sprite can be read; they
cannot only if the index lies below the beginning of memory counted from the end. The first time, the
register of flags tells whether the sprite sets a pixel that was one, the second time, whether it sets
one that was zero before the first time. -/
theorem redraws (full : m.registers.IsFull) (binary : m.screen.IsBinary) {op : Opcode}
    (code : op.toNat = 0xD000 + 0x100 * x.val + 0x10 * y.val + height.val)
    (hx : x ≠ Registers.flag) (hy : y ≠ Registers.flag) (tall : height.val ≠ 0)
    (inside : (m.value x).toNat < 64 ∧ (m.value y).toNat < 32)
    (fits : m.index + 8 * height.val ≤ 4096) (random random' : List UInt8) :
    let e := m.execute op random
    let e' := e.machine.execute op random'
    e'.machine.screen = m.screen ∧
      (e.failure = none ↔ -4096 ≤ m.index) ∧ (e'.failure = none ↔ -4096 ≤ m.index) ∧
      (-4096 ≤ m.index →
        e.machine.value Registers.flag =
            (if ∃ p ∈ m.footprint x y height, Grid.get m.screen p.1 p.2 = 1 then 1 else 0) ∧
          e'.machine.value Registers.flag =
            if ∃ p ∈ m.footprint x y height, Grid.get m.screen p.1 p.2 = 0 then 1 else 0) := by
  intro e e'
  have draws : m.Draws x y height := ⟨tall, inside⟩
  have stop : ¬4096 < m.spriteStop height := Int.not_lt.2 fits
  rcases lt_or_ge m.index (-4096 : Int) with below | low
  · -- Nothing is drawn, and the second time all is as it was the first time.
    obtain ⟨machine, failure⟩ := execute_draw_of_lt full code draws stop below random
    have again : e'.machine = m.noted op ∧ e'.failure = some (.access (.byteIndex m.index)) := by
      simp only [e', e, machine]
      exact execute_draw_of_lt (m := m.noted op) full code draws stop below random'
    have reads : ¬-4096 ≤ m.index := Int.not_le.2 below
    rw [again.1, again.2, failure]
    exact ⟨rfl, iff_of_false nofun reads, iff_of_false nofun reads, (absurd · reads)⟩
  · obtain ⟨⟨first, ok⟩, second, ok'⟩ :=
      execute_draw_twice full code hx hy draws stop low random random'
    have ones : ∀ p : Fin 64 × Fin 32,
        Grid.get m.screen p.1 p.2 ≠ 0 ↔ Grid.get m.screen p.1 p.2 = 1 := by
      intro p
      rcases binary p.1 p.2 with zero | one
      · simp only [zero, ne_eq, not_true_eq_false, zero_ne_one]
      · simp only [one, ne_eq, one_ne_zero, not_false_eq_true]
    have flag := first.flag
    simp only [noted, ones] at flag
    exact ⟨first.screen_eq second binary, iff_of_true ok low, iff_of_true ok' low,
      fun _ => ⟨flag, first.flag_eq second⟩⟩

/-! ## A sprite over ones -/

/-- A new machine that is to draw the glyph of zero, on a screen of ones. -/
def glowing : Machine :=
  { fresh .standard with index := Memory.glyphStart, screen := Grid.filled 1 }

theorem isFull_glowing : glowing.registers.IsFull := Registers.isFull_zeroed

theorem isBinary_glowing : glowing.screen.IsBinary := fun x y => .inr (Grid.get_filled 1 x y)

/-- The glyph is drawn by an opcode whose two coordinates are in the first register. -/
theorem draws_glowing :
    (0xD005 : Opcode).toNat =
        0xD000 + 0x100 * (0 : Fin 16).val + 0x10 * (0 : Fin 16).val + (5 : Fin 16).val ∧
      (0 : Fin 16) ≠ Registers.flag ∧ glowing.Draws 0 0 5 ∧ glowing.index + 8 * (5 : Fin 16).val ≤ 4096 ∧
      -4096 ≤ glowing.index := by
  decide

/-- The glyph is drawn twice, and the screen is full of ones again. -/
theorem redraws_glowing :
    glowing.registers.IsFull ∧ glowing.screen.IsBinary ∧
      let e := glowing.execute 0xD005 []
      let e' := e.machine.execute 0xD005 []
      e.failure = none ∧ e'.failure = none ∧ e'.machine.screen = Grid.filled 1 := by
  obtain ⟨code, place, draws, fits, low⟩ := draws_glowing
  obtain ⟨screen, ok, ok', -⟩ := redraws isFull_glowing isBinary_glowing code place place draws.1 draws.2
    fits [] []
  exact ⟨isFull_glowing, isBinary_glowing, ok.2 low, ok'.2 low, screen⟩

/-- The glyph sets the pixel in the corner. -/
theorem exists_mem_footprint : ∃ p, p ∈ glowing.footprint 0 0 5 := by
  have corner : (glowing.value 0).toNat = 0 := rfl
  have first : glowing.memory.byte (spanStart (glowing.index + (0 : Nat))) = 0xF0 := by
    show ((Memory.zeroed _).overlay Memory.glyphStart Memory.glyphs.toArray).byte 0x50 = 0xF0
    rw [Memory.byte_overlay, dif_pos (by decide)]
    rfl
  obtain ⟨p, column, row⟩ : ∃ p : Fin 64 × Fin 32, p.1.val = 0 ∧ p.2.val = 0 := ⟨(0, 0), rfl, rfl⟩
  refine ⟨p, ?_⟩
  rw [mem_footprint, corner, column, row, first]
  decide

/-- So the register of flags does not tell after the second time whether the sprite sets a pixel. -/
theorem redraws_over_ones :
    ¬∀ (m : Machine) (op : Opcode) (x y height : Fin 16) (random random' : List UInt8),
      m.registers.IsFull → m.screen.IsBinary →
        op.toNat = 0xD000 + 0x100 * x.val + 0x10 * y.val + height.val →
        x ≠ Registers.flag → y ≠ Registers.flag → height.val ≠ 0 →
        (m.value x).toNat < 64 ∧ (m.value y).toNat < 32 → m.index + 8 * height.val ≤ 4096 →
        let e := m.execute op random
        let e' := e.machine.execute op random'
        (e'.machine.value Registers.flag = 1 ↔ ∃ p, p ∈ m.footprint x y height) := by
  intro always
  obtain ⟨code, place, draws, fits, low⟩ := draws_glowing
  have found := (always glowing 0xD005 0 0 5 [] [] isFull_glowing isBinary_glowing code place place
    draws.1 draws.2 fits).2 exists_mem_footprint
  obtain ⟨⟨first, -⟩, second, -⟩ := execute_draw_twice isFull_glowing code place place draws
    (Int.not_lt.2 fits) low [] []
  have unset : ¬∃ p ∈ glowing.footprint 0 0 5, Grid.get (glowing.noted 0xD005).screen p.1 p.2 = 0 := by
    rintro ⟨p, -, zero⟩
    have one : Grid.get (glowing.noted 0xD005).screen p.1 p.2 = 1 := Grid.get_filled 1 p.1 p.2
    rw [one] at zero
    cases zero
  rw [first.flag_eq second, if_neg unset] at found
  cases found

end Machine
end ChipEight
