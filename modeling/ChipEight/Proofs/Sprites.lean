import ChipEight.Proofs.Parity

/-!
# Drawing a sprite

What the opcode of a sprite comes to, in every state of the screen: it is passed over, it comes to a
fault, or the pixels of its placement are toggled (`Machine.execute_draw`). The corner of the sprite is
read before the register of flags is written, so that this register may hold one of its coordinates.
-/

namespace ChipEight

namespace Machine

/-- What a machine becomes by a sprite that sets some pixels. -/
structure Toggled (m : Machine) (lit : Finset (Fin 64 × Fin 32)) (m' : Machine) : Prop where
  /-- A pixel that the sprite sets becomes one if it was zero, and zero if it was anything else. All
  other pixels keep their numbers. -/
  pixels : ∀ px py, Grid.get m'.screen px py =
    if (px, py) ∈ lit then (if Grid.get m.screen px py = 0 then 1 else 0)
    else Grid.get m.screen px py
  /-- The register of flags tells whether one of these pixels was not zero. -/
  flag : m'.value Registers.flag = if ∃ p ∈ lit, Grid.get m.screen p.1 p.2 ≠ 0 then 1 else 0
  registers : ∀ z ≠ Registers.flag, m'.value z = m.value z
  full : m'.registers.IsFull
  draw : m'.draw = true
  /-- Nothing but the screen, the registers and the signal changes. -/
  others : m' = { m with screen := m'.screen, registers := m'.registers, draw := m'.draw }

variable {m : Machine}

theorem toggled_plotted (h : m.registers.IsFull) {pixels : List (Fin 64 × Fin 32)}
    (nodup : pixels.Nodup) {lit : Finset (Fin 64 × Fin 32)} (same : ∀ p, p ∈ pixels ↔ p ∈ lit) :
    m.Toggled lit (m.plotted pixels) where
  pixels px py := by
    have toggled := Framebuffer.get_blit m.screen nodup px py
    simp only [same, Framebuffer.isSet, bne_iff_ne, ne_eq, ite_not] at toggled
    exact toggled
  flag := by
    have collides := Framebuffer.snd_blit m.screen nodup
    simp only [same, Framebuffer.isSet, bne_iff_ne] at collides
    simp only [← collides]
    exact h.value_assign_self ..
  registers z other := (h.value_assign ..).trans (if_neg other.symm)
  full := h.assign ..
  draw := rfl
  others := rfl

/-- Drawing a sprite toggles the pixels of its placement. -/
theorem toggled_drawn (h : m.registers.IsFull) (x y height : Fin 16) :
    m.Toggled (m.placement x y height)
      (m.drawn (m.value x).toNat (m.value y).toNat height.val) :=
  toggled_plotted h (m.nodup_spritePixels ..) fun _ => mem_spritePixels

/-- The three ways of a sprite. One without rows and one that starts outside the screen are passed
over, wherever its bytes would lie. Any other comes to a fault if eight bytes for each row reach beyond
memory, and is drawn if they do not. In the first two ways, the opcode is all that changes. -/
theorem execute_draw (h : m.Sound) {op : Opcode} {x y height : Fin 16}
    (code : op.toNat = 0xD000 + 0x100 * x.val + 0x10 * y.val + height.val) (random : List UInt8) :
    let e := m.execute op random
    let passed := height.val = 0 ∨ 64 ≤ (m.value x).toNat ∨ 32 ≤ (m.value y).toNat
    e.random = random ∧
      (passed → e.machine = { m with opcode := op } ∧ e.failure = none) ∧
      (¬passed → 4096 < m.index + 8 * height.val →
        e.machine = { m with opcode := op } ∧
          ∃ f : Fault, f.kind = .segmentation ∧ e.failure = some (.fault f)) ∧
      (¬passed → ¬4096 < m.index + 8 * height.val →
        { m with opcode := op }.Toggled (m.placement x y height) e.machine ∧ e.failure = none) := by
  intro e passed
  -- noting the opcode changes nothing that a sprite is found by, so all is said of the machine before it
  have decoded : decode op = some (.draw x y height) := decode_eq_some_iff.2 code
  have draws : m.Draws x y height ↔ ¬passed := by
    simp only [Draws, passed]
    omega
  have fault : (Instr.draw x y height).fault? (m.noted op) =
      if ¬passed ∧ 4096 < m.index + 8 * height.val then
        some (.spriteSpan m.index (m.index + 8 * height.val))
      else none := by
    simp only [← draws]
    rfl
  have effect (r : UInt8) : (Instr.draw x y height).effect (m.noted op) r =
      if ¬passed then (m.noted op).drawn (m.value x).toNat (m.value y).toNat height.val
      else m.noted op := by
    simp only [← draws]
    rfl
  have executed : e = _ := execute_eq h op random
  rw [decoded] at executed
  simp only [fault, effect] at executed
  by_cases skipped : passed
  · rw [if_neg fun both => both.1 skipped, if_neg (not_not_intro skipped)] at executed
    rw [executed]
    exact ⟨rfl, fun _ => ⟨rfl, rfl⟩, absurd skipped, absurd skipped⟩
  · by_cases beyond : 4096 < m.index + 8 * height.val
    · rw [if_pos ⟨skipped, beyond⟩] at executed
      rw [executed]
      exact ⟨rfl, (absurd · skipped), fun _ _ => ⟨rfl, _, rfl, rfl⟩, fun _ => absurd beyond⟩
    · rw [if_neg fun both => beyond both.2, if_pos skipped] at executed
      rw [executed]
      exact ⟨rfl, (absurd · skipped), fun _ => (absurd · beyond),
        fun _ _ => ⟨toggled_drawn (h.noted op).registers x y height, rfl⟩⟩

/-- A new machine that is to draw the glyph of zero, on a screen that holds neither zeros nor ones. -/
def drawing : Machine :=
  { fresh .standard with index := Memory.glyphStart, screen := Grid.filled 7 }

/-- The glyph is drawn. -/
theorem execute_draw_drawing :
    drawing.Sound ∧
      { drawing with opcode := 0xD005 }.Toggled (drawing.placement 0 0 5)
        (drawing.execute 0xD005 []).machine := by
  have sound : drawing.Sound := ⟨Registers.isFull_zeroed, by decide⟩
  have code : (0xD005 : Opcode).toNat =
      0xD000 + 0x100 * (0 : Fin 16).val + 0x10 * (0 : Fin 16).val + (5 : Fin 16).val := rfl
  have drawn := (execute_draw sound code []).2.2.2
  exact ⟨sound, (drawn (by decide) (by decide)).1⟩

end Machine
end ChipEight
