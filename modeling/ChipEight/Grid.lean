/-!
# Grids

A rectangle of cells, stored row by row in one vector. `Grid.offset` is the place of a cell in that
vector; different cells have different places (`Grid.offset_inj`), so that writing one cell leaves
every other cell as it was (`Grid.get_set`).
-/

namespace ChipEight

/-- A rectangle of `w` columns and `h` rows. -/
structure Grid (α : Type) (w h : Nat) where
  cells : Vector α (w * h)

namespace Grid

variable {α : Type} {w h : Nat}

/-- The rectangle that holds one value everywhere. -/
def filled (a : α) : Grid α w h := ⟨Vector.replicate (w * h) a⟩

/-- The place of a cell in row by row order. -/
def offset (x : Fin w) (y : Fin h) : Fin (w * h) :=
  ⟨y.val * w + x.val, by
    have hy : (y.val + 1) * w ≤ h * w := Nat.mul_le_mul_right w y.isLt
    rw [Nat.add_mul, Nat.one_mul] at hy
    rw [Nat.mul_comm w h]
    omega⟩

/-- The value of a cell. -/
def get (g : Grid α w h) (x : Fin w) (y : Fin h) : α := g.cells[offset x y]

/-- Writes a cell. -/
def set (g : Grid α w h) (x : Fin w) (y : Fin h) (a : α) : Grid α w h :=
  ⟨g.cells.set (offset x y) a⟩

/-- Writes every cell. -/
def fill (g : Grid α w h) (a : α) : Grid α w h := ⟨g.cells.map fun _ => a⟩

/-! ## Cells do not overlap -/

theorem offset_inj {x x' : Fin w} {y y' : Fin h} :
    offset x y = offset x' y' ↔ x = x' ∧ y = y' := by
  constructor
  · intro e
    have e : y.val * w + x.val = y'.val * w + x'.val := congrArg Fin.val e
    have hx : x.val = x'.val := by
      have := congrArg (· % w) e
      simpa [Nat.mul_comm _ w, Nat.mod_eq_of_lt] using this
    have hy : y.val = y'.val := by
      have hw : 0 < w := Nat.lt_of_le_of_lt (Nat.zero_le _) x.isLt
      have h1 : y.val * w = y'.val * w := by omega
      exact Nat.eq_of_mul_eq_mul_right hw h1
    exact ⟨Fin.ext hx, Fin.ext hy⟩
  · rintro ⟨rfl, rfl⟩
    rfl

/-- Every place is the place of a cell, so that the cells determine the rectangle. -/
theorem ext_get {g g' : Grid α w h} (same : ∀ x y, g.get x y = g'.get x y) : g = g' := by
  obtain ⟨cells⟩ := g
  obtain ⟨cells'⟩ := g'
  rw [Grid.mk.injEq]
  refine Vector.ext fun i hi => ?_
  have hw : 0 < w := Nat.pos_of_mul_pos_right (Nat.lt_of_le_of_lt (Nat.zero_le i) hi)
  have cell := same ⟨i % w, Nat.mod_lt i hw⟩ ⟨i / w, Nat.div_lt_of_lt_mul hi⟩
  have place : i / w * w + i % w = i := Nat.div_add_mod' i w
  simpa only [get, offset, Fin.getElem_fin, place] using cell

theorem get_set (g : Grid α w h) (x x' : Fin w) (y y' : Fin h) (a : α) :
    (g.set x y a).get x' y' = if x = x' ∧ y = y' then a else g.get x' y' := by
  simp only [set, get, Fin.getElem_fin, Vector.getElem_set, ← Fin.ext_iff, offset_inj]

theorem get_fill (g : Grid α w h) (a : α) (x : Fin w) (y : Fin h) : (g.fill a).get x y = a := by
  simp [fill, get]

theorem get_filled (a : α) (x : Fin w) (y : Fin h) : (filled a).get x y = a := by
  simp [filled, get]

theorem fill_eq_filled (g : Grid α w h) (a : α) : g.fill a = filled a := by
  simp only [fill, filled, Grid.mk.injEq]
  ext i hi
  simp

end Grid

end ChipEight
