import ChipEight.Window

/-!
# What a window shows

On a display that keeps its promises, writing a pixel gives its colour to the places of its square
(`Window.colourAt_writePixel`), and the squares of all pixels make up the surface. So painting a framebuffer
leaves the colours of its pixels and nothing of what was there before (`Window.colourAt_draw`), and the
window then shows the framebuffer (`Window.Shows`): it reads as the framebuffer does, pixel by pixel.
-/

namespace ChipEight

/-- A pixel on the screen is read as one if it is set, and as zero if not. -/
theorem Framebuffer.readPixel_eq {w h : Nat} (f : Framebuffer w h) (x : Fin w) (y : Fin h) :
    f.readPixel x.val y.val = .ok (if Grid.get f x y = 0 then 0 else 1) := by
  have place : (y.val : Int) * w + x.val = ((Grid.offset x y).val : Nat) := by simp [Grid.offset]
  rw [readPixel, pixelAt, place, Index.resolve_natCast (Grid.offset x y).isLt]
  rfl

namespace Window

variable {d : Display} {s : Int}

/-! ## Squares -/

/-- A place lies in the square of the pixel whose column and row are found by dividing. -/
theorem contains_square_iff (scale : 0 < s) {x y i j : Int} :
    (square s x y).Contains i j ↔ i / s = x ∧ j / s = y := by
  have line (x i : Int) : (x * s ≤ i ∧ i < x * s + s) ↔ i / s = x := by
    have next : x * s + s = (x + 1) * s := by rw [Int.add_mul, Int.one_mul]
    rw [next, ← Int.le_ediv_iff_mul_le scale, ← Int.ediv_lt_iff_lt_mul scale]
    omega
  exact and_congr (line x i) (line y j)

section
variable {w h : Int} {win win' : Window d w h s} {x y i j : Int} {old : Colour}

/-- A pixel is set if the corner of its square is not background. -/
theorem readPixel_of_colourAt (on : d.colourAt win.surface (x * s) (y * s) = .ok old) :
    win.readPixel x y = .ok (if old = .background then 0 else 1) := by
  rw [readPixel, litAt, on]

/-- A window that was cleared is all background. -/
theorem colourAt_clear (lawful : d.Lawful) (on : d.colourAt win.surface i j = .ok old) :
    d.colourAt win.clear.surface i j = .ok .background :=
  lawful.colourAt_fill _ _ _ _ _ on

/-- Clearing a window leaves it as windows open. -/
theorem clear_eq_of_create (lawful : d.Lawful) {opened : Window d w h s}
    (opens : create d w h s = .ok opened) (win : Window d w h s) : win.clear = opened := by
  unfold create at opens
  split at opens
  · cases opens
  · cases opens
    exact congrArg Window.mk (lawful.fill_eq_fill _ _ _)

variable (lawful : d.Lawful) (scale : 0 < s)
include lawful scale

/-- Every pixel can be written, wherever it lies. -/
theorem writePixel_isOk (win : Window d w h s) (x y value : Int) :
    ∃ win', win.writePixel x y value = .ok win' := by
  obtain ⟨g, filled⟩ :=
    lawful.fillRect_isOk win.surface (square s x y) (.ofPixel value) scale scale
  exact ⟨⟨g⟩, by rw [writePixel, filled]⟩

/-- Writing a pixel changes the places of its square and no others. -/
theorem colourAt_writePixel {value : Int} (written : win.writePixel x y value = .ok win')
    (on : d.colourAt win.surface i j = .ok old) :
    d.colourAt win'.surface i j =
      .ok (if (square s x y).Contains i j then .ofPixel value else old) := by
  unfold writePixel at written
  split at written
  · cases written
  · next filled =>
    cases written
    exact lawful.colourAt_fillRect _ _ _ _ _ _ _ scale scale filled on

/-! ## Painting -/

/-- Painting pixels that can be read does not fail. It leaves their colours in the places of their squares,
and everything else as it was. -/
theorem colourAt_paint {pixel : Int → Int → Except AccessError Nat} {value : Nat × Nat → Nat}
    (pixels : List (Nat × Nat)) (reads : ∀ p ∈ pixels, pixel p.1 p.2 = .ok (value p))
    (win : Window d w h s) :
    (paint pixel pixels win).2 = none ∧
      ∀ (p : Nat × Nat) (i j : Int) (old : Colour), i / s = p.1 → j / s = p.2 →
        d.colourAt win.surface i j = .ok old →
          d.colourAt (paint pixel pixels win).1.surface i j =
            .ok (if p ∈ pixels then .ofPixel (value p) else old) := by
  induction pixels generalizing win with
  | nil => exact ⟨rfl, fun p i j old _ _ on => by simpa [paint] using on⟩
  | cons q rest ih =>
    obtain ⟨read, reads⟩ := List.forall_mem_cons.1 reads
    obtain ⟨next, written⟩ := writePixel_isOk lawful scale win q.1 q.2 (value q)
    obtain ⟨ok, painted⟩ := ih reads next
    simp only [paint, read, written]
    refine ⟨ok, fun p i j old column row on => ?_⟩
    have here : (square s q.1 q.2).Contains i j ↔ p = q := by
      rw [contains_square_iff scale, column, row, Int.ofNat_inj, Int.ofNat_inj, Prod.ext_iff]
    rw [painted p i j _ column row (colourAt_writePixel lawful scale written on)]
    -- A place that is painted more than once keeps the last colour.
    by_cases later : p ∈ rest
    · rw [if_pos later, if_pos (List.mem_cons_of_mem _ later)]
    · simp only [later, if_false, here, List.mem_cons, or_false]
      split
      · next same => rw [same]
      · rfl

end

variable {w h : Nat}

theorem mem_pixels {p : Nat × Nat} : p ∈ pixels w h ↔ p.1 < w ∧ p.2 < h := by
  obtain ⟨x, y⟩ := p
  simp only [pixels, List.mem_flatMap, List.mem_map, List.mem_range, Prod.mk.injEq]
  constructor
  · rintro ⟨_, hy, _, hx, rfl, rfl⟩
    exact ⟨hx, hy⟩
  · rintro ⟨hx, hy⟩
    exact ⟨y, hy, x, hx, rfl, rfl⟩

variable (lawful : d.Lawful) (scale : 0 < s)
include lawful scale

/-- Painting a framebuffer does not fail, and gives every place the colour of the pixel in whose square it
lies. -/
theorem colourAt_draw (win : Window d w h s) (f : Framebuffer w h) :
    (win.draw f).2 = none ∧
      ∀ (x : Fin w) (y : Fin h) (i j : Int) (old : Colour), i / s = x.val → j / s = y.val →
        d.colourAt win.surface i j = .ok old →
          d.colourAt (win.draw f).1.surface i j = .ok (.ofPixel (Grid.get f x y)) := by
  -- What is painted are ones and zeros.
  let value (p : Nat × Nat) : Nat :=
    if inside : p.1 < w ∧ p.2 < h then
      if Grid.get f ⟨p.1, inside.1⟩ ⟨p.2, inside.2⟩ = 0 then 0 else 1
    else 0
  have reads (p : Nat × Nat) (hp : p ∈ pixels w h) : f.readPixel p.1 p.2 = .ok (value p) := by
    have inside := mem_pixels.1 hp
    simp only [value, dif_pos inside]
    exact f.readPixel_eq ⟨p.1, inside.1⟩ ⟨p.2, inside.2⟩
  obtain ⟨ok, painted⟩ := colourAt_paint lawful scale (pixels w h) reads win
  refine ⟨ok, fun x y i j old column row on => ?_⟩
  have inside : x.val < w ∧ y.val < h := ⟨x.isLt, y.isLt⟩
  have colour : Colour.ofPixel (value (x.val, y.val)) = .ofPixel (Grid.get f x y) := by
    simp only [value, dif_pos inside, Colour.ofPixel]
    by_cases unset : Grid.get f x y = 0
    · simp only [unset, if_true, Int.natCast_zero]
    · simp only [unset, if_false, Int.natCast_one, Int.one_ne_zero]
  rw [← colour]
  exact (painted (x.val, y.val) i j old column row on).trans (by rw [if_pos (mem_pixels.2 inside)])

/-- The corner of the square of a pixel lies on the surface. -/
theorem exists_colourAt_corner (win : Window d w h s) (x : Fin w) (y : Fin h) :
    ∃ c, d.colourAt win.surface (x.val * s) (y.val * s) = .ok c := by
  have bounds {n : Nat} (x : Fin n) : 0 ≤ (x.val : Int) * s ∧ (x.val : Int) * s < n * s :=
    ⟨Int.mul_nonneg (by omega) (Int.le_of_lt scale), Int.mul_lt_mul_of_pos_right (by omega) scale⟩
  have column := bounds x
  have row := bounds y
  exact (lawful.colourAt_isOk win.surface _ _ (by omega) (by omega)).2 ⟨column, row⟩

/-! ## Reading -/

omit lawful scale in
/-- The window reads as the framebuffer does, pixel by pixel. -/
def Shows (win : Window d w h s) (f : Framebuffer w h) : Prop :=
  ∀ (x : Fin w) (y : Fin h), win.readPixel x.val y.val = f.readPixel x.val y.val

/-- A window shows the framebuffer that it was painted with last. -/
theorem shows_draw (win : Window d w h s) (f : Framebuffer w h) : (win.draw f).1.Shows f := by
  intro x y
  obtain ⟨c, on⟩ := exists_colourAt_corner lawful scale win x y
  have corner (n : Nat) : (n : Int) * s / s = n := Int.mul_ediv_cancel _ (Int.ne_of_gt scale)
  have painted := (colourAt_draw lawful scale win f).2 x y _ _ c (corner _) (corner _) on
  rw [readPixel_of_colourAt painted, f.readPixel_eq, Colour.ofPixel]
  split <;> rfl

/-- A window that was cleared shows the blank framebuffer. -/
theorem shows_clear (win : Window d w h s) : win.clear.Shows Framebuffer.blank := by
  intro x y
  obtain ⟨c, on⟩ := exists_colourAt_corner lawful scale win x y
  rw [readPixel_of_colourAt (colourAt_clear lawful on), Framebuffer.readPixel_eq, if_pos rfl,
    Framebuffer.blank, Grid.get_filled, if_pos rfl]

end Window
end ChipEight
