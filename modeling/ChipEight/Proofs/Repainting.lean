import ChipEight.Proofs.Painting

/-!
# Painting over a window

Painting a framebuffer covers the whole surface: every place takes the colour of the pixel whose square it
lies in, whatever was there before, so that painting twice is like painting once
(`Window.paints_squares`). A single pixel changes the places of its own square and no others. All that is
known of the display is that it keeps its promises (`Display.Lawful`).
-/

namespace ChipEight

namespace Window

variable {d : Display} {w h : Nat} {s : Int}

/-- Two windows have the same colours at the same places. -/
def SameColours (win win' : Window d w h s) : Prop :=
  ∀ i j c, d.colourAt win.surface i j = .ok c ↔ d.colourAt win'.surface i j = .ok c

/-- The places of a line of `n` pixels are those of their squares. -/
theorem exists_pixel_iff (scale : 0 < s) {n : Nat} {i : Int} :
    (∃ x : Fin n, i / s = x.val) ↔ 0 ≤ i ∧ i < n * s := by
  rw [← Int.ediv_lt_iff_lt_mul scale, ← Int.ediv_nonneg_iff_of_pos scale]
  constructor
  · rintro ⟨x, column⟩
    omega
  · rintro ⟨low, high⟩
    exact ⟨⟨(i / s).toNat, by omega⟩, by simp only; omega⟩

section
variable (lawful : d.Lawful) (width : 0 < w) (height : 0 < h) (scale : 0 < s)
include lawful width height scale

/-- The places of a window are those of its squares. -/
theorem colourAt_isOk_iff (win : Window d w h s) (i j : Int) :
    (∃ c, d.colourAt win.surface i j = .ok c) ↔ (0 ≤ i ∧ i < w * s) ∧ 0 ≤ j ∧ j < h * s :=
  lawful.colourAt_isOk win.surface i j (Int.mul_pos (Int.natCast_pos.2 width) scale)
    (Int.mul_pos (Int.natCast_pos.2 height) scale)

/-! ## The whole window -/

/-- After painting, the places of a window have the colours of the pixels in whose squares they lie. -/
theorem colourAt_draw_iff (win : Window d w h s) (f : Framebuffer w h) {i j : Int} {c : Colour} :
    d.colourAt (win.draw f).1.surface i j = .ok c ↔
      ∃ (x : Fin w) (y : Fin h), i / s = x.val ∧ j / s = y.val ∧ Colour.ofPixel (Grid.get f x y) = c := by
  have painted := (colourAt_draw lawful scale win f).2
  have inside := colourAt_isOk_iff lawful width height scale (i := i) (j := j)
  constructor
  · intro on
    obtain ⟨column, row⟩ := (inside (win.draw f).1).1 ⟨c, on⟩
    obtain ⟨old, before⟩ := (inside win).2 ⟨column, row⟩
    obtain ⟨x, column⟩ := (exists_pixel_iff scale).2 column
    obtain ⟨y, row⟩ := (exists_pixel_iff scale).2 row
    rw [painted x y i j old column row before] at on
    exact ⟨x, y, column, row, Except.ok.inj on⟩
  · rintro ⟨x, y, column, row, rfl⟩
    obtain ⟨old, before⟩ :=
      (inside win).2 ⟨(exists_pixel_iff scale).1 ⟨x, column⟩, (exists_pixel_iff scale).1 ⟨y, row⟩⟩
    exact painted x y i j old column row before

/-- What a window was painted with before makes no difference. -/
theorem sameColours_draw (win win' : Window d w h s) (f : Framebuffer w h) :
    SameColours (win.draw f).1 (win'.draw f).1 := by
  intro i j c
  rw [colourAt_draw_iff lawful width height scale, colourAt_draw_iff lawful width height scale]

/-! ## One pixel -/

/-- Writing a pixel gives its colour to the places of its square, and leaves all others alone. -/
theorem colourAt_writePixel_iff {win win' : Window d w h s} {x y value : Int}
    (written : win.writePixel x y value = .ok win') {i j : Int} {c : Colour} :
    d.colourAt win'.surface i j = .ok c ↔
      if (square s x y).Contains i j then
        ((0 ≤ i ∧ i < w * s) ∧ 0 ≤ j ∧ j < h * s) ∧ Colour.ofPixel value = c
      else d.colourAt win.surface i j = .ok c := by
  have inside := colourAt_isOk_iff lawful width height scale (i := i) (j := j)
  have changed {old : Colour} (before : d.colourAt win.surface i j = .ok old) :
      d.colourAt win'.surface i j = .ok (if (square s x y).Contains i j then .ofPixel value else old) :=
    colourAt_writePixel lawful scale written before
  by_cases on : (0 ≤ i ∧ i < w * s) ∧ 0 ≤ j ∧ j < h * s
  · obtain ⟨old, before⟩ := (inside win).2 on
    rw [changed before, before, Except.ok.injEq, Except.ok.injEq]
    split
    · exact (and_iff_right on).symm
    · rfl
  · -- Neither before nor after it does a place outside the window have a colour.
    have off (win : Window d w h s) : ¬d.colourAt win.surface i j = .ok c :=
      fun colour => on ((inside win).1 ⟨c, colour⟩)
    simp only [off, on, false_and, ite_self]

/-! ## Painting and painting again -/

/-- What painting leaves behind, in every window of a display that keeps its promises, for all pixels and
everything that was painted before.

After painting, each place of the surface has the colour of the pixel in whose square it lies, so that
the window reads as the framebuffer does; painting once more changes nothing, and nothing is left of what
was there before. A single pixel that is written, on the screen or not, changes only the places of the
surface that lie in its square. -/
theorem paints_squares (win : Window d w h s) (f : Framebuffer w h) :
    let painted := (win.draw f).1
    (win.draw f).2 = none ∧
      (∀ i j : Int, 0 ≤ i → i < w * s → 0 ≤ j → j < h * s →
        ∃ (x : Fin w) (y : Fin h), i / s = x.val ∧ j / s = y.val ∧
          d.colourAt painted.surface i j =
            .ok (if Grid.get f x y = 0 then .background else .foreground)) ∧
      (∀ (x : Fin w) (y : Fin h), ∃ bit,
        painted.readPixel x.val y.val = .ok bit ∧ f.readPixel x.val y.val = .ok bit) ∧
      SameColours (painted.draw f).1 painted ∧
      (∀ other : Window d w h s, SameColours (other.draw f).1 painted) ∧
      ∀ x y value : Int, ∃ written, win.writePixel x y value = .ok written ∧
        ∀ i j c, d.colourAt written.surface i j = .ok c ↔
          if (x * s ≤ i ∧ i < x * s + s) ∧ y * s ≤ j ∧ j < y * s + s then
            ((0 ≤ i ∧ i < w * s) ∧ 0 ≤ j ∧ j < h * s) ∧
              (if value = 0 then Colour.background else Colour.foreground) = c
          else d.colourAt win.surface i j = .ok c := by
  intro painted
  refine ⟨(colourAt_draw lawful scale win f).1, ?_, ?_, ?_, ?_, ?_⟩
  · intro i j left right top bottom
    obtain ⟨x, column⟩ := (exists_pixel_iff scale).2 ⟨left, right⟩
    obtain ⟨y, row⟩ := (exists_pixel_iff scale).2 ⟨top, bottom⟩
    exact ⟨x, y, column, row,
      (colourAt_draw_iff lawful width height scale win f).2 ⟨x, y, column, row, rfl⟩⟩
  · intro x y
    exact ⟨_, (shows_draw lawful scale win f x y).trans (f.readPixel_eq x y), f.readPixel_eq x y⟩
  · exact sameColours_draw lawful width height scale painted win f
  · intro other
    exact sameColours_draw lawful width height scale other win f
  · intro x y value
    obtain ⟨written, ok⟩ := writePixel_isOk lawful scale win x y value
    exact ⟨written, ok, fun i j c => colourAt_writePixel_iff lawful width height scale ok⟩

end

/-- The last place of the square of a set pixel, in a window with squares of three by three that is kept in
memory. -/
theorem paints_squares_tripled :
    Display.plain.Lawful ∧
      let f : Framebuffer 2 2 := Grid.set Framebuffer.blank 1 0 (-5)
      Display.plain.colourAt ((plain 2 2 3).draw f).1.surface 5 2 = .ok .foreground := by
  refine ⟨Display.plain_lawful, ?_⟩
  intro f
  obtain ⟨x, y, column, row, colour⟩ :=
    (paints_squares Display.plain_lawful (w := 2) (h := 2) (by decide) (by decide) (by decide)
      (plain 2 2 3) f).2.1 5 2 (by decide) (by decide) (by decide) (by decide)
  obtain rfl : x = 1 := Fin.ext (Int.ofNat_inj.1 column.symm)
  obtain rfl : y = 0 := Fin.ext (Int.ofNat_inj.1 row.symm)
  refine colour.trans ?_
  rw [Grid.get_set]
  rfl

end Window
end ChipEight
