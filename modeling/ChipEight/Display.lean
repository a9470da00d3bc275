import ChipEight.Surface

/-!
# Displays

The windows of the host are opened and painted by a window system, which is neither a part of the machine
nor of the host. What the host asks of it are the operations of a `Display`, and all that is known
of them is what is promised: a surface has the size that it was asked for, filling it covers it, and a
rectangle is clipped to it (`Display.Lawful`). `Display.plain` is a display that keeps its surfaces
in memory and opens every window; the promises hold of it (`Display.plain_lawful`).
-/

namespace ChipEight

/-- A window system: the surfaces of its windows, and what can be done to them. -/
structure Display where
  /-- The surfaces of windows that were asked for with so many columns and rows. -/
  Surface : (width height : Int) → Type
  /-- Opens a window. -/
  create : (width height : Int) → Except DisplayError (Surface width height)
  /-- Gives a surface one colour. -/
  fill : {width height : Int} → Surface width height → Colour → Surface width height
  /-- Gives a rectangle one colour, which may lie anywhere. -/
  fillRect : {width height : Int} → Surface width height → Rect → Colour →
    Except DisplayError (Surface width height)
  /-- The colour at a place. -/
  colourAt : {width height : Int} → Surface width height → (x y : Int) → Except DisplayError Colour

/-- What a window system promises. -/
structure Display.Lawful (d : Display) : Prop where
  /-- A surface has the columns and rows that were asked for: they, and no other places, have
  colours. -/
  colourAt_isOk : ∀ {width height : Int} (g : d.Surface width height) (x y : Int),
    0 < width → 0 < height →
      ((∃ c, d.colourAt g x y = .ok c) ↔ (0 ≤ x ∧ x < width) ∧ 0 ≤ y ∧ y < height)
  /-- Filling a surface gives the colour to all its places … -/
  colourAt_fill : ∀ {width height : Int} (g : d.Surface width height) (c old : Colour) (x y : Int),
    d.colourAt g x y = .ok old → d.colourAt (d.fill g c) x y = .ok c
  /-- … and leaves nothing of what it was before. -/
  fill_eq_fill : ∀ {width height : Int} (g g' : d.Surface width height) (c : Colour),
    d.fill g c = d.fill g' c
  /-- A rectangle can be filled wherever it lies … -/
  fillRect_isOk : ∀ {width height : Int} (g : d.Surface width height) (r : Rect) (c : Colour),
    0 < r.width → 0 < r.height → ∃ g', d.fillRect g r c = .ok g'
  /-- … and is clipped to the surface: the places of the surface that lie in it take the colour, and
  no others. -/
  colourAt_fillRect : ∀ {width height : Int} (g g' : d.Surface width height) (r : Rect)
    (c old : Colour) (x y : Int), 0 < r.width → 0 < r.height → d.fillRect g r c = .ok g' →
      d.colourAt g x y = .ok old → d.colourAt g' x y = .ok (if r.Contains x y then c else old)

namespace Display

/-- What a display says about a place outside a surface. -/
def outside : DisplayError := ⟨"IndexError", "pixel index out of range"⟩

/-- A display that keeps its surfaces in memory, and opens every window. They are black at first. -/
def plain : Display where
  Surface width height := ChipEight.Surface width.toNat height.toNat
  create _ _ := .ok (ChipEight.Surface.filled ⟨0, 0, 0, 255⟩)
  fill _ c := ChipEight.Surface.filled c
  fillRect g r c := .ok (ChipEight.Surface.fillRect g r c)
  colourAt g x y := (ChipEight.Surface.colourAt? g x y).elim (.error outside) .ok

/-- A place of a surface has the colour that is kept for it. -/
theorem colourAt_plain {width height : Int} {g : plain.Surface width height} {x y : Int} {c : Colour} :
    plain.colourAt g x y = .ok c ↔
      ∃ (i : Fin width.toNat) (j : Fin height.toNat), x = i.val ∧ y = j.val ∧
        ChipEight.Surface.get g i j = c := by
  refine Iff.trans ?_ ChipEight.Surface.colourAt?_eq_some_iff
  simp only [plain]
  cases ChipEight.Surface.colourAt? g x y <;> simp

/-- A display in memory keeps all promises. -/
theorem plain_lawful : plain.Lawful where
  colourAt_isOk g x y width height := by
    simp only [colourAt_plain]
    constructor
    · rintro ⟨c, i, j, rfl, rfl, -⟩
      omega
    · intro inside
      exact ⟨_, ⟨x.toNat, by omega⟩, ⟨y.toNat, by omega⟩, by simp only; omega, by simp only; omega, rfl⟩
  colourAt_fill g c old x y on := by
    obtain ⟨i, j, column, row, -⟩ := colourAt_plain.1 on
    exact colourAt_plain.2 ⟨i, j, column, row, ChipEight.Surface.get_filled c i j⟩
  fill_eq_fill _ _ _ := rfl
  fillRect_isOk g r c _ _ := ⟨_, rfl⟩
  colourAt_fillRect g g' r c old x y _ _ filled on := by
    cases filled
    obtain ⟨i, j, rfl, rfl, rfl⟩ := colourAt_plain.1 on
    exact colourAt_plain.2 ⟨i, j, rfl, rfl, ChipEight.Surface.get_fillRect g r c i j⟩

end Display

end ChipEight
