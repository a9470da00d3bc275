import ChipEight.Failure
import ChipEight.Strip

/-!
# Surfaces

Rows of colours, in which rectangles can be filled. `Surface.fillRect` fills a rectangle as far as it
lies on the surface, and `Surface.get_fillRect` says that nothing else changes.
-/

namespace ChipEight

/-- A colour, with its opacity. -/
structure Colour where
  red : UInt8
  green : UInt8
  blue : UInt8
  alpha : UInt8
  deriving DecidableEq, Repr

namespace Colour

/-- The colour of unset pixels. -/
def background : Colour := ⟨80, 69, 155, 255⟩

/-- The colour of set pixels. -/
def foreground : Colour := ⟨136, 126, 203, 255⟩

/-- The colour of a pixel, which is set unless its value is zero. -/
def ofPixel (value : Int) : Colour := if value = 0 then background else foreground

end Colour

/-! ## Rectangles -/

/-- A rectangle, by its upper left corner and its sides. -/
structure Rect where
  left : Int
  top : Int
  width : Int
  height : Int
  deriving DecidableEq, Repr

/-- A place lies in a rectangle. -/
def Rect.Contains (r : Rect) (x y : Int) : Prop :=
  (r.left ≤ x ∧ x < r.left + r.width) ∧ r.top ≤ y ∧ y < r.top + r.height

instance (r : Rect) (x y : Int) : Decidable (r.Contains x y) :=
  inferInstanceAs (Decidable ((r.left ≤ x ∧ x < r.left + r.width) ∧ r.top ≤ y ∧ y < r.top + r.height))

/-! ## Surfaces -/

/-- A surface of `w` columns and `h` rows, from the top. -/
abbrev Surface (w h : Nat) := Strip (Strip Colour w) h

namespace Surface

variable {w h : Nat}

/-- The surface with one colour everywhere. -/
def filled (c : Colour) : Surface w h := Strip.filled h (Strip.filled w c)

/-- The colour at a column and a row. -/
def get (g : Surface w h) (x : Fin w) (y : Fin h) : Colour := (Strip.get g y).get x

/-- Changes what is at `length` places from `start` on, which may lie before the first place. -/
def mapSpan {α : Type} [DecidableEq α] {n : Nat} (f : α → α) (start length : Int)
    (s : Strip α n) : Strip α n :=
  s.mapRange f start.toNat ((start + length).toNat - start.toNat)

/-- Fills a rectangle, as far as it lies on the surface. -/
def fillRect (g : Surface w h) (r : Rect) (c : Colour) : Surface w h :=
  mapSpan (mapSpan (fun _ => c) r.left r.width) r.top r.height g

/-- The colour at a place, if it lies on the surface. -/
def colourAt? (g : Surface w h) (x y : Int) : Option Colour :=
  if hxy : (0 ≤ x ∧ x < w) ∧ 0 ≤ y ∧ y < h then
    some (get g ⟨x.toNat, by omega⟩ ⟨y.toNat, by omega⟩)
  else none

/-! ## What a rectangle changes -/

theorem get_filled (c : Colour) (x : Fin w) (y : Fin h) : get (filled c) x y = c := by
  simp only [get, filled, Strip.get_filled]

theorem get_mapSpan {α : Type} [DecidableEq α] {n : Nat} (f : α → α) (start length : Int)
    (s : Strip α n) (i : Fin n) :
    (mapSpan f start length s).get i =
      if start ≤ i ∧ i < start + length then f (s.get i) else s.get i := by
  rw [mapSpan, Strip.get_mapRange]
  exact ite_congr (propext (by omega)) (fun _ => rfl) fun _ => rfl

theorem get_fillRect (g : Surface w h) (r : Rect) (c : Colour) (i : Fin w) (j : Fin h) :
    get (fillRect g r c) i j = if r.Contains i j then c else get g i j := by
  simp only [fillRect, get, get_mapSpan, Rect.Contains]
  by_cases hj : r.top ≤ j ∧ j < r.top + r.height
  · simp only [hj, and_true, if_true, and_self, get_mapSpan]
  · simp only [hj, and_false, if_false]

/-- Only the places of a surface have colours. -/
theorem colourAt?_eq_some_iff {g : Surface w h} {x y : Int} {c : Colour} :
    colourAt? g x y = some c ↔ ∃ (i : Fin w) (j : Fin h), x = i.val ∧ y = j.val ∧ get g i j = c := by
  unfold colourAt?
  constructor
  · intro found
    split at found
    · cases found
      exact ⟨⟨x.toNat, by omega⟩, ⟨y.toNat, by omega⟩, by simp only; omega, by simp only; omega, rfl⟩
    · cases found
  · rintro ⟨i, j, rfl, rfl, rfl⟩
    rw [dif_pos (by omega)]
    rfl

end Surface

end ChipEight
