import ChipEight.Framebuffer
import ChipEight.Index.Room

/-!
# Canvases

A canvas is a framebuffer of whatever size is asked for. A negative width or height leaves it without
pixels; it still counts indices with the size that it was asked for, and it cannot tell how many rows
or columns it has. A canvas whose size is not negative is just its framebuffer.
-/

namespace ChipEight

/-- A framebuffer that was asked for with `w` columns and `h` rows. -/
structure Canvas (w h : Int) where
  pixels : Framebuffer w.toNat h.toNat

namespace Canvas

variable {w h : Int}

/-- The rows of a canvas, as views. -/
abbrev Line (w h : Int) := Row w.toNat h.toNat

/-- A canvas with every pixel unset, if there is room for a row and for all rows. -/
def create (w h : Int) : Except AccessError (Canvas w h) := do
  let columns ← Index.roomFor 1 w
  let _ ← Index.roomFor columns h
  return ⟨Framebuffer.blank⟩

/-- How many pixels a canvas has. -/
def area (_ : Canvas w h) : Nat := w.toNat * h.toNat

/-! ## Rows -/

/-- How many rows a canvas has. -/
def rowCount (_ : Canvas w h) : Except AccessError Nat :=
  if h < 0 then .error .negativeCount else .ok h.toNat

/-- The view of a row, which a negative index counts from the bottom. -/
def row (c : Canvas w h) (y : Int) : Except AccessError (Line w h) :=
  if h < 0 then .error (.row (Index.fromStart h y) h) else c.pixels.row y

/-- How many columns a row has. -/
def columnCount (_ : Canvas w h) (_ : Line w h) : Except AccessError Nat :=
  if w < 0 then .error .negativeCount else .ok w.toNat

/-- The pixel at a column of a row. -/
def get (c : Canvas w h) (r : Line w h) (x : Int) : Except AccessError Int :=
  if w < 0 then .error (.column (Index.fromStart w x) w) else r.get c.pixels x

/-- Writes the pixel at a column of a row. -/
def set (c : Canvas w h) (r : Line w h) (x value : Int) : Except AccessError (Canvas w h) :=
  if w < 0 then .error (.column (Index.fromStart w x) w)
  else (r.set c.pixels x value).map Canvas.mk

/-- The pixels that a slice picks from a row. -/
def slice (c : Canvas w h) (r : Line w h) (s : Slice) : Except AccessError (List Int) :=
  if w < 0 then .error .negativeRow else r.slice c.pixels s

/-- A row with its pixels, as reports show it. -/
def rowText (c : Canvas w h) (r : Line w h) : Except AccessError String :=
  if w < 0 then .error .negativeRow else .ok (r.text c.pixels)

/-! ## The list of all pixels -/

/-- Writes the pixel at a signed index of the list of all pixels. -/
def putAt (c : Canvas w h) (i value : Int) : Except AccessError (Canvas w h) :=
  (c.pixels.putAt i value).map Canvas.mk

/-- Whether the pixel at a pair of coordinates is set, as one or zero. -/
def readPixel (c : Canvas w h) (x y : Int) : Except AccessError Nat :=
  (c.pixels.pixelAt (y * w + x)).map fun pixel => if pixel = 0 then 0 else 1

/-- Writes every pixel. -/
def fill (c : Canvas w h) (value : Int) : Canvas w h := ⟨Grid.fill c.pixels value⟩

/-- Unsets every pixel. -/
def clear (c : Canvas w h) : Canvas w h := ⟨c.pixels.clear⟩

end Canvas

end ChipEight
