import ChipEight.Failure
import ChipEight.Grid
import ChipEight.Index.Signed
import ChipEight.Index.Slice
import ChipEight.Text.Listing

/-!
# The framebuffer

The pixels of the machine's screen, which are whole numbers: zero is unset and anything else is set.
They are reached in three ways that share one buffer. `Framebuffer.row` gives a view of a row, which
holds no pixels itself and so stays current whatever happens to the buffer; `Framebuffer.readPixel` and
`Framebuffer.putAt` index the row by row list of all pixels; sprites are drawn through views of rows
(`Framebuffer.drawRows`), which comes to toggling the pixels that they set (`Framebuffer.blit`).
-/

namespace ChipEight

/-- A screen of `w` columns and `h` rows. -/
abbrev Framebuffer (w h : Nat) := Grid Int w h

/-- A view of one row. -/
structure Row (w h : Nat) where
  y : Fin h
  deriving DecidableEq

namespace Framebuffer

variable {w h : Nat}

/-- The screen with every pixel unset. -/
def blank : Framebuffer w h := Grid.filled 0

/-- Unsets every pixel. -/
def clear (f : Framebuffer w h) : Framebuffer w h := Grid.fill f 0

/-- Whether a pixel is set. -/
def isSet (f : Framebuffer w h) (x : Fin w) (y : Fin h) : Bool := Grid.get f x y != 0

/-! ## Rows -/

/-- The view of a row, which a negative index counts from the bottom. -/
def row (_ : Framebuffer w h) (y : Int) : Except AccessError (Row w h) :=
  match Index.resolve h y with
  | some k => .ok ⟨k⟩
  | none => .error (.row (Index.fromStart h y) h)

end Framebuffer

namespace Row

variable {w h : Nat}

/-- The column that an index means, counted from the right end if it is negative. -/
def column (_ : Row w h) (x : Int) : Except AccessError (Fin w) :=
  match Index.resolve w x with
  | some k => .ok k
  | none => .error (.column (Index.fromStart w x) w)

/-- The pixel at a column of the row. -/
def get (r : Row w h) (f : Framebuffer w h) (x : Int) : Except AccessError Int :=
  (r.column x).map fun k => Grid.get f k r.y

/-- Writes the pixel at a column of the row. -/
def set (r : Row w h) (f : Framebuffer w h) (x value : Int) :
    Except AccessError (Framebuffer w h) :=
  (r.column x).map fun k => Grid.set f k r.y value

/-- The pixels that a slice picks from the row. -/
def slice (r : Row w h) (f : Framebuffer w h) (s : Slice) : Except AccessError (List Int) :=
  match s.positions w with
  | some places => .ok (places.map fun k => Grid.get f k r.y)
  | none => .error .zeroStep

/-- The pixels of the row from left to right. -/
def toList (r : Row w h) (f : Framebuffer w h) : List Int :=
  (List.finRange w).map fun k => Grid.get f k r.y

/-- The row with its pixels, as reports show it. -/
def text (r : Row w h) (f : Framebuffer w h) : String :=
  s!"Row({listing ((r.toList f).map Numeral.decimal)})"

end Row

namespace Framebuffer

variable {w h : Nat}

/-! ## The list of all pixels -/

/-- The pixel at a signed index of the list of all pixels. -/
def pixelAt (f : Framebuffer w h) (i : Int) : Except AccessError Int :=
  match Index.resolve (w * h) i with
  | some k => .ok f.cells[k]
  | none => .error (.pixelRead i)

/-- Writes the pixel at a signed index of the list of all pixels. -/
def putAt (f : Framebuffer w h) (i value : Int) : Except AccessError (Framebuffer w h) :=
  match Index.resolve (w * h) i with
  | some k => .ok ⟨f.cells.set k value⟩
  | none => .error (.pixelWrite i)

/-- Whether the pixel at a pair of coordinates is set, as one or zero. The coordinates are turned
into an index of the list of all pixels without a look at either of them alone. -/
def readPixel (f : Framebuffer w h) (x y : Int) : Except AccessError Nat :=
  (f.pixelAt (y * w + x)).map fun pixel => if pixel = 0 then 0 else 1

/-! ## Sprites -/

/-- Toggles a pixel: one that is set becomes zero, one that is unset becomes one. -/
def toggle (f : Framebuffer w h) (x : Fin w) (y : Fin h) : Framebuffer w h :=
  Grid.set f x y (if f.isSet x y then 0 else 1)

/-- Toggles one more pixel, and notes whether it was set. -/
def plot (drawn : Framebuffer w h × Bool) (pixel : Fin w × Fin h) : Framebuffer w h × Bool :=
  (drawn.1.toggle pixel.1 pixel.2, drawn.2 || drawn.1.isSet pixel.1 pixel.2)

/-- Toggles pixels one after another, and tells whether one of them was set when its turn came. -/
def blit (f : Framebuffer w h) (pixels : List (Fin w × Fin h)) : Framebuffer w h × Bool :=
  pixels.foldl plot (f, false)

/-! ## Clearing -/

theorem clear_eq_blank (f : Framebuffer w h) : f.clear = blank := Grid.fill_eq_filled f 0

theorem get_toggle (f : Framebuffer w h) (x x' : Fin w) (y y' : Fin h) :
    Grid.get (f.toggle x y) x' y' =
      if x = x' ∧ y = y' then (if f.isSet x y then 0 else 1) else Grid.get f x' y' :=
  Grid.get_set ..

end Framebuffer

/-! ## Pixels of a sprite -/

namespace Sprite

/-- How many columns a sprite has. -/
def width : Nat := 8

/-- Whether a row of a sprite is set in a column; the leftmost column is the highest bit. -/
def isSet (byte : UInt8) (column : Nat) : Bool := byte.toNat.testBit (7 - column)

/-- The pixels at which one row of a sprite is set, if its left end is at column `x` of row `y`;
columns beyond the right edge are left out. -/
def rowPixels {w h : Nat} (byte : UInt8) (x : Nat) (y : Fin h) : List (Fin w × Fin h) :=
  (List.range width).filterMap fun j =>
    if hx : x + j < w then
      if isSet byte j then some (⟨x + j, hx⟩, y) else none
    else none

/-- The pixels at which a sprite is set, if its upper left corner is at `(x, y)`; rows beyond the lower
edge are left out. -/
def pixels {w h : Nat} (rows : List UInt8) (x y : Nat) : List (Fin w × Fin h) :=
  match rows with
  | [] => []
  | byte :: rest =>
    if hy : y < h then rowPixels byte x ⟨y, hy⟩ ++ pixels rest x (y + 1) else []

end Sprite

/-! ## Drawing -/

/-- Toggles the pixel at a column of the row, and notes whether it was set. -/
def Row.toggle {w h : Nat} (r : Row w h) (x : Int) (drawn : Framebuffer w h × Bool) :
    Except AccessError (Framebuffer w h × Bool) := do
  let pixel ← r.get drawn.1 x
  let f ← r.set drawn.1 x (if pixel = 0 then 1 else 0)
  return (f, drawn.2 || pixel != 0)

/-- Draws the first columns of one row of a sprite, whose left end is at column `x` of the row. -/
def Row.drawByte {w h : Nat} (r : Row w h) (byte : UInt8) (x : Int) (columns : Nat)
    (drawn : Framebuffer w h × Bool) : Except AccessError (Framebuffer w h × Bool) :=
  (List.range columns).foldlM
    (fun drawn j => if Sprite.isSet byte j then r.toggle (x + j) drawn else pure drawn) drawn

/-- Draws the first columns of the rows of a sprite, whose upper left corner is at `(x, y)`. -/
def Framebuffer.drawRows {w h : Nat} (rows : List UInt8) (x y : Int) (columns : Nat)
    (drawn : Framebuffer w h × Bool) : Except AccessError (Framebuffer w h × Bool) :=
  match rows with
  | [] => pure drawn
  | byte :: rest => do
    let r ← drawn.1.row y
    let drawn ← r.drawByte byte x columns drawn
    drawRows rest x (y + 1) columns drawn

end ChipEight
