import ChipEight.Canvas
import ChipEight.Display

/-!
# The window

The host shows a screen in a window of a display, each pixel of it as a square of window pixels.
`Window.writePixel` fills the square of one pixel, `Window.readPixel` looks at the upper left corner of a
square, and `Window.draw` paints a whole framebuffer.
-/

namespace ChipEight

/-- A window that shows `w` by `h` pixels as squares of side `s`. -/
structure Window (d : Display) (w h s : Int) where
  surface : d.Surface (w * s) (h * s)

namespace Window

variable {d : Display} {w h s : Int}

/-- Makes everything background. -/
def clear (win : Window d w h s) : Window d w h s := ⟨d.fill win.surface .background⟩

/-- Opens a window, which is all background. -/
def create (d : Display) (w h s : Int) : Except SetupError (Window d w h s) :=
  match d.create (w * s) (h * s) with
  | .error e => .error (.display e)
  | .ok surface => .ok (clear ⟨surface⟩)

/-- A window of the display in memory as it opens. -/
def plain (w h s : Int) : Window .plain w h s := ⟨Surface.filled .background⟩

/-- Whether a place of the surface is lit, as one or zero: it is unless it is background. -/
def litAt (win : Window d w h s) (x y : Int) : Except AccessError Nat :=
  match d.colourAt win.surface x y with
  | .error e => .error (.display e)
  | .ok c => .ok (if c = .background then 0 else 1)

/-- Whether a pixel is set, as one or zero: it is if the corner of its square is lit. -/
def readPixel (win : Window d w h s) (x y : Int) : Except AccessError Nat :=
  win.litAt (x * s) (y * s)

/-- The square of a pixel on the surface. -/
def square (s x y : Int) : Rect := ⟨x * s, y * s, s, s⟩

/-- Shows a pixel as set, unless the value is zero. -/
def writePixel (win : Window d w h s) (x y value : Int) : Except AccessError (Window d w h s) :=
  match d.fillRect win.surface (square s x y) (.ofPixel value) with
  | .error e => .error (.display e)
  | .ok surface => .ok ⟨surface⟩

/-- Shows pixels one after another, up to the first that cannot be read or shown. -/
def paint (pixel : Int → Int → Except AccessError Nat) :
    List (Nat × Nat) → Window d w h s → Window d w h s × Option AccessError
  | [], win => (win, none)
  | (x, y) :: rest, win =>
    match pixel x y with
    | .error e => (win, some e)
    | .ok value =>
      match win.writePixel x y value with
      | .error e => (win, some e)
      | .ok win => paint pixel rest win

/-- The pixels of a window row by row. -/
def pixels (w h : Nat) : List (Nat × Nat) :=
  (List.range h).flatMap fun y => (List.range w).map fun x => (x, y)

/-- Shows a framebuffer in the whole window. -/
def draw {fw fh : Nat} (win : Window d w h s) (f : Framebuffer fw fh) :
    Window d w h s × Option AccessError :=
  paint f.readPixel (pixels w.toNat h.toNat) win

/-- Shows a canvas in the whole window. -/
def drawCanvas {cw ch : Int} (win : Window d w h s) (c : Canvas cw ch) :
    Window d w h s × Option AccessError :=
  paint c.readPixel (pixels w.toNat h.toNat) win

end Window

end ChipEight
