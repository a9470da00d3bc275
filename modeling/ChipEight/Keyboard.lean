import ChipEight.Keypad
import ChipEight.Notice

/-!
# The keyboard

The host's keyboard stands for the keypad: the keys `0` to `9` and `a` to `f` press the keys of the
machine, and the escape key asks the host to stop. `Keyboard.handle` applies a batch of events to a
keypad, all of them, even those behind a wish to stop.
-/

namespace ChipEight

/-- What the host's window reports. Keys are known by their names. -/
inductive Event
  /-- The window was closed. -/
  | quit
  | keyDown (name : String)
  | keyUp (name : String)
  /-- Anything else that happens to a window. -/
  | other
  deriving DecidableEq, Repr

namespace Keyboard

/-- The name of the key that asks the host to stop. -/
def escape : String := "ESCAPE"

/-- The names of the keys that stand for the keypad, from key zero on. -/
def names : List String :=
  ["0", "1", "2", "3", "4", "5", "6", "7", "8", "9", "a", "b", "c", "d", "e", "f"]

/-- The key of the keypad that a key of the keyboard stands for. -/
def key? (name : String) : Option (Fin 16) := names.finIdxOf? name

/-- Whether an event asks the host to stop. -/
def quits : Event → Bool
  | .quit => true
  | .keyDown name => name == escape
  | _ => false

/-- The key of the keypad that an event is about, and whether it is pressed after it. -/
def change? : Event → Option (Fin 16 × Bool)
  | .keyDown name => (key? name).map (·, true)
  | .keyUp name => (key? name).map (·, false)
  | _ => none

/-- What a batch of events has done. -/
structure Handled where
  keypad : Keypad
  notices : List Notice
  /-- Whether the host goes on. -/
  goesOn : Bool

/-- Applies one event. -/
def Handled.next (r : Handled) (e : Event) : Handled :=
  if quits e then { r with goesOn := false }
  else
    match change? e with
    | none => r
    | some (key, down) =>
      { r with
        keypad := r.keypad.press key down
        notices := r.notices ++ [.keyChanged key down] }

/-- Applies a batch of events, one after another. -/
def handle (k : Keypad) (events : List Event) : Handled :=
  events.foldl Handled.next ⟨k, [], true⟩

end Keyboard

end ChipEight
