import ChipEight.Failure

/-!
# The keypad

Sixteen keys, each of which is pressed or not. Programs read keys by number, so a number beyond the
last key is a fault (`Keypad.get`, `Keypad.set`); `Keypad.first?` is the lowest key that is pressed.
-/

namespace ChipEight

/-- Which of the sixteen keys are pressed. -/
structure Keypad where
  pressed : Vector Bool 16
  deriving DecidableEq

namespace Keypad

/-- The keypad with no key pressed. -/
def released : Keypad := ⟨Vector.replicate 16 false⟩

/-- Whether a key is pressed. -/
def isDown (k : Keypad) (key : Fin 16) : Bool := k.pressed[key]

/-- Presses or releases a key. -/
def press (k : Keypad) (key : Fin 16) (down : Bool) : Keypad := ⟨k.pressed.set key down⟩

/-- The key with a number. -/
def numbered (number : Int) : Except Fault (Fin 16) :=
  if h : 0 ≤ number ∧ number < 16 then .ok ⟨number.toNat, by omega⟩
  else .error (.noSuchKey number)

/-- Whether the key with a number is pressed. -/
def get (k : Keypad) (number : Int) : Except Fault Bool :=
  (numbered number).map k.isDown

/-- Presses or releases the key with a number. -/
def set (k : Keypad) (number : Int) (down : Bool) : Except Fault Keypad :=
  (numbered number).map fun key => k.press key down

/-- The lowest key that is pressed. -/
def first? (k : Keypad) : Option (Fin 16) := (List.finRange 16).find? k.isDown

/-- Whether no key is pressed. -/
def untouched (k : Keypad) : Bool := !k.pressed.any id

/-- The lowest key that is pressed; there has to be one. -/
def first (k : Keypad) : Except AccessError (Fin 16) :=
  match k.first? with
  | some key => .ok key
  | none => .error .noKeyPressed

/-- Releases every key. -/
def releaseAll (k : Keypad) : Keypad := ⟨k.pressed.map fun _ => false⟩

/-- The keypad as a line of sixteen characters: the digit of a pressed key, a dot for another. -/
def text (k : Keypad) : String :=
  String.ofList <| (List.finRange 16).map fun key => if k.isDown key then Numeral.digit key else '.'

/-! ## Keys by number -/

theorem get_of_lt (k : Keypad) {number : Nat} (h : number < 16) :
    k.get number = .ok (k.isDown ⟨number, h⟩) := by
  rw [get, numbered, dif_pos (by omega)]
  rfl

theorem get_of_le (k : Keypad) {number : Nat} (h : 16 ≤ number) :
    k.get number = .error (.noSuchKey number) := by
  rw [get, numbered, dif_neg (by omega)]
  rfl

theorem set_of_lt (k : Keypad) {number : Nat} (h : number < 16) (down : Bool) :
    k.set number down = .ok (k.press ⟨number, h⟩ down) := by
  rw [set, numbered, dif_pos (by omega)]
  rfl

/-! ## The lowest key -/

theorem first?_eq_none_iff {k : Keypad} : k.first? = none ↔ ∀ key, k.isDown key = false := by
  simp only [first?, List.find?_eq_none, List.mem_finRange, true_implies, Bool.not_eq_true]

theorem first?_eq_some_iff {k : Keypad} {key : Fin 16} :
    k.first? = some key ↔ k.isDown key = true ∧ ∀ lower < key, k.isDown lower = false := by
  simp only [first?, List.find?_eq_some_iff_getElem, List.getElem_finRange, List.length_finRange,
    Bool.not_eq_true']
  refine and_congr_right fun _ => ⟨?_, fun up => ?_⟩
  · rintro ⟨i, inside, rfl, up⟩ lower below
    exact up lower.val below
  · exact ⟨key.val, key.isLt, rfl, fun j below => up ⟨j, by omega⟩ below⟩

theorem exists_first {k : Keypad} (touched : ∃ key, k.isDown key = true) :
    ∃ key, k.first? = some key := by
  obtain ⟨key, down⟩ := touched
  exact Option.isSome_iff_exists.1 (List.find?_isSome.2 ⟨key, List.mem_finRange key, down⟩)

/-- There is a lowest key exactly if the keypad is touched. -/
theorem untouched_eq (k : Keypad) : k.untouched = k.first?.isNone := by
  rw [Bool.eq_iff_iff, Option.isNone_iff_eq_none, first?_eq_none_iff, untouched,
    Bool.not_eq_true', Bool.eq_false_iff, ne_eq, Vector.any_eq_true]
  constructor
  · intro h key
    exact Bool.eq_false_iff.2 fun down => h ⟨key.val, key.isLt, down⟩
  · rintro h ⟨i, hi, down⟩
    exact absurd down (Bool.eq_false_iff.1 (h ⟨i, hi⟩))

/-! ## Pressing and releasing -/

theorem isDown_press (k : Keypad) (key other : Fin 16) (down : Bool) :
    (k.press key down).isDown other = if key = other then down else k.isDown other := by
  simp only [press, isDown, Fin.getElem_fin, Vector.getElem_set, Fin.ext_iff]

theorem ext_isDown {k k' : Keypad} (same : ∀ key, k.isDown key = k'.isDown key) : k = k' := by
  obtain ⟨pressed⟩ := k
  obtain ⟨pressed'⟩ := k'
  congr 1
  exact Vector.ext fun i hi => same ⟨i, hi⟩

theorem releaseAll_eq_released (k : Keypad) : k.releaseAll = released := by
  simp only [releaseAll, released, Keypad.mk.injEq]
  ext i hi
  simp

end Keypad

end ChipEight
