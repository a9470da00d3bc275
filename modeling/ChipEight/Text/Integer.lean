import ChipEight.Text.Digit
import ChipEight.Text.Numeral

/-!
# Integer literals

`readInteger` reads a number as a person types it: blanks around it, a sign, decimal digits of any
script, and single underscores between digits. A literal of more than `Numeral.maxDigits` digits,
leading zeros included, is refused, so that reading one stays cheap.
-/

namespace ChipEight

namespace Integer

/-- The values of the digits of a literal without its sign. An underscore has to stand between two
digits. -/
def digits : List Char → Option (List Nat)
  | [] => none
  | [c] => (decimalDigit? c).map ([·])
  | c :: '_' :: rest => do
    let d ← decimalDigit? c
    let ds ← digits rest
    return d :: ds
  | c :: rest => do
    let d ← decimalDigit? c
    let ds ← digits rest
    return d :: ds

/-- The number whose decimal digits are given, the most significant one first. -/
def value (ds : List Nat) : Nat := ds.foldl (fun n d => 10 * n + d) 0

/-- The number that a literal without its sign stands for. -/
def magnitude (text : List Char) : Option Nat := do
  let ds ← digits text
  if ds.length ≤ Numeral.maxDigits then some (value ds) else none

/-- A text without the blanks at both ends. -/
def trim (text : List Char) : List Char :=
  ((text.dropWhile isBlank).reverse.dropWhile isBlank).reverse

end Integer

/-- The number that a text stands for, if it is an integer literal. -/
def readInteger (text : List Char) : Option Int :=
  match Integer.trim text with
  | '-' :: rest => (Integer.magnitude rest).map fun n => -(n : Int)
  | '+' :: rest => (Integer.magnitude rest).map Int.ofNat
  | rest => (Integer.magnitude rest).map Int.ofNat

end ChipEight
