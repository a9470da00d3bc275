/-!
# Numerals

Numbers as the reports of the machine write them. `Numeral.hex` fills a hexadecimal numeral up with
zeros to a width in which a minus sign counts as a character, so that `hex 4 (-2)` is `-002`.
`Numeral.decimal` writes a number in base ten. Both rest on the digit lists of the standard
library, which is what makes them readable back (`Nat.ofDigitChars_toDigits`).
-/

namespace ChipEight.Numeral

/-- Fills a text up with zeros on the left until it has `width` characters. -/
def zeroFill (width : Nat) (text : List Char) : List Char :=
  List.replicate (width - text.length) '0' ++ text

/-- The sign of a number: nothing unless it is negative. -/
def sign (n : Int) : List Char := if n < 0 then ['-'] else []

/-- A number in lower-case hexadecimal, with zeros between the sign and the digits until the whole
has `width` characters. -/
def hex (width : Nat) (n : Int) : String :=
  String.ofList (sign n ++ zeroFill (width - (sign n).length) (Nat.toDigits 16 n.natAbs))

/-- A number in base ten. -/
def decimal (n : Int) : String :=
  String.ofList (sign n ++ Nat.toDigits 10 n.natAbs)

/-- The most digits that a number in base ten is read or written with. -/
def maxDigits : Nat := 4300

/-- Whether a number in base ten has no more digits than are ever written. -/
def isWritable (n : Int) : Bool := n.natAbs < Nat.pow 10 maxDigits

/-- One hexadecimal digit, in upper case. -/
def digit (d : Fin 16) : Char := (Nat.digitChar d.val).toUpper

/-! ## Lengths -/

theorem length_zeroFill (width : Nat) (text : List Char) :
    (zeroFill width text).length = max width text.length := by
  simp only [zeroFill, List.length_append, List.length_replicate]
  omega

end ChipEight.Numeral
