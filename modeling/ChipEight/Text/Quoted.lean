import ChipEight.Text.Printable

/-!
# Quoted texts

A text between quotes, written so that every character of it can be told: `quote` puts it
between single quotes, or between double quotes if it holds a single one and no double one. The
chosen quote and the backslash are escaped, and so is whatever is not printable.
-/

namespace ChipEight

namespace Quoted

/-- The last `width` hexadecimal digits of a number. -/
def hexDigits (width n : Nat) : List Char :=
  let digits := Nat.toDigits 16 n
  List.replicate (width - digits.length) '0' ++ digits

/-- How one character stands between a pair of `mark`s: the mark and the backslash behind a
backslash, the line and column controls by their letters, and any other character that is not
printable by its code point. -/
def escape (mark c : Char) : List Char :=
  if c = mark ∨ c = '\\' then ['\\', c]
  else if c = '\t' then ['\\', 't']
  else if c = '\n' then ['\\', 'n']
  else if c = '\r' then ['\\', 'r']
  else if isPrintable c then [c]
  else if c.toNat < 0x100 then '\\' :: 'x' :: hexDigits 2 c.toNat
  else if c.toNat < 0x10000 then '\\' :: 'u' :: hexDigits 4 c.toNat
  else '\\' :: 'U' :: hexDigits 8 c.toNat

/-- The quote around a text: the single one, unless the text holds a single one and no double. -/
def markFor (text : List Char) : Char :=
  if '\'' ∈ text ∧ '"' ∉ text then '"' else '\''

end Quoted

/-- A text between quotes. -/
def quote (text : String) : String :=
  let chars := text.toList
  let mark := Quoted.markFor chars
  String.ofList (mark :: chars.flatMap (Quoted.escape mark) ++ [mark])

end ChipEight
