import ChipEight.Failure

/-!
# Room for entries

How many entries there are when some of them are repeated. A negative number of times stands for none.
The number of times has to be a word, and the entries, a word each, have to fit into the memory of the
host, which has room for less than 16 GiB of them.
-/

namespace ChipEight.Index

/-- The least number of entries that there is no room for. -/
def noRoom : Nat := 0x80000000

/-- How many entries `count` entries are if they are repeated. -/
def roomFor (count : Nat) (times : Int) : Except AccessError Nat :=
  if ¬ IsWord times then .error .sizeNoWord
  else if count * times.toNat < noRoom then .ok (count * times.toNat)
  else .error .noRoom

end ChipEight.Index
