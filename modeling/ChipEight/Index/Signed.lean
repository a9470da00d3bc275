/-!
# Signed indices

A sequence of `n` entries is read by indices from `-n` to `n - 1`: a negative index counts from the
end. `Index.resolve` turns such an index into a place of the sequence, and `Index.resolve_eq_some_iff`
says which place that is.
-/

namespace ChipEight.Index

/-- Whether a signed word of 64 bits holds a number. A stored sequence refuses any other index. -/
def IsWord (i : Int) : Prop := -0x8000000000000000 ≤ i ∧ i < 0x8000000000000000

instance (i : Int) : Decidable (IsWord i) := inferInstanceAs (Decidable (_ ∧ _))

/-- An index counted from the start: a negative one is moved up by the length. -/
def fromStart (n : Int) (i : Int) : Int := if i < 0 then i + n else i

/-- The place of a signed index in a sequence of `n` entries, if it has one. -/
def resolve (n : Nat) (i : Int) : Option (Fin n) :=
  if h : 0 ≤ fromStart n i ∧ fromStart n i < n then
    some ⟨(fromStart n i).toNat, by omega⟩
  else none

/-! ## Which indices resolve -/

theorem resolve_eq_some_iff {n : Nat} {i : Int} {k : Fin n} :
    resolve n i = some k ↔ fromStart n i = k.val := by
  unfold resolve
  split
  · simp only [Option.some.injEq, Fin.ext_iff]
    omega
  · simp only [reduceCtorEq, false_iff]
    omega

theorem resolve_eq_none_iff {n : Nat} {i : Int} :
    resolve n i = none ↔ i < -n ∨ n ≤ i := by
  have key : (0 ≤ fromStart n i ∧ fromStart n i < n) ↔ ¬(i < -n ∨ n ≤ i) := by
    unfold fromStart
    split <;> omega
  unfold resolve
  split <;> simp only [reduceCtorEq, false_iff, true_iff] <;> omega

theorem resolve_of_nonneg {n : Nat} {i : Int} (h0 : 0 ≤ i) (h : i < n) :
    resolve n i = some ⟨i.toNat, by omega⟩ := by
  rw [resolve_eq_some_iff, fromStart, if_neg (by omega)]
  exact (Int.toNat_of_nonneg h0).symm

theorem resolve_natCast {n k : Nat} (h : k < n) : resolve n k = some ⟨k, h⟩ := by
  rw [resolve_eq_some_iff]
  exact if_neg (by omega)

end ChipEight.Index
