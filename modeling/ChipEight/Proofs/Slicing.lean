import ChipEight.Proofs.Views
import Mathlib.Data.List.Sort

/-!
# Slices of rows and of lists

What a slice picks from a list can be said place by place: a place is picked if it lies behind the origin of
the slice and before its stop, in the direction of the stride, and a whole number of strides away from the
origin (`Slice.Picks`). The entries at these places, in that direction, are the slice of the list
(`Slice.of`).

A slice of a row clamps its bounds to the row and counts its strides instead. It comes to the same places
(`Slice.map_positions`), so that it is the slice of the list of the pixels of the row, and never reads a pixel
of another row (`Framebuffer.slices_agree`).
-/

namespace ChipEight

namespace Slice

variable {α : Type} (s : Slice) (n : Nat)

/-! ## Slices of lists -/

/-- Whether a place comes before another one in the direction of the stride. -/
def Precedes (p q : Int) : Prop := if 0 < s.stride then p < q else q < p

/-- The place that a slice of `n` entries sets out from: the given start, or else the end of the list that
the stride leads away from. A start beyond that end is moved there; one beyond the other end stays where it
is, so that nothing is picked. -/
def origin : Int :=
  if 0 < s.stride then max 0 ((s.start.map (Index.fromStart n)).getD 0)
  else min (n - 1) ((s.start.map (Index.fromStart n)).getD (n - 1))

/-- Whether a slice of `n` entries gets to a place before it stops. One without a stop never does. -/
def Reaches (p : Int) : Prop := ∀ stop ∈ s.stop, s.Precedes p (Index.fromStart n stop)

/-- Whether a slice of `n` entries picks the one at a place. -/
def Picks (p : Int) : Prop := (¬ s.Precedes p (s.origin n) ∧ s.stride ∣ p - s.origin n) ∧ s.Reaches n p

instance (p q : Int) : Decidable (s.Precedes p q) := inferInstanceAs (Decidable (ite ..))

instance (p : Int) : Decidable (s.Reaches n p) := inferInstanceAs (Decidable (∀ _ ∈ _, _))

instance (p : Int) : Decidable (s.Picks n p) := inferInstanceAs (Decidable (_ ∧ _))

/-- The places that a slice of `n` entries picks, in the direction of its stride. -/
def places : List Nat :=
  let picked := (List.range n).filter fun p : Nat => s.Picks n p
  if 0 < s.stride then picked else picked.reverse

/-- The entries of a list that a slice picks, in the direction of its stride. -/
def of (l : List α) : List α := (s.places l.length).filterMap (l[·]?)

/-- From the last but one entry backwards, every other one. -/
example : Slice.of ⟨some (-2), none, some (-2)⟩ [1, 2, 3, 4, 5] = [4, 2] := by decide

/-! ## Picked places -/

variable {s n}

theorem precedes_of_pos (forward : 0 < s.stride) {p q : Int} : s.Precedes p q ↔ p < q := by
  rw [Precedes, if_pos forward]

theorem precedes_of_neg (backward : s.stride < 0) {p q : Int} : s.Precedes p q ↔ q < p := by
  rw [Precedes, if_neg (by omega)]

theorem mem_places {p : Nat} : p ∈ s.places n ↔ p < n ∧ s.Picks n p := by
  have picked : p ∈ (List.range n).filter (fun p : Nat => s.Picks n p) ↔ p < n ∧ s.Picks n p := by
    rw [List.mem_filter, List.mem_range, decide_eq_true_eq]
  unfold places
  dsimp only
  split
  · exact picked
  · rw [List.mem_reverse]
    exact picked

/-- They are in the order of the slice. -/
theorem pairwise_places : (s.places n).Pairwise fun p q : Nat => s.Precedes p q := by
  have ascending := (List.pairwise_lt_range (n := n)).filter fun p : Nat => s.Picks n p
  unfold places Precedes
  dsimp only
  split
  · exact ascending.imp Int.ofNat_lt.2
  · rw [List.pairwise_reverse]
    exact ascending.imp Int.ofNat_lt.2

/-! ## Clamped bounds -/

section
variable (moving : s.stride ≠ 0) {p : Nat}
include moving

/-- Clamping moves the origin only if no place of the list is behind it. -/
theorem first_eq_or (inside : p < n) :
    s.first n = s.origin n ∨ s.Precedes p (s.first n) ∧ s.Precedes p (s.origin n) := by
  unfold first clamp highest lowest origin
  rcases Int.lt_or_gt_of_ne moving with backward | forward
  · simp only [if_pos backward, if_neg (show ¬ 0 < s.stride by omega), precedes_of_neg backward]
    cases s.start with
    | none => exact .inl (min_self _).symm
    | some start =>
      simp only [Option.map_some, Option.getD_some, Index.fromStart]
      split <;> omega
  · simp only [if_pos forward, if_neg (show ¬ s.stride < 0 by omega), precedes_of_pos forward]
    cases s.start with
    | none => exact .inl rfl
    | some start =>
      simp only [Option.map_some, Option.getD_some, Index.fromStart]
      split <;> omega

/-- A place of the list comes before the clamped stop exactly if the slice gets there before it stops. -/
theorem precedes_limit_iff (inside : p < n) : s.Precedes p (s.limit n) ↔ s.Reaches n p := by
  unfold limit clamp highest lowest Reaches
  rcases Int.lt_or_gt_of_ne moving with backward | forward
  · simp only [if_pos backward, precedes_of_neg backward]
    cases s.stop with
    | none =>
      simp only [Option.not_mem_none, false_implies, implies_true, iff_true]
      omega
    | some stop =>
      simp only [Option.mem_some_iff, forall_eq', Index.fromStart]
      split <;> omega
  · simp only [if_neg (show ¬ s.stride < 0 by omega), precedes_of_pos forward]
    cases s.stop with
    | none => simpa using inside
    | some stop =>
      simp only [Option.mem_some_iff, forall_eq', Index.fromStart]
      split <;> omega

/-! ## Counted strides -/

/-- A slice takes as many strides as come before its clamped stop. -/
theorem lt_count_iff {k : Nat} : k < s.count n ↔ s.Precedes (s.place n k) (s.limit n) := by
  unfold count place
  rcases Int.lt_or_gt_of_ne moving with backward | forward
  · have strides : (k + 1 : Int) ≤ (s.first n - s.limit n - s.stride - 1) / -s.stride ↔
        (k + 1) * -s.stride ≤ s.first n - s.limit n - s.stride - 1 :=
      Int.le_ediv_iff_mul_le (by omega)
    rw [Int.add_mul, Int.mul_neg] at strides
    rw [if_neg (by omega), precedes_of_neg backward]
    omega
  · have strides : (k + 1 : Int) ≤ (s.limit n - s.first n + s.stride - 1) / s.stride ↔
        (k + 1) * s.stride ≤ s.limit n - s.first n + s.stride - 1 := Int.le_ediv_iff_mul_le forward
    rw [Int.add_mul] at strides
    rw [if_pos forward, precedes_of_pos forward]
    omega

/-- Every stride leads further. -/
theorem precedes_place {k l : Nat} (less : k < l) : s.Precedes (s.place n k) (s.place n l) := by
  unfold place
  rcases Int.lt_or_gt_of_ne moving with backward | forward
  · have := Int.mul_lt_mul_of_neg_right (Int.ofNat_lt.2 less) backward
    rw [precedes_of_neg backward]
    omega
  · have := Int.mul_lt_mul_of_pos_right (Int.ofNat_lt.2 less) forward
    rw [precedes_of_pos forward]
    omega

/-- Strides lead to the places behind the first one that are a whole number of strides away from it. -/
theorem exists_place_iff {p : Int} :
    (∃ k, s.place n k = p) ↔ ¬ s.Precedes p (s.first n) ∧ s.stride ∣ p - s.first n := by
  unfold place
  constructor
  · rintro ⟨k, rfl⟩
    refine ⟨?_, ⟨k, by rw [Int.mul_comm]; omega⟩⟩
    rcases Int.lt_or_gt_of_ne moving with backward | forward
    · have := Int.mul_nonneg (Int.natCast_nonneg k) (show 0 ≤ -s.stride by omega)
      rw [Int.mul_neg] at this
      rw [precedes_of_neg backward]
      omega
    · have := Int.mul_nonneg (Int.natCast_nonneg k) (show 0 ≤ s.stride by omega)
      rw [precedes_of_pos forward]
      omega
  · rintro ⟨behind, c, strides⟩
    have nonneg : 0 ≤ c := by
      by_contra negative
      rcases Int.lt_or_gt_of_ne moving with backward | forward
      · have := Int.mul_pos_of_neg_of_neg backward (show c < 0 by omega)
        rw [precedes_of_neg backward] at behind
        omega
      · have := Int.mul_neg_of_pos_of_neg forward (show c < 0 by omega)
        rw [precedes_of_pos forward] at behind
        omega
    refine ⟨c.toNat, ?_⟩
    rw [Int.toNat_of_nonneg nonneg, Int.mul_comm]
    omega

/-- The places that the counted strides lead to are the picked ones. -/
theorem exists_place_lt_iff (inside : p < n) : (∃ k < s.count n, s.place n k = p) ↔ s.Picks n p := by
  have counted : (∃ k < s.count n, s.place n k = p) ↔ (∃ k, s.place n k = p) ∧ s.Reaches n p := by
    rw [← precedes_limit_iff moving inside]
    constructor
    · rintro ⟨k, counted, there⟩
      exact ⟨⟨k, there⟩, there ▸ (lt_count_iff moving).1 counted⟩
    · rintro ⟨⟨k, there⟩, before⟩
      exact ⟨k, (lt_count_iff moving).2 (there ▸ before), there⟩
  rw [counted, Picks, exists_place_iff moving]
  rcases first_eq_or moving inside with same | ⟨first, origin⟩
  · rw [same]
  · exact iff_of_false (fun h => h.1.1 first) (fun h => h.1.1 origin)

/-! ## The same places -/

/-- The clamped and counted slice comes to the picked places, in the same order. -/
theorem map_positions {picked : List (Fin n)} (found : s.positions n = some picked) :
    picked.map Fin.val = s.places n := by
  rw [positions, dif_neg moving, Option.some.injEq] at found
  let before (p q : Nat) : Prop := s.Precedes p q
  have irrefl : Std.Irrefl before := ⟨fun p => by simp [before, Precedes]⟩
  have antisymm : Std.Antisymm before :=
    ⟨fun p q => by simp only [before, Precedes]; split <;> omega⟩
  have place (k : Fin (s.count n)) : ((s.place n k).toNat : Int) = s.place n k :=
    Int.toNat_of_nonneg (place_bounds moving k.isLt).1
  have ordered : (picked.map Fin.val).Pairwise before := by
    rw [← found, List.map_map, List.pairwise_map]
    refine (List.pairwise_lt_finRange _).imp fun {k l} less => ?_
    simp only [before, Function.comp_apply, place]
    exact precedes_place moving less
  refine ordered.eq_of_mem_iff pairwise_places fun p => ?_
  rw [mem_places, ← found, List.map_map]
  simp only [List.mem_map, List.mem_finRange, true_and, Function.comp_apply]
  constructor
  · rintro ⟨k, rfl⟩
    have inside : (s.place n k).toNat < n := by
      have := place_bounds moving k.isLt
      omega
    exact ⟨inside, (exists_place_lt_iff moving inside).1 ⟨k, k.isLt, (place k).symm⟩⟩
  · rintro ⟨inside, picks⟩
    obtain ⟨k, counted, there⟩ := (exists_place_lt_iff moving inside).2 picks
    exact ⟨⟨k, counted⟩, by rw [there, Int.toNat_natCast]⟩

/-- A slice that leads somewhere picks places. -/
theorem exists_positions : ∃ picked : List (Fin n), s.positions n = some picked := by
  rw [positions, dif_neg moving]
  exact ⟨_, rfl⟩

end

theorem positions_of_zero (still : s.stride = 0) : s.positions n = none := dif_pos still

theorem stride_eq_zero_iff : s.stride = 0 ↔ s.step = some 0 := by
  rw [stride]
  cases s.step <;> simp

/-- The slice that picks everything gives the list. -/
theorem of_all (l : List α) : all.of l = l := by
  have everything : all.places l.length = List.range l.length := by
    refine List.filter_eq_self.2 fun p _ => decide_eq_true ⟨⟨?_, Int.one_dvd _⟩, nofun⟩
    simp [Precedes, origin, all, stride]
  have entries (l : List α) : (List.range l.length).filterMap (l[·]?) = l := by
    induction l with
    | nil => rfl
    | cons a l ih =>
      rw [List.length_cons, List.range_succ_eq_map, List.filterMap_cons, List.filterMap_map]
      exact congrArg (a :: ·) ih
  rw [of, everything, entries]

end Slice

namespace Row

variable {w h : Nat} (r : Row w h) (f : Framebuffer w h)

/-! ## Slices of rows -/

/-- The pixels of a row are a part of the list of all pixels. -/
theorem toList_eq : r.toList f = (f.cells.toList.drop (r.y.val * w)).take w := by
  have inside : r.y.val * w + w ≤ w * h := by
    have := Nat.mul_le_mul_left w r.y.isLt
    rw [Nat.mul_succ, Nat.mul_comm] at this
    exact this
  apply List.ext_getElem
  · simp [toList]
    omega
  · intro k _ _
    simp [toList, Grid.get, Grid.offset]

theorem length_toList : (r.toList f).length = w := by
  rw [toList, List.length_map, List.length_finRange]

theorem getElem?_toList (k : Fin w) : (r.toList f)[k.val]? = some (Grid.get f k r.y) := by
  simp [toList]

/-- The places that a slice picks from a row, in the list of all pixels. -/
theorem slice_of_positions {s : Slice} {picked : List (Fin w)} (found : s.positions w = some picked) :
    r.slice f s = .ok ((picked.map fun k => Grid.offset k r.y).map f.cells.get) := by
  rw [slice, found, List.map_map]
  rfl

/-- The slice of a row is the slice of the list of its pixels. -/
theorem slice_eq {s : Slice} (moving : s.stride ≠ 0) : r.slice f s = .ok (s.of (r.toList f)) := by
  obtain ⟨picked, found⟩ := Slice.exists_positions (n := w) moving
  have entries : ((r.toList f)[·]?) ∘ Fin.val = some ∘ fun k => Grid.get f k r.y :=
    funext (r.getElem?_toList f)
  rw [slice, found, Slice.of, r.length_toList, ← Slice.map_positions moving found, List.filterMap_map,
    entries, List.filterMap_eq_map]

theorem slice_of_zero {s : Slice} (still : s.step = some 0) : r.slice f s = .error .zeroStep := by
  rw [slice, Slice.positions_of_zero (Slice.stride_eq_zero_iff.2 still)]

/-- The slice that picks everything gives the pixels of the row. -/
theorem slice_all : r.slice f .all = .ok (r.toList f) := by
  rw [r.slice_eq f (s := .all) Int.one_ne_zero, Slice.of_all]

end Row

namespace Framebuffer

variable {w h : Nat}

/-- Slicing a row is slicing the list of its pixels, for every size of the framebuffer, every row and every
slice whose step is not zero. The slice reads its pixels at places of the list of all pixels that depend on
nothing but the slice and the row, and all of them lie within the row. The slice of everything, which is what
iterating the row goes through, gives the pixels of the row from left to right, and a step of zero comes to an
error. -/
theorem slices_agree {y : Int} (top : -(h : Int) ≤ y) (bottom : y < h) :
    ∃ r : Row w h, (∀ f : Framebuffer w h, f.row y = .ok r) ∧
      let left := (y % h * w).toNat
      (∀ f : Framebuffer w h,
        let pixels := (f.cells.toList.drop left).take w
        (pixels.length = w ∧ r.toList f = pixels ∧ r.slice f .all = .ok pixels) ∧
          (∀ s : Slice, s.step ≠ some 0 → r.slice f s = .ok (s.of pixels)) ∧
          ∀ s : Slice, s.step = some 0 → r.slice f s = .error .zeroStep) ∧
      ∀ s : Slice, s.step ≠ some 0 →
        ∃ places : List (Fin (w * h)), (∀ i ∈ places, left ≤ i ∧ i < left + w) ∧
          ∀ f : Framebuffer w h, r.slice f s = .ok (places.map f.cells.get) := by
  obtain ⟨k, found, place⟩ := Index.resolve_of_bounds top bottom
  have left : (y % h * w).toNat = k.val * w := by
    rw [← place]
    exact Int.toNat_natCast (k.val * w)
  let r : Row w h := ⟨k⟩
  refine ⟨r, fun f => f.row_of_resolve found, ?_⟩
  rw [left]
  refine ⟨fun f => ?_, fun s moving => ?_⟩
  · dsimp only
    rw [← r.toList_eq f]
    refine ⟨⟨r.length_toList f, rfl, r.slice_all f⟩, fun s moving => r.slice_eq f ?_,
      fun s still => r.slice_of_zero f still⟩
    rwa [ne_eq, Slice.stride_eq_zero_iff]
  · have moving : s.stride ≠ 0 := by rwa [ne_eq, Slice.stride_eq_zero_iff]
    obtain ⟨picked, found⟩ := Slice.exists_positions (n := w) moving
    refine ⟨picked.map fun x => Grid.offset x k, fun i read => ?_, fun f => r.slice_of_positions f found⟩
    obtain ⟨x, -, rfl⟩ := List.mem_map.1 read
    simp only [Grid.offset]
    omega

/-- The last row of a screen, of which a slice picks every other pixel from the right, as far as a bound
beyond its left end. -/
theorem slices_agree_backwards :
    let f : Framebuffer 4 2 := ⟨⟨#[1, 2, 3, 4, 5, 6, 7, 8], rfl⟩⟩
    let s : Slice := ⟨some (-1), some (-9), some (-2)⟩
    (-2 ≤ (-1 : Int) ∧ (-1 : Int) < 2 ∧ s.step ≠ some 0) ∧
      ∃ r, f.row (-1) = .ok r ∧ r.slice f s = .ok [8, 6] := by
  intro f s
  refine ⟨by decide, ?_⟩
  obtain ⟨r, taken, contents, -⟩ := slices_agree (w := 4) (h := 2) (y := -1) (by decide) (by decide)
  obtain ⟨-, slices, -⟩ := contents f
  have picked : s.of ((f.cells.toList.drop (-1 % 2 * 4 : Int).toNat).take 4) = [8, 6] := by decide
  exact ⟨r, taken f, (slices s (by decide)).trans (congrArg Except.ok picked)⟩

end Framebuffer
end ChipEight
