import ChipEight.Proofs.Painting

/-!
# Views of rows

The pixels of a framebuffer are reached through the view of a row, taken at once or kept for long, and by
their places in the list of all pixels. All of these ways lead to the same list. Whatever is done to a
framebuffer while views of its rows are kept (`Framebuffer.Edit`) amounts to assignments to that list alone
(`Framebuffer.Sheet`), and afterwards a pixel is found through every view of its row
(`Framebuffer.views_agree`).
-/

namespace ChipEight

/-! ## Indices from both ends -/

namespace Index

variable {n : Nat} {i : Int}

/-- The place of a signed index is its remainder. -/
theorem resolve_of_bounds (low : -(n : Int) ≤ i) (high : i < n) :
    ∃ k : Fin n, resolve n i = some k ∧ (k.val : Int) = i % n := by
  have positive : (0 : Int) < n := by omega
  have bounds : 0 ≤ i % n ∧ i % n < n :=
    ⟨Int.emod_nonneg i (by omega), Int.emod_lt_of_pos i positive⟩
  refine ⟨⟨(i % n).toNat, by omega⟩, ?_, Int.toNat_of_nonneg bounds.1⟩
  rw [resolve_eq_some_iff, Int.toNat_of_nonneg bounds.1, fromStart]
  split
  · rw [← Int.add_emod_right, Int.emod_eq_of_lt (by omega) (by omega)]
  · rw [Int.emod_eq_of_lt (by omega) high]

theorem bounds_of_resolve {k : Fin n} (found : resolve n i = some k) : -(n : Int) ≤ i ∧ i < n := by
  have := k.isLt
  rw [resolve_eq_some_iff, fromStart] at found
  split at found <;> omega

theorem emod_of_resolve {k : Fin n} (found : resolve n i = some k) : (k.val : Int) = i % n := by
  obtain ⟨low, high⟩ := bounds_of_resolve found
  obtain ⟨k', found', place⟩ := resolve_of_bounds low high
  rw [found] at found'
  cases found'
  exact place

end Index

namespace Framebuffer

variable {w h : Nat}

/-! ## What can be done -/

/-- What is done to a framebuffer by someone who keeps views of its rows. -/
inductive Edit
  /-- Takes the view of a row and keeps it. -/
  | keep (y : Int)
  /-- Writes a pixel through the view of its row that is taken for it. -/
  | put (y x value : Int)
  /-- Writes a pixel through a view that is kept; `0` is the one that was taken first. -/
  | putKept (k : Nat) (x value : Int)
  /-- Writes a pixel in the list of all pixels. -/
  | putAt (i value : Int)
  | fill (value : Int)
  | clear
  deriving DecidableEq, Repr

/-- A framebuffer and the views of its rows that are kept, each with the index that it was taken with. -/
structure Viewed (w h : Nat) where
  pixels : Framebuffer w h
  views : List (Int × Row w h)

namespace Viewed

/-- What an edit comes to. Nothing happens through a view that there is not. -/
def edit (s : Viewed w h) : Edit → Except AccessError (Viewed w h)
  | .keep y => (s.pixels.row y).map fun r => { s with views := s.views ++ [(y, r)] }
  | .put y x value =>
    ((s.pixels.row y).bind fun r => r.set s.pixels x value).map fun f => { s with pixels := f }
  | .putKept k x value =>
    match s.views[k]? with
    | some (_, r) => (r.set s.pixels x value).map fun f => { s with pixels := f }
    | none => .ok s
  | .putAt i value => (s.pixels.putAt i value).map fun f => { s with pixels := f }
  | .fill value => .ok { s with pixels := Grid.fill s.pixels value }
  | .clear => .ok { s with pixels := s.pixels.clear }

/-- What is there after an edit: what was there before, if the edit comes to an error. -/
def after (s : Viewed w h) (e : Edit) : Viewed w h := (s.edit e).toOption.getD s

end Viewed

/-! ## The list alone -/

/-- The list of all pixels, and the indices of the rows of which views are kept. -/
structure Sheet where
  pixels : List Int
  rows : List Int
  deriving DecidableEq, Repr

/-- The place of a pixel in the list of all pixels, its column and its row counted from either end. -/
def place? (w h : Nat) (y x : Int) : Option Nat :=
  if (-(h : Int) ≤ y ∧ y < h) ∧ -(w : Int) ≤ x ∧ x < w then some (y % h * w + x % w).toNat else none

namespace Sheet

/-- Assigns to a place of a list, if there is one. -/
def assign (pixels : List Int) (place : Option Nat) (value : Int) : List Int :=
  match place with
  | some p => pixels.set p value
  | none => pixels

/-- What an edit does to the list of all pixels. -/
def after (w h : Nat) (t : Sheet) : Edit → Sheet
  | .keep y => if -(h : Int) ≤ y ∧ y < h then { t with rows := t.rows ++ [y] } else t
  | .put y x value => { t with pixels := assign t.pixels (place? w h y x) value }
  | .putKept k x value =>
    { t with pixels := assign t.pixels (t.rows[k]?.bind fun y => place? w h y x) value }
  | .putAt i value =>
    let n : Int := (w * h : Nat)
    { t with pixels := assign t.pixels (if -n ≤ i ∧ i < n then some (i % n).toNat else none) value }
  | .fill value => { t with pixels := List.replicate (w * h) value }
  | .clear => { t with pixels := List.replicate (w * h) 0 }

end Sheet

/-- What is left of a framebuffer and its views if only the list of all pixels is looked at. -/
def Viewed.sheet (s : Viewed w h) : Sheet := ⟨s.pixels.cells.toList, s.views.map (·.1)⟩

/-! ## Rows -/

theorem row_of_resolve (f : Framebuffer w h) {y : Int} {k : Fin h} (found : Index.resolve h y = some k) :
    f.row y = .ok ⟨k⟩ := by
  rw [row, found]

theorem row_of_beyond (f : Framebuffer w h) {y : Int} (beyond : y < -(h : Int) ∨ h ≤ y) :
    f.row y = .error (.row (Index.fromStart h y) h) := by
  rw [row, Index.resolve_eq_none_iff.2 beyond]

/-- A view that was taken is the view of the row that its index means. -/
theorem resolve_of_row {f : Framebuffer w h} {y : Int} {r : Row w h} (taken : f.row y = .ok r) :
    Index.resolve h y = some r.y := by
  unfold row at taken
  split at taken
  · next k found =>
    cases taken
    exact found
  · cases taken

end Framebuffer

namespace Row

variable {w h : Nat} (r : Row w h) (f : Framebuffer w h) {x : Int}

/-- A column that the row does not have is not read. -/
theorem get_of_beyond (beyond : x < -(w : Int) ∨ w ≤ x) :
    r.get f x = .error (.column (Index.fromStart w x) w) := by
  rw [get, column, Index.resolve_eq_none_iff.2 beyond]
  rfl

/-- Nor is it written. -/
theorem set_of_beyond (beyond : x < -(w : Int) ∨ w ≤ x) (value : Int) :
    r.set f x value = .error (.column (Index.fromStart w x) w) := by
  rw [set, column, Index.resolve_eq_none_iff.2 beyond]
  rfl

/-- A column of the row is read from the list of all pixels. -/
theorem get_of_resolve {k : Fin w} (found : Index.resolve w x = some k) :
    ∃ pixel, f.cells.toList[r.y.val * w + k.val]? = some pixel ∧ r.get f x = .ok pixel := by
  have inside : r.y.val * w + k.val < f.cells.toList.length := by
    rw [Vector.length_toList]
    exact (Grid.offset k r.y).isLt
  refine ⟨Grid.get f k r.y, ?_, ?_⟩
  · rw [List.getElem?_eq_getElem inside, Vector.getElem_toList]
    rfl
  · rw [get, column, found]
    rfl

/-- And it is written there, and nowhere else. -/
theorem set_of_resolve {k : Fin w} (found : Index.resolve w x = some k) (value : Int) :
    ∃ f', r.set f x value = .ok f' ∧
      f'.cells.toList = f.cells.toList.set (r.y.val * w + k.val) value := by
  refine ⟨Grid.set f k r.y value, ?_, Vector.toList_set (Grid.offset k r.y).isLt⟩
  rw [set, column, found]
  rfl

end Row

namespace Framebuffer

variable {w h : Nat}

/-! ## Every write is an assignment to the list -/

theorem place?_of_resolve {y x : Int} {j : Fin h} {k : Fin w} (row : Index.resolve h y = some j)
    (column : Index.resolve w x = some k) : place? w h y x = some (j.val * w + k.val) := by
  have inside := And.intro (Index.bounds_of_resolve row) (Index.bounds_of_resolve column)
  rw [place?, if_pos inside, ← Index.emod_of_resolve row, ← Index.emod_of_resolve column]
  exact congrArg some (Int.toNat_natCast (j.val * w + k.val))

theorem place?_of_row {y x : Int} (beyond : y < -(h : Int) ∨ h ≤ y) : place? w h y x = none :=
  if_neg (by omega)

theorem place?_of_column {y x : Int} (beyond : x < -(w : Int) ∨ w ≤ x) : place? w h y x = none :=
  if_neg (by omega)

section
variable (f : Framebuffer w h) (y x value : Int)

/-- What a write through a view leaves in the list of all pixels, if it comes to an error or not. -/
theorem toList_set {r : Row w h} (current : Index.resolve h y = some r.y) :
    ((r.set f x value).toOption.getD f).cells.toList =
      Sheet.assign f.cells.toList (place? w h y x) value := by
  cases column : Index.resolve w x with
  | none =>
    have beyond := Index.resolve_eq_none_iff.1 column
    rw [r.set_of_beyond f beyond, place?_of_column beyond]
    rfl
  | some k =>
    obtain ⟨f', written, pixels⟩ := r.set_of_resolve f column value
    rw [written, place?_of_resolve current column]
    exact pixels

theorem toList_put :
    (((f.row y).bind fun r => r.set f x value).toOption.getD f).cells.toList =
      Sheet.assign f.cells.toList (place? w h y x) value := by
  cases found : Index.resolve h y with
  | none =>
    have beyond := Index.resolve_eq_none_iff.1 found
    rw [f.row_of_beyond beyond, place?_of_row beyond]
    rfl
  | some k =>
    rw [f.row_of_resolve found]
    exact toList_set (r := ⟨k⟩) f y x value found

theorem toList_putAt (i : Int) :
    ((f.putAt i value).toOption.getD f).cells.toList =
      Sheet.assign f.cells.toList
        (if -((w * h : Nat) : Int) ≤ i ∧ i < (w * h : Nat) then some (i % (w * h : Nat)).toNat else none)
        value := by
  cases found : Index.resolve (w * h) i with
  | none =>
    have beyond := Index.resolve_eq_none_iff.1 found
    rw [putAt, found, if_neg (by omega)]
    rfl
  | some k =>
    rw [putAt, found, if_pos (Index.bounds_of_resolve found), ← Index.emod_of_resolve found,
      Int.toNat_natCast]
    exact Vector.toList_set k.isLt

theorem toList_fill : (Grid.fill f value).cells.toList = List.replicate (w * h) value := by
  rw [Grid.fill_eq_filled]
  exact Vector.toList_replicate

end

/-! ## Sequences of edits -/

namespace Viewed

/-- Every view that is kept is the view of the row that its index means. -/
def Current (s : Viewed w h) : Prop := ∀ p ∈ s.views, Index.resolve h p.1 = some p.2.y

variable {s : Viewed w h}

/-- Whether a write comes to an error or not, the views stay as they are. -/
theorem written_eq (attempt : Except AccessError (Framebuffer w h)) :
    (attempt.map fun f => { s with pixels := f }).toOption.getD s =
      { s with pixels := attempt.toOption.getD s.pixels } := by
  cases attempt <;> rfl

theorem after_keep_of_row {y : Int} {r : Row w h} (taken : s.pixels.row y = .ok r) :
    s.after (.keep y) = { s with views := s.views ++ [(y, r)] } := by
  rw [after, edit, taken]
  rfl

theorem after_keep_of_beyond {y : Int} (beyond : y < -(h : Int) ∨ h ≤ y) : s.after (.keep y) = s := by
  rw [after, edit, s.pixels.row_of_beyond beyond]
  rfl

/-- The views stay those of their rows, also behind a clearing. -/
theorem Current.after (current : s.Current) (e : Edit) : (s.after e).Current := by
  cases e with
  | keep y =>
    cases found : Index.resolve h y with
    | none =>
      rw [after_keep_of_beyond (Index.resolve_eq_none_iff.1 found)]
      exact current
    | some k =>
      rw [after_keep_of_row (s.pixels.row_of_resolve found)]
      intro p kept
      rcases List.mem_append.1 kept with earlier | last
      · exact current p earlier
      · rw [List.mem_singleton.1 last]
        exact found
  | put y x value | putAt i value =>
    rw [Viewed.after, edit, written_eq]
    exact current
  | putKept k x value =>
    rw [Viewed.after, edit]
    split
    · rw [written_eq]
      exact current
    · exact current
  | fill value | clear => exact current

/-- What an edit does to the list of all pixels. -/
theorem sheet_after (current : s.Current) (e : Edit) : (s.after e).sheet = s.sheet.after w h e := by
  cases e with
  | keep y =>
    cases found : Index.resolve h y with
    | none =>
      have beyond := Index.resolve_eq_none_iff.1 found
      rw [after_keep_of_beyond beyond, Sheet.after, if_neg (by omega)]
    | some k =>
      rw [after_keep_of_row (s.pixels.row_of_resolve found), Sheet.after,
        if_pos (Index.bounds_of_resolve found)]
      simp only [sheet, List.map_append, List.map_cons, List.map_nil]
  | put y x value =>
    rw [Viewed.after, edit, written_eq]
    exact congrArg (Sheet.mk · _) (toList_put ..)
  | putKept k x value =>
    rw [Viewed.after, edit]
    cases kept : s.views[k]? with
    | none =>
      have none : s.sheet.rows[k]? = none := by rw [sheet, List.getElem?_map, kept]; rfl
      rw [Sheet.after, none]
      rfl
    | some p =>
      have row : s.sheet.rows[k]? = some p.1 := by rw [sheet, List.getElem?_map, kept]; rfl
      rw [Sheet.after, row]
      dsimp only
      rw [written_eq]
      exact congrArg (Sheet.mk · _) (toList_set _ _ _ _ (current p (List.mem_of_getElem? kept)))
  | putAt i value =>
    rw [Viewed.after, edit, written_eq]
    exact congrArg (Sheet.mk · _) (toList_putAt ..)
  | fill value => exact congrArg (Sheet.mk · _) (toList_fill ..)
  | clear => exact congrArg (Sheet.mk · _) (toList_fill ..)

/-- What a sequence of edits does to the list of all pixels. -/
theorem Current.run (current : s.Current) (edits : List Edit) :
    (edits.foldl Viewed.after s).Current ∧
      (edits.foldl Viewed.after s).sheet = edits.foldl (Sheet.after w h) s.sheet := by
  induction edits generalizing s with
  | nil => exact ⟨current, rfl⟩
  | cons e edits ih =>
    rw [List.foldl_cons, List.foldl_cons, ← sheet_after current e]
    exact ih (current.after e)

end Viewed

/-! ## All ways to a pixel -/

/-- The place of a pixel in the list of all pixels lies in its row. -/
theorem place_bounds {y x : Int} (top : -(h : Int) ≤ y) (bottom : y < h) (left : -(w : Int) ≤ x)
    (right : x < w) :
    y % h * w ≤ (y % h * w + x % w).toNat ∧ (y % h * w + x % w).toNat < y % h * w + w ∧
      (y % h * w + x % w).toNat < w * h := by
  obtain ⟨j, -, row⟩ := Index.resolve_of_bounds top bottom
  obtain ⟨k, -, column⟩ := Index.resolve_of_bounds left right
  have inside := (Grid.offset k j).isLt
  rw [← row, ← column]
  have place : ((j.val : Int) * w + k.val).toNat = j.val * w + k.val :=
    Int.toNat_natCast (j.val * w + k.val)
  rw [place, Int.natCast_add, Int.natCast_mul]
  exact ⟨by omega, by omega, inside⟩

/-- All ways to the pixels of a framebuffer agree, whatever its size and whatever was done to it before,
also through views of its rows that were taken at any time.

What was done comes to assignments to the list of all pixels, each at one place or at all places. A pixel
that a row and a column mean, counted from either end, is read at its place in this list and is written
there and nowhere else, through the view of its row that is taken now and through each one that was taken
before. A row or a column that there is not comes to an error of an index, and what is written there changes
nothing; no column means a place in another row. The pixel at coordinates on the screen is read as one if
the view of its row does not read a zero there. -/
theorem views_agree (start : Framebuffer w h) (edits : List Edit) :
    let s := edits.foldl Viewed.after ⟨start, []⟩
    let flat := s.pixels.cells.toList
    (s.sheet = edits.foldl (Sheet.after w h) ⟨start.cells.toList, []⟩ ∧ flat.length = w * h) ∧
      (∀ y x : Int, -(h : Int) ≤ y → y < h → -(w : Int) ≤ x → x < w →
        let place := (y % h * w + x % w).toNat
        (y % h * w ≤ place ∧ place < y % h * w + w ∧ place < w * h) ∧
          (∃ r, s.pixels.row y = .ok r) ∧
          ∀ r, (s.pixels.row y = .ok r ∨ ∃ y', (y', r) ∈ s.views ∧ y' % h = y % h) →
            (∃ pixel, flat[place]? = some pixel ∧ r.get s.pixels x = .ok pixel) ∧
              ∀ value, ∃ f, r.set s.pixels x value = .ok f ∧ f.cells.toList = flat.set place value) ∧
      (∀ y : Int, (y < -(h : Int) ∨ h ≤ y) →
        s.pixels.row y = .error (.row (Index.fromStart h y) h) ∧
          ∀ x value, s.after (.put y x value) = s) ∧
      (∀ x : Int, (x < -(w : Int) ∨ w ≤ x) →
        ∀ (r : Row w h) (value : Int),
          r.get s.pixels x = .error (.column (Index.fromStart w x) w) ∧
            r.set s.pixels x value = .error (.column (Index.fromStart w x) w) ∧
            (∀ y, s.after (.put y x value) = s) ∧ ∀ k, s.after (.putKept k x value) = s) ∧
      ∀ (x : Fin w) (y : Fin h), ∃ r pixel, s.pixels.row y.val = .ok r ∧
        r.get s.pixels x.val = .ok pixel ∧
          s.pixels.readPixel x.val y.val = .ok (if pixel = 0 then 0 else 1) := by
  intro s flat
  have none : Viewed.Current ⟨start, []⟩ := nofun
  obtain ⟨current, sheet⟩ := none.run edits
  refine ⟨⟨sheet, Vector.length_toList⟩, ?_, ?_, ?_, ?_⟩
  · intro y x top bottom left right
    obtain ⟨j, row, below⟩ := Index.resolve_of_bounds top bottom
    obtain ⟨k, column, across⟩ := Index.resolve_of_bounds left right
    refine ⟨place_bounds top bottom left right, ⟨⟨j⟩, s.pixels.row_of_resolve row⟩, ?_⟩
    intro r ways
    have same : r.y = j := by
      rcases ways with taken | ⟨y', kept, equal⟩
      · exact Option.some.inj ((resolve_of_row taken).symm.trans row)
      · have place : (r.y.val : Int) = y' % h := Index.emod_of_resolve (current (y', r) kept)
        exact Fin.ext (by omega)
    have place : (y % h * w + x % w).toNat = r.y.val * w + k.val := by
      rw [same, ← below, ← across]
      exact Int.toNat_natCast (j.val * w + k.val)
    rw [place]
    exact ⟨r.get_of_resolve s.pixels column, r.set_of_resolve s.pixels column⟩
  · intro y beyond
    have error := s.pixels.row_of_beyond beyond
    refine ⟨error, fun x value => ?_⟩
    rw [Viewed.after, Viewed.edit, error]
    rfl
  · intro x beyond r value
    refine ⟨r.get_of_beyond s.pixels beyond, r.set_of_beyond s.pixels beyond value, fun y => ?_,
      fun k => ?_⟩
    · rw [Viewed.after, Viewed.edit]
      cases s.pixels.row y with
      | error e => rfl
      | ok r' =>
        show (Except.map _ (r'.set s.pixels x value)).toOption.getD s = s
        rw [r'.set_of_beyond s.pixels beyond]
        rfl
    · rw [Viewed.after, Viewed.edit]
      split
      · next r' _ =>
        rw [r'.set_of_beyond s.pixels beyond]
        rfl
      · rfl
  · intro x y
    have row : s.pixels.row y.val = .ok ⟨y⟩ :=
      s.pixels.row_of_resolve (Index.resolve_natCast y.isLt)
    have read : (Row.mk y).get s.pixels x.val = .ok (Grid.get s.pixels x y) := by
      rw [Row.get, Row.column, Index.resolve_natCast x.isLt]
      rfl
    exact ⟨⟨y⟩, _, row, read, s.pixels.readPixel_eq x y⟩

/-- A view of the last row, taken before the screen is filled and cleared, writes the last pixel, and a view
that is taken afterwards reads it. -/
theorem views_agree_cleared :
    let edits : List Edit := [.keep (-1), .fill 1, .clear, .putKept 0 (-1) 7]
    let s := edits.foldl Viewed.after ⟨(blank : Framebuffer 3 2), []⟩
    (-2 ≤ (1 : Int) ∧ (1 : Int) < 2 ∧ -3 ≤ (2 : Int) ∧ (2 : Int) < 3) ∧
      ∃ r, s.pixels.row 1 = .ok r ∧ r.get s.pixels 2 = .ok 7 := by
  intro edits s
  refine ⟨by decide, ?_⟩
  obtain ⟨⟨sheet, -⟩, agree, -⟩ := views_agree (blank : Framebuffer 3 2) edits
  obtain ⟨-, ⟨r, taken⟩, ways⟩ := agree 1 2 (by decide) (by decide) (by decide) (by decide)
  obtain ⟨⟨pixel, there, read⟩, -⟩ := ways r (.inl taken)
  have pixels : s.pixels.cells.toList = [0, 0, 0, 0, 0, 7] := congrArg Sheet.pixels sheet
  rw [pixels] at there
  cases there
  exact ⟨r, taken, read⟩

end Framebuffer
end ChipEight
