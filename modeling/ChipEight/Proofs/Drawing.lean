import ChipEight.Framebuffer
import Mathlib.Data.List.Nodup

/-!
# Drawing stays on the screen

Sprites are drawn through views of rows, whose accesses can fail. Clipped at the right and the lower
edge, a sprite that starts on the screen is drawn without a failure, and what is drawn is the list of
pixels that it sets there (`Framebuffer.drawRows_eq_blit`). No pixel is in this list twice
(`Sprite.nodup_pixels`), so that drawing toggles the pixels that the sprite sets and no others
(`Framebuffer.get_blit`), and tells whether one of them was set before (`Framebuffer.snd_blit`).
Drawing leaves a screen of zeros and ones such a screen (`Framebuffer.IsBinary.blit`).
-/

namespace ChipEight

variable {w h : Nat}

/-! ## One row -/

namespace Row

variable (r : Row w h)

theorem column_eq {x : Nat} (hx : x < w) : r.column x = .ok ⟨x, hx⟩ := by
  simp only [column, Index.resolve_natCast hx]

/-- Toggling through a view of a row is toggling the pixel. -/
theorem toggle_eq {x : Nat} (hx : x < w) (drawn : Framebuffer w h × Bool) :
    r.toggle x drawn = .ok (Framebuffer.plot drawn (⟨x, hx⟩, r.y)) := by
  have pixel : r.get drawn.1 x = .ok (Grid.get drawn.1 ⟨x, hx⟩ r.y) := by
    rw [get, r.column_eq hx]
    rfl
  have written (v : Int) : r.set drawn.1 x v = .ok (Grid.set drawn.1 ⟨x, hx⟩ r.y v) := by
    rw [set, r.column_eq hx]
    rfl
  simp only [toggle, pixel, written, bind, Except.bind, pure, Except.pure, Framebuffer.plot,
    Framebuffer.toggle, Framebuffer.isSet]
  by_cases unset : Grid.get drawn.1 ⟨x, hx⟩ r.y = 0 <;> simp [unset]

/-- Where a row of a sprite is set in a column, as `Sprite.rowPixels` has it. -/
theorem rowPixels_eq (byte : UInt8) {x columns : Nat} (hc : columns = min (x + Sprite.width) w - x)
    (hx : x < w) :
    Sprite.rowPixels byte x r.y = (List.range columns).filterMap fun j =>
      if hx : x + j < w then
        if Sprite.isSet byte j then some (⟨x + j, hx⟩, r.y) else none
      else none := by
  have split : Sprite.width = columns + (Sprite.width - columns) := by
    simp only [Sprite.width] at hc ⊢
    omega
  have outside : ((List.range (Sprite.width - columns)).map (columns + ·)).filterMap (fun j =>
      if hx : x + j < w then
        if Sprite.isSet byte j then some ((⟨x + j, hx⟩, r.y) : Fin w × Fin h) else none
      else none) = [] := by
    rw [List.filterMap_eq_nil_iff]
    intro j hj
    obtain ⟨i, hi, rfl⟩ := List.mem_map.1 hj
    rw [List.mem_range] at hi
    exact dif_neg (by omega)
  rw [Sprite.rowPixels, split, List.range_add, List.filterMap_append, outside, List.append_nil]

/-- Drawing a row of a sprite is toggling the pixels that it sets. -/
theorem drawByte_eq (byte : UInt8) {x columns : Nat} (hc : columns = min (x + Sprite.width) w - x)
    (hx : x < w) (drawn : Framebuffer w h × Bool) :
    r.drawByte byte x columns drawn =
      .ok ((Sprite.rowPixels byte x r.y).foldl Framebuffer.plot drawn) := by
  have inside : ∀ j ∈ List.range columns, x + j < w := by
    intro j hj
    rw [List.mem_range] at hj
    omega
  rw [drawByte, r.rowPixels_eq byte hc hx]
  generalize List.range columns = js at inside
  induction js generalizing drawn with
  | nil => rfl
  | cons j js ih =>
    have hj : x + j < w := inside j (by simp)
    have ih := fun drawn => ih drawn fun i hi => inside i (List.mem_cons_of_mem j hi)
    rw [List.foldlM_cons, List.filterMap_cons, dif_pos hj]
    by_cases lit : Sprite.isSet byte j = true
    · have toggled : r.toggle ((x : Int) + (j : Int)) drawn = _ := r.toggle_eq hj drawn
      rw [if_pos lit, if_pos lit, toggled]
      exact ih _
    · rw [if_neg lit, if_neg lit]
      exact ih _

end Row

/-! ## All rows -/

namespace Framebuffer

theorem row_eq (f : Framebuffer w h) {y : Nat} (hy : y < h) : f.row y = .ok ⟨⟨y, hy⟩⟩ := by
  simp only [row, Index.resolve_natCast hy]

/-- Drawing the rows of a sprite is toggling the pixels that they set. -/
theorem drawRows_eq (rows : List UInt8) {x y columns : Nat}
    (hc : columns = min (x + Sprite.width) w - x) (hx : x < w) (hy : y + rows.length ≤ h)
    (drawn : Framebuffer w h × Bool) :
    drawRows rows x y columns drawn = .ok ((Sprite.pixels rows x y).foldl plot drawn) := by
  induction rows generalizing y drawn with
  | nil => rfl
  | cons byte rest ih =>
    rw [List.length_cons] at hy
    have below : y < h := by omega
    have rest_eq := fun drawn => ih (y := y + 1) (by omega) drawn
    rw [drawRows, row_eq _ below, Sprite.pixels, dif_pos below, List.foldl_append]
    simp only [bind, Except.bind, Row.drawByte_eq _ byte hc hx]
    exact rest_eq _

theorem drawRows_eq_blit (f : Framebuffer w h) (rows : List UInt8) {x y : Nat} (hx : x < w)
    (hy : y + rows.length ≤ h) :
    drawRows rows x y (min (x + Sprite.width) w - x) (f, false) =
      .ok (f.blit (Sprite.pixels rows x y)) :=
  drawRows_eq rows rfl hx hy _

end Framebuffer

/-! ## Which pixels a sprite sets -/

namespace Sprite

theorem mem_rowPixels {byte : UInt8} {x : Nat} {y : Fin h} {p : Fin w × Fin h} :
    p ∈ rowPixels byte x y ↔
      p.2 = y ∧ x ≤ p.1.val ∧ p.1.val < x + width ∧ isSet byte (p.1.val - x) = true := by
  simp only [rowPixels, List.mem_filterMap, List.mem_range]
  constructor
  · rintro ⟨j, hj, found⟩
    split at found
    · simp only [Option.ite_none_right_eq_some, Option.some.injEq] at found
      obtain ⟨lit, rfl⟩ := found
      refine ⟨rfl, Nat.le_add_right .., Nat.add_lt_add_left hj x, ?_⟩
      rwa [Nat.add_sub_cancel_left]
    · cases found
  · rintro ⟨rfl, left, right, lit⟩
    have hx : x + (p.1.val - x) < w := by omega
    refine ⟨p.1.val - x, by omega, ?_⟩
    rw [dif_pos hx, if_pos lit, Option.some.injEq]
    exact Prod.ext (Fin.ext (by simp only; omega)) rfl

theorem mem_pixels {rows : List UInt8} {x y : Nat} {p : Fin w × Fin h} :
    p ∈ pixels rows x y ↔
      x ≤ p.1.val ∧ p.1.val < x + width ∧ y ≤ p.2.val ∧
        ∃ byte, rows[p.2.val - y]? = some byte ∧ isSet byte (p.1.val - x) = true := by
  induction rows generalizing y with
  | nil => simp [pixels]
  | cons byte rest ih =>
    by_cases hy : y < h
    · rw [pixels, dif_pos hy, List.mem_append, mem_rowPixels, ih, Fin.ext_iff]
      by_cases first : p.2.val = y
      · have below : ¬y + 1 ≤ y := by omega
        simp only [first, below, true_and, false_and, and_false, or_false, Nat.le_refl, Nat.sub_self,
          List.getElem?_cons_zero, Option.some.injEq, exists_eq_left']
      · have next (above : y ≤ p.2.val) : p.2.val - y = p.2.val - (y + 1) + 1 := by omega
        simp only [first, false_and, false_or]
        constructor
        · rintro ⟨left, right, above, lit⟩
          refine ⟨left, right, by omega, ?_⟩
          rwa [next (by omega), List.getElem?_cons_succ]
        · rintro ⟨left, right, above, lit⟩
          refine ⟨left, right, by omega, ?_⟩
          rwa [next above, List.getElem?_cons_succ] at lit
    · have beyond : ¬y ≤ p.2.val := by omega
      simp [pixels, hy, beyond]

/-- The pixels of a sprite whose rows below the lower edge were already left out. -/
theorem mem_pixels_map {bytes : Nat → UInt8} {x y height : Nat} {p : Fin w × Fin h} :
    p ∈ pixels ((List.range (min (y + height) h - y)).map bytes) x y ↔
      (x ≤ p.1.val ∧ p.1.val < x + width) ∧ (y ≤ p.2.val ∧ p.2.val < y + height) ∧
        isSet (bytes (p.2.val - y)) (p.1.val - x) = true := by
  have row {byte : UInt8} :
      ((List.range (min (y + height) h - y)).map bytes)[p.2.val - y]? = some byte ↔
        p.2.val - y < min (y + height) h - y ∧ bytes (p.2.val - y) = byte := by
    simp [List.getElem?_eq_some_iff]
  rw [mem_pixels]
  have := p.2.isLt
  simp only [row]
  constructor
  · rintro ⟨left, right, above, byte, ⟨below, rfl⟩, lit⟩
    exact ⟨⟨left, right⟩, ⟨above, by omega⟩, lit⟩
  · rintro ⟨⟨left, right⟩, ⟨above, below⟩, lit⟩
    exact ⟨left, right, above, _, ⟨by omega, rfl⟩, lit⟩

theorem nodup_rowPixels (byte : UInt8) (x : Nat) (y : Fin h) :
    (rowPixels byte x y : List (Fin w × Fin h)).Nodup := by
  refine List.Nodup.filterMap (fun j j' p hj hj' => ?_) List.nodup_range
  have column {j : Nat} (found : p ∈ if hx : x + j < w then
      if isSet byte j then some ((⟨x + j, hx⟩, y) : Fin w × Fin h) else none else none) :
      p.1.val = x + j := by
    split at found
    · simp only [Option.mem_def, Option.ite_none_right_eq_some, Option.some.injEq] at found
      obtain ⟨-, rfl⟩ := found
      rfl
    · cases found
  have := column hj
  have := column hj'
  omega

/-- A sprite sets no pixel twice: its rows are apart, and so are the columns in a row. -/
theorem nodup_pixels (rows : List UInt8) (x y : Nat) :
    (pixels rows x y : List (Fin w × Fin h)).Nodup := by
  induction rows generalizing y with
  | nil => exact List.nodup_nil
  | cons byte rest ih =>
    rw [pixels]
    split
    · refine List.nodup_append.2 ⟨nodup_rowPixels .., ih (y + 1), fun p hp q hq => ?_⟩
      rintro rfl
      have row := (mem_rowPixels.1 hp).1
      have below := (mem_pixels.1 hq).2.2.1
      rw [row] at below
      simp only at below
      omega
    · exact List.nodup_nil

end Sprite

namespace Framebuffer

theorem get_foldl_plot {pixels : List (Fin w × Fin h)} (nodup : pixels.Nodup)
    (drawn : Framebuffer w h × Bool) (x : Fin w) (y : Fin h) :
    ((x, y) ∈ pixels →
        Grid.get (pixels.foldl plot drawn).1 x y = if drawn.1.isSet x y then 0 else 1) ∧
      ((x, y) ∉ pixels → Grid.get (pixels.foldl plot drawn).1 x y = Grid.get drawn.1 x y) := by
  induction pixels generalizing drawn with
  | nil => exact ⟨fun inside => absurd inside List.not_mem_nil, fun _ => rfl⟩
  | cons p rest ih =>
    obtain ⟨unused, nodup⟩ := List.nodup_cons.1 nodup
    obtain ⟨toggles, keeps⟩ := ih nodup (plot drawn p)
    have toggled : Grid.get (plot drawn p).1 x y =
        if p = (x, y) then (if drawn.1.isSet x y then 0 else 1) else Grid.get drawn.1 x y := by
      rw [plot, get_toggle]
      by_cases same : p = (x, y)
      · simp [same]
      · rw [if_neg same, if_neg fun h => same (Prod.ext h.1 h.2)]
    by_cases same : p = (x, y)
    · subst same
      refine ⟨fun _ => ?_, fun outside => absurd List.mem_cons_self outside⟩
      rw [List.foldl_cons, keeps unused, toggled, if_pos rfl]
    · have kept : (plot drawn p).1.isSet x y = drawn.1.isSet x y := by
        rw [isSet, toggled, if_neg same, isSet]
      rw [List.mem_cons, or_iff_right (Ne.symm same), List.foldl_cons]
      refine ⟨fun inside => ?_, fun outside => ?_⟩
      · rw [toggles inside, kept]
      · rw [keeps outside, toggled, if_neg same]

/-- Drawing toggles the pixels of a list in which no pixel comes twice, and leaves all others. -/
theorem get_blit (f : Framebuffer w h) {pixels : List (Fin w × Fin h)} (nodup : pixels.Nodup)
    (x : Fin w) (y : Fin h) [Decidable ((x, y) ∈ pixels)] :
    Grid.get (f.blit pixels).1 x y =
      if (x, y) ∈ pixels then (if f.isSet x y then 0 else 1) else Grid.get f x y := by
  obtain ⟨toggles, keeps⟩ := get_foldl_plot nodup (f, false) x y
  split
  · next inside => exact toggles inside
  · next outside => exact keeps outside

theorem snd_foldl_plot {pixels : List (Fin w × Fin h)} (nodup : pixels.Nodup)
    (drawn : Framebuffer w h × Bool) :
    (pixels.foldl plot drawn).2 = true ↔
      drawn.2 = true ∨ ∃ p ∈ pixels, drawn.1.isSet p.1 p.2 = true := by
  induction pixels generalizing drawn with
  | nil => simp
  | cons p rest ih =>
    obtain ⟨unused, nodup⟩ := List.nodup_cons.1 nodup
    have kept : ∀ q ∈ rest, (plot drawn p).1.isSet q.1 q.2 = drawn.1.isSet q.1 q.2 := by
      intro q hq
      have apart : ¬(p.1 = q.1 ∧ p.2 = q.2) := fun same => unused (Prod.ext same.1 same.2 ▸ hq)
      rw [isSet, plot, get_toggle, if_neg apart, isSet]
    have later : (∃ q ∈ rest, (plot drawn p).1.isSet q.1 q.2 = true) ↔
        ∃ q ∈ rest, drawn.1.isSet q.1 q.2 = true :=
      exists_congr fun q => and_congr_right fun hq => by rw [kept q hq]
    have first : (plot drawn p).2 = true ↔ drawn.2 = true ∨ drawn.1.isSet p.1 p.2 = true :=
      Bool.or_eq_true_iff ..
    simp only [List.foldl_cons, ih nodup, later, first, or_assoc, List.mem_cons, exists_eq_or_imp]

/-- Drawing tells whether one of the pixels was set, if no pixel comes twice. -/
theorem snd_blit (f : Framebuffer w h) {pixels : List (Fin w × Fin h)} (nodup : pixels.Nodup) :
    (f.blit pixels).2 = true ↔ ∃ p ∈ pixels, f.isSet p.1 p.2 = true := by
  rw [blit, snd_foldl_plot nodup]
  simp

/-! ## Zeros and ones -/

/-- Whether every pixel is zero or one. -/
def IsBinary (f : Framebuffer w h) : Prop := ∀ x y, Grid.get f x y = 0 ∨ Grid.get f x y = 1

theorem isBinary_blank : (blank : Framebuffer w h).IsBinary := fun x y => .inl (Grid.get_filled 0 x y)

theorem IsBinary.toggle {f : Framebuffer w h} (hf : f.IsBinary) (x : Fin w) (y : Fin h) :
    (f.toggle x y).IsBinary := by
  intro x' y'
  rw [get_toggle]
  split
  · split
    · exact .inl rfl
    · exact .inr rfl
  · exact hf x' y'

theorem IsBinary.blit {f : Framebuffer w h} (hf : f.IsBinary) (pixels : List (Fin w × Fin h)) :
    (f.blit pixels).1.IsBinary := by
  have fold : ∀ drawn : Framebuffer w h × Bool, drawn.1.IsBinary →
      (pixels.foldl plot drawn).1.IsBinary := by
    induction pixels with
    | nil => exact fun drawn hd => hd
    | cons p rest ih => exact fun drawn hd => ih _ (hd.toggle p.1 p.2)
  exact fold (f, false) hf

end Framebuffer

end ChipEight
