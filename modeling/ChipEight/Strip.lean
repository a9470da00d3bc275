/-!
# Strips

A strip is a sequence of values that is kept as runs of equal ones, so that a long strip with few
changes in it takes little room. `Strip.get` reads the value at a place, and `Strip.mapRange` changes
the values of neighbouring places; `Strip.get_mapRange` says that it changes no others. A run whose
value stays as it is is never taken apart.
-/

namespace ChipEight

/-- The same value at a number of neighbouring places. -/
structure Run (α : Type) where
  length : Nat
  value : α
  deriving DecidableEq

namespace Run

variable {α : Type}

/-- How many places some runs have together. -/
def total : List (Run α) → Nat
  | [] => 0
  | r :: rest => r.length + total rest

/-- The value at a place of some runs. -/
def value? : List (Run α) → Nat → Option α
  | [], _ => none
  | r :: rest, i => if i < r.length then some r.value else value? rest (i - r.length)

theorem value?_isSome (runs : List (Run α)) {i : Nat} (h : i < total runs) :
    (value? runs i).isSome := by
  induction runs generalizing i with
  | nil => simp only [total, Nat.not_lt_zero] at h
  | cons r rest ih =>
    simp only [total] at h
    unfold value?
    split
    · rfl
    · exact ih (by omega)

/-! ## Changes -/

variable [DecidableEq α]

/-- Changes the values at the first `count` places. -/
def mapFirst (f : α → α) : (count : Nat) → List (Run α) → List (Run α)
  | _, [] => []
  | count, r :: rest =>
    if count = 0 then r :: rest
    else if r.length ≤ count then ⟨r.length, f r.value⟩ :: mapFirst f (count - r.length) rest
    else if f r.value = r.value then r :: rest
    else ⟨count, f r.value⟩ :: ⟨r.length - count, r.value⟩ :: rest

/-- Changes the values at `count` places from `start` on. -/
def mapRange (f : α → α) : (start count : Nat) → List (Run α) → List (Run α)
  | _, _, [] => []
  | start, count, r :: rest =>
    if start = 0 then mapFirst f count (r :: rest)
    else if r.length ≤ start then r :: mapRange f (start - r.length) count rest
    else if f r.value = r.value then r :: mapFirst f (count - (r.length - start)) rest
    else ⟨start, r.value⟩ :: mapFirst f count (⟨r.length - start, r.value⟩ :: rest)

/-! ## What a change keeps -/

theorem total_mapFirst (f : α → α) (count : Nat) (runs : List (Run α)) :
    total (mapFirst f count runs) = total runs := by
  induction runs generalizing count with
  | nil => rfl
  | cons r rest ih =>
    unfold mapFirst
    split
    · rfl
    · split
      · simp only [total, ih]
      · split
        · rfl
        · simp only [total]
          omega

theorem total_mapRange (f : α → α) (start count : Nat) (runs : List (Run α)) :
    total (mapRange f start count runs) = total runs := by
  induction runs generalizing start with
  | nil => rfl
  | cons r rest ih =>
    unfold mapRange
    split
    · exact total_mapFirst f count (r :: rest)
    · split
      · simp only [total, ih]
      · split
        · simp only [total, total_mapFirst]
        · simp only [total, total_mapFirst]
          omega

theorem value?_mapFirst (f : α → α) (count : Nat) (runs : List (Run α)) (i : Nat) :
    value? (mapFirst f count runs) i = (value? runs i).map fun v => if i < count then f v else v := by
  induction runs generalizing count i with
  | nil => rfl
  | cons r rest ih =>
    unfold mapFirst
    split
    · subst count
      simp
    · split
      · simp only [value?, ih]
        split
        · simp only [Option.map_some, show i < count by omega, if_true]
        · congr 1
          funext v
          exact ite_congr (propext (by omega)) (fun _ => rfl) fun _ => rfl
      · split
        · simp only [value?]
          split
          · simp only [Option.map_some, ‹f r.value = r.value›, ite_self]
          · simp only [show ¬ i < count by omega, if_false, Option.map_id']
        · simp only [value?]
          by_cases hi : i < count
          · simp only [hi, show i < r.length by omega, if_true, Option.map_some]
          · by_cases hr : i < r.length
            · simp only [hi, hr, show i - count < r.length - count by omega, if_true, if_false,
                Option.map_some]
            · simp only [hi, hr, show ¬ i - count < r.length - count by omega, if_false,
                show i - count - (r.length - count) = i - r.length by omega, Option.map_id']

theorem value?_mapRange (f : α → α) (start count : Nat) (runs : List (Run α)) (i : Nat) :
    value? (mapRange f start count runs) i =
      (value? runs i).map fun v => if start ≤ i ∧ i < start + count then f v else v := by
  induction runs generalizing start i with
  | nil => rfl
  | cons r rest ih =>
    unfold mapRange
    split
    · subst start
      rw [value?_mapFirst]
      congr 1
      funext v
      exact ite_congr (propext (by omega)) (fun _ => rfl) fun _ => rfl
    · split
      · simp only [value?, ih]
        split
        · simp only [Option.map_some, show ¬ (start ≤ i ∧ i < start + count) by omega, if_false]
        · congr 1
          funext v
          exact ite_congr (propext (by omega)) (fun _ => rfl) fun _ => rfl
      · split
        · simp only [value?, value?_mapFirst]
          split
          · simp only [Option.map_some, ‹f r.value = r.value›, ite_self]
          · congr 1
            funext v
            exact ite_congr (propext (by omega)) (fun _ => rfl) fun _ => rfl
        · simp only [value?, value?_mapFirst]
          by_cases hi : i < start
          · simp only [hi, show i < r.length by omega,
              show ¬ (start ≤ i ∧ i < start + count) by omega, if_true, if_false, Option.map_some]
          · by_cases hr : i < r.length
            · simp only [hi, hr, show i - start < r.length - start by omega, if_true, if_false,
                Option.map_some]
              congr 1
              exact ite_congr (propext (by omega)) (fun _ => rfl) fun _ => rfl
            · simp only [hi, hr, show ¬ i - start < r.length - start by omega, if_false,
                show i - start - (r.length - start) = i - r.length by omega]
              congr 1
              funext v
              exact ite_congr (propext (by omega)) (fun _ => rfl) fun _ => rfl

end Run

/-- A sequence of `n` values, kept as runs. -/
structure Strip (α : Type) (n : Nat) where
  runs : List (Run α)
  total_eq : Run.total runs = n
  deriving DecidableEq

namespace Strip

variable {α : Type} {n : Nat}

/-- The strip with one value everywhere. -/
def filled (n : Nat) (v : α) : Strip α n := ⟨[⟨n, v⟩], Nat.add_zero n⟩

/-- The value at a place. -/
def get (s : Strip α n) (i : Fin n) : α :=
  (Run.value? s.runs i).get (Run.value?_isSome s.runs (by rw [s.total_eq]; exact i.isLt))

/-- Changes the values at `count` places from `start` on, as far as the strip reaches. -/
def mapRange [DecidableEq α] (f : α → α) (start count : Nat) (s : Strip α n) : Strip α n :=
  ⟨Run.mapRange f start count s.runs, (Run.total_mapRange ..).trans s.total_eq⟩

theorem get_filled (v : α) (i : Fin n) : (filled n v).get i = v := by
  simp only [get, filled, Run.value?, i.isLt, if_true, Option.get_some]

theorem get_mapRange [DecidableEq α] (f : α → α) (start count : Nat) (s : Strip α n) (i : Fin n) :
    (s.mapRange f start count).get i =
      if start ≤ i ∧ i < start + count then f (s.get i) else s.get i := by
  simp only [get, mapRange, Run.value?_mapRange, Option.get_map]

end Strip

end ChipEight
