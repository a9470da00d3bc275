import ChipEight.Memory

/-!
# Memory by address

Between its first and its last address memory is a plain array of bytes: reading gives `Memory.byte`,
the slice of a span its bytes in order (`Memory.span`), and every write is an overlay
(`Memory.byte_overlay`). Laying data over memory is the same as assigning it to the slice that it
covers, as long as it ends inside the memory (`Memory.overlay_eq_splice`); data that did not would
make a memory that can be resized grow.
-/

namespace ChipEight

/-- What a list becomes when its entries from `start` up to `stop` give way to others, however many
these are. -/
def splice {α : Type} (xs : List α) (start stop : Nat) (new : List α) : List α :=
  xs.take start ++ new ++ xs.drop stop

/-- A slice from one place of a sequence up to another picks the places between them. -/
theorem Slice.positions_between {n a b : Nat} (hab : a ≤ b) (hb : b ≤ n) :
    Slice.positions ⟨some a, some b, none⟩ n =
      some ((List.finRange (b - a)).map fun k => ⟨a + k.val, by omega⟩) := by
  have hfirst : Slice.first ⟨some a, some b, none⟩ n = a := by
    simp [Slice.first, Slice.clamp, Slice.highest, Slice.stride]
    omega
  have hlimit : Slice.limit ⟨some a, some b, none⟩ n = b := by
    simp [Slice.limit, Slice.clamp, Slice.highest, Slice.stride]
    omega
  have hcount : Slice.count ⟨some a, some b, none⟩ n = b - a := by
    simp [Slice.count, hfirst, hlimit, Slice.stride]
  rw [positions, dif_neg (by simp [Slice.stride])]
  congr 1
  apply List.ext_getElem
  · simp [hcount]
  · intro i _ _
    simp [Slice.place, hfirst, Slice.stride]
    omega

namespace Memory

/-- The byte at an address, zero beyond the end. -/
def byte (m : Memory) (a : Nat) : UInt8 := m.bytes[a]?.getD 0

/-- The bytes of a span. -/
def span (m : Memory) (start count : Nat) : List UInt8 :=
  (List.range count).map fun i => m.byte (start + i)

variable (m : Memory)

theorem byte_of_lt {a : Nat} (h : a < 4096) : m.byte a = m.bytes[a] := by
  rw [byte, Vector.getElem?_eq_getElem h, Option.getD_some]

theorem byte_of_le {a : Nat} (h : 4096 ≤ a) : m.byte a = 0 := by
  rw [byte, Vector.getElem?_eq_none h, Option.getD_none]

theorem ext_byte {m m' : Memory} (hp : m.platform = m'.platform)
    (hb : ∀ a < 4096, m.byte a = m'.byte a) : m = m' := by
  obtain ⟨p, bytes⟩ := m
  obtain ⟨p', bytes'⟩ := m'
  obtain rfl : p = p' := hp
  congr 1
  refine Vector.ext fun a ha => ?_
  have := hb a ha
  rwa [byte_of_lt _ ha, byte_of_lt _ ha] at this

theorem inWorkspace_iff {a : Int} :
    m.inWorkspace a = true ↔ m.platform.workspaceStart ≤ a ∧ a < 4096 := by
  simp only [inWorkspace, Bool.and_eq_true, decide_eq_true_eq]

theorem getElem?_span (start count k : Nat) :
    (m.span start count)[k]? = if k < count then some (m.byte (start + k)) else none := by
  rw [span, List.getElem?_map]
  split
  · next inside => rw [List.getElem?_range inside, Option.map_some]
  · next beyond => rw [List.getElem?_eq_none (by simpa using beyond), Option.map_none]

/-! ## Writing -/

theorem byte_overlay (start : Nat) (data : Array UInt8) (a : Nat) :
    (m.overlay start data).byte a =
      if h : a < 4096 ∧ start ≤ a ∧ a - start < data.size then data[a - start] else m.byte a := by
  by_cases ha : a < 4096
  · simp only [byte_of_lt _ ha, getElem_overlay, ha, true_and]
  · rw [dif_neg (by omega), byte_of_le _ (by omega), byte_of_le _ (by omega)]

/-- Laying data over memory right behind other data is laying both over it at once. -/
theorem overlay_push (start : Nat) (data : Array UInt8) (b : UInt8) :
    (m.overlay start data).overlay (start + data.size) #[b] = m.overlay start (data.push b) := by
  refine ext_byte rfl fun a ha => ?_
  simp only [byte_overlay, ha, true_and, Array.size_push, Array.getElem_push]
  by_cases h : a = start + data.size
  · simp [h]
  · by_cases h' : start ≤ a ∧ a - start < data.size
    · simp only [List.size_toArray, List.length_cons, List.length_nil]
      rw [dif_neg (by omega), dif_pos h', dif_pos (by omega), dif_pos h'.2]
    · simp only [List.size_toArray, List.length_cons, List.length_nil]
      rw [dif_neg (by omega), dif_neg h', dif_neg (by omega)]

/-- Data that ends inside the memory is laid over it as if it were assigned to the slice that it
covers. -/
theorem overlay_eq_splice (start : Nat) (data : Array UInt8) (h : start + data.size ≤ 4096) :
    (m.overlay start data).bytes.toList =
      splice m.bytes.toList start (start + data.size) data.toList := by
  apply List.ext_getElem
  · simp [splice]
    omega
  · intro a h1 h2
    have hs : min start 4096 = start := by omega
    simp only [Vector.getElem_toList, getElem_overlay, splice, List.getElem_append, List.getElem_take,
      List.getElem_drop, List.length_take, List.length_append, Vector.length_toList, hs,
      Array.getElem_toList, Array.length_toList]
    by_cases below : a < start
    · rw [dif_neg (by omega), dif_pos (by omega), dif_pos below]
    · by_cases inside : a - start < data.size
      · rw [dif_pos ⟨by omega, inside⟩, dif_pos (by omega), dif_neg below]
      · rw [dif_neg (by omega), dif_neg (by omega)]
        congr 1
        omega

/-! ## Accesses that are in range -/

theorem get_of_resolve {i : Int} {k : Fin 4096} (h : Index.resolve 4096 i = some k) :
    m.get i = .ok (m.byte k.val) := by
  simp only [get, h, m.byte_of_lt k.isLt, Fin.getElem_fin]

/-- Reading below the end of memory gives a byte, unless it goes below the beginning as well. -/
theorem get_of_ge {i : Int} (low : -4096 ≤ i) (h : i < 4096) :
    m.get i = .ok (m.byte (Index.fromStart 4096 i).toNat) := by
  have bounds : 0 ≤ Index.fromStart 4096 i ∧ Index.fromStart 4096 i < 4096 := by
    unfold Index.fromStart
    split <;> omega
  have place : Index.resolve 4096 i = some ⟨(Index.fromStart 4096 i).toNat, by omega⟩ := by
    rw [Index.resolve_eq_some_iff]
    exact (Int.toNat_of_nonneg bounds.1).symm
  exact m.get_of_resolve place

theorem get_of_lt {i : Int} (below : i < -4096) : m.get i = .error (.byteIndex i) := by
  simp only [get, Index.resolve_eq_none_iff.2 (.inl below)]

theorem get_eq {i : Int} (h0 : 0 ≤ i) (h : i < 4096) : m.get i = .ok (m.byte i.toNat) :=
  m.get_of_resolve (Index.resolve_of_nonneg h0 h)

theorem setByte_of_resolve {i : Int} {k : Fin 4096} (h : Index.resolve 4096 i = some k)
    (b : UInt8) : m.setByte i b = .ok (m.overlay k.val #[b]) := by
  simp only [setByte, h]
  congr 1
  refine ext_byte rfl fun a ha => ?_
  rw [byte_overlay, byte_of_lt _ ha, byte_of_lt _ ha, Vector.getElem_set]
  by_cases hk : k.val = a
  · rw [if_pos hk, dif_pos ⟨ha, Nat.le_of_eq hk, by simp [hk]⟩]
    simp
  · have apart : ¬ (k.val ≤ a ∧ a - k.val < 1) := by omega
    rw [if_neg hk, dif_neg fun h => apart h.2]

theorem setByte_eq {i : Int} (h0 : 0 ≤ i) (h : i < 4096) (b : UInt8) :
    m.setByte i b = .ok (m.overlay i.toNat #[b]) :=
  m.setByte_of_resolve (Index.resolve_of_nonneg h0 h) b

theorem slice_of_positions {s : Slice} {places : List (Fin 4096)}
    (h : s.positions 4096 = some places) :
    m.slice s = .ok (places.map fun k => m.byte k.val) := by
  simp only [slice, h, m.byte_of_lt (Fin.isLt _), Fin.getElem_fin]

theorem slice_eq {start count : Nat} {stop : Int} (hs : stop = start + count)
    (h : start + count ≤ 4096) :
    m.slice ⟨some start, some stop, none⟩ = .ok (m.span start count) := by
  have hs : stop = (start + count : Nat) := by omega
  rw [hs, m.slice_of_positions (Slice.positions_between (Nat.le_add_right ..) h)]
  congr 1
  apply List.ext_getElem
  · simp [span]
  · intro i _ _
    simp [span]

end Memory

end ChipEight
