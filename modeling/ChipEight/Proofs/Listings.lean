import ChipEight.Text.Listing
import Mathlib.Data.List.TakeWhile

/-!
# Texts that are joined

A text that is followed by nothing or by a character that it does not hold can be cut off again
(`append_inj_of_free`). So texts that are joined by a separator can be told apart if none of them is empty and
none holds the character that the separator starts with (`intercalate_inj`), and a listing determines its
items (`listing_inj`).
-/

namespace ChipEight

section
variable {c : Char} {l l' r r' sep : List Char} {texts texts' : List (List Char)}

/-- A text ends where a character follows that it does not hold. -/
theorem append_inj_of_free (free : c ∉ l) (free' : c ∉ l') (behind : ∀ d ∈ r.head?, d = c)
    (behind' : ∀ d ∈ r'.head?, d = c) (same : l ++ r = l' ++ r') : l = l' ∧ r = r' := by
  have cut {l r : List Char} (free : c ∉ l) (behind : ∀ d ∈ r.head?, d = c) :
      (l ++ r).takeWhile (· != c) = l := by
    have before : ∀ d ∈ l, (d != c) = true := by
      intro d among
      rw [bne_iff_ne]
      rintro rfl
      exact free among
    have stop : r.takeWhile (· != c) = [] := by
      cases r with
      | nil => rfl
      | cons d r => rw [List.takeWhile_cons_of_neg (by simp [behind d rfl])]
    rw [List.takeWhile_append_of_pos before, stop, List.append_nil]
  have first : l = l' := by rw [← cut free behind, same, cut free' behind']
  subst first
  exact ⟨rfl, List.append_cancel_left same⟩

/-- Joining is writing the separator in front of every text but the first. -/
theorem intercalate_cons (sep t : List Char) (rest : List (List Char)) :
    sep.intercalate (t :: rest) = t ++ rest.flatMap (sep ++ ·) := by
  induction rest generalizing t with
  | nil => simp
  | cons u rest ih =>
    rw [List.intercalate_cons_cons, ih, List.flatMap_cons, List.append_assoc, List.append_assoc]

/-- A joined text holds what the texts and the separator hold. -/
theorem not_mem_intercalate (other : c ∉ sep) (free : ∀ t ∈ texts, c ∉ t) :
    c ∉ sep.intercalate texts := by
  cases texts with
  | nil => exact List.not_mem_nil
  | cons t rest =>
    rw [intercalate_cons, List.mem_append, List.mem_flatMap]
    rintro (first | ⟨u, among, within⟩)
    · exact free t (.head _) first
    · exact (List.mem_append.1 within).elim other (free u (.tail _ among))

theorem head?_flatMap_separated : ∀ d ∈ (texts.flatMap (c :: sep ++ ·)).head?, d = c := by
  cases texts with
  | nil => nofun
  | cons t rest =>
    rintro d ⟨⟩
    rfl

/-- Texts behind separators are determined by the whole. -/
theorem flatMap_separated_inj (free : ∀ t ∈ texts, c ∉ t) (free' : ∀ t ∈ texts', c ∉ t)
    (same : texts.flatMap (c :: sep ++ ·) = texts'.flatMap (c :: sep ++ ·)) : texts = texts' := by
  induction texts generalizing texts' with
  | nil =>
    cases texts' with
    | nil => rfl
    | cons t' rest' => cases same
  | cons t rest ih =>
    cases texts' with
    | nil => cases same
    | cons t' rest' =>
      rw [List.flatMap_cons, List.flatMap_cons, List.append_assoc, List.append_assoc] at same
      obtain ⟨first, following⟩ := append_inj_of_free (free t (.head _)) (free' t' (.head _))
        head?_flatMap_separated head?_flatMap_separated (List.append_cancel_left same)
      rw [first, ih (fun u among => free u (.tail _ among)) (fun u among => free' u (.tail _ among))
        following]

/-- Texts that are joined by a separator are determined by the whole. -/
theorem intercalate_inj (free : ∀ t ∈ texts, t ≠ [] ∧ c ∉ t) (free' : ∀ t ∈ texts', t ≠ [] ∧ c ∉ t)
    (same : (c :: sep).intercalate texts = (c :: sep).intercalate texts') : texts = texts' := by
  have filled {t : List Char} {rest : List (List Char)} (nonempty : t ≠ []) :
      (c :: sep).intercalate (t :: rest) ≠ [] := by
    rw [intercalate_cons]
    exact List.append_ne_nil_of_left_ne_nil nonempty _
  cases texts with
  | nil =>
    cases texts' with
    | nil => rfl
    | cons t' rest' => exact absurd same.symm (filled (free' t' (.head _)).1)
  | cons t rest =>
    cases texts' with
    | nil => exact absurd same (filled (free t (.head _)).1)
    | cons t' rest' =>
      rw [intercalate_cons, intercalate_cons] at same
      obtain ⟨first, following⟩ := append_inj_of_free (free t (.head _)).2 (free' t' (.head _)).2
        head?_flatMap_separated head?_flatMap_separated same
      rw [first, flatMap_separated_inj (fun u among => (free u (.tail _ among)).2)
        (fun u among => (free' u (.tail _ among)).2) following]

end

/-! ## Texts between separators -/

/-- Whether a text can stand between separators that start with a character: it is not empty, and does not
hold the character. -/
def IsPart (c : Char) (t : String) : Prop := t.toList ≠ [] ∧ c ∉ t.toList

section
variable {c : Char} {sep : String}

theorem IsPart.append {t u : String} (part : IsPart c t) (free : c ∉ u.toList) : IsPart c (t ++ u) := by
  rw [IsPart, String.toList_append, List.mem_append]
  exact ⟨List.append_ne_nil_of_left_ne_nil part.1 _, fun among => among.elim part.2 free⟩

/-- A field ends where a text follows that starts with a character that the field does not hold. -/
theorem field_inj {field field' rest rest' : String} (begins : sep.toList.head? = some c)
    (free : c ∉ field.toList) (free' : c ∉ field'.toList)
    (same : field ++ (sep ++ rest) = field' ++ (sep ++ rest')) : field = field' ∧ rest = rest' := by
  have behind (r : String) : ∀ d ∈ (sep.toList ++ r.toList).head?, d = c := by
    intro d first
    rw [List.head?_append, begins, Option.some_or, Option.mem_some_iff] at first
    exact first.symm
  have texts := congrArg String.toList same
  simp only [String.toList_append] at texts
  obtain ⟨fields, following⟩ := append_inj_of_free free free' (behind rest) (behind rest') texts
  exact ⟨String.toList_inj.1 fields, String.toList_inj.1 (List.append_cancel_left following)⟩

/-- Parts that are joined are determined by the whole. -/
theorem parts_inj {parts parts' : List String} (begins : sep.toList.head? = some c)
    (all : ∀ t ∈ parts, IsPart c t) (all' : ∀ t ∈ parts', IsPart c t)
    (same : sep.intercalate parts = sep.intercalate parts') : parts = parts' := by
  have lists {l : List String} (all : ∀ t ∈ l, IsPart c t) :
      ∀ t ∈ l.map String.toList, t ≠ [] ∧ c ∉ t := by
    intro t among
    obtain ⟨part, within, rfl⟩ := List.mem_map.1 among
    exact all part within
  obtain ⟨following, split⟩ := List.head?_eq_some_iff.1 begins
  have texts := congrArg String.toList same
  rw [String.toList_intercalate, String.toList_intercalate, split] at texts
  exact (List.map_inj_right fun _ _ => String.toList_inj.1).1
    (intercalate_inj (lists all) (lists all') texts)

end

/-! ## Listings -/

/-- A listing determines its items. -/
theorem listing_inj {items items' : List String} (all : ∀ t ∈ items, IsPart ',' t)
    (all' : ∀ t ∈ items', IsPart ',' t) (same : listing items = listing items') : items = items' := by
  rw [listing, listing, String.append_left_inj, String.append_right_inj] at same
  exact parts_inj rfl all all' same

/-- A listing determines what its items are written for, if each item determines that. -/
theorem listing_map_inj {α : Type} {write : α → String} (items : ∀ a, IsPart ',' (write a))
    (determines : Function.Injective write) {values values' : List α}
    (same : listing (values.map write) = listing (values'.map write)) : values = values' := by
  have all (l : List α) : ∀ t ∈ l.map write, IsPart ',' t := by
    intro t among
    obtain ⟨a, -, rfl⟩ := List.mem_map.1 among
    exact items a
  exact (List.map_inj_right fun _ _ written => determines written).1
    (listing_inj (all values) (all values') same)

/-- A listing holds its items, and characters that separate them. -/
theorem not_mem_listing {c : Char} {items : List String} (other : c ∉ ['[', ',', ' ', ']'])
    (free : ∀ t ∈ items, c ∉ t.toList) : c ∉ (listing items).toList := by
  simp only [List.mem_cons, List.not_mem_nil, or_false, not_or] at other
  obtain ⟨opening, comma, blank, closing⟩ := other
  have within : c ∉ (", ".intercalate items).toList := by
    rw [String.toList_intercalate]
    apply not_mem_intercalate
    · simp [comma, blank]
    · intro t among
      obtain ⟨item, inside, rfl⟩ := List.mem_map.1 among
      exact free item inside
  rw [listing, String.toList_append, String.toList_append, List.mem_append, List.mem_append]
  rintro ((before | inside) | behind)
  · exact opening (List.mem_singleton.1 before)
  · exact within inside
  · exact closing (List.mem_singleton.1 behind)

end ChipEight
