import ChipEight.Keyboard
import Mathlib.Data.List.Nodup

/-!
# Batches of events

What a batch of events does is a sum of what its events do one by one (`Keyboard.handle_eq`): every
event that stands for a key of the keypad presses or releases it (`Keypad.follow`), and the host goes on
unless one event asks it to stop. That event is never about a key of the keypad, and it does not keep
the events behind it from the keypad. So the last event about a key decides about it, batches can be cut
anywhere, and events about different keys can be swapped (`Keyboard.handles`).
-/

namespace ChipEight

/-- The keypad after an event. -/
def Keypad.follow (k : Keypad) (e : Event) : Keypad :=
  match Keyboard.change? e with
  | some (key, down) => k.press key down
  | none => k

namespace Keyboard

/-- What is reported of an event, if it is about a key of the keypad. -/
def notice? (e : Event) : Option Notice :=
  (change? e).map fun (key, down) => .keyChanged key down

/-- What asks the host to stop is not about a key of the keypad. -/
theorem change?_of_quits {e : Event} (stops : quits e = true) : change? e = none := by
  cases e with
  | keyDown name =>
    obtain rfl : name = escape := eq_of_beq stops
    decide
  | quit => rfl
  | keyUp | other => cases stops

/-- What an event adds to a batch. -/
theorem next_eq (r : Handled) (e : Event) :
    r.next e = ⟨r.keypad.follow e, r.notices ++ (notice? e).toList, r.goesOn && !quits e⟩ := by
  unfold Handled.next Keypad.follow notice?
  split
  · next stops => simp [change?_of_quits stops, stops]
  · next goes =>
    cases change? e with
    | none => simp [goes]
    | some change => simp [goes]

theorem handle_eq (k : Keypad) (events : List Event) :
    handle k events =
      ⟨events.foldl Keypad.follow k, events.filterMap notice?, !events.any quits⟩ := by
  have folded (r : Handled) :
      events.foldl Handled.next r =
        ⟨events.foldl Keypad.follow r.keypad, r.notices ++ events.filterMap notice?,
          r.goesOn && !events.any quits⟩ := by
    induction events generalizing r with
    | nil => simp
    | cons e events ih =>
      rw [List.foldl_cons, ih, next_eq]
      cases noticed : notice? e <;> simp [noticed, Bool.and_assoc]
  exact folded ⟨k, [], true⟩

/-! ## Keys one by one -/

theorem key?_eq_some_iff {name : String} {key : Fin 16} :
    key? name = some key ↔ names[key.val]? = some name := by
  have distinct : names.Nodup := by decide
  have inside : key.val < names.length := key.isLt
  rw [List.getElem?_eq_getElem inside, Option.some.injEq]
  constructor
  · intro found
    exact (List.finIdxOf?_eq_some_iff.1 found).1
  · intro listed
    refine List.finIdxOf?_eq_some_iff.2 ⟨listed, fun j before again => ?_⟩
    have same : j.val = key.val := distinct.getElem_inj_iff.1 (again.trans listed.symm)
    exact absurd same (Nat.ne_of_lt before)

/-- Whether a key is pressed after an event, if the event is about it. -/
def sets? (key : Fin 16) (e : Event) : Option Bool :=
  (change? e).bind fun (changed, down) => if changed = key then some down else none

theorem sets?_eq_some_iff {key : Fin 16} {e : Event} {down : Bool} :
    sets? key e = some down ↔
      ∃ name, names[key.val]? = some name ∧
        (e = .keyDown name ∧ down = true ∨ e = .keyUp name ∧ down = false) := by
  have named {name : String} {pressed : Bool} :
      ((key? name).map (·, pressed)).bind (fun (changed, down) =>
        if changed = key then some down else none) = some down ↔
          key? name = some key ∧ pressed = down := by
    cases key? name <;> simp
  simp only [← key?_eq_some_iff]
  cases e with
  | quit | other => simp [sets?, change?]
  | keyDown name =>
    constructor
    · intro sets
      obtain ⟨found, rfl⟩ := named.1 sets
      exact ⟨name, found, .inl ⟨rfl, rfl⟩⟩
    · rintro ⟨_, found, ⟨⟨⟩, rfl⟩ | ⟨⟨⟩, -⟩⟩
      exact named.2 ⟨found, rfl⟩
  | keyUp name =>
    constructor
    · intro sets
      obtain ⟨found, rfl⟩ := named.1 sets
      exact ⟨name, found, .inr ⟨rfl, rfl⟩⟩
    · rintro ⟨_, found, ⟨⟨⟩, -⟩ | ⟨⟨⟩, rfl⟩⟩
      exact named.2 ⟨found, rfl⟩

theorem isDown_follow (k : Keypad) (e : Event) (key : Fin 16) :
    (k.follow e).isDown key = (sets? key e).getD (k.isDown key) := by
  unfold Keypad.follow sets?
  cases change? e with
  | none => rfl
  | some change =>
    obtain ⟨changed, down⟩ := change
    show (k.press changed down).isDown key = _
    rw [Keypad.isDown_press]
    by_cases about : changed = key
    · simp [about]
    · simp [about]

/-- A key is as the last event about it says, and as it was if there is none. -/
theorem isDown_foldl_follow (events : List Event) (k : Keypad) (key : Fin 16) :
    (events.foldl Keypad.follow k).isDown key =
      (events.reverse.findSome? (sets? key)).getD (k.isDown key) := by
  induction events generalizing k with
  | nil => rfl
  | cons e rest ih =>
    rw [List.foldl_cons, ih, isDown_follow, List.reverse_cons, List.findSome?_append,
      List.findSome?_singleton]
    cases rest.reverse.findSome? (sets? key) with
    | some later => rfl
    | none => rfl

/-! ## Batches -/

/-- What two batches do one after the other is what they do as one. -/
theorem handle_append (k : Keypad) (a b : List Event) :
    handle k (a ++ b) =
      let first := handle k a
      let second := handle first.keypad b
      ⟨second.keypad, first.notices ++ second.notices, first.goesOn && second.goesOn⟩ := by
  simp only [handle_eq, List.foldl_append, List.filterMap_append, List.any_append, Bool.not_or]

/-- The host stops if the window was closed or the key for it was pressed, wherever in the batch. -/
theorem goesOn_eq_false_iff {k : Keypad} {events : List Event} :
    (handle k events).goesOn = false ↔ .quit ∈ events ∨ .keyDown escape ∈ events := by
  have stops (e : Event) : quits e = true ↔ e = .quit ∨ e = .keyDown escape := by
    cases e <;> simp [quits]
  simp only [handle_eq, Bool.not_eq_false', List.any_eq_true, stops]
  constructor
  · rintro ⟨e, present, rfl | rfl⟩
    · exact .inl present
    · exact .inr present
  · rintro (present | present)
    · exact ⟨_, present, .inl rfl⟩
    · exact ⟨_, present, .inr rfl⟩

/-- The name of the key that an event is about. -/
def name? : Event → Option String
  | .keyDown name | .keyUp name => some name
  | _ => none

/-- Two events are about one key of the keypad only if they are about the key of the keyboard that
stands for it. -/
theorem name?_eq_of_sets {key : Fin 16} {e e' : Event} {down down' : Bool}
    (first : sets? key e = some down) (second : sets? key e' = some down') :
    ∃ name, name? e = some name ∧ name? e' = some name := by
  obtain ⟨name, listed, about⟩ := sets?_eq_some_iff.1 first
  obtain ⟨name', listed', about'⟩ := sets?_eq_some_iff.1 second
  obtain rfl : name = name' := Option.some.inj (listed.symm.trans listed')
  refine ⟨name, ?_, ?_⟩
  · rcases about with ⟨rfl, -⟩ | ⟨rfl, -⟩ <;> rfl
  · rcases about' with ⟨rfl, -⟩ | ⟨rfl, -⟩ <;> rfl

/-- Events about different keys of the keyboard can be swapped. -/
theorem follow_comm (k : Keypad) {e e' : Event}
    (apart : ∀ name, name? e = some name → name? e' ≠ some name) :
    (k.follow e).follow e' = (k.follow e').follow e := by
  refine Keypad.ext_isDown fun key => ?_
  simp only [isDown_follow]
  cases first : sets? key e with
  | none => rfl
  | some down =>
    cases second : sets? key e' with
    | none => rfl
    | some down' =>
      obtain ⟨name, about, about'⟩ := name?_eq_of_sets first second
      exact absurd about' (apart name about)

/-- Applies one event by the number of its key, which the keypad looks at. -/
def Handled.attempt (r : Handled) (e : Event) : Except Fault Handled :=
  if quits e then .ok { r with goesOn := false }
  else
    match change? e with
    | none => .ok r
    | some (key, down) =>
      (r.keypad.set key.val down).map fun keypad =>
        { r with keypad, notices := r.notices ++ [.keyChanged key down] }

/-- Every number that stands for a key is one that the keypad has. -/
theorem attempt_eq (r : Handled) (e : Event) : r.attempt e = .ok (r.next e) := by
  unfold Handled.attempt Handled.next
  split
  · rfl
  · cases change? e with
    | none => rfl
    | some change =>
      obtain ⟨key, down⟩ := change
      simp only [r.keypad.set_of_lt key.isLt]
      rfl

theorem foldlM_attempt (events : List Event) (r : Handled) :
    events.foldlM Handled.attempt r = .ok (events.foldl Handled.next r) := by
  induction events generalizing r with
  | nil => rfl
  | cons e rest ih =>
    rw [List.foldlM_cons, attempt_eq]
    exact ih (r.next e)

/-! ## All batches -/

/-- What any batch of events makes of any keypad.

No event comes to a fault of the keypad. Each key is as the last event says that presses or releases the
key of the keyboard which stands for it, and as it was if there is none, whether the host is asked to stop
before or not. The host goes on unless the window was closed or the key for it was pressed. Batches can
be cut anywhere, and neighbouring events about different keys can be swapped. A log that keeps everything
has one line for each event about a key of the keypad, in order. -/
theorem handles (k : Keypad) :
    (∀ events : List Event, events.foldlM Handled.attempt ⟨k, [], true⟩ = .ok (handle k events)) ∧
      (∀ (events : List Event) (key : Fin 16),
        (handle k events).keypad.isDown key =
          (events.reverse.findSome? (sets? key)).getD (k.isDown key)) ∧
      (∀ (key : Fin 16) (e : Event) (down : Bool),
        sets? key e = some down ↔
          ∃ name, names[key.val]? = some name ∧
            (e = .keyDown name ∧ down = true ∨ e = .keyUp name ∧ down = false)) ∧
      (∀ events : List Event,
        (handle k events).goesOn = false ↔ .quit ∈ events ∨ .keyDown escape ∈ events) ∧
      (∀ a b : List Event,
        handle k (a ++ b) =
          let first := handle k a
          let second := handle first.keypad b
          ⟨second.keypad, first.notices ++ second.notices, first.goesOn && second.goesOn⟩) ∧
      (∀ (before after : List Event) (e e' : Event),
        (∀ name, name? e = some name → name? e' ≠ some name) →
        (handle k (before ++ e :: e' :: after)).keypad =
            (handle k (before ++ e' :: e :: after)).keypad ∧
          (handle k (before ++ e :: e' :: after)).goesOn =
            (handle k (before ++ e' :: e :: after)).goesOn) ∧
      ∀ events : List Event,
        ((Log.empty .debug).record (handle k events).notices).notices.toList =
          events.filterMap fun e => (change? e).map fun (key, down) => .keyChanged key down := by
  refine ⟨fun events => foldlM_attempt events _, ?_, fun _ _ _ => sets?_eq_some_iff,
    fun _ => goesOn_eq_false_iff, handle_append k, ?_, ?_⟩
  · intro events key
    rw [handle_eq]
    exact isDown_foldl_follow events k key
  · intro before after e e' apart
    simp only [handle_eq, List.foldl_append, List.foldl_cons, follow_comm _ apart, List.any_append,
      List.any_cons, Bool.or_left_comm (quits e), and_self]
  · intro events
    have kept : (events.filterMap notice?).filter (fun n => Log.keeps .debug n && n.isWritable) =
        events.filterMap notice? := by
      refine List.filter_eq_self.2 fun n reported => ?_
      obtain ⟨e, -, noticed⟩ := List.mem_filterMap.1 reported
      obtain ⟨change, -, rfl⟩ := Option.map_eq_some_iff.1 noticed
      rfl
    rw [Log.record, Log.empty, handle_eq, kept]
    exact Array.toList_appendList ..

/-- A key that is pressed and released around a wish to stop, and one that is pressed after it. -/
theorem handles_released :
    let events := [.keyDown "1", .quit, .keyUp "1", .keyDown "a"]
    (handle Keypad.released events).keypad.isDown 1 = false ∧
      (handle Keypad.released events).keypad.isDown 10 = true ∧
      (handle Keypad.released events).goesOn = false ∧
      (handle Keypad.released events).keypad =
        (handle Keypad.released [.keyDown "1", .quit, .keyDown "a", .keyUp "1"]).keypad := by
  intro events
  obtain ⟨-, last, -, stops, -, swap, -⟩ := handles Keypad.released
  have apart : ∀ name, name? (.keyUp "1") = some name → name? (.keyDown "a") ≠ some name := by
    rintro name ⟨⟩
    decide
  refine ⟨?_, ?_, ?_, ?_⟩
  · rw [last]
    decide
  · rw [last]
    decide
  · rw [stops]
    exact .inl (by decide)
  · exact (swap [.keyDown "1", .quit] [] _ _ apart).1

end Keyboard
end ChipEight
