import ChipEight.Proofs.Accounting

/-!
# The threshold of the log

A log keeps the notices that are at least as severe as its threshold, and nothing else depends on it: with
any threshold, a host that calls a machine sees the same states and answers, and the log is what the
threshold leaves of the log that keeps everything (`Session.calls_raise`, `Console.raise`). Machines whose
delay timer and index are in range stay there whatever is called (`Session.inRange_calls`).
-/

namespace ChipEight

/-! ## Logs -/

/-- What a threshold leaves of a log. -/
def Log.raise (threshold : Severity) (l : Log) : Log where
  threshold := if l.threshold.rank ≤ threshold.rank then threshold else l.threshold
  notices := l.notices.filter (keeps threshold)

theorem Log.keeps_raise (threshold : Severity) (l : Log) (n : Notice) :
    keeps (l.raise threshold).threshold n = (keeps threshold n && keeps l.threshold n) := by
  unfold keeps raise
  rw [Bool.eq_iff_iff, Bool.and_eq_true, decide_eq_true_eq, decide_eq_true_eq, decide_eq_true_eq]
  dsimp only
  split <;> omega

/-- Raising the threshold before or after more is logged makes no difference. -/
theorem Log.record_raise (threshold : Severity) (l : Log) (ns : List Notice) :
    (l.raise threshold).record ns = (l.record ns).raise threshold := by
  have kept : ns.filter (fun n => keeps (l.raise threshold).threshold n && n.isWritable) =
      (ns.filter fun n => keeps l.threshold n && n.isWritable).filter (keeps threshold) := by
    rw [List.filter_filter]
    exact List.filter_congr fun n _ => by rw [keeps_raise, Bool.and_assoc]
  have notices : ((l.raise threshold).record ns).notices =
      (l.record ns).notices.filter (keeps threshold) := by
    rw [record, kept]
    apply Array.toList_inj.1
    simp only [raise, record, Array.toList_appendList, Array.toList_filter, List.filter_append]
  exact congrArg (Log.mk _) notices

theorem Log.raise_empty (threshold : Severity) : (empty .debug).raise threshold = empty threshold := by
  cases threshold <;> rfl

/-! ## Calls -/

/-- What a host calls on a machine and its log. -/
inductive Call
  | cycle
  | execute (op : Opcode)
  | loadFile (read : Reader) (path : String)
  | handle (events : List Event)

/-- What a call answers. -/
inductive Answer
  | done
  /-- So many bytes were loaded. -/
  | loaded (size : Nat)
  /-- Whether the host goes on. -/
  | goesOn (goes : Bool)
  | failed (e : Failure)
  deriving DecidableEq

/-- A machine with the random bytes that are left and the log that its notices go to. -/
structure Session where
  machine : Machine
  random : List UInt8
  log : Log

namespace Session

/-- What is left of an effect whose notices go to the log. -/
def settle (s : Session) (e : Effect) : Session × Answer :=
  (⟨e.machine, e.random, s.log.record e.notices⟩, (e.failure.map .failed).getD .done)

/-- The session after a call, and the answer. -/
def call (s : Session) : Call → Session × Answer
  | .cycle => s.settle (s.machine.cycle s.random)
  | .execute op => s.settle (s.machine.execute op s.random)
  | .loadFile read path =>
    match s.machine.memory.loadFile read path with
    | .error e => (s, .failed e)
    | .ok (memory, size) =>
      ({ s with machine := { s.machine with memory }, log := s.log.record [.loaded path size] },
        .loaded size)
  | .handle events =>
    let r := Keyboard.handle s.machine.keypad events
    ({ s with machine := { s.machine with keypad := r.keypad }, log := s.log.record r.notices },
      .goesOn r.goesOn)

/-- The sessions after each of several calls, with the answers. A call that fails does not keep the ones
behind it from being made. -/
def calls : List Call → Session → List (Session × Answer)
  | [], _ => []
  | c :: rest, s => s.call c :: calls rest (s.call c).1

/-- The session with what a threshold leaves of its log. -/
def raise (threshold : Severity) (s : Session) : Session := { s with log := s.log.raise threshold }

variable {s : Session}

theorem settle_raise (e : Effect) (threshold : Severity) :
    (s.raise threshold).settle e = ((s.settle e).1.raise threshold, (s.settle e).2) := by
  simp only [settle, raise, Log.record_raise]

/-- A call with a higher threshold does the same, and leaves out notices from the log. -/
theorem call_raise (threshold : Severity) (c : Call) :
    (s.raise threshold).call c = ((s.call c).1.raise threshold, (s.call c).2) := by
  cases c with
  | cycle | execute => exact settle_raise _ threshold
  | loadFile read path =>
    have same : (s.raise threshold).machine = s.machine := rfl
    unfold call
    dsimp only
    rw [same]
    split
    · rfl
    · simp only [raise, Log.record_raise]
  | handle events => simp only [call, raise, Log.record_raise]

/-- Whatever is called, the threshold of the log makes no difference to the states and the answers, and only
leaves out notices from the log. -/
theorem calls_raise (threshold : Severity) (cs : List Call) :
    (s.raise threshold).calls cs = (s.calls cs).map fun (s, answer) => (s.raise threshold, answer) := by
  induction cs generalizing s with
  | nil => rfl
  | cons c rest ih =>
    rw [calls, calls, call_raise, List.map_cons]
    exact congrArg _ ih

/-- No call takes the timer or the index of a machine out of range. -/
theorem inRange_call (h : s.machine.InRange) (c : Call) : (s.call c).1.machine.InRange := by
  cases c with
  | cycle => exact h.act (.move (.cycle s.random))
  | execute op => exact (s.machine.steady_execute op s.random).2 h
  | loadFile read path =>
    unfold call
    dsimp only
    split <;> exact h
  | handle events => exact h

/-- Nor do several calls. -/
theorem inRange_calls (h : s.machine.InRange) (cs : List Call) :
    ∀ next ∈ s.calls cs, next.1.machine.InRange := by
  induction cs generalizing s with
  | nil => exact List.forall_mem_nil _
  | cons c rest ih => exact List.forall_mem_cons.2 ⟨inRange_call h c, ih (inRange_call h c)⟩

end Session

/-! ## Runs -/

namespace Console

/-- Raising the threshold of a log is a change that no run takes notice of. -/
def raise (threshold : Severity) : Relogging where
  log := Log.raise threshold
  polls := id
  cycled := id
  record := Log.record_raise threshold
  polls_succ _ := rfl
  cycled_succ _ := rfl

/-- No run takes the timer or the index of its machine out of range. -/
theorem inRange_run {d : Display} {s : Int} (setup : Setup) (bound : Nat) (batches : List (List Event))
    {c : Console d s} (h : c.machine.InRange) :
    (∀ c' ∈ c.polled setup bound batches, c'.machine.InRange) ∧
      (c.run setup bound batches).1.machine.InRange := by
  refine run_invariant setup (P := (·.machine.InRange)) (Q := fun c _ => c.machine.InRange)
    (fun _ _ h => h) (fun _ _ h => h) (fun c events h => ?_) bound batches h
  have turned := preserved_turn setup (P := Machine.InRange) (fun _ a h => h.act a) h events
  generalize c.turn setup events = after at *
  rcases after with ⟨next, _ | ending⟩ <;> exact turned

end Console

/-! ## All levels -/

/-- The threshold of the log makes no difference: any sequence of calls leads to the same states and answers
as it does if everything is logged, and any run to the same machines, windows, polls and cycles, and to the
same end. The log is then exactly what the threshold leaves of the log of everything, in the same
order. Machines whose delay timer is a byte and whose index is not negative stay so, whatever is called and
however long they run. -/
theorem levels_agree (threshold : Severity) :
    (∀ (m : Machine) (random : List UInt8) (cs : List Call),
      let everything := Session.mk m random (Log.empty .debug)
      let level := Session.mk m random (Log.empty threshold)
      (level.calls cs = (everything.calls cs).map fun (s, answer) =>
        ({ s with log := s.log.raise threshold }, answer)) ∧
      (m.InRange → ∀ next ∈ level.calls cs, next.1.machine.InRange)) ∧
    ∀ (d : Display) (s : Int) (setup : Setup) (bound : Nat) (batches : List (List Event))
      (c : Console d s),
      let everything := { c with log := Log.empty .debug }
      let level := { c with log := Log.empty threshold }
      level.run setup bound batches =
          ({ (everything.run setup bound batches).1 with
              log := (everything.run setup bound batches).1.log.raise threshold },
            (everything.run setup bound batches).2) ∧
        level.polled setup bound batches =
          (everything.polled setup bound batches).map (fun c => { c with log := c.log.raise threshold }) ∧
        (c.machine.InRange →
          (∀ c' ∈ level.polled setup bound batches, c'.machine.InRange) ∧
            (level.run setup bound batches).1.machine.InRange) := by
  refine ⟨fun m random cs => ⟨?_, ?_⟩, fun d s setup bound batches c => ?_⟩
  · rw [← Log.raise_empty threshold]
    exact Session.calls_raise (s := ⟨m, random, Log.empty .debug⟩) threshold cs
  · exact fun range => Session.inRange_calls (s := ⟨m, random, Log.empty threshold⟩) range cs
  · have level : ({ c with log := Log.empty threshold } : Console d s) =
        ({ c with log := Log.empty .debug } : Console d s).relogged (Console.raise threshold) := by
      rw [← Log.raise_empty threshold]
      rfl
    obtain ⟨run, polled⟩ := ({ c with log := Log.empty .debug } : Console d s).run_relogged setup
      (Console.raise threshold) bound batches
    rw [← level] at run polled
    exact ⟨run, polled, fun range =>
      Console.inRange_run setup bound batches (c := { c with log := Log.empty threshold }) range⟩

/-- A machine that faults at once, and is started again after it, with a log of everything and with a log of
errors only. -/
theorem levels_agree_returning :
    Machine.returning.InRange ∧
      (Session.mk Machine.returning [] (Log.empty .error)).calls [.cycle] =
        ((Session.mk Machine.returning [] (Log.empty .debug)).calls [.cycle]).map
          (fun (s, answer) => ({ s with log := s.log.raise .error }, answer)) ∧
      (({ Console.returning with log := Log.empty .error } : Console .plain 15).run Console.restarting 3
          []).2 =
        (({ Console.returning with log := Log.empty .debug } : Console .plain 15).run Console.restarting 3
          []).2 ∧
      (({ Console.returning with log := Log.empty .error } : Console .plain 15).run Console.restarting 3
        []).1.machine.InRange := by
  have range := Machine.reachable_returning.bounded.inRange
  obtain ⟨calls, runs⟩ := levels_agree .error
  have run (c : Console .plain 15) (range : c.machine.InRange) :
      (({ c with log := Log.empty .error } : Console .plain 15).run Console.restarting 3 []).2 =
          (({ c with log := Log.empty .debug } : Console .plain 15).run Console.restarting 3 []).2 ∧
        (({ c with log := Log.empty .error } : Console .plain 15).run Console.restarting 3
          []).1.machine.InRange := by
    obtain ⟨same, -, kept⟩ := runs .plain 15 Console.restarting 3 [] c
    exact ⟨by rw [same], (kept range).2⟩
  obtain ⟨ending, kept⟩ := run Console.returning range
  exact ⟨range, (calls _ [] _).1, ending, kept⟩

end ChipEight
