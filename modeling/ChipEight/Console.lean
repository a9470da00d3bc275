import ChipEight.Clock
import ChipEight.Keyboard
import ChipEight.Machine.Cycle
import ChipEight.Machine.Dump
import ChipEight.Window

/-!
# The console

A machine with its window, its keyboard and its log. `Console.run` is the loop of the host: every
cycle first waits for the clock and polls the event queue once, then lets the machine make a cycle, and
shows the screen if the machine has drawn. It ends when its bound is reached, when the user asks it to
stop, or when the clock, the machine or the display fails; under `Policy.reset` a fault starts the machine
again instead. Events come as a list of batches, one for each poll, and files through a `Reader`, so that a
run is a function of its inputs.
-/

namespace ChipEight

/-- What a fault of the machine leads to. -/
inductive Policy
  /-- The run ends with a dump of the machine. -/
  | abort
  /-- The machine is reset and its program is read again. -/
  | reset
  deriving DecidableEq, Repr

/-- The policy with a name; every name but one stands for the same policy. -/
def Policy.ofName (name : String) : Policy := if name = "reset" then .reset else .abort

/-- A machine with its window and its log, and the random bytes that are left. `s` is the side of a
pixel in the window. -/
structure Console (d : Display) (s : Int) where
  machine : Machine
  window : Window d 64 32 s
  random : List UInt8
  log : Log
  /-- How often the event queue was polled. -/
  polls : Nat
  /-- How many cycles the machine was told to make. -/
  cycled : Nat

/-- What a run depends on apart from the console and the events. -/
structure Setup where
  policy : Policy
  read : Reader
  /-- The path of the program that is read again after a fault. -/
  program : String
  /-- Cycles a second. -/
  rate : Int

/-- How a run ends. -/
inductive Ending
  /-- Its bound was reached. -/
  | bounded (cycles : Nat)
  /-- The user has asked it to stop. -/
  | quit (cycles : Nat)
  /-- The machine has stopped at a fault. -/
  | crashed (text : String)
  /-- Something failed that no policy is for. -/
  | failed (e : Failure)

namespace Console

variable {d : Display} {s : Int}

/-- What the host prints about a machine that has stopped at a fault. -/
def crashText (m : Machine) : String :=
  "********** THE EMULATOR CRASHED WITH THE FOLLOWING STATE\n" ++ m.dump

/-- Adds notices to the log. -/
def report (c : Console d s) (ns : List Notice) : Console d s := { c with log := c.log.record ns }

/-- Polls the event queue, and tells whether the host goes on. -/
def poll (c : Console d s) (events : List Event) : Console d s × Bool :=
  let r := Keyboard.handle c.machine.keypad events
  (report
    { c with machine := { c.machine with keypad := r.keypad }, polls := c.polls + 1 } r.notices,
    r.goesOn)

/-- Shows the screen of the machine if it has drawn. -/
def refresh (c : Console d s) : Console d s × Option Ending :=
  if c.machine.draw then
    let (window, e) := c.window.draw c.machine.screen
    ({ c with window }, e.map fun e => .failed (.access e))
  else (c, none)

/-- Starts the machine again after a fault. The window is cleared once the program is read. -/
def restart (setup : Setup) (c : Console d s) (f : Fault) : Console d s × Option Ending :=
  let c := report { c with machine := c.machine.reset } [.resetting f]
  match c.machine.loadFile setup.read setup.program with
  | .error e => (c, some (.failed e))
  | .ok (machine, n) => (report { c with machine, window := c.window.clear } [n], none)

/-- Lets the machine make a cycle and logs what it reports, and tells what has failed. -/
def cycle (c : Console d s) : Console d s × Option Failure :=
  let e := c.machine.cycle c.random
  (report { c with machine := e.machine, random := e.random, cycled := c.cycled + 1 } e.notices,
    e.failure)

/-- Lets the machine make a cycle, and does what follows from it. -/
def advance (setup : Setup) (c : Console d s) : Console d s × Option Ending :=
  match c.cycle with
  | (c, none) => c.refresh
  | (c, some (.fault f)) =>
    match setup.policy with
    | .reset => c.restart setup f
    | .abort => (report c [.crashed f], some (.crashed (crashText c.machine)))
  | (c, some e) => (c, some (.failed e))

/-- The loop of the host, after `cycles` cycles and for at most `bound` more. A poll beyond the last
batch finds no events. -/
def loop (setup : Setup) : (bound cycles : Nat) → List (List Event) → Console d s → Console d s × Ending
  | 0, cycles, _, c => (c, .bounded cycles)
  | bound + 1, cycles, batches, c =>
    match Clock.tick setup.rate with
    | .error e => (c, .failed (.setup e))
    | .ok () =>
      match c.poll (batches.headD []) with
      | (c, false) => (c, .quit (cycles + 1))
      | (c, true) =>
        match c.advance setup with
        | (c, some ending) => (c, ending)
        | (c, none) => loop setup bound (cycles + 1) batches.tail c

/-- A run of at most `bound` cycles. -/
def run (setup : Setup) (bound : Nat) (batches : List (List Event)) (c : Console d s) :
    Console d s × Ending :=
  loop setup bound 0 batches c

/-- A run without a bound, after whose last batch the user asks it to stop. -/
def runToQuit (setup : Setup) (batches : List (List Event)) (c : Console d s) :
    Console d s × Ending :=
  run setup (batches.length + 1) (batches ++ [[.quit]]) c

/-- The console of a machine into which a program was just loaded, with its window open. -/
def start (machine : Machine) (window : Window d 64 32 s) (log : Log) (random : List UInt8) :
    Console d s :=
  ⟨machine, window, random, log, 0, 0⟩

end Console

end ChipEight
