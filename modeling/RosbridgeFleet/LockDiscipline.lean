import Mathlib.Data.List.Basic

set_option autoImplicit false

/-! Which locks a task holds when it touches a socket. Each server call is the sequence of its
lock and socket operations; a stalled socket operation is a task never scheduled again. -/

namespace RosbridgeFleet.LockDiscipline

inductive LockId
  | managerMu
  | clientMu (robot : Nat)
  deriving DecidableEq, Repr

inductive Instr
  | lock (l : LockId)
  | rlock (l : LockId)
  | unlock (l : LockId)
  | runlock (l : LockId)
  | dial (robot : Nat)
  | write (robot : Nat)
  deriving DecidableEq, Repr

/-- What a call finds in a robot's link: `connected` and the seven topic fields in the
order `UnsubscribeAll` lists them. -/
structure LinkView where
  robot : Nat
  connected : Bool
  topics : List String
  deriving DecidableEq, Repr

/-- `Client.send`: `WriteMessage` under `c.mu`, skipped when the link is down. -/
def send (l : LinkView) : List Instr :=
  .lock (.clientMu l.robot) :: (if l.connected then [.write l.robot] else []) ++
    [.unlock (.clientMu l.robot)]

def unsubscribeAll (l : LinkView) : List Instr :=
  (l.topics.filter (· ≠ "")).flatMap fun _ => send l

def disconnect (l : LinkView) : List Instr :=
  [.lock (.clientMu l.robot), .unlock (.clientMu l.robot)]

def stopConnection (l : LinkView) : List Instr := unsubscribeAll l ++ disconnect l

/-- `Manager.RemoveRobot`: everything under `m.mu`, including `StopConnection` of the
robot when it is registered. -/
def removeRobot (found : Option LinkView) : List Instr :=
  .lock .managerMu :: (match found with
    | some l => stopConnection l
    | none => []) ++ [.unlock .managerMu]

def clearAll (links : List LinkView) : List Instr :=
  .lock .managerMu :: links.flatMap stopConnection ++ [.unlock .managerMu]

/-- `Client.Connect`: the dial runs under `c.mu` unless the link is already up. -/
def connect (l : LinkView) : List Instr :=
  .lock (.clientMu l.robot) :: (if l.connected then [] else [.dial l.robot]) ++
    [.unlock (.clientMu l.robot)]

def isConnected (l : LinkView) : List Instr :=
  [.lock (.clientMu l.robot), .unlock (.clientMu l.robot)]

def getRobot : List Instr := [.rlock .managerMu, .runlock .managerMu]

/-- The calls a task of the server can be running. `send` stands for the other writers of
a link (the cmd_vel tick, `CallService`). -/
inductive ServerCall
  | removeRobot (found : Option LinkView)
  | clearAll (links : List LinkView)
  | connect (l : LinkView)
  | disconnect (l : LinkView)
  | isConnected (l : LinkView)
  | getRobot
  | send (l : LinkView)
  deriving DecidableEq, Repr

def ServerCall.program : ServerCall → List Instr
  | .removeRobot found => LockDiscipline.removeRobot found
  | .clearAll links => LockDiscipline.clearAll links
  | .connect l => LockDiscipline.connect l
  | .disconnect l => LockDiscipline.disconnect l
  | .isConnected l => LockDiscipline.isConnected l
  | .getRobot => LockDiscipline.getRobot
  | .send l => LockDiscipline.send l

structure Task where
  prog : List Instr
  holds : List (LockId × Bool)
  deriving DecidableEq, Repr

def Task.start (call : ServerCall) : Task := ⟨call.program, []⟩

def Task.holdsAny (t : Task) (l : LockId) : Bool := t.holds.any (·.1 == l)

def Task.holdsWrite (t : Task) (l : LockId) : Bool := t.holds.contains (l, true)

/-- Task `i` runs its next instruction; `none` when it has finished or waits for a lock.
`Lock` waits for every holder and `RLock` for a writer; neither is reentrant. -/
def step (ts : List Task) (i : Nat) : Option (List Task) :=
  match ts[i]? with
  | some ⟨ins :: rest, holds⟩ =>
    match ins with
    | .lock l => if ts.any (·.holdsAny l) then none else some (ts.set i ⟨rest, (l, true) :: holds⟩)
    | .rlock l =>
      if ts.any (·.holdsWrite l) then none else some (ts.set i ⟨rest, (l, false) :: holds⟩)
    | .unlock l => some (ts.set i ⟨rest, holds.erase (l, true)⟩)
    | .runlock l => some (ts.set i ⟨rest, holds.erase (l, false)⟩)
    | .dial _ | .write _ => some (ts.set i ⟨rest, holds⟩)
  | _ => none

def runSched : List Task → List Nat → Option (List Task)
  | ts, [] => some ts
  | ts, i :: is => (step ts i).bind (runSched · is)

/-- The task is inside a dial or a `WriteMessage`, where a stalled peer blocks it. -/
def Task.inSocketIO (t : Task) : Bool :=
  match t.prog with
  | .dial _ :: _ | .write _ :: _ => true
  | _ => false

/-- `RemoveRobot` of a connected robot with a topic set reaches the unsubscribe
`WriteMessage` holding both `Manager.mu` and the link's `Client.mu`; likewise `Connect`
dials under `Client.mu`. A stalled peer therefore blocks every registry lookup, and every
other user of the link, for as long as the write or dial lasts. -/
theorem lock_held_over_socket_io :
    ¬ ∀ (calls : List ServerCall) (sched : List Nat) (ts : List Task),
        runSched (calls.map Task.start) sched = some ts →
        ∀ t ∈ ts, t.inSocketIO = true → t.holds = [] := by
  intro h
  have := h [.removeRobot (some ⟨0, true, ["/r1/map"]⟩)] [0, 0] _ rfl
  exact absurd (this _ (List.mem_singleton_self _) rfl) (by decide)

end RosbridgeFleet.LockDiscipline
