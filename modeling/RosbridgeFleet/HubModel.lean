import Mathlib.Data.List.Nodup
import Mathlib.Logic.Function.Basic

set_option autoImplicit false

/-! The broadcast hub of `Manager`. `Broadcast` is a run of small steps (take the read lock,
visit one subscriber, release), so producers interleave freely; a `Bcast` keeps as ghost
records what the call saw when it took the lock. -/

namespace RosbridgeFleet.HubModel

open Function

def queueCap : Nat := 100

/-- One `Broadcast` call. `targets` is `m.subscribers` when it took the read lock and
`pending` the subscribers its `range` has not reached yet; `dropped` records each subscriber
whose `select` took the `default` branch, with the length its buffer had then;
`returnedBefore` lists the calls that had released the read lock when this one took it. -/
structure Bcast where
  targets : List Nat
  pending : List Nat
  dropped : List (Nat × Nat)
  returnedBefore : List Nat
  returned : Bool
  deriving DecidableEq, Repr

def Bcast.unused : Bcast := ⟨[], [], [], [], false⟩

inductive Panic
  | sendOnClosed
  | closeOfClosed
  deriving DecidableEq, Repr

/-- The hub. `subs` is `m.subscribers`; channel `ch < chans` has buffer `queue ch`, has
handed `received ch` to its reader, and is closed when `closed ch`. `closing` holds the
channels of `Unsubscribe` calls past their delete and not yet at `close(ch)`. -/
structure Hub where
  subs : List Nat
  chans : Nat
  queue : Nat → List Nat
  closed : Nat → Bool
  closing : List Nat
  received : Nat → List Nat
  bcasts : Nat
  bcast : Nat → Bcast
  panic : Option Panic

def newHub : Hub :=
  ⟨[], 0, fun _ => [], fun _ => false, [], fun _ => [], 0, fun _ => Bcast.unused, none⟩

/-- Every `Broadcast` that took the read lock has released it, so the write lock is free. -/
def readersDone (h : Hub) : Bool := (List.range h.bcasts).all fun b => (h.bcast b).returned

def returnedCalls (h : Hub) : List Nat :=
  (List.range h.bcasts).filter fun b => (h.bcast b).returned

/-- What channel `ch` has been given: what its reader took, then its buffer. -/
def delivered (h : Hub) (ch : Nat) : List Nat := h.received ch ++ h.queue ch

def subscribe (h : Hub) : Option Hub :=
  if readersDone h then
    some { h with subs := h.subs ++ [h.chans], chans := h.chans + 1,
                  queue := update h.queue h.chans [], closed := update h.closed h.chans false,
                  received := update h.received h.chans [] }
  else none

/-- The locked half of `Unsubscribe`: `delete(m.subscribers, ch)`; the close comes later. -/
def unsubscribe (h : Hub) (ch : Nat) : Option Hub :=
  if readersDone h ∧ ch < h.chans then
    some { h with subs := h.subs.erase ch, closing := h.closing ++ [ch] }
  else none

def closeChan (h : Hub) (k : Nat) : Option Hub :=
  match h.closing[k]? with
  | some ch =>
    if h.closed ch then some { h with closing := h.closing.eraseIdx k, panic := some .closeOfClosed }
    else some { h with closing := h.closing.eraseIdx k, closed := update h.closed ch true }
  | none => none

def beginBroadcast (h : Hub) : Hub :=
  { h with bcasts := h.bcasts + 1,
           bcast := update h.bcast h.bcasts ⟨h.subs, h.subs, [], returnedCalls h, false⟩ }

def Bcast.leave (bc : Bcast) (ch : Nat) : Bcast := { bc with pending := bc.pending.erase ch }

/-- Call `b`'s loop reaches subscriber `ch`: `select { case ch <- msg: default: }`. -/
def sendTo (h : Hub) (b ch : Nat) : Option Hub :=
  if b < h.bcasts ∧ (h.bcast b).returned = false ∧ ch ∈ (h.bcast b).pending then
    if h.closed ch then
      some { h with bcast := update h.bcast b ((h.bcast b).leave ch), panic := some .sendOnClosed }
    else if (h.queue ch).length < queueCap then
      some { h with bcast := update h.bcast b ((h.bcast b).leave ch),
                    queue := update h.queue ch (h.queue ch ++ [b]) }
    else
      some { h with bcast := update h.bcast b ({ (h.bcast b).leave ch with
        dropped := (h.bcast b).dropped ++ [(ch, (h.queue ch).length)] }) }
  else none

def finishBroadcast (h : Hub) (b : Nat) : Option Hub :=
  if b < h.bcasts ∧ (h.bcast b).returned = false ∧ (h.bcast b).pending = [] then
    some { h with bcast := update h.bcast b { h.bcast b with returned := true } }
  else none

def receive (h : Hub) (ch : Nat) : Option Hub :=
  match h.queue ch with
  | m :: rest =>
    some { h with queue := update h.queue ch rest,
                  received := update h.received ch (h.received ch ++ [m]) }
  | [] => none

inductive HubAction
  | subscribe
  | unsubscribe (ch : Nat)
  | close (k : Nat)
  | broadcast
  | send (b ch : Nat)
  | finish (b : Nat)
  | receive (ch : Nat)
  deriving DecidableEq, Repr

/-- One step of some goroutine; a panic ends the process. -/
def step (h : Hub) (a : HubAction) : Option Hub :=
  if h.panic.isSome then none else
  match a with
  | .subscribe => subscribe h
  | .unsubscribe ch => unsubscribe h ch
  | .close k => closeChan h k
  | .broadcast => some (beginBroadcast h)
  | .send b ch => sendTo h b ch
  | .finish b => finishBroadcast h b
  | .receive ch => receive h ch

def runHub : Hub → List HubAction → Option Hub
  | h, [] => some h
  | h, a :: as => (step h a).bind (runHub · as)

theorem runHub_cons (h : Hub) (a : HubAction) (as : List HubAction) (h' : Hub) :
    runHub h (a :: as) = some h' ↔ ∃ h₁, step h a = some h₁ ∧ runHub h₁ as = some h' := by
  simp [runHub, Option.bind_eq_some]

theorem runHub_induction (P : Hub → Prop) (hstep : ∀ h a h', P h → step h a = some h' → P h') :
    ∀ (as : List HubAction) (h h' : Hub), P h → runHub h as = some h' → P h'
  | [], _, _, hp, hr => by cases hr; exact hp
  | a :: as, h, h', hp, hr => by
    obtain ⟨h₁, hs, hr⟩ := (runHub_cons h a as h').mp hr
    exact runHub_induction P hstep as h₁ h' (hstep h a h₁ hp hs) hr

/-- `Unsubscribe(ch)` run to its end, with no other step between its delete and its
`close(ch)`. -/
def unsubscribeCall (h : Hub) (ch : Nat) : Option Hub :=
  runHub h [.unsubscribe ch, .close h.closing.length]

end RosbridgeFleet.HubModel
