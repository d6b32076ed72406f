import Mathlib.Tactic

set_option autoImplicit false

/-! The connection life of a rosbridge `Client` (`rosbridge/client.go`). A stretch under `c.mu`
is one step and a goroutine's unlocked stretches are steps of their own; sockets and
tickers are numbered in the order they were made. -/

namespace RosbridgeFleet.LinkModel

/-- Where a `readLoop` goroutine is. `blocked s` is inside `ReadMessage` on socket `s`,
which is the `c.conn` it read when it called it. -/
inductive ReadPc
  | loop
  | blocked (s : Nat)
  | notify
  | exited
  deriving DecidableEq, Repr

/-- Where a cmd_vel publisher goroutine is. `select t` waits on `stopCh` and on ticker `t`,
the `c.cmdVelTicker` it read when it entered the `select`. -/
inductive PubPc
  | loop
  | select (t : Nat)
  | tick
  | exited
  deriving DecidableEq, Repr

/-- Where a `scheduleReconnect` goroutine is: in its 3 s sleep, or past its check of
`c.connected` and about to call `Connect`. -/
inductive ReconnectPc
  | sleeping
  | dialing
  | exited
  deriving DecidableEq, Repr

inductive Callback
  | onConnected
  | onDisconnected
  deriving DecidableEq, Repr

structure Client where
  connected : Bool
  conn : Option Nat
  sockets : List Bool
  readers : List ReadPc
  publishers : List PubPc
  tickers : List Bool
  cmdVelTicker : Option Nat
  reconnects : List ReconnectPc
  deriving DecidableEq, Repr

def newClient : Client :=
  { connected := false, conn := none, sockets := [], readers := [], publishers := [],
    tickers := [], cmdVelTicker := none, reconnects := [] }

/-- `Client.Connect`, all under `c.mu`: a no-op when connected; a failed dial starts a
`scheduleReconnect`; a good one installs the socket, starts `readLoop`, a new ticker and
its publisher, and `OnConnected`. -/
def connect (c : Client) (dialOk : Bool) : Client × List Callback :=
  if c.connected then (c, [])
  else if dialOk then
    ({ c with
        connected := true, conn := some c.sockets.length, sockets := c.sockets ++ [true],
        readers := c.readers ++ [.loop], tickers := c.tickers ++ [true],
        cmdVelTicker := some c.tickers.length, publishers := c.publishers ++ [.loop] },
      [.onConnected])
  else ({ c with reconnects := c.reconnects ++ [.sleeping] }, [])

/-- The part of `Client.disconnect` past its `connected` check: stop the current ticker,
close the current socket. -/
def teardown (c : Client) : Client :=
  { c with
    connected := false,
    tickers := match c.cmdVelTicker with
      | some t => c.tickers.set t false
      | none => c.tickers,
    sockets := match c.conn with
      | some s => c.sockets.set s false
      | none => c.sockets }

@[simp] theorem teardown_connected (c : Client) : (teardown c).connected = false := rfl

@[simp] theorem teardown_readers (c : Client) : (teardown c).readers = c.readers := rfl

@[simp] theorem teardown_reconnects (c : Client) : (teardown c).reconnects = c.reconnects := rfl

@[simp] theorem teardown_publishers (c : Client) : (teardown c).publishers = c.publishers := rfl

@[simp] theorem teardown_sockets_length (c : Client) :
    (teardown c).sockets.length = c.sockets.length := by
  unfold teardown
  split <;> simp

def isSelecting : PubPc → Bool
  | .select _ => true
  | _ => false

/-- `Client.Disconnect`. The stop signal is a non-blocking send on the unbuffered
`stopCh`: it is taken by one publisher waiting in its `select` (`stopTo` names it) and is
lost when none is waiting. -/
def disconnect (c : Client) (stopTo : Option Nat) : Option (Client × List Callback) :=
  if !c.connected then some (c, [])
  else match stopTo with
    | none =>
      if c.publishers.any isSelecting then none else some (teardown c, [.onDisconnected])
    | some i =>
      match c.publishers[i]? with
      | some (.select _) =>
        some ({ teardown c with publishers := c.publishers.set i .exited }, [.onDisconnected])
      | _ => none

inductive Action
  | connect (dialOk : Bool)
  | disconnect (stopTo : Option Nat)
  | peerClose (s : Nat)
  | readerRead (i : Nat)
  | readerMessage (i : Nat)
  | readerFail (i : Nat)
  | readerNotify (i : Nat)
  | reconnectWake (i : Nat)
  | reconnectDial (i : Nat) (dialOk : Bool)
  | publisherSelect (i : Nat)
  | publisherTick (i : Nat)
  | publisherReturn (i : Nat)
  deriving DecidableEq, Repr

def Action.isDisconnect : Action → Bool
  | .disconnect _ => true
  | _ => false

/-- One step; `none` when the action is not enabled. `connect` and `disconnect` are the
explicit `Connect()` and `Disconnect()` calls of the layers above. -/
def step (c : Client) : Action → Option (Client × List Callback)
  | .connect ok => some (connect c ok)
  | .disconnect stopTo => disconnect c stopTo
  | .peerClose s =>
    if c.sockets[s]? = some true then some ({ c with sockets := c.sockets.set s false }, [])
    else none
  | .readerRead i =>
    if c.readers[i]? = some .loop then
      some ({ c with readers := c.readers.set i (.blocked (c.conn.getD 0)) }, [])
    else none
  | .readerMessage i =>
    match c.readers[i]? with
    | some (.blocked s) =>
      if c.sockets[s]? = some true then some ({ c with readers := c.readers.set i .loop }, [])
      else none
    | _ => none
  | .readerFail i =>
    match c.readers[i]? with
    | some (.blocked s) =>
      if c.sockets[s]? = some false then
        if c.connected then
          some ({ c with connected := false, readers := c.readers.set i .notify }, [])
        else some ({ c with readers := c.readers.set i .exited }, [])
      else none
    | _ => none
  | .readerNotify i =>
    if c.readers[i]? = some .notify then
      some ({ c with
        readers := c.readers.set i .exited, reconnects := c.reconnects ++ [.sleeping] },
        [.onDisconnected])
    else none
  | .reconnectWake i =>
    if c.reconnects[i]? = some .sleeping then
      some ({ c with reconnects := c.reconnects.set i (if c.connected then .exited else .dialing) },
        [])
    else none
  | .reconnectDial i ok =>
    if c.reconnects[i]? = some .dialing then
      some (connect { c with reconnects := c.reconnects.set i .exited } ok)
    else none
  | .publisherSelect i =>
    if c.publishers[i]? = some .loop then
      some ({ c with publishers := c.publishers.set i (.select (c.cmdVelTicker.getD 0)) }, [])
    else none
  | .publisherTick i =>
    match c.publishers[i]? with
    | some (.select t) =>
      if c.tickers[t]? = some true then some ({ c with publishers := c.publishers.set i .tick }, [])
      else none
    | _ => none
  | .publisherReturn i =>
    if c.publishers[i]? = some .tick then
      some ({ c with publishers := c.publishers.set i .loop }, [])
    else none

/-- A run from `c`, with the callbacks it started in order; `none` if some action was not
enabled. -/
def runLink : Client → List Action → Option (Client × List Callback)
  | c, [] => some (c, [])
  | c, a :: as =>
    match step c a with
    | none => none
    | some (c₁, cb₁) =>
      match runLink c₁ as with
      | none => none
      | some (c₂, cb₂) => some (c₂, cb₁ ++ cb₂)

theorem runLink_cons {c c' : Client} {a : Action} {as : List Action} {cbs : List Callback}
    (h : runLink c (a :: as) = some (c', cbs)) :
    ∃ c₁ cb₁ cb₂, step c a = some (c₁, cb₁) ∧ runLink c₁ as = some (c', cb₂) ∧
      cbs = cb₁ ++ cb₂ := by
  simp only [runLink] at h
  split at h
  · cases h
  · split at h
    · cases h
    · cases h
      exact ⟨_, _, _, ‹_›, ‹_›, rfl⟩

theorem runLink_induction (P : Client → Prop) {c c' : Client} {acts : List Action}
    {cbs : List Callback} (hstep : ∀ d d' a cb, a ∈ acts → P d → step d a = some (d', cb) → P d')
    (hc : P c) (h : runLink c acts = some (c', cbs)) : P c' := by
  induction acts generalizing c cbs with
  | nil => cases h; exact hc
  | cons a acts ih =>
    obtain ⟨c₁, cb₁, cb₂, h₁, h₂, -⟩ := runLink_cons h
    exact ih (fun d d' b cb hb => hstep d d' b cb (List.mem_cons_of_mem _ hb))
      (hstep c c₁ a cb₁ (List.mem_cons_self _ _) hc h₁) h₂

def ReadPc.live : ReadPc → Bool
  | .exited => false
  | _ => true

def PubPc.live : PubPc → Bool
  | .exited => false
  | _ => true

def ReconnectPc.live : ReconnectPc → Bool
  | .exited => false
  | _ => true

def livePublishers (c : Client) : Nat := c.publishers.countP PubPc.live

def liveReaders (c : Client) : Nat := (c.readers.filter ReadPc.live).length

def openSockets (c : Client) : Nat := (c.sockets.filter id).length

def pendingReconnects (c : Client) : Nat := c.reconnects.countP ReconnectPc.live

def countAlong (edge : Client → Client → Bool) : Client → List Action → Nat
  | _, [] => 0
  | c, a :: as =>
    match step c a with
    | some (c', _) => (edge c c').toNat + countAlong edge c' as
    | none => 0

def rises (c c' : Client) : Bool := !c.connected && c'.connected

def falls (c c' : Client) : Bool := c.connected && !c'.connected

end RosbridgeFleet.LinkModel
