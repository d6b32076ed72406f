import Mathlib.Logic.Function.Basic

set_option autoImplicit false

/-! The page's socket (`static/js/websocket.js`). The callbacks read the module variable `ws`
when they run, not the socket they belong to; sockets are numbered in the order `connect`
made them. Without pacing of the reconnects an older socket can outlive a newer one
(`unpaced_orphan_socket`). -/

namespace RosbridgeFleet.BrowserSocket

/-- `WebSocket.readyState`. -/
inductive ReadyState
  | connecting
  | opened
  | closing
  | closed
  deriving DecidableEq, Repr

structure Page where
  sockets : Nat → ReadyState
  count : Nat
  ws : Nat
  reconnectTimer : Bool
  /-- Frames `send` wrote: the socket and the message type. -/
  written : List (Nat × String)
  /-- Frames `onmessage` received: the socket and the message type. -/
  received : List (Nat × String)

def connect (p : Page) : Page :=
  { p with
    sockets := Function.update p.sockets p.count .connecting, ws := p.count, count := p.count + 1 }

def initPage : Page := connect ⟨fun _ => .closed, 0, 0, false, [], []⟩

def setState (p : Page) (i : Nat) (st : ReadyState) : Page :=
  { p with sockets := Function.update p.sockets i st }

def send (p : Page) (type : String) : Page :=
  if p.sockets p.ws = .opened then { p with written := p.written ++ [(p.ws, type)] } else p

def scheduleReconnect (p : Page) : Page :=
  if p.reconnectTimer then p else { p with reconnectTimer := true }

/-- `ws.close()`: a connecting or open socket starts closing; otherwise nothing happens. -/
def closeWs (p : Page) : Page :=
  match p.sockets p.ws with
  | .connecting | .opened => setState p p.ws .closing
  | _ => p

def onopen (p : Page) : Page :=
  send (send { p with reconnectTimer := false } "request_map") "request_status"

def onclose (p : Page) : Page := scheduleReconnect p

def onerror (p : Page) : Page := closeWs p

/-- What the browser and the page's own code do. -/
inductive PageEvent
  /-- The reconnect interval fires. -/
  | tick
  /-- Socket `i`'s handshake completes: `open`. -/
  | openEvent (i : Nat)
  /-- The browser fails socket `i`: it is closed, then `error` and `close` fire. -/
  | errorEvent (i : Nat)
  /-- Socket `i` closes cleanly, or the server closes it: `close`. -/
  | closeEvent (i : Nat)
  /-- Socket `i` receives a frame. -/
  | message (i : Nat) (type : String)
  /-- The page calls `WS.send`. -/
  | sendMsg (type : String)
  deriving DecidableEq, Repr

def step (p : Page) : PageEvent → Page
  | .tick => if p.reconnectTimer then connect p else p
  | .openEvent i => if p.sockets i = .connecting then onopen (setState p i .opened) else p
  | .errorEvent i => if p.sockets i = .closed then p else onclose (onerror (setState p i .closed))
  | .closeEvent i =>
    if p.sockets i = .opened ∨ p.sockets i = .closing then onclose (setState p i .closed) else p
  | .message i type =>
    if p.sockets i = .opened then { p with received := p.received ++ [(i, type)] } else p
  | .sendMsg type => send p type

def runPage (p : Page) (evs : List PageEvent) : Page := evs.foldl step p

@[simp] theorem send_sockets (p : Page) (t : String) : (send p t).sockets = p.sockets := by
  unfold send; split <;> rfl

@[simp] theorem send_ws (p : Page) (t : String) : (send p t).ws = p.ws := by
  unfold send; split <;> rfl

@[simp] theorem send_reconnectTimer (p : Page) (t : String) :
    (send p t).reconnectTimer = p.reconnectTimer := by
  unfold send; split <;> rfl

@[simp] theorem onclose_sockets (p : Page) : (onclose p).sockets = p.sockets := by
  unfold onclose scheduleReconnect; split <;> rfl

@[simp] theorem onclose_ws (p : Page) : (onclose p).ws = p.ws := by
  unfold onclose scheduleReconnect; split <;> rfl

@[simp] theorem onclose_reconnectTimer (p : Page) : (onclose p).reconnectTimer = true := by
  unfold onclose scheduleReconnect; split <;> simp_all

theorem onerror_of_closed {p : Page} (h : p.sockets p.ws = .closed) : onerror p = p := by
  simp [onerror, closeWs, h]

/-- Some socket is not closed, or the reconnect interval runs. -/
def Trying (p : Page) : Prop := p.reconnectTimer = true ∨ ∃ i, p.sockets i ≠ .closed

theorem trying_step (p : Page) (e : PageEvent) (h : Trying p) : Trying (step p e) := by
  cases e with
  | tick =>
    simp only [step]; split
    · exact .inr ⟨p.count, by simp [connect]⟩
    · exact h
  | openEvent i =>
    simp only [step]; split
    · exact .inr ⟨i, by simp [onopen, setState]⟩
    · exact h
  | errorEvent i =>
    simp only [step]; split
    · exact h
    · exact .inl (onclose_reconnectTimer _)
  | closeEvent i =>
    simp only [step]; split
    · exact .inl (onclose_reconnectTimer _)
    · exact h
  | message i type =>
    simp only [step]; split
    · exact h
    · exact h
  | sendMsg type => simpa [step, Trying] using h

/-- Over every order of browser events and page calls, the page keeps a socket alive or its
reconnect interval running: it never stops trying to reach the server. -/
theorem page_keeps_trying (evs : List PageEvent) : Trying (runPage initPage evs) := by
  suffices ∀ p, Trying p → Trying (runPage p evs) from this _ (.inr ⟨0, by decide⟩)
  induction evs with
  | nil => exact fun _ h => h
  | cons e es ih => exact fun p h => ih _ (trying_step p e h)

/-- The interval does not fire while `ws` is still connecting: each reconnect attempt ends
within the 3 s before the next one. -/
def Paced (p : Page) (e : PageEvent) : Prop :=
  e = .tick → p.reconnectTimer = true → p.sockets p.ws ≠ .connecting

def PacedRun : Page → List PageEvent → Prop
  | _, [] => True
  | p, e :: es => Paced p e ∧ PacedRun (step p e) es

instance (p : Page) (e : PageEvent) : Decidable (Paced p e) :=
  inferInstanceAs (Decidable (_ → _ → _))

instance decPacedRun : (p : Page) → (evs : List PageEvent) → Decidable (PacedRun p evs)
  | _, [] => isTrue trivial
  | p, e :: es =>
    have := decPacedRun (step p e) es
    inferInstanceAs (Decidable (Paced p e ∧ PacedRun (step p e) es))

/-- Every socket but `ws` is closed, and while the interval runs `ws` is connecting or
closed. -/
structure OneLive (p : Page) : Prop where
  others : ∀ i, i ≠ p.ws → p.sockets i = .closed
  timer : p.reconnectTimer = true → p.sockets p.ws = .connecting ∨ p.sockets p.ws = .closed

theorem oneLive_init : OneLive initPage :=
  ⟨fun _ hi => Function.update_noteq hi _ _, fun h => nomatch h⟩

theorem OneLive.eq_ws {p : Page} (h : OneLive p) {i : Nat} (hi : p.sockets i ≠ .closed) :
    i = p.ws :=
  Classical.byContradiction fun hne => hi (h.others i hne)

theorem oneLive_closed_ws {p : Page} (h : OneLive p) :
    OneLive (onclose (setState p p.ws .closed)) :=
  ⟨fun j hj => by
    simp only [onclose_ws, onclose_sockets, setState] at hj ⊢
    rw [Function.update_noteq hj]
    exact h.others j hj, fun _ => .inr (by simp [setState])⟩

theorem oneLive_step {p : Page} (h : OneLive p) (e : PageEvent) (hp : Paced p e) :
    OneLive (step p e) := by
  cases e with
  | tick =>
    simp only [step]; split
    · next ht =>
      refine ⟨fun i (hi : i ≠ p.count) => ?_, fun _ => .inl (by simp [connect])⟩
      show Function.update p.sockets p.count .connecting i = .closed
      rw [Function.update_noteq hi]
      by_cases hw : i = p.ws
      · subst hw; exact (h.timer ht).resolve_left (hp rfl ht)
      · exact h.others i hw
    · exact h
  | openEvent i =>
    simp only [step]; split
    · next hc =>
      obtain rfl := h.eq_ws (by rw [hc]; decide)
      refine ⟨fun j hj => ?_, fun ht => by simp [onopen] at ht⟩
      simp only [onopen, send_ws, send_sockets, setState] at hj ⊢
      rw [Function.update_noteq hj]
      exact h.others j hj
    · exact h
  | errorEvent i =>
    simp only [step]; split
    · exact h
    · next hc =>
      obtain rfl := h.eq_ws hc
      rw [onerror_of_closed (by simp [setState])]
      exact oneLive_closed_ws h
  | closeEvent i =>
    simp only [step]; split
    · next hc =>
      obtain rfl := h.eq_ws (by rcases hc with hc | hc <;> rw [hc] <;> decide)
      exact oneLive_closed_ws h
    · exact h
  | message i type =>
    simp only [step]; split
    · exact ⟨h.others, h.timer⟩
    · exact h
  | sendMsg type =>
    refine ⟨fun i hi => ?_, fun ht => ?_⟩ <;>
      simp only [step, send_ws, send_sockets, send_reconnectTimer] at *
    · exact h.others i hi
    · exact h.timer ht

theorem oneLive_run {p : Page} (h : OneLive p) (evs : List PageEvent) (hp : PacedRun p evs) :
    OneLive (runPage p evs) := by
  induction evs generalizing p with
  | nil => exact h
  | cons e es ih => exact ih (oneLive_step h e hp.1) hp.2

/-- With paced reconnects, at every point of the run every socket but `ws` is closed: the
page receives only on the socket it sends on, and while any socket is open `send` writes
to it. -/
theorem paced_page_one_live_socket (evs : List PageEvent) (hp : PacedRun initPage evs) :
    let p := runPage initPage evs
    (∀ i, p.sockets i ≠ .closed → i = p.ws) ∧
      (∀ i type, p.sockets i = .opened →
        (step p (.sendMsg type)).written = p.written ++ [(i, type)]) ∧
      ∀ i type, (step p (.message i type)).received ≠ p.received → i = p.ws := by
  have h := oneLive_run oneLive_init evs hp
  refine ⟨fun i hi => h.eq_ws hi, fun i type ho => ?_, fun i type hr => ?_⟩
  · obtain rfl := h.eq_ws (by rw [ho]; decide)
    simp [step, send, ho]
  · simp only [step] at hr
    split at hr
    · next ho => exact h.eq_ws (by rw [ho]; decide)
    · exact absurd rfl hr

theorem paced_page_one_live_socket_reconnect :
    let evs : List PageEvent :=
      [.errorEvent 0, .tick, .openEvent 1, .sendMsg "joystick", .message 1 "status"]
    PacedRun initPage evs ∧
      let p := runPage initPage evs
      (∀ i, p.sockets i ≠ .closed → i = p.ws) ∧
        (∀ i type, p.sockets i = .opened →
          (step p (.sendMsg type)).written = p.written ++ [(i, type)]) ∧
        ∀ i type, (step p (.message i type)).received ≠ p.received → i = p.ws :=
  have hp : PacedRun initPage
      [.errorEvent 0, .tick, .openEvent 1, .sendMsg "joystick", .message 1 "status"] := by decide
  ⟨hp, paced_page_one_live_socket _ hp⟩

theorem sends_dropped_of_closed {p : Page} (h : p.sockets p.ws = .closed) (ts : List String) :
    (runPage p (ts.map .sendMsg)).written = p.written := by
  induction ts generalizing p with
  | nil => rfl
  | cons t ts ih =>
    have hs : step p (.sendMsg t) = p := by simp [step, send, h]
    simpa only [runPage, List.map_cons, List.foldl_cons, hs] using ih h

/-- Without pacing the page can lose its way. The first socket fails; the interval makes
socket 1, fires again while it is connecting and makes socket 2; socket 2 fails and socket 1
opens. Its `onopen` clears the interval and sends the first requests on `ws`, which is the
closed socket 2. The page now receives on socket 1 with no interval running and drops every
frame it sends. -/
theorem unpaced_orphan_socket :
    let p := runPage initPage [.errorEvent 0, .tick, .tick, .errorEvent 2, .openEvent 1]
    p.sockets 1 = .opened ∧ p.reconnectTimer = false ∧ p.written = [] ∧
      (step p (.message 1 "status")).received = p.received ++ [(1, "status")] ∧
      ∀ ts : List String, (runPage p (ts.map .sendMsg)).written = [] :=
  ⟨rfl, rfl, rfl, rfl, fun ts => sends_dropped_of_closed rfl ts⟩

end RosbridgeFleet.BrowserSocket
