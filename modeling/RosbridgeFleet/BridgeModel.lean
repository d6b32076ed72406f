import RosbridgeFleet.RegistryInvariants

set_option autoImplicit false

/-! One browser connection of `WSHandler` (`handlers/ws_handler.go`): the writer forwards hub
messages and throttles `map`, the reader runs `handleWSCommand`. Time is milliseconds;
`arrived`, `taken` and `forwarded` are ghost logs of the writer's queue. -/

namespace RosbridgeFleet.BridgeModel
open GoBasics RegistryModel RegistryInvariants

structure WSCommand where
  type : String
  robotID : String
  data : Option JsonValue

/-- What a command does outside the registry. `connect` is the handler's
`go rb.Client.Connect()`, which it starts only while the link is down; `Connect` does
nothing on a connected link, so that check is left to the link model. -/
inductive Effect
  | setVelocity (id : String) (linearX angularZ : ℚ)
  | reply (m : BroadcastMsg)
  | sendVoiceCommand (id text : String)
  | connect (id : String)
  | stopConnection (id : String)
  | unknownCommand (type : String)
  deriving DecidableEq, Repr

structure Handled where
  effect : Option Effect
  manager : Manager
  sent : List BroadcastMsg

def decodeJoystick (data : Option JsonValue) : Option (ℚ × ℚ) := do
  let fields ← objectFields data
  return (← floatField fields "linear_x", ← floatField fields "angular_z")

def targetRobot (m : Manager) (cmd : WSCommand) : Option String :=
  let id := if cmd.robotID = "" then m.currentID else cmd.robotID
  (getRobot m id).map fun _ => id

def handleWSCommand (m : Manager) (cmd : WSCommand) : Handled :=
  let only (e : Option Effect) : Handled := ⟨e, m, []⟩
  match cmd.type with
  | "joystick" =>
    only do
      let (lx, az) ← decodeJoystick cmd.data
      return .setVelocity (← targetRobot m cmd) lx az
  | "stop" => only ((targetRobot m cmd).map fun id => .setVelocity id 0 0)
  | "switch_robot" =>
    match objectFields cmd.data >>= (stringField · "id") with
    | some id => let c := switchRobot m id; ⟨none, c.manager, c.sent⟩
    | none => only none
  | "request_map" => only ((targetRobot m cmd).map fun id => .reply ⟨"map", id⟩)
  | "request_status" => only ((targetRobot m cmd).map fun id => .reply ⟨"status", id⟩)
  | "voice_command" =>
    only do
      let text ← objectFields cmd.data >>= (stringField · "text")
      return .sendVoiceCommand (← targetRobot m cmd) text
  | "connect" => only ((targetRobot m cmd).map .connect)
  | "disconnect" => only ((targetRobot m cmd).map .stopConnection)
  | t => only (some (.unknownCommand t))

theorem handleWSCommand_manager (m : Manager) (cmd : WSCommand) :
    (handleWSCommand m cmd).manager = m ∧ (handleWSCommand m cmd).sent = [] ∨
      ∃ id, (handleWSCommand m cmd).manager = (switchRobot m id).manager ∧
        (handleWSCommand m cmd).sent = (switchRobot m id).sent := by
  unfold handleWSCommand
  split
  all_goals try exact .inl ⟨rfl, rfl⟩
  split
  · exact .inr ⟨_, rfl, rfl⟩
  · exact .inl ⟨rfl, rfl⟩

inductive WriterPc
  | idle
  | writing (m : BroadcastMsg)
  | exited
  deriving DecidableEq, Repr

inductive ReaderPc
  | reading
  | handling (cmd : WSCommand)
  | replying (m : BroadcastMsg)
  | exited

def WriterPc.inWrite : WriterPc → Bool
  | .writing _ => true
  | _ => false

def ReaderPc.inWrite : ReaderPc → Bool
  | .replying _ => true
  | _ => false

def WriterPc.inFlight : WriterPc → List BroadcastMsg
  | .writing m => [m]
  | _ => []

structure Bridge where
  manager : Manager
  queue : List BroadcastMsg
  closed : Bool
  writer : WriterPc
  reader : ReaderPc
  lastMapSend : Option Nat
  now : Nat
  written : List BroadcastMsg
  effects : List Effect
  arrived : List (BroadcastMsg × Nat)
  taken : List (BroadcastMsg × Nat)
  forwarded : List BroadcastMsg

def accept (m : Manager) (now : Nat) : Bridge :=
  { manager := m, queue := [], closed := false, writer := .idle, reader := .reading,
    lastMapSend := none, now, written := [], effects := [], arrived := [], taken := [],
    forwarded := [] }

/-- `Broadcast` reaching this subscriber: a non-blocking send on its 100-slot channel,
dropped when the channel is full or gone. -/
def deliverOne (b : Bridge) (m : BroadcastMsg) : Bridge :=
  if b.closed || b.queue.length ≥ 100 then b
  else { b with queue := b.queue ++ [m], arrived := b.arrived ++ [(m, b.now)] }

def deliver (b : Bridge) (ms : List BroadcastMsg) : Bridge := ms.foldl deliverOne b

/-- The writer's map throttle: a `map` within 500 ms of the last one sent is skipped. -/
def throttled (b : Bridge) (m : BroadcastMsg) : Bool :=
  m.type == "map" && match b.lastMapSend with
    | some t => decide (b.now - t < 500)
    | none => false

inductive BridgeAction
  | hubBroadcast (m : BroadcastMsg)
  | registry (op : Op)
  | writerTake
  | writerWrite (ok : Bool)
  | writerStop
  | readerRecv (cmd : WSCommand)
  | readerFail
  | readerHandle
  | replyDone (ok : Bool)
  | advance (ms : Nat)

def step (b : Bridge) : BridgeAction → Option Bridge
  | .hubBroadcast m => some (deliver b [m])
  | .registry op =>
    let c := RegistryModel.step b.manager op
    some (deliver { b with manager := c.manager } c.sent)
  | .writerTake =>
    match b.writer, b.queue with
    | .idle, m :: rest =>
      if throttled b m then some { b with queue := rest, taken := b.taken ++ [(m, b.now)] }
      else some { b with
        queue := rest, writer := .writing m, taken := b.taken ++ [(m, b.now)],
        lastMapSend := if m.type = "map" then some b.now else b.lastMapSend }
    | _, _ => none
  | .writerWrite ok =>
    match b.writer with
    | .writing m =>
      if ok && !b.closed then
        some { b with writer := .idle, written := b.written ++ [m], forwarded := b.forwarded ++ [m] }
      else some { b with writer := .exited, closed := true }
    | _ => none
  | .writerStop => if b.writer = .idle && b.closed then some { b with writer := .exited } else none
  | .readerRecv cmd =>
    match b.reader with
    | .reading => if b.closed then none else some { b with reader := .handling cmd }
    | _ => none
  | .readerFail =>
    match b.reader with
    | .reading => some { b with reader := .exited, closed := true }
    | _ => none
  | .readerHandle =>
    match b.reader with
    | .handling cmd =>
      let h := handleWSCommand b.manager cmd
      let b' := deliver { b with manager := h.manager } h.sent
      match h.effect with
      | some (.reply m) => some { b' with reader := .replying m }
      | some e => some { b' with reader := .reading, effects := b.effects ++ [e] }
      | none => some { b' with reader := .reading }
    | _ => none
  | .replyDone ok =>
    match b.reader with
    | .replying m =>
      some { b with reader := .reading,
                    written := if ok && !b.closed then b.written ++ [m] else b.written }
    | _ => none
  | .advance ms => some { b with now := b.now + ms }

def runBridge : Bridge → List BridgeAction → Option Bridge
  | b, [] => some b
  | b, a :: as =>
    match step b a with
    | some b' => runBridge b' as
    | none => none

theorem deliver_frame (b : Bridge) (ms : List BroadcastMsg) :
    ∃ q a, deliver b ms = { b with queue := q, arrived := a } := by
  induction ms generalizing b with
  | nil => exact ⟨b.queue, b.arrived, rfl⟩
  | cons m ms ih =>
    obtain ⟨q, a, h⟩ := ih (deliverOne b m)
    refine ⟨q, a, h.trans ?_⟩
    unfold deliverOne
    split_ifs <;> rfl

@[simp] theorem deliver_manager (b : Bridge) (ms : List BroadcastMsg) :
    (deliver b ms).manager = b.manager := by
  obtain ⟨q, a, h⟩ := deliver_frame b ms; rw [h]

@[simp] theorem deliver_reader (b : Bridge) (ms : List BroadcastMsg) :
    (deliver b ms).reader = b.reader := by
  obtain ⟨q, a, h⟩ := deliver_frame b ms; rw [h]

theorem runBridge_cons {b b' : Bridge} {a : BridgeAction} {as : List BridgeAction}
    (h : runBridge b (a :: as) = some b') : ∃ b₁, step b a = some b₁ ∧ runBridge b₁ as = some b' := by
  simp only [runBridge] at h
  split at h
  · exact ⟨_, ‹_›, h⟩
  · cases h

theorem runBridge_induction (P : Bridge → Prop) {b b' : Bridge} {acts : List BridgeAction}
    (hstep : ∀ d d' a, a ∈ acts → P d → step d a = some d' → P d') (hb : P b)
    (h : runBridge b acts = some b') : P b' := by
  induction acts generalizing b with
  | nil => cases h; exact hb
  | cons a acts ih =>
    obtain ⟨b₁, h₁, h₂⟩ := runBridge_cons h
    exact ih (fun d d' a' ha' => hstep d d' a' (List.mem_cons_of_mem _ ha'))
      (hstep b b₁ a (List.mem_cons_self _ _) hb h₁) h₂

/-- The writer is inside `WriteJSON` for a hub message (here `robot_added`) when a
`request_status` arrives; the reader then writes its reply on the same socket. -/
theorem reply_races_forward :
    ¬ ∀ (m : Manager) (now : Nat) (acts : List BridgeAction) (b : Bridge),
        runBridge (accept m now) acts = some b → (b.writer.inWrite && b.reader.inWrite) = false := by
  intro h
  have := h newManager 0 [.registry (.addRobot "/r1" "r1" "10.0.0.5" 9090), .writerTake,
    .readerRecv ⟨"request_status", "", none⟩, .readerHandle] _ rfl
  exact absurd this (by decide)

theorem step_manager {b b' : Bridge} {a : BridgeAction} (h : step b a = some b') :
    ∃ ops, b'.manager = run b.manager ops := by
  cases a with
  | registry op =>
    cases h
    exact ⟨[op], deliver_manager _ _⟩
  | readerHandle =>
    simp only [step] at h
    split at h
    · rename_i cmd _
      obtain ⟨ops, hops⟩ : ∃ ops, (handleWSCommand b.manager cmd).manager = run b.manager ops := by
        rcases handleWSCommand_manager b.manager cmd with ⟨hm, -⟩ | ⟨id, hm, -⟩
        exacts [⟨[], hm⟩, ⟨[.switchRobot id], hm⟩]
      split at h <;> cases h <;> exact ⟨ops, (deliver_manager _ _).trans hops⟩
    · cases h
  | _ =>
    simp only [step] at h
    repeat' split at h
    all_goals cases h
    all_goals first | exact ⟨[], rfl⟩ | exact ⟨[], deliver_manager _ _⟩

theorem bridge_registry_is_run (m : Manager) (now : Nat) (acts : List BridgeAction) (b : Bridge)
    (h : runBridge (accept m now) acts = some b) : ∃ ops, b.manager = run m ops :=
  runBridge_induction (fun d => ∃ ops, d.manager = run m ops)
    (fun _ _ _ _ ⟨ops, hd⟩ hs =>
      let ⟨ops', h'⟩ := step_manager hs
      ⟨ops ++ ops', by rw [h', hd, run_append]⟩)
    ⟨[], rfl⟩ h

/-- Under any interleaving of hub traffic, registry calls and browser commands on a
connection, the registry keeps `currentID` naming a registered robot exactly when one is
registered, and one robot per address. -/
theorem bridge_keeps_registry_invariants (now : Nat) (acts : List BridgeAction) (b : Bridge)
    (h : runBridge (accept newManager now) acts = some b) :
    Selection b.manager ∧ AddressesUnique b.manager := by
  obtain ⟨ops, hm⟩ := bridge_registry_is_run newManager now acts b h
  rw [hm]
  exact ⟨run_induction Selection selection_step _ ops selection_newManager,
    run_induction AddressesUnique addressesUnique_step _ ops addressesUnique_newManager⟩

theorem bridge_keeps_registry_invariants_stop :
    let acts : List BridgeAction := [.registry (.addRobot "/r1" "r1" "10.0.0.5" 9090),
      .readerRecv ⟨"stop", "", none⟩, .readerHandle]
    ∃ b, runBridge (accept newManager 0) acts = some b ∧
      Selection b.manager ∧ AddressesUnique b.manager := by
  intro acts
  exact ⟨_, rfl, bridge_keeps_registry_invariants 0 acts _ rfl⟩

def lastMapTime (out : List (BroadcastMsg × Nat)) : Option Nat :=
  ((out.filter fun e => e.1.type = "map").getLast?).map (·.2)

/-- The throttle as the spec words it, reading the messages already passed: a non-map
message passes; a map message passes when no map has passed yet, or the last map passed
went out at least 500 ms earlier. -/
def passes (out : List (BroadcastMsg × Nat)) (m : BroadcastMsg) (t : Nat) : Bool :=
  m.type != "map" || match lastMapTime out with
    | none => true
    | some t₀ => decide (t₀ + 500 ≤ t)

/-- What the throttle passes, in order, of messages stamped with their times, after `out`. -/
def throttleSpec (out : List (BroadcastMsg × Nat)) (es : List (BroadcastMsg × Nat)) :
    List (BroadcastMsg × Nat) :=
  es.foldl (fun out e => if passes out e.1 e.2 then out ++ [e] else out) out

theorem lastMapTime_concat (out : List (BroadcastMsg × Nat)) (m : BroadcastMsg) (t : Nat) :
    lastMapTime (out ++ [(m, t)]) = if m.type = "map" then some t else lastMapTime out := by
  by_cases hm : m.type = "map" <;> simp [lastMapTime, List.filter_append, hm]

theorem throttleSpec_concat (es : List (BroadcastMsg × Nat)) (e : BroadcastMsg × Nat) :
    throttleSpec [] (es ++ [e]) =
      if passes (throttleSpec [] es) e.1 e.2 then throttleSpec [] es ++ [e]
      else throttleSpec [] es := by
  simp only [throttleSpec, List.foldl_append, List.foldl_cons, List.foldl_nil]

theorem throttled_eq_not_passes (b : Bridge) {out : List (BroadcastMsg × Nat)}
    (hl : b.lastMapSend = lastMapTime out) (m : BroadcastMsg) :
    throttled b m = !passes out m b.now := by
  unfold throttled passes bne
  rw [hl]
  cases m.type == "map" <;> cases lastMapTime out <;> try rfl
  rw [Bool.true_and, Bool.not_true, Bool.false_or, ← decide_not]
  exact decide_eq_decide.mpr (by omega)

/-- The writer's queue is what the hub queued, less what it took, in order; what it wrote
and is writing is what the throttle passes of what it took, stamped with the take times;
and `lastMapSend` is the last map passed. -/
structure ThrottleInv (b : Bridge) : Prop where
  open_ : b.closed = false
  fifo : b.taken.map (·.1) ++ b.queue = b.arrived.map (·.1)
  passed : (throttleSpec [] b.taken).map (·.1) = b.forwarded ++ b.writer.inFlight
  lastMap : b.lastMapSend = lastMapTime (throttleSpec [] b.taken)

theorem throttleInv_accept (m : Manager) (t : Nat) : ThrottleInv (accept m t) :=
  ⟨rfl, rfl, rfl, rfl⟩

theorem throttleInv_deliverOne {b : Bridge} (hi : ThrottleInv b) (m : BroadcastMsg) :
    ThrottleInv (deliverOne b m) := by
  unfold BridgeModel.deliverOne
  split_ifs
  · exact hi
  · exact ⟨hi.open_, by simp [← hi.fifo], hi.passed, hi.lastMap⟩

theorem throttleInv_deliver {b : Bridge} (hi : ThrottleInv b) (ms : List BroadcastMsg) :
    ThrottleInv (deliver b ms) := by
  induction ms generalizing b with
  | nil => exact hi
  | cons m ms ih => exact ih (throttleInv_deliverOne hi m)

theorem throttleInv_step {b b' : Bridge} {a : BridgeAction} (hi : ThrottleInv b)
    (hw : a ≠ .writerWrite false) (hr : a ≠ .readerFail) (h : step b a = some b') :
    ThrottleInv b' := by
  cases a with
  | hubBroadcast m => cases h; exact throttleInv_deliver hi _
  | registry op =>
    cases h
    exact throttleInv_deliver (b := { b with manager := (RegistryModel.step b.manager op).manager })
      ⟨hi.open_, hi.fifo, hi.passed, hi.lastMap⟩ (RegistryModel.step b.manager op).sent
  | writerTake =>
    simp only [step] at h
    split at h
    · next m rest hw' hq =>
      have ht := throttled_eq_not_passes b hi.lastMap m
      have hfifo : (b.taken ++ [(m, b.now)]).map (·.1) ++ rest = b.arrived.map (·.1) := by
        rw [← hi.fifo, hq]; simp
      by_cases hth : throttled b m = true
      · rw [if_pos hth] at h
        cases h
        have hp : passes (throttleSpec [] b.taken) m b.now = false := by simpa [hth] using ht
        refine ⟨hi.open_, hfifo, ?_, ?_⟩ <;> dsimp only
        · rw [throttleSpec_concat, if_neg (by simp [hp]), hi.passed]
        · rw [throttleSpec_concat, if_neg (by simp [hp]), hi.lastMap]
      · rw [if_neg hth] at h
        cases h
        have hp : passes (throttleSpec [] b.taken) m b.now = true := by simpa [hth] using ht
        refine ⟨hi.open_, hfifo, ?_, ?_⟩ <;> dsimp only
        · rw [throttleSpec_concat, if_pos hp, List.map_append, hi.passed, hw']
          simp [WriterPc.inFlight]
        · rw [throttleSpec_concat, if_pos hp, lastMapTime_concat, ← hi.lastMap]
    · cases h
  | writerWrite ok =>
    simp only [step] at h
    split at h
    · next m hw' =>
      have hok : ok = true := by cases ok; exact absurd rfl hw; rfl
      subst hok
      rw [hi.open_] at h
      cases h
      refine ⟨rfl, hi.fifo, ?_, hi.lastMap⟩
      dsimp only
      rw [hi.passed, hw']
      simp [WriterPc.inFlight]
    · cases h
  | writerStop =>
    simp only [step, hi.open_, Bool.and_false] at h
    cases h
  | readerRecv cmd =>
    simp only [step] at h
    repeat' split at h
    all_goals cases h
    exact ⟨hi.open_, hi.fifo, hi.passed, hi.lastMap⟩
  | readerFail => exact absurd rfl hr
  | readerHandle =>
    simp only [step] at h
    split at h
    · have hd := throttleInv_deliver (b := { b with manager := (handleWSCommand b.manager ‹_›).manager })
        ⟨hi.open_, hi.fifo, hi.passed, hi.lastMap⟩ (handleWSCommand b.manager ‹_›).sent
      split at h <;> cases h <;> exact ⟨hd.open_, hd.fifo, hd.passed, hd.lastMap⟩
    · cases h
  | replyDone ok =>
    simp only [step] at h
    split at h
    · cases h; exact ⟨hi.open_, hi.fifo, hi.passed, hi.lastMap⟩
    · cases h
  | advance ms => cases h; exact ⟨hi.open_, hi.fifo, hi.passed, hi.lastMap⟩

/-- Over every run of a connection with no failed write and no failed read, the writer takes
the hub's messages in the order they were queued, and what it has written, with the message
it is writing, is what the throttle passes of them stamped with the times the writer took
them: every non-map message, and a map message exactly when it is the first map or is taken
at least 500 ms after the last map passed was taken. -/
theorem writer_throttles_maps_at_take (m : Manager) (t₀ : Nat) (acts : List BridgeAction)
    (b : Bridge) (h : runBridge (accept m t₀) acts = some b)
    (hw : .writerWrite false ∉ acts) (hr : .readerFail ∉ acts) :
    b.taken.map (·.1) ++ b.queue = b.arrived.map (·.1) ∧
      (throttleSpec [] b.taken).map (·.1) = b.forwarded ++ b.writer.inFlight := by
  have hi := runBridge_induction ThrottleInv
    (fun _ _ a ha hd hs => throttleInv_step hd (fun e => hw (e ▸ ha)) (fun e => hr (e ▸ ha)) hs)
    (throttleInv_accept m t₀) h
  exact ⟨hi.fifo, hi.passed⟩

theorem writer_throttles_maps_at_take_backlog :
    let acts : List BridgeAction := [.hubBroadcast ⟨"map", "1"⟩, .writerTake, .advance 100,
      .hubBroadcast ⟨"map", "1"⟩, .advance 500, .writerWrite true, .writerTake,
      .writerWrite true]
    ∃ b, runBridge (accept newManager 0) acts = some b ∧ .writerWrite false ∉ acts ∧
      .readerFail ∉ acts ∧ b.taken.map (·.1) ++ b.queue = b.arrived.map (·.1) ∧
      (throttleSpec [] b.taken).map (·.1) = b.forwarded ++ b.writer.inFlight := by
  intro acts
  have hw : .writerWrite false ∉ acts := by simp [acts]
  have hr : .readerFail ∉ acts := by simp [acts]
  exact ⟨_, rfl, hw, hr, writer_throttles_maps_at_take newManager 0 acts _ rfl hw hr⟩

/-- The throttle does not read arrival times: a map queued 100 ms after the last map taken,
while that one is still being written, is taken 600 ms after it and written. -/
theorem map_throttle_not_by_arrival :
    ¬ ∀ (acts : List BridgeAction) (b : Bridge), runBridge (accept newManager 0) acts = some b →
        .writerWrite false ∉ acts → .readerFail ∉ acts → b.queue = [] → b.writer = .idle →
        b.forwarded = (throttleSpec [] b.arrived).map (·.1) := by
  intro h
  have := h [.hubBroadcast ⟨"map", "1"⟩, .writerTake, .advance 100, .hubBroadcast ⟨"map", "1"⟩,
    .advance 500, .writerWrite true, .writerTake, .writerWrite true] _ rfl (by simp) (by simp)
    rfl rfl
  exact absurd this (by decide)

end RosbridgeFleet.BridgeModel
