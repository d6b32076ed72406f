import RosbridgeFleet.LinkCmdVel
import RosbridgeFleet.LinkModel
import RosbridgeFleet.RegistryModel
import Mathlib.Data.List.DropRight

set_option autoImplicit false

/-! A registered robot's callbacks: `OnConnected` and `OnDisconnected` from `AddRobot`, and
`NewRobot`'s `OnTwist`. Each write and its broadcast are separate steps. -/

namespace RosbridgeFleet.RobotCallbacks
open LinkModel RegistryModel

inductive CbPc
  | start
  | broadcast
  | finished
  deriving DecidableEq, Repr

structure Started where
  kind : Callback
  pc : CbPc
  deriving DecidableEq, Repr

def eventType : Callback → String
  | .onConnected => "robot_connected"
  | .onDisconnected => "robot_disconnected"

/-- One robot's link, the callbacks it started, `Robot.Connected`, and the connection
events broadcast for it under its id. -/
structure RobotLink where
  id : String
  client : Client
  callbacks : List Started
  connected : Bool
  sent : List BroadcastMsg
  deriving DecidableEq

def added (id : String) : RobotLink :=
  { id, client := newClient, callbacks := [], connected := false, sent := [] }

inductive RobotAction
  | link (a : Action)
  | callbackSet (i : Nat)
  | callbackBroadcast (i : Nat)

def step (r : RobotLink) : RobotAction → Option RobotLink
  | .link a =>
    (LinkModel.step r.client a).map fun (c, cbs) =>
      { r with client := c, callbacks := r.callbacks ++ cbs.map (⟨·, .start⟩) }
  | .callbackSet i =>
    match r.callbacks[i]? with
    | some ⟨k, .start⟩ =>
      some { r with connected := k == .onConnected,
                    callbacks := r.callbacks.set i ⟨k, .broadcast⟩ }
    | _ => none
  | .callbackBroadcast i =>
    match r.callbacks[i]? with
    | some ⟨k, .broadcast⟩ =>
      some { r with sent := r.sent ++ [⟨eventType k, r.id⟩],
                    callbacks := r.callbacks.set i ⟨k, .finished⟩ }
    | _ => none

def runRobot : RobotLink → List RobotAction → Option RobotLink
  | r, [] => some r
  | r, a :: as =>
    match step r a with
    | some r' => runRobot r' as
    | none => none

theorem runRobot_cons {r r' : RobotLink} {a : RobotAction} {as : List RobotAction}
    (h : runRobot r (a :: as) = some r') : ∃ r₁, step r a = some r₁ ∧ runRobot r₁ as = some r' := by
  simp only [runRobot] at h
  split at h
  · exact ⟨_, ‹_›, h⟩
  · cases h

theorem step_id {r r' : RobotLink} {a : RobotAction} (h : step r a = some r') : r'.id = r.id := by
  cases a with
  | link a =>
    obtain ⟨_, -, rfl⟩ := Option.map_eq_some'.mp h
    rfl
  | _ =>
    simp only [step] at h
    split at h
    · cases h; rfl
    · cases h

theorem runRobot_id {r r' : RobotLink} {acts : List RobotAction} (h : runRobot r acts = some r') :
    r'.id = r.id := by
  induction acts generalizing r with
  | nil => cases h; rfl
  | cons a acts ih =>
    obtain ⟨r₁, h₁, h₂⟩ := runRobot_cons h
    rw [ih h₂, step_id h₁]

/-- A `Connect` and a `Disconnect` start `OnConnected` and then `OnDisconnected`; the Go
scheduler runs the second first. With no callback pending, the robot reads connected and
its last event is `robot_connected`, while the link is down. -/
theorem callbacks_reorder_connected :
    ¬ ∀ (acts : List RobotAction) (r : RobotLink), runRobot (added "1") acts = some r →
        (∀ cb ∈ r.callbacks, cb.pc = .finished) →
        r.connected = r.client.connected ∧
          ∀ e ∈ r.sent.getLast?, e.type = eventType
            (if r.client.connected then .onConnected else .onDisconnected) := by
  intro h
  have := h [.link (.connect true), .link (.disconnect none), .callbackSet 1,
    .callbackBroadcast 1, .callbackSet 0, .callbackBroadcast 0] _ rfl (by decide)
  exact absurd this.1 (by decide)

def RobotAction.callbackIndex : RobotAction → Option Nat
  | .link _ => none
  | .callbackSet i | .callbackBroadcast i => some i

def firstPending (r : RobotLink) : Nat := r.callbacks.findIdx (·.pc != .finished)

/-- Whether every callback step of a run is taken by the oldest callback not yet finished:
the scheduler runs the callbacks one at a time, in the order the link started them. -/
def inOrder : RobotLink → List RobotAction → Bool
  | _, [] => true
  | r, a :: as =>
    a.callbackIndex.all (· == firstPending r) &&
      match step r a with
      | some r' => inOrder r' as
      | none => true

/-- Callbacks run in order: `fin` have finished, at most one (`mid`) has set `Connected`
and not yet broadcast, the others (`rest`) have not started. `Connected` was set by the
last one that started, and the events are those of the finished ones, in order. -/
structure Staged (r : RobotLink) (fin mid rest : List Started) : Prop where
  callbacks : r.callbacks = fin ++ (mid ++ rest)
  fin_done : ∀ cb ∈ fin, cb.pc = .finished
  mid_one : mid = [] ∨ ∃ k, mid = [⟨k, .broadcast⟩]
  rest_start : ∀ cb ∈ rest, cb.pc = .start
  connected : r.connected = ((fin ++ mid).getLast?.map (·.kind == .onConnected)).getD false
  sent : r.sent = fin.map fun cb => ⟨eventType cb.kind, r.id⟩

theorem firstPending_staged {r : RobotLink} {fin mid rest : List Started}
    (hs : Staged r fin mid rest) : firstPending r = fin.length := by
  have hfin : fin.findIdx (·.pc != .finished) = fin.length :=
    List.findIdx_eq_length.mpr fun cb hcb => by simp [hs.fin_done cb hcb]
  rw [firstPending, hs.callbacks, List.findIdx_append, hfin, if_neg (lt_irrefl _)]
  suffices (mid ++ rest).findIdx (·.pc != .finished) = 0 by omega
  rcases hs.mid_one with rfl | ⟨k, rfl⟩
  · cases rest with
    | nil => rfl
    | cons cb rest =>
      simp only [List.nil_append, List.findIdx_cons, hs.rest_start cb (List.mem_cons_self _ _)]
      rfl
  · simp only [List.singleton_append, List.findIdx_cons]
    rfl

theorem getElem?_firstPending {r : RobotLink} {fin mid rest : List Started}
    (hs : Staged r fin mid rest) : r.callbacks[firstPending r]? = (mid ++ rest).head? := by
  rw [firstPending_staged hs, hs.callbacks, List.getElem?_append_right (le_refl _), Nat.sub_self,
    List.head?_eq_getElem?]

theorem pending_staged {r : RobotLink} {fin mid rest : List Started} (hs : Staged r fin mid rest) :
    (mid = [] ∧ rest = []) ∨ (∃ k rest', mid = [] ∧ rest = ⟨k, .start⟩ :: rest') ∨
      ∃ k, mid = [⟨k, .broadcast⟩] := by
  rcases hs.mid_one with rfl | ⟨k, rfl⟩
  · obtain _ | ⟨⟨k, pc⟩, rest⟩ := rest
    · exact .inl ⟨rfl, rfl⟩
    · obtain rfl : pc = .start := hs.rest_start _ (List.mem_cons_self _ _)
      exact .inr (.inl ⟨k, rest, rfl, rfl⟩)
  · exact .inr (.inr ⟨k, rfl⟩)

theorem staged_step {r r' : RobotLink} {a : RobotAction} {fin mid rest : List Started}
    (h : step r a = some r') (hs : Staged r fin mid rest)
    (ho : a.callbackIndex.all (· == firstPending r) = true) :
    ∃ fin' mid' rest', Staged r' fin' mid' rest' := by
  cases a with
  | link a =>
    obtain ⟨⟨c, cbs⟩, -, rfl⟩ := Option.map_eq_some'.mp h
    refine ⟨fin, mid, rest ++ cbs.map (⟨·, .start⟩), ⟨by simp [hs.callbacks], hs.fin_done,
      hs.mid_one, fun cb hcb => ?_, hs.connected, hs.sent⟩⟩
    rcases List.mem_append.mp hcb with hcb | hcb
    · exact hs.rest_start cb hcb
    · obtain ⟨k, -, rfl⟩ := List.mem_map.mp hcb
      rfl
  | callbackSet i =>
    simp only [RobotAction.callbackIndex, Option.all_some, beq_iff_eq] at ho
    subst ho
    simp only [step, getElem?_firstPending hs] at h
    rcases pending_staged hs with ⟨rfl, rfl⟩ | ⟨k, rest, rfl, rfl⟩ | ⟨k, rfl⟩
    · simp at h
    · simp only [List.nil_append, List.head?_cons, Option.some.injEq] at h
      subst h
      refine ⟨fin, [⟨k, .broadcast⟩], rest, ⟨?_, hs.fin_done, .inr ⟨k, rfl⟩,
        fun cb hcb => hs.rest_start cb (List.mem_cons_of_mem _ hcb), by simp, hs.sent⟩⟩
      simp [hs.callbacks, firstPending_staged hs, List.set_append_right]
    · simp at h
  | callbackBroadcast i =>
    simp only [RobotAction.callbackIndex, Option.all_some, beq_iff_eq] at ho
    subst ho
    simp only [step, getElem?_firstPending hs] at h
    rcases pending_staged hs with ⟨rfl, rfl⟩ | ⟨k, rest, rfl, rfl⟩ | ⟨k, rfl⟩
    · simp at h
    · simp at h
    · simp only [List.singleton_append, List.head?_cons, Option.some.injEq] at h
      subst h
      refine ⟨fin ++ [⟨k, .finished⟩], [], rest, ⟨?_, fun cb hcb => ?_, .inl rfl, hs.rest_start,
        by simpa using hs.connected, by simp [hs.sent]⟩⟩
      · simp [hs.callbacks, firstPending_staged hs, List.set_append_right]
      · rcases List.mem_append.mp hcb with hcb | hcb
        · exact hs.fin_done cb hcb
        · rw [List.mem_singleton.mp hcb]

theorem staged_run {r r' : RobotLink} {acts : List RobotAction} {fin mid rest : List Started}
    (h : runRobot r acts = some r') (hs : Staged r fin mid rest) (ho : inOrder r acts = true) :
    ∃ fin' mid' rest', Staged r' fin' mid' rest' := by
  induction acts generalizing r fin mid rest with
  | nil => cases h; exact ⟨_, _, _, hs⟩
  | cons a acts ih =>
    obtain ⟨r₁, h₁, h₂⟩ := runRobot_cons h
    simp only [inOrder, h₁, Bool.and_eq_true] at ho
    obtain ⟨fin₁, mid₁, rest₁, hs₁⟩ := staged_step h₁ hs ho.1
    exact ih h₂ hs₁ ho.2

/-- If the scheduler runs a robot's connection callbacks one at a time in the order the link
started them, then once none is pending `Robot.Connected` is true exactly when the last
callback started was `OnConnected`, and the robot's events are one per callback, in that
order, under its id. -/
theorem in_order_callbacks_agree (id : String) (acts : List RobotAction) (r : RobotLink)
    (h : runRobot (added id) acts = some r) (hord : inOrder (added id) acts = true)
    (hdone : ∀ cb ∈ r.callbacks, cb.pc = .finished) :
    r.connected = (r.callbacks.getLast?.map (·.kind == .onConnected)).getD false ∧
      r.sent = r.callbacks.map fun cb => ⟨eventType cb.kind, id⟩ := by
  obtain ⟨fin, mid, rest, hs⟩ :=
    staged_run h (⟨rfl, by simp, .inl rfl, by simp, rfl, rfl⟩ : Staged (added id) [] [] []) hord
  obtain ⟨rfl, rfl⟩ : mid = [] ∧ rest = [] := by
    rcases pending_staged hs with hmr | ⟨k, rest, rfl, rfl⟩ | ⟨k, rfl⟩
    · exact hmr
    · cases hdone ⟨k, .start⟩ (by simp [hs.callbacks])
    · cases hdone ⟨k, .broadcast⟩ (by simp [hs.callbacks])
  have hc : r.callbacks = fin := by simpa using hs.callbacks
  rw [hc, hs.connected, hs.sent, runRobot_id h]
  simp [added]

theorem in_order_callbacks_agree_connect_disconnect :
    let acts : List RobotAction := [.link (.connect true), .link (.disconnect none),
      .callbackSet 0, .callbackBroadcast 0, .callbackSet 1, .callbackBroadcast 1]
    inOrder (added "1") acts = true ∧ ∃ r, runRobot (added "1") acts = some r ∧
      (∀ cb ∈ r.callbacks, cb.pc = .finished) ∧
      r.connected = (r.callbacks.getLast?.map (·.kind == .onConnected)).getD false ∧
        r.sent = r.callbacks.map fun cb => ⟨eventType cb.kind, "1"⟩ := by
  intro acts
  have hord : inOrder (added "1") acts = true := by decide
  exact ⟨hord, _, rfl, by decide, in_order_callbacks_agree "1" acts _ rfl hord (by decide)⟩

section History

open LinkCmdVel (TwistData)

/-- The fields of `Robot` that `OnTwist` writes and `GetVelocityHistory` reads. -/
structure TwistLog where
  velocity : TwistData
  velocityHistory : List TwistData
  maxHistory : Nat
  deriving DecidableEq, Repr

def newTwistLog : TwistLog := ⟨.zero, [], 100⟩

/-- The `OnTwist` callback `NewRobot` installs: append, then drop the oldest sample once the
history is longer than `MaxHistory`. -/
def onTwist (r : TwistLog) (t : TwistData) : TwistLog :=
  let h := r.velocityHistory ++ [t]
  { r with velocity := t, velocityHistory := if h.length > r.maxHistory then h.drop 1 else h }

def getVelocityHistory (r : TwistLog) : List TwistData := r.velocityHistory

theorem rtake_append_rtake {α : Type} (l ts : List α) (m : Nat) :
    (l.rtake m ++ ts).rtake m = (l ++ ts).rtake m := by
  simp only [List.rtake, ← List.drop_append_of_le_length (Nat.sub_le l.length m), List.drop_drop,
    List.length_append, List.length_drop]
  congr 1
  omega

theorem onTwist_history (r : TwistLog) (t : TwistData)
    (hl : r.velocityHistory.length ≤ r.maxHistory) :
    (onTwist r t).velocityHistory = (r.velocityHistory ++ [t]).rtake r.maxHistory := by
  simp only [onTwist, List.rtake, List.length_append, List.length_singleton]
  split_ifs with h
  · congr 1; omega
  · rw [Nat.sub_eq_zero_of_le (by omega), List.drop_zero]

theorem twistLog_run (samples : List TwistData) (r : TwistLog)
    (hl : r.velocityHistory.length ≤ r.maxHistory) :
    (samples.foldl onTwist r).velocityHistory = (r.velocityHistory ++ samples).rtake r.maxHistory := by
  induction samples generalizing r with
  | nil =>
    simp only [List.foldl_nil, List.append_nil, List.rtake, Nat.sub_eq_zero_of_le hl, List.drop_zero]
  | cons t ts ih =>
    have h₁ := onTwist_history r t hl
    have hl₁ : (onTwist r t).velocityHistory.length ≤ r.maxHistory := by
      rw [h₁, List.rtake, List.length_drop]; omega
    rw [List.foldl_cons, ih _ hl₁, h₁]
    exact (rtake_append_rtake _ ts _).trans (by rw [List.append_assoc, List.singleton_append])

/-- Over every stream of twists a new robot receives, `VelocityHistory` and the copy
`GetVelocityHistory` returns are the last `min n 100` samples, oldest first. -/
theorem velocity_history_is_last_hundred (samples : List TwistData) :
    (samples.foldl onTwist newTwistLog).velocityHistory = samples.rtake 100 ∧
      getVelocityHistory (samples.foldl onTwist newTwistLog) = samples.rtake 100 := by
  have h := twistLog_run samples newTwistLog (by decide)
  exact ⟨h, h⟩

end History

end RosbridgeFleet.RobotCallbacks
