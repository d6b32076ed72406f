import RosbridgeFleet.Teleop
import RosbridgeFleet.BridgeModel
import RosbridgeFleet.LinkCmdVel
import RosbridgeFleet.RobotApi

set_option autoImplicit false

/-! From the drive pad to the robot's cmd_vel: `websocket.js`'s frame, the handler's decode,
`handleWSCommand` and `Robot.SetVelocity`, in the order the socket delivers the frames. -/

namespace RosbridgeFleet.DrivePath
open GoBasics RegistryModel BridgeModel LinkCmdVel Teleop RobotApi

/-- The object `WS.sendJoystick` and `WS.sendStop` hand to `JSON.stringify`. -/
def driveFrame : DriveCmd → JsonValue
  | .joystick lx az => .object [("type", .string "joystick"),
      ("data", .object [("linear_x", .float lx), ("angular_z", .float az)])]
  | .stop => .object [("type", .string "stop")]

def decodeWSCommand (frame : JsonValue) : Option WSCommand := do
  let fs ← objectFields (some frame)
  return ⟨← stringField fs "type", ← stringField fs "robot_id", fieldOf fs "data"⟩

/-- The `TwistData` that `Robot.SetVelocity` builds: the speeds scaled by the robot's ratios. -/
def velocityTwist (r : Robot) (linearX angularZ : ℚ) : TwistData :=
  { TwistData.zero with
    linearX := .finite linearX * r.linearVelRatio, angularZ := .finite angularZ * r.angularVelRatio }

def setVelocity (r : Robot) (c : CmdVel) (linearX angularZ : ℚ) : CmdVel :=
  LinkCmdVel.step c (.setDesiredCmdVel (velocityTwist r linearX angularZ))

structure DriveServer where
  manager : Manager
  links : String → CmdVel

/-- The reader's turn on one text frame: a frame that does not decode is skipped; otherwise
`handleWSCommand` runs and its `setVelocity` effect reaches the robot's client. The other
effects act on the connection or the socket, which `LinkModel` and `BridgeModel` follow. -/
def serveFrame (s : DriveServer) (frame : JsonValue) : DriveServer :=
  match decodeWSCommand frame with
  | none => s
  | some cmd =>
    let h := handleWSCommand s.manager cmd
    match h.effect with
    | some (.setVelocity id lx az) =>
      match getRobot s.manager id with
      | some r => ⟨h.manager, Function.update s.links id (setVelocity r (s.links id) lx az)⟩
      | none => ⟨h.manager, s.links⟩
    | _ => ⟨h.manager, s.links⟩

def serveFrames (s : DriveServer) (frames : List JsonValue) : DriveServer :=
  frames.foldl serveFrame s

def speeds : DriveCmd → ℚ × ℚ
  | .joystick lx az => (lx, az)
  | .stop => (0, 0)

theorem getRobot_current {m : Manager} {r : Robot} (hr : getCurrentRobot m = some r) :
    getRobot m m.currentID = some r := by
  unfold getCurrentRobot at hr
  split_ifs at hr
  exact hr

theorem decodeWSCommand_object {fs : List (String × JsonValue)} {type robotID : String}
    (ht : stringField fs "type" = some type) (hid : stringField fs "robot_id" = some robotID) :
    decodeWSCommand (.object fs) = some ⟨type, robotID, fieldOf fs "data"⟩ := by
  simp only [decodeWSCommand, objectFields, bind, Option.bind, ht, hid]
  rfl

theorem stringField_absent {fs : List (String × JsonValue)} {name : String} (h : Lacks fs name) :
    stringField fs name = some "" := by
  simp only [stringField, fieldOf_eq_none h]

theorem decodeJoystick_fields {fs : List (String × JsonValue)} {lx az : ℚ}
    (hx : floatField fs "linear_x" = some lx) (hz : floatField fs "angular_z" = some az) :
    decodeJoystick (some (.object fs)) = some (lx, az) := by
  simp only [decodeJoystick, objectFields, bind, Option.bind, pure, hx, hz]

theorem targetRobot_current {m : Manager} {r : Robot} (hr : getCurrentRobot m = some r)
    (type : String) (data : Option JsonValue) :
    targetRobot m ⟨type, "", data⟩ = some m.currentID := by
  simp [targetRobot, getRobot_current hr]

theorem decodeWSCommand_typed_data (type : String) (data : JsonValue) :
    decodeWSCommand (.object [("type", .string type), ("data", data)]) =
      some ⟨type, "", some data⟩ := by
  have hk : KeysDistinct [("type", JsonValue.string type), ("data", data)] := by
    unfold KeysDistinct; simp only [List.map, foldName_eq]; decide
  have hid : Lacks [("type", JsonValue.string type), ("data", data)] "robot_id" := by
    unfold Lacks; simp only [List.map, foldName_eq]; decide
  rw [decodeWSCommand_object (stringField_of_mem hk (List.mem_cons_self _ _))
    (stringField_absent hid),
    fieldOf_of_mem hk (List.mem_cons_of_mem _ (List.mem_singleton_self _))]

theorem decodeWSCommand_typed (type : String) :
    decodeWSCommand (.object [("type", .string type)]) = some ⟨type, "", none⟩ := by
  have hid : Lacks [("type", JsonValue.string type)] "robot_id" := by
    unfold Lacks; simp only [List.map, foldName_eq]; decide
  have hdata : Lacks [("type", JsonValue.string type)] "data" := by
    unfold Lacks; simp only [List.map, foldName_eq]; decide
  rw [decodeWSCommand_object (stringField_of_mem (keysDistinct_singleton _)
    (List.mem_singleton_self _)) (stringField_absent hid), fieldOf_eq_none hdata]

theorem decodeJoystick_object (lx az : ℚ) :
    decodeJoystick (some (.object [("linear_x", .float lx), ("angular_z", .float az)])) =
      some (lx, az) := by
  have hd : KeysDistinct [("linear_x", JsonValue.float lx), ("angular_z", .float az)] := by
    unfold KeysDistinct; simp only [List.map, foldName_eq]; decide
  exact decodeJoystick_fields (floatField_of_mem hd (List.mem_cons_self _ _))
    (floatField_of_mem hd (List.mem_cons_of_mem _ (List.mem_singleton_self _)))

/-- Every drive frame reaches the current robot as a `SetVelocity` with the command's speeds,
and leaves the registry alone. -/
theorem handle_driveFrame {m : Manager} {r : Robot} (hr : getCurrentRobot m = some r)
    (c : DriveCmd) :
    (decodeWSCommand (driveFrame c)).map (handleWSCommand m) =
      some ⟨some (.setVelocity m.currentID (speeds c).1 (speeds c).2), m, []⟩ := by
  cases c with
  | joystick lx az =>
    rw [driveFrame, decodeWSCommand_typed_data]
    simp only [Option.map_some', handleWSCommand, decodeJoystick_object, targetRobot_current hr]
    rfl
  | stop =>
    rw [driveFrame, decodeWSCommand_typed]
    simp only [Option.map_some', handleWSCommand, targetRobot_current hr]
    rfl

theorem serveFrame_driveFrame {m : Manager} {r : Robot} (hr : getCurrentRobot m = some r)
    (links : String → CmdVel) (c : DriveCmd) :
    serveFrame ⟨m, links⟩ (driveFrame c) = ⟨m, Function.update links m.currentID
      { links m.currentID with desiredTwist := velocityTwist r (speeds c).1 (speeds c).2 }⟩ := by
  obtain ⟨cmd, hdec, hh⟩ := Option.map_eq_some'.mp (handle_driveFrame hr c)
  simp only [serveFrame, hdec, hh, getRobot_current hr]
  rfl

theorem serveFrames_driveFrames {m : Manager} {r : Robot} (hr : getCurrentRobot m = some r)
    (links : String → CmdVel) (cs : List DriveCmd) :
    serveFrames ⟨m, links⟩ (cs.map driveFrame) = match cs.getLast? with
      | none => ⟨m, links⟩
      | some c => ⟨m, Function.update links m.currentID
          { links m.currentID with desiredTwist := velocityTwist r (speeds c).1 (speeds c).2 }⟩ := by
  induction cs generalizing links with
  | nil => rfl
  | cons c cs ih =>
    rw [List.map_cons, serveFrames, List.foldl_cons, ← serveFrames, serveFrame_driveFrame hr, ih]
    cases h : cs.getLast? with
    | none => simp only [List.getLast?_cons, h, Option.getD_none]
    | some c' =>
      simp only [List.getLast?_cons, h, Option.getD_some, Function.update_idem,
        Function.update_same]

/-- With finite ratios, a bounded command asks the robot for at most its ratios on the two
axes it drives, and for nothing on the others. -/
theorem velocityTwist_within_ratios {r : Robot} {a b : ℚ} (ha : r.linearVelRatio = .finite a)
    (hb : r.angularVelRatio = .finite b) {c : DriveCmd} (hc : Bounded c) :
    ∃ x z : ℚ, velocityTwist r (speeds c).1 (speeds c).2 = ⟨.finite x, 0, 0, 0, 0, .finite z⟩ ∧
      |x| ≤ |a| ∧ |z| ≤ |b| := by
  have hunit : |(speeds c).1| ≤ 1 ∧ |(speeds c).2| ≤ 1 := by
    cases c with
    | joystick lx az => exact ⟨abs_le.mpr ⟨hc.1, hc.2.1⟩, abs_le.mpr ⟨hc.2.2.1, hc.2.2.2⟩⟩
    | stop => simp [speeds]
  refine ⟨(speeds c).1 * a, (speeds c).2 * b, ?_, ?_, ?_⟩
  · simp only [velocityTwist, ha, hb, GoFloat.finite_mul_finite]; rfl
  · rw [abs_mul]; exact mul_le_of_le_one_left (abs_nonneg _) hunit.1
  · rw [abs_mul]; exact mul_le_of_le_one_left (abs_nonneg _) hunit.2

/-- Whatever the operator does, the desired twist the server holds for a current robot with
finite ratios, after the page's drive frames, is the one it held before, or one that asks
for at most the ratios on linear x and angular z and for nothing on the other four axes. -/
theorem served_twist_within_ratios (sqrt : ℚ → ℚ) (evs : List DeskEvent)
    {m : Manager} {r : Robot} (hr : getCurrentRobot m = some r) (links : String → CmdVel)
    {a b : ℚ} (ha : r.linearVelRatio = .finite a) (hb : r.angularVelRatio = .finite b) :
    let t := ((serveFrames ⟨m, links⟩ ((runDesk sqrt initDesk evs).page.sent.map
      driveFrame)).links m.currentID).desiredTwist
    t = (links m.currentID).desiredTwist ∨
      ∃ x z : ℚ, t = ⟨.finite x, 0, 0, 0, 0, .finite z⟩ ∧ |x| ≤ |a| ∧ |z| ≤ |b| := by
  rw [serveFrames_driveFrames hr]
  cases h : (runDesk sqrt initDesk evs).page.sent.getLast? with
  | none => exact .inl rfl
  | some c =>
    have hc := (controlsInv_runDesk sqrt controlsInv_init evs).bounded c
      (List.mem_of_getLast?_eq_some h)
    simp only [Function.update_same]
    exact .inr (velocityTwist_within_ratios ha hb hc)

theorem served_twist_within_ratios_after_drive :
    let r := newRobot "1" "/r1" "r1" "10.0.0.1" 9090
    let m : Manager := ⟨(∅ : AList fun _ : String => Robot).insert "1" r, "1", 2⟩
    let evs : List DeskEvent := [.press (.letter 22) "BODY", .knob (.start 90 40), .knob .tick]
    getCurrentRobot m = some r ∧ r.linearVelRatio = .finite 1 ∧ r.angularVelRatio = .finite 1 ∧
      let t := ((serveFrames ⟨m, newCmdVel⟩ ((runDesk (fun _ => 0) initDesk evs).page.sent.map
        driveFrame)).links m.currentID).desiredTwist
      t = (newCmdVel m.currentID).desiredTwist ∨
        ∃ x z : ℚ, t = ⟨.finite x, 0, 0, 0, 0, .finite z⟩ ∧ |x| ≤ |1| ∧ |z| ≤ |1| := by
  intro r m evs
  have hr : getCurrentRobot m = some r := rfl
  have ha : r.linearVelRatio = .finite 1 := congrArg GoFloat.finite (by norm_num)
  have hb : r.angularVelRatio = .finite 1 := congrArg GoFloat.finite (by norm_num)
  exact ⟨hr, ha, hb, served_twist_within_ratios _ evs hr _ ha hb⟩

end RosbridgeFleet.DrivePath
