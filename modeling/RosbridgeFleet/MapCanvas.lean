import RosbridgeFleet.LinkTF
import RosbridgeFleet.LinkTopics

set_option autoImplicit false

/-! The browser's map canvas (`static/js/map_canvas.js`, `app.js`). JavaScript numbers are
rationals, a division by zero is `0`, and `Math.sqrt` is a parameter. -/

namespace RosbridgeFleet.MapCanvas
open GoBasics LinkTF LinkTopics

def jsTruthy : Option JsonValue → Bool
  | none | some .null => false
  | some (.bool b) => b
  | some (.number n) => n.value != 0
  | some (.string s) => s != ""
  | some (.array _) | some (.object _) => true

def jsOr (a : Option JsonValue) (b : JsonValue) : JsonValue :=
  match a with
  | some v => if jsTruthy (some v) then v else b
  | none => b

/-- `v.k` on what `JSON.parse` built: the last member named `k`, case-sensitively. -/
def jsProp : JsonValue → String → Option JsonValue
  | .object fs, k => ((fs.filter (·.1 == k)).getLast?).map (·.2)
  | _, _ => none

structure Pose2D where
  x : ℚ
  y : ℚ
  theta : ℚ
  deriving DecidableEq, Repr

def broadcastJson (type robotID : String) (data : JsonValue) : JsonValue :=
  .object [("type", .string type), ("robot_id", .string robotID), ("data", data)]

def Pose2D.toJson (p : Pose2D) : JsonValue :=
  .object [("x", .float p.x), ("y", .float p.y), ("theta", .float p.theta)]

def tfDataJson (d : TFData) : JsonValue :=
  .object [("map_odom_tx", .float d.mapOdomTx), ("map_odom_ty", .float d.mapOdomTy),
    ("map_odom_tz", .float d.mapOdomTz), ("map_odom_rx", .float d.mapOdomRx),
    ("map_odom_ry", .float d.mapOdomRy), ("map_odom_rz", .float d.mapOdomRz),
    ("map_odom_rw", .float d.mapOdomRw), ("bfp_tx", .float d.bfpTx), ("bfp_ty", .float d.bfpTy),
    ("bfp_tz", .float d.bfpTz), ("bfp_rx", .float d.bfpRx), ("bfp_ry", .float d.bfpRy),
    ("bfp_rz", .float d.bfpRz), ("bfp_rw", .float d.bfpRw), ("bfp_yaw", .float d.bfpYaw)]

structure RobotPose where
  x : JsonValue
  y : JsonValue
  theta : JsonValue

/-- `updateRobotPose(tf)`: `tf` is how the argument's properties read, `none` a falsy
argument, which leaves the pose as it was. -/
def updateRobotPose (pose : Option RobotPose) (tf : Option (String → Option JsonValue)) :
    Option RobotPose :=
  match tf with
  | none => pose
  | some get => some ⟨jsOr (get "x") (.float 0), jsOr (get "y") (.float 0),
      jsOr (get "yaw") (.float 0)⟩

def onTF (pose : Option RobotPose) (msg : JsonValue) : Option RobotPose :=
  let d := jsProp msg "data"
  updateRobotPose pose (if jsTruthy d then some fun k => d.bind (jsProp · k) else none)

def onMapBfp (pose : Option RobotPose) (msg : JsonValue) : Option RobotPose :=
  let d := jsProp msg "data"
  let get (k : String) : Option JsonValue := d.bind (jsProp · k)
  if jsTruthy d then
    updateRobotPose pose (some fun k =>
      if k = "x" then get "x" else if k = "y" then get "y" else if k = "yaw" then get "theta"
      else none)
  else pose

/-- `ws.onmessage` as far as the pose goes: the `tf` and `map_bfp` handlers move it, and no
other handler touches it. -/
def onMessage (pose : Option RobotPose) (msg : JsonValue) : Option RobotPose :=
  match jsProp msg "type" with
  | some (.string "tf") => onTF pose msg
  | some (.string "map_bfp") => onMapBfp pose msg
  | _ => pose

theorem onMessage_tf (pose : Option RobotPose) (id : String) (d : TFData) :
    onMessage pose (broadcastJson "tf" id (tfDataJson d)) =
      some ⟨.float 0, .float 0, .float 0⟩ :=
  rfl

/-- The browser does not keep the pose the server sends: a `tf` event carrying a robot at
`bfp_tx = 1` draws it at the origin. -/
theorem tf_event_pose_not_decoded :
    ¬ ((∀ (id : String) (p : Pose2D) (pose : Option RobotPose),
          onMessage pose (broadcastJson "map_bfp" id p.toJson) =
            some ⟨.float p.x, .float p.y, .float p.theta⟩) ∧
        ∀ (id : String) (d : TFData) (pose : Option RobotPose),
          onMessage pose (broadcastJson "tf" id (tfDataJson d)) =
            some ⟨.float d.bfpTx, .float d.bfpTy, .float d.bfpYaw⟩) := by
  rintro ⟨-, h⟩
  have := (h "1" { TFData.zero with bfpTx := 1 } none).symm.trans (onMessage_tf none "1" _)
  simp at this

structure MapInfo where
  width : ℚ
  height : ℚ
  resolution : ℚ
  originX : ℚ
  originY : ℚ
  deriving DecidableEq, Repr

/-- The canvas size, `mapInfo`, the view transform, the drag and pinch state, and
`placementMode`. -/
structure Canvas where
  width : Nat
  height : Nat
  mapInfo : Option MapInfo
  viewX : ℚ
  viewY : ℚ
  viewScale : ℚ
  isDragging : Bool
  dragStartX : ℚ
  dragStartY : ℚ
  lastTouchDist : ℚ
  placementMode : Option String
  deriving DecidableEq, Repr

def initCanvas (w h : Nat) : Canvas := ⟨w, h, none, 0, 0, 1, false, 0, 0, 0, none⟩

def Canvas.placing (c : Canvas) : Bool :=
  match c.placementMode with
  | some m => m != ""
  | none => false

def autoFit (c : Canvas) : Canvas :=
  match c.mapInfo with
  | none => c
  | some mi =>
    let scale := min ((c.width : ℚ) / mi.width) ((c.height : ℚ) / mi.height) * (9 / 10)
    { c with viewScale := scale, viewX := ((c.width : ℚ) - mi.width * scale) / 2,
             viewY := ((c.height : ℚ) - mi.height * scale) / 2 }

/-- `updateMap(mapData)` for the `MapData` the server sends: a zero width or height is
ignored, a zero resolution becomes `0.05`, and the first map fits the view. -/
def updateMap (c : Canvas) (m : MapData) : Canvas :=
  if m.width.toInt = 0 ∨ m.height.toInt = 0 then c
  else
    let c := { c with mapInfo := some ⟨m.width.toInt, m.height.toInt,
      if m.resolution ≠ 0 then m.resolution else 1 / 20, m.originX, m.originY⟩ }
    if c.viewScale = 1 ∧ c.viewX = 0 ∧ c.viewY = 0 then autoFit c else c

def worldToMap (c : Canvas) (w : ℚ × ℚ) : ℚ × ℚ :=
  match c.mapInfo with
  | none => (0, 0)
  | some mi => ((w.1 - mi.originX) / mi.resolution, mi.height - (w.2 - mi.originY) / mi.resolution)

def mapToWorld (c : Canvas) (p : ℚ × ℚ) : ℚ × ℚ :=
  match c.mapInfo with
  | none => (0, 0)
  | some mi => (p.1 * mi.resolution + mi.originX, (mi.height - p.2) * mi.resolution + mi.originY)

def screenToMap (c : Canvas) (s : ℚ × ℚ) : ℚ × ℚ :=
  ((s.1 - c.viewX) / c.viewScale, (s.2 - c.viewY) / c.viewScale)

/-- Where `render` draws world point `w`: `worldToMap` under `translate(viewX, viewY)` and
`scale(viewScale)`. -/
def drawnAt (c : Canvas) (w : ℚ × ℚ) : ℚ × ℚ :=
  (c.viewX + c.viewScale * (worldToMap c w).1, c.viewY + c.viewScale * (worldToMap c w).2)

/-- `onClick` at canvas point `s`: the world point it records, in placement mode with a map. -/
def onClick (c : Canvas) (s : ℚ × ℚ) : Option (ℚ × ℚ) :=
  if c.placing ∧ c.mapInfo.isSome then some (mapToWorld c (screenToMap c s)) else none

inductive CanvasAction
  | resize (w h : Nat)
  | updateMap (m : MapData)
  | autoFit
  | resetView
  | mouseDown (x y : ℚ)
  | mouseMove (x y : ℚ)
  | mouseUp
  | wheel (deltaY x y : ℚ)
  | touchStart (touches : List (ℚ × ℚ))
  | touchMove (touches : List (ℚ × ℚ))
  | touchEnd
  | zoomIn
  | zoomOut
  | setPlacementMode (mode : Option String)

section Events

variable (sqrt : ℚ → ℚ)

def getTouchDist (t₀ t₁ : ℚ × ℚ) : ℚ :=
  sqrt ((t₀.1 - t₁.1) * (t₀.1 - t₁.1) + (t₀.2 - t₁.2) * (t₀.2 - t₁.2))

def zoomAbout (c : Canvas) (x y factor : ℚ) : Canvas :=
  { c with viewX := x - (x - c.viewX) * factor, viewY := y - (y - c.viewY) * factor,
           viewScale := c.viewScale * factor }

def step (c : Canvas) : CanvasAction → Canvas
  | .resize w h => { c with width := w, height := h }
  | .updateMap m => updateMap c m
  | .autoFit | .resetView => autoFit c
  | .mouseDown x y =>
    if c.placing then c
    else { c with isDragging := true, dragStartX := x - c.viewX, dragStartY := y - c.viewY }
  | .mouseMove x y =>
    if c.isDragging then { c with viewX := x - c.dragStartX, viewY := y - c.dragStartY } else c
  | .mouseUp | .touchEnd => { c with isDragging := false }
  | .wheel deltaY x y => zoomAbout c x y (if deltaY < 0 then 11 / 10 else 9 / 10)
  | .touchStart touches =>
    match touches with
    | [t] =>
      if c.placing then c
      else { c with isDragging := true, dragStartX := t.1 - c.viewX, dragStartY := t.2 - c.viewY }
    | [t₀, t₁] => { c with isDragging := false, lastTouchDist := getTouchDist sqrt t₀ t₁ }
    | _ => c
  | .touchMove touches =>
    match touches with
    | [t] =>
      if c.isDragging then { c with viewX := t.1 - c.dragStartX, viewY := t.2 - c.dragStartY }
      else c
    | [t₀, t₁] =>
      let dist := getTouchDist sqrt t₀ t₁
      { zoomAbout c ((t₀.1 + t₁.1) / 2) ((t₀.2 + t₁.2) / 2) (dist / c.lastTouchDist) with
        lastTouchDist := dist }
    | _ => c
  | .zoomIn => { c with viewScale := c.viewScale * (6 / 5) }
  | .zoomOut => { c with viewScale := c.viewScale / (6 / 5) }
  | .setPlacementMode mode => { c with placementMode := mode }

def runCanvas (c : Canvas) (acts : List CanvasAction) : Canvas := acts.foldl (step sqrt) c

end Events

@[simp] theorem autoFit_mapInfo (c : Canvas) : (autoFit c).mapInfo = c.mapInfo := by
  unfold autoFit; split <;> rfl

/-- A loaded map has a nonzero resolution: `updateMap` turns a zero into `0.05`. -/
def ResolutionSet (c : Canvas) : Prop := ∀ mi, c.mapInfo = some mi → mi.resolution ≠ 0

theorem ResolutionSet.updateMap {c : Canvas} (hr : ResolutionSet c) (m : MapData) :
    ResolutionSet (updateMap c m) := by
  intro mi hmi
  unfold MapCanvas.updateMap at hmi
  by_cases hz : m.width.toInt = 0 ∨ m.height.toInt = 0
  · rw [if_pos hz] at hmi; exact hr mi hmi
  · rw [if_neg hz, apply_ite Canvas.mapInfo, autoFit_mapInfo, ite_self, Option.some.injEq] at hmi
    subst hmi
    dsimp only
    split_ifs with h
    · exact h
    · norm_num

theorem ResolutionSet.step (sqrt : ℚ → ℚ) {c : Canvas} (hr : ResolutionSet c) (a : CanvasAction) :
    ResolutionSet (step sqrt c a) := by
  cases a with
  | updateMap m => exact hr.updateMap m
  | autoFit | resetView => intro mi; rw [MapCanvas.step, autoFit_mapInfo]; exact hr mi
  | touchStart ts | touchMove ts =>
    simp only [MapCanvas.step]
    split
    · split_ifs <;> exact hr
    · exact hr
    · exact hr
  | mouseDown | mouseMove => simp only [MapCanvas.step]; split_ifs <;> exact hr
  | _ => exact hr

theorem resolutionSet_run (sqrt : ℚ → ℚ) (acts : List CanvasAction) :
    ∀ c, ResolutionSet c → ResolutionSet (runCanvas sqrt c acts) := by
  induction acts with
  | nil => exact fun _ hr => hr
  | cons a acts ih => exact fun c hr => ih _ (hr.step sqrt a)

theorem mapToWorld_worldToMap {c : Canvas} {mi : MapInfo} (hc : c.mapInfo = some mi)
    (hr : mi.resolution ≠ 0) (w : ℚ × ℚ) : mapToWorld c (worldToMap c w) = w := by
  simp only [mapToWorld, worldToMap, hc, sub_sub_cancel, div_mul_cancel₀ _ hr, sub_add_cancel]

theorem worldToMap_mapToWorld {c : Canvas} {mi : MapInfo} (hc : c.mapInfo = some mi)
    (hr : mi.resolution ≠ 0) (p : ℚ × ℚ) : worldToMap c (mapToWorld c p) = p := by
  simp only [mapToWorld, worldToMap, hc, add_sub_cancel_right, mul_div_cancel_right₀ _ hr,
    sub_sub_cancel]

theorem drawnAt_screenToMap {c : Canvas} {mi : MapInfo} (hc : c.mapInfo = some mi)
    (hr : mi.resolution ≠ 0) (hs : c.viewScale ≠ 0) (s : ℚ × ℚ) :
    drawnAt c (mapToWorld c (screenToMap c s)) = s := by
  simp only [drawnAt, worldToMap_mapToWorld hc hr, screenToMap, mul_div_cancel₀ _ hs, add_sub_cancel]

/-- With a map loaded and a nonzero scale, placement and drawing agree: a click at `s`
records the world point drawn at `s`, and `mapToWorld` undoes `worldToMap`. -/
theorem placement_agrees_with_drawing (sqrt : ℚ → ℚ) (w h : Nat) (acts : List CanvasAction)
    (hm : (runCanvas sqrt (initCanvas w h) acts).mapInfo.isSome)
    (hs : (runCanvas sqrt (initCanvas w h) acts).viewScale ≠ 0) :
    (∀ s, drawnAt (runCanvas sqrt (initCanvas w h) acts)
        (mapToWorld (runCanvas sqrt (initCanvas w h) acts)
          (screenToMap (runCanvas sqrt (initCanvas w h) acts) s)) = s) ∧
      ∀ wp, mapToWorld (runCanvas sqrt (initCanvas w h) acts)
        (worldToMap (runCanvas sqrt (initCanvas w h) acts) wp) = wp := by
  obtain ⟨mi, hmi⟩ := Option.isSome_iff_exists.mp hm
  have hr := resolutionSet_run sqrt acts _ (fun _ h => by cases h) mi hmi
  exact ⟨drawnAt_screenToMap hmi hr hs, mapToWorld_worldToMap hmi hr⟩

theorem updateMap_initCanvas (w h : Nat) (m : MapData) (hw : m.width.toInt ≠ 0)
    (hh : m.height.toInt ≠ 0) :
    (updateMap (initCanvas w h) m).viewScale =
        min ((w : ℚ) / m.width.toInt) ((h : ℚ) / m.height.toInt) * (9 / 10) ∧
      (updateMap (initCanvas w h) m).viewX =
        ((w : ℚ) - m.width.toInt * (updateMap (initCanvas w h) m).viewScale) / 2 ∧
      (updateMap (initCanvas w h) m).viewY =
        ((h : ℚ) - m.height.toInt * (updateMap (initCanvas w h) m).viewScale) / 2 := by
  simp [updateMap, initCanvas, autoFit, hw, hh]

theorem placement_agrees_with_drawing_fitted_map :
    let acts : List CanvasAction := [.updateMap ⟨100, 100, 1 / 20, 0, 0, []⟩]
    (runCanvas (fun _ => 0) (initCanvas 800 600) acts).mapInfo.isSome ∧
      (runCanvas (fun _ => 0) (initCanvas 800 600) acts).viewScale ≠ 0 ∧
      (∀ s, drawnAt (runCanvas (fun _ => 0) (initCanvas 800 600) acts)
          (mapToWorld (runCanvas (fun _ => 0) (initCanvas 800 600) acts)
            (screenToMap (runCanvas (fun _ => 0) (initCanvas 800 600) acts) s)) = s) ∧
        ∀ wp, mapToWorld (runCanvas (fun _ => 0) (initCanvas 800 600) acts)
          (worldToMap (runCanvas (fun _ => 0) (initCanvas 800 600) acts) wp) = wp := by
  intro acts
  have hm : (runCanvas (fun _ => 0) (initCanvas 800 600) acts).mapInfo.isSome := rfl
  have hs : (runCanvas (fun _ => 0) (initCanvas 800 600) acts).viewScale ≠ 0 := by
    show (updateMap (initCanvas 800 600) ⟨100, 100, 1 / 20, 0, 0, []⟩).viewScale ≠ 0
    rw [(updateMap_initCanvas 800 600 _ (by decide) (by decide)).1,
      show (100 : BitVec 64).toInt = 100 from rfl]
    norm_num [min_def]
  exact ⟨hm, hs, placement_agrees_with_drawing _ 800 600 acts hm hs⟩

theorem drawnAt_of_viewScale_zero {c : Canvas} (hc : c.viewScale = 0) (w : ℚ × ℚ) :
    drawnAt c w = (c.viewX, c.viewY) := by
  simp [drawnAt, hc]

/-- A click need not be drawn where it was made: on a canvas laid out with zero width,
loading a map fits the view to scale `0`, and every world point, the clicked one included,
is then drawn at `(viewX, viewY)`. This holds whatever `Math.sqrt` is, since no pinch is
made. -/
theorem click_not_drawn_at_click_point (sqrt : ℚ → ℚ) :
    ¬ ∀ (w h : Nat) (acts : List CanvasAction),
        (∀ s, drawnAt (runCanvas sqrt (initCanvas w h) acts)
          (mapToWorld (runCanvas sqrt (initCanvas w h) acts)
            (screenToMap (runCanvas sqrt (initCanvas w h) acts) s)) = s) ∧
        ∀ wp, mapToWorld (runCanvas sqrt (initCanvas w h) acts)
          (worldToMap (runCanvas sqrt (initCanvas w h) acts) wp) = wp := by
  intro hc
  let m : MapData := ⟨100, 100, 1 / 20, 0, 0, []⟩
  have h100 : (100 : BitVec 64).toInt = 100 := rfl
  obtain ⟨hs, hx, hy⟩ := updateMap_initCanvas 0 600 m (by decide) (by decide)
  have hs0 : (updateMap (initCanvas 0 600) m).viewScale = 0 := by
    rw [hs, h100]; norm_num
  have := (hc 0 600 [.updateMap m]).1 (10, 10)
  change drawnAt (updateMap (initCanvas 0 600) m) _ = _ at this
  rw [drawnAt_of_viewScale_zero hs0, hx, hy, hs0] at this
  norm_num at this

end RosbridgeFleet.MapCanvas
