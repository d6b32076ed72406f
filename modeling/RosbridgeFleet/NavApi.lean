import RosbridgeFleet.NavPoints
import RosbridgeFleet.GoBasics

set_option autoImplicit false

/-! The HTTP navigation-point API (`handlers/speech_api.go`) on the current robot.
`strconv.ParseFloat` is a parameter; the `HX-Request` branches are left out. -/

namespace RosbridgeFleet.NavApi
open GoBasics NavPoints

/-- The members `json.Marshal` writes for a `NavigationPoint`: each field under its tag. -/
def pointFields (p : NavigationPoint) : List (String × JsonValue) :=
  [("name", .string p.name), ("image_x_px", .float p.imageXPx),
    ("image_y_px", .float p.imageYPx), ("image_theta_deg", .float p.imageThetaDeg),
    ("world_x_m", .float p.worldXM), ("world_y_m", .float p.worldYM),
    ("world_theta_rad", .float p.worldThetaRad)]

def encodePoint (p : NavigationPoint) : JsonValue := .object (pointFields p)

def decodePoint (v : JsonValue) : Option NavigationPoint := do
  let fs ← objectFields (some v)
  return ⟨← stringField fs "name", ← floatField fs "image_x_px", ← floatField fs "image_y_px",
    ← floatField fs "image_theta_deg", ← floatField fs "world_x_m", ← floatField fs "world_y_m",
    ← floatField fs "world_theta_rad"⟩

def wallFields (w : WallObstacle) : List (String × JsonValue) :=
  [("image_x_px_start", .float w.imageXPxStart), ("image_y_px_start", .float w.imageYPxStart),
    ("image_x_px_end", .float w.imageXPxEnd), ("image_y_px_end", .float w.imageYPxEnd),
    ("world_x_m_start", .float w.worldXMStart), ("world_y_m_start", .float w.worldYMStart),
    ("world_x_m_end", .float w.worldXMEnd), ("world_y_m_end", .float w.worldYMEnd)]

def encodeWall (w : WallObstacle) : JsonValue := .object (wallFields w)

def decodeWall (v : JsonValue) : Option WallObstacle := do
  let fs ← objectFields (some v)
  return ⟨← floatField fs "image_x_px_start", ← floatField fs "image_y_px_start",
    ← floatField fs "image_x_px_end", ← floatField fs "image_y_px_end",
    ← floatField fs "world_x_m_start", ← floatField fs "world_y_m_start",
    ← floatField fs "world_x_m_end", ← floatField fs "world_y_m_end"⟩

def encodeList {α : Type} (enc : α → JsonValue) (xs : List α) : JsonValue := .array (xs.map enc)

/-- A slice as `json.Marshal` writes it: `nil` is `null`. -/
def encodeSlice {α : Type} (enc : α → JsonValue) : Option (List α) → JsonValue
  | none => .null
  | some xs => encodeList enc xs

/-- A slice field as `json.Unmarshal` leaves it: absent or `null` is `nil`, an array a slice. -/
def sliceField {α : Type} (dec : JsonValue → Option α) (fields : List (String × JsonValue))
    (name : String) : Option (Option (List α)) :=
  match fieldOf fields name with
  | none | some .null => some none
  | some (.array xs) => (xs.mapM dec).map some
  | some _ => none

theorem decodePoint_object {fs : List (String × JsonValue)} {name : String} {ix iy it wx wy wt : ℚ}
    (h₁ : stringField fs "name" = some name) (h₂ : floatField fs "image_x_px" = some ix)
    (h₃ : floatField fs "image_y_px" = some iy) (h₄ : floatField fs "image_theta_deg" = some it)
    (h₅ : floatField fs "world_x_m" = some wx) (h₆ : floatField fs "world_y_m" = some wy)
    (h₇ : floatField fs "world_theta_rad" = some wt) :
    decodePoint (.object fs) = some ⟨name, ix, iy, it, wx, wy, wt⟩ := by
  simp only [decodePoint, objectFields, bind, Option.bind, h₁, h₂, h₃, h₄, h₅, h₆, h₇]
  rfl

theorem decodePoint_encodePoint (p : NavigationPoint) : decodePoint (encodePoint p) = some p := by
  have hk : KeysDistinct (pointFields p) := by
    unfold KeysDistinct; simp only [pointFields, List.map, foldName_eq]; decide
  obtain ⟨h₁, h₂, h₃, h₄, h₅, h₆, h₇, -⟩ := by
    simpa only [pointFields, carries_cons] using carries_self (pointFields p)
  exact decodePoint_object (stringField_of_mem hk h₁) (floatField_of_mem hk h₂)
    (floatField_of_mem hk h₃) (floatField_of_mem hk h₄) (floatField_of_mem hk h₅)
    (floatField_of_mem hk h₆) (floatField_of_mem hk h₇)

theorem decodeWall_object {fs : List (String × JsonValue)} {a b c d e f g h : ℚ}
    (h₁ : floatField fs "image_x_px_start" = some a) (h₂ : floatField fs "image_y_px_start" = some b)
    (h₃ : floatField fs "image_x_px_end" = some c) (h₄ : floatField fs "image_y_px_end" = some d)
    (h₅ : floatField fs "world_x_m_start" = some e) (h₆ : floatField fs "world_y_m_start" = some f)
    (h₇ : floatField fs "world_x_m_end" = some g) (h₈ : floatField fs "world_y_m_end" = some h) :
    decodeWall (.object fs) = some ⟨a, b, c, d, e, f, g, h⟩ := by
  simp only [decodeWall, objectFields, bind, Option.bind, h₁, h₂, h₃, h₄, h₅, h₆, h₇, h₈]
  rfl

theorem decodeWall_encodeWall (w : WallObstacle) : decodeWall (encodeWall w) = some w := by
  have hk : KeysDistinct (wallFields w) := by
    unfold KeysDistinct; simp only [wallFields, List.map, foldName_eq]; decide
  obtain ⟨h₁, h₂, h₃, h₄, h₅, h₆, h₇, h₈, -⟩ := by
    simpa only [wallFields, carries_cons] using carries_self (wallFields w)
  exact decodeWall_object (floatField_of_mem hk h₁) (floatField_of_mem hk h₂)
    (floatField_of_mem hk h₃) (floatField_of_mem hk h₄) (floatField_of_mem hk h₅)
    (floatField_of_mem hk h₆) (floatField_of_mem hk h₇) (floatField_of_mem hk h₈)

theorem mapM_encodeList {α : Type} {enc : α → JsonValue} {dec : JsonValue → Option α}
    (h : ∀ x, dec (enc x) = some x) (xs : List α) : (xs.map enc).mapM dec = some xs := by
  induction xs with
  | nil => rfl
  | cons x xs ih => simp only [List.map_cons, List.mapM_cons, h, ih]; rfl

structure Response where
  status : Nat
  body : JsonValue

def jsonOK (v : JsonValue) : Response := ⟨200, v⟩

def jsonError (msg : String) (code : Nat) : Response := ⟨code, .object [("error", .string msg)]⟩

def statusOK (s : String) : Response := jsonOK (.object [("status", .string s)])

def addAndAppend (kind : PointKind) (r : NavRobot) (name : String) (x y theta : ℚ) :
    Except String NavRobot :=
  (kind.add r name x y theta).map fun r' => (appendAdding r').getD r'

section Handlers

variable (parseFloat : String → ℚ)

/-- The type switch of `AddNavigationPoint`: `none` for a type it does not know. -/
def addByType (rb : NavRobot) (form : String → String) : Option (Except String NavRobot) :=
  let name := form "name"
  let x := parseFloat (form "world_x")
  let y := parseFloat (form "world_y")
  match form "type" with
  | "wall" =>
    some (addWallObstacle rb name x y (parseFloat (form "world_x2")) (parseFloat (form "world_y2")))
  | t => (pointKindOf t).map fun k => addAndAppend k rb name x y (parseFloat (form "theta"))

def addNavigationPoint (current : Option NavRobot) (form : String → String) :
    Response × Option NavRobot :=
  match current with
  | none => (jsonError "no active robot" 400, current)
  | some rb =>
    match addByType parseFloat rb form with
    | none => (jsonError "invalid point type" 400, current)
    | some (.error e) => (jsonError e 400, current)
    | some (.ok rb') => (statusOK "added", some rb')

end Handlers

/-- `ListNavigationPoints`; `json.Marshal` writes a map's keys sorted. -/
def listNavigationPoints (current : Option NavRobot) (pointType : String) : Response :=
  match current with
  | none => jsonOK (.array [])
  | some rb =>
    jsonOK <| match pointType with
      | "wall" => encodeSlice encodeWall rb.wallObstacles
      | t =>
        match pointKindOf t with
        | some k => encodeSlice encodePoint (rb.get k)
        | none => .object [("path_points", encodeSlice encodePoint rb.pathPoints),
            ("patrol_points", encodeSlice encodePoint rb.patrolPoints),
            ("service_points", encodeSlice encodePoint rb.servicePoints),
            ("wall_obstacles", encodeSlice encodeWall rb.wallObstacles),
            ("waypoints", encodeSlice encodePoint rb.waypoints)]

def clearNavigationPoints (current : Option NavRobot) (pointType : String) :
    Response × Option NavRobot :=
  match current with
  | none => (jsonError "no active robot" 400, current)
  | some rb =>
    match pointType with
    | "wall" => (statusOK "cleared", some (clearWallObstacles rb))
    | t =>
      match pointKindOf t with
      | some k => (statusOK "cleared", some (k.clear rb))
      | none => (jsonError "invalid point type" 400, current)

/-- `DeleteNavPoint`: any type and name are answered `deleted`. -/
def deleteNavPoint (current : Option NavRobot) (pointType name : String) :
    Response × Option NavRobot :=
  match current with
  | none => (jsonError "no active robot" 400, current)
  | some rb => (statusOK "deleted", some (deletePoint rb pointType name))

def decodeImportPayload (v : JsonValue) :
    Option (String × Option (List NavigationPoint) × Option (List WallObstacle)) := do
  let fs ← objectFields (some v)
  return (← stringField fs "type", ← sliceField decodePoint fs "points",
    ← sliceField decodeWall fs "walls")

/-- `ImportNavPoints`; `body` is the first JSON value of the request body, `none` if it
has none. -/
def importNavPoints (current : Option NavRobot) (body : Option JsonValue) :
    Response × Option NavRobot :=
  match current with
  | none => (jsonError "no active robot" 400, current)
  | some rb =>
    match body.bind decodeImportPayload with
    | none => (jsonError "invalid JSON" 400, current)
    | some (t, points, walls) => (statusOK "imported", some (importPoints rb t points walls))

theorem set_set (r : NavRobot) (k : PointKind) (a b : Option (List NavigationPoint)) :
    (r.set k a).set k b = r.set k b := by
  cases k <;> rfl

theorem get_clearAdding (r : NavRobot) (k : PointKind) : { r with adding := none }.get k = r.get k := by
  cases k <;> rfl

theorem set_clearAdding (r : NavRobot) (k : PointKind) (pts : Option (List NavigationPoint)) :
    { r with adding := none }.set k pts = { r.set k pts with adding := none } := by
  cases k <;> rfl

theorem pointKindOf_ne_wall {t : String} {k : PointKind} (hk : pointKindOf t = some k) :
    t ≠ "wall" := by
  rintro rfl; cases hk

theorem importPoints_kind {t : String} {k : PointKind} (hk : pointKindOf t = some k)
    (r : NavRobot) (points : Option (List NavigationPoint)) (walls : Option (List WallObstacle)) :
    importPoints r t points walls = r.set k points := by
  unfold importPoints
  split
  · exact absurd rfl (pointKindOf_ne_wall hk)
  · rw [hk]

theorem listNavigationPoints_kind {t : String} {k : PointKind} (hk : pointKindOf t = some k)
    (rb : NavRobot) :
    listNavigationPoints (some rb) t = jsonOK (encodeSlice encodePoint (rb.get k)) := by
  unfold listNavigationPoints
  dsimp only
  split
  · exact absurd rfl (pointKindOf_ne_wall hk)
  · rw [hk]

theorem addByType_kind (parseFloat : String → ℚ) {form : String → String} {k : PointKind}
    (hk : pointKindOf (form "type") = some k) (rb : NavRobot) :
    addByType parseFloat rb form = some (addAndAppend k rb (form "name")
      (parseFloat (form "world_x")) (parseFloat (form "world_y")) (parseFloat (form "theta"))) := by
  unfold addByType
  dsimp only
  split
  · next h => exact absurd h (pointKindOf_ne_wall hk)
  · rw [hk, Option.map_some']

theorem sliceField_absent {α : Type} {dec : JsonValue → Option α} {fs : List (String × JsonValue)}
    {name : String} (h : Lacks fs name) : sliceField dec fs name = some none := by
  simp only [sliceField, fieldOf_eq_none h]

theorem sliceField_of_mem {α : Type} {dec : JsonValue → Option α} {fs : List (String × JsonValue)}
    {name : String} {xs : List JsonValue} (hk : KeysDistinct fs) (hm : (name, .array xs) ∈ fs) :
    sliceField dec fs name = (xs.mapM dec).map some := by
  simp only [sliceField, fieldOf_of_mem hk hm]

theorem decodeImportPayload_object {fs : List (String × JsonValue)} {t : String}
    (ht : stringField fs "type" = some t) :
    decodeImportPayload (.object fs) =
      (sliceField decodePoint fs "points").bind fun pts =>
        (sliceField decodeWall fs "walls").map fun walls => (t, pts, walls) := by
  simp only [decodeImportPayload, objectFields, bind, Option.bind, ht]
  cases sliceField decodePoint fs "points" <;> cases sliceField decodeWall fs "walls" <;> rfl

theorem decodeImportPayload_points (t : String) (xs : List JsonValue) :
    decodeImportPayload (.object [("type", .string t), ("points", .array xs)]) =
      (xs.mapM decodePoint).map fun pts => (t, some pts, none) := by
  have hk : KeysDistinct [("type", JsonValue.string t), ("points", .array xs)] := by
    unfold KeysDistinct; simp only [List.map, foldName_eq]; decide
  have hw : Lacks [("type", JsonValue.string t), ("points", .array xs)] "walls" := by
    unfold Lacks; simp only [List.map, foldName_eq]; decide
  rw [decodeImportPayload_object (stringField_of_mem hk (List.mem_cons_self _ _)),
    sliceField_of_mem hk (List.mem_cons_of_mem _ (List.mem_singleton_self _)), sliceField_absent hw]
  cases xs.mapM decodePoint <;> rfl

theorem decodeImportPayload_walls (xs : List JsonValue) :
    decodeImportPayload (.object [("type", .string "wall"), ("walls", .array xs)]) =
      (xs.mapM decodeWall).map fun walls => ("wall", none, some walls) := by
  have hk : KeysDistinct [("type", JsonValue.string "wall"), ("walls", .array xs)] := by
    unfold KeysDistinct; simp only [List.map, foldName_eq]; decide
  have hp : Lacks [("type", JsonValue.string "wall"), ("walls", .array xs)] "points" := by
    unfold Lacks; simp only [List.map, foldName_eq]; decide
  rw [decodeImportPayload_object (stringField_of_mem hk (List.mem_cons_self _ _)),
    sliceField_absent hp, sliceField_of_mem hk (List.mem_cons_of_mem _ (List.mem_singleton_self _))]
  cases xs.mapM decodeWall <;> rfl

theorem importNavPoints_decoded {rb : NavRobot} {v : JsonValue} {t : String}
    {pts : Option (List NavigationPoint)} {walls : Option (List WallObstacle)}
    (h : decodeImportPayload v = some (t, pts, walls)) :
    importNavPoints (some rb) (some v) = (statusOK "imported", some (importPoints rb t pts walls)) := by
  simp only [importNavPoints, Option.bind, h]

theorem importNavPoints_points {t : String} {k : PointKind} (hk : pointKindOf t = some k)
    (rb : NavRobot) (pts : List NavigationPoint) :
    importNavPoints (some rb) (some (.object [("type", .string t),
      ("points", encodeList encodePoint pts)])) = (statusOK "imported", some (rb.set k (some pts))) := by
  rw [importNavPoints_decoded (by rw [encodeList, decodeImportPayload_points,
    mapM_encodeList decodePoint_encodePoint]; rfl), importPoints_kind hk]

theorem importNavPoints_walls (rb : NavRobot) (walls : List WallObstacle) :
    importNavPoints (some rb) (some (.object [("type", .string "wall"),
      ("walls", encodeList encodeWall walls)])) =
      (statusOK "imported", some { rb with wallObstacles := some walls }) := by
  rw [importNavPoints_decoded (by rw [encodeList, decodeImportPayload_walls,
    mapM_encodeList decodeWall_encodeWall]; rfl)]
  rfl

theorem addAndAppend_ok {k : PointKind} {r r' : NavRobot} {name : String} {x y theta : ℚ}
    (h : addAndAppend k r name x y theta = .ok r') :
    name ∉ names (r.get k) ∧
      r' = { r.set k (goAppend (r.get k) ⟨name, 0, 0, 0, x, y, theta⟩) with adding := none } := by
  unfold addAndAppend at h
  cases ha : k.add r name x y theta with
  | error e => rw [ha] at h; cases h
  | ok r₁ =>
    rw [ha] at h
    cases h
    obtain ⟨hfresh, rfl⟩ := PointKind.add_ok ha
    exact ⟨hfresh, by cases k <;> rfl⟩

theorem removeByName_goAppend_fresh {pts : Option (List NavigationPoint)} {name : String}
    (h : name ∉ names pts) (x y theta : ℚ) :
    removeByName (goAppend pts ⟨name, 0, 0, 0, x, y, theta⟩) name = some (pts.getD []) := by
  unfold removeByName goAppend
  rw [Option.getD_some, List.filter_append, List.filter_singleton, bne_self_eq_false, cond_false,
    List.append_nil, List.filter_eq_self.mpr]
  intro p hp
  simpa using fun (e : p.name = name) => h (List.mem_map.mpr ⟨p, hp, e⟩)

theorem deletePoint_kind {t : String} {k : PointKind} (hk : pointKindOf t = some k)
    (r : NavRobot) (name : String) :
    deletePoint r t name = r.set k (removeByName (r.get k) name) := by
  simp only [deletePoint, hk]

/-- Whatever points a client uploads for a type, listing that type afterwards answers
exactly those points. -/
theorem import_then_list (rb : NavRobot) :
    (∀ t pts, (pointKindOf t).isSome →
      listNavigationPoints (importNavPoints (some rb) (some (.object [("type", .string t),
        ("points", encodeList encodePoint pts)]))).2 t = jsonOK (encodeList encodePoint pts)) ∧
    ∀ walls, listNavigationPoints (importNavPoints (some rb) (some (.object
      [("type", .string "wall"), ("walls", encodeList encodeWall walls)]))).2 "wall" =
      jsonOK (encodeList encodeWall walls) := by
  refine ⟨fun t pts ht => ?_, fun walls => by rw [importNavPoints_walls]; rfl⟩
  obtain ⟨k, hk⟩ := Option.isSome_iff_exists.mp ht
  rw [importNavPoints_points hk, listNavigationPoints_kind hk, NavRobot.get_set, if_pos rfl]
  rfl

theorem import_then_list_service_points :
    listNavigationPoints (importNavPoints (some newNavRobot) (some (.object
      [("type", .string "service_point"),
        ("points", encodeList encodePoint [⟨"dock", 0, 0, 0, 1, 2, 0⟩])]))).2 "service_point" =
      jsonOK (encodeList encodePoint [⟨"dock", 0, 0, 0, 1, 2, 0⟩]) :=
  (import_then_list newNavRobot).1 "service_point" _ rfl

/-- A point added through the API and then deleted by its type and name leaves the robot as
it was, but for one thing: the type's collection, if it was `nil`, is now an empty slice. -/
theorem add_then_delete_keeps_points (parseFloat : String → ℚ) (rb : NavRobot)
    (hr : rb.adding = none) (form : String → String) {k : PointKind}
    (hk : pointKindOf (form "type") = some k)
    (hadd : (addNavigationPoint parseFloat (some rb) form).1.status = 200) :
    deleteNavPoint (addNavigationPoint parseFloat (some rb) form).2 (form "type") (form "name") =
      (statusOK "deleted", some (rb.set k (some ((rb.get k).getD [])))) := by
  simp only [addNavigationPoint, addByType_kind parseFloat hk] at hadd ⊢
  cases he : addAndAppend k rb (form "name") (parseFloat (form "world_x"))
      (parseFloat (form "world_y")) (parseFloat (form "theta")) with
  | error e => simp [he, jsonError] at hadd
  | ok rb' =>
    obtain ⟨hfresh, rfl⟩ := addAndAppend_ok he
    simp only [deleteNavPoint, deletePoint_kind hk, get_clearAdding, set_clearAdding,
      NavRobot.get_set, if_pos, set_set, removeByName_goAppend_fresh hfresh]
    cases rb; cases hr; cases k <;> rfl

theorem add_then_delete_keeps_points_dock :
    let form : String → String := fun k =>
      if k = "type" then "service_point" else if k = "name" then "dock" else ""
    newNavRobot.adding = none ∧ pointKindOf (form "type") = some .servicePoint ∧
      (addNavigationPoint (fun _ => 0) (some newNavRobot) form).1.status = 200 ∧
      deleteNavPoint (addNavigationPoint (fun _ => 0) (some newNavRobot) form).2 (form "type")
        (form "name") = (statusOK "deleted", some (newNavRobot.set .servicePoint (some []))) ∧
      (listNavigationPoints (some newNavRobot) "service_point").body = .null ∧
      (listNavigationPoints (some (newNavRobot.set .servicePoint (some []))) "service_point").body =
        .array [] :=
  have hadd : (addNavigationPoint (fun _ => 0) (some newNavRobot) fun k =>
      if k = "type" then "service_point" else if k = "name" then "dock" else "").1.status = 200 :=
    by decide
  ⟨rfl, rfl, hadd, add_then_delete_keeps_points _ _ rfl _ rfl hadd, rfl, rfl⟩

/-- A request a handler refuses leaves the robot as it was. -/
theorem refused_leaves_robot (parseFloat : String → ℚ) (current : Option NavRobot)
    (form : String → String) (pointType name : String) (body : Option JsonValue) :
    ((addNavigationPoint parseFloat current form).1.status ≠ 200 →
      (addNavigationPoint parseFloat current form).2 = current) ∧
    ((clearNavigationPoints current pointType).1.status ≠ 200 →
      (clearNavigationPoints current pointType).2 = current) ∧
    ((deleteNavPoint current pointType name).1.status ≠ 200 →
      (deleteNavPoint current pointType name).2 = current) ∧
    ((importNavPoints current body).1.status ≠ 200 → (importNavPoints current body).2 = current) := by
  refine ⟨Or.resolve_right ?_, Or.resolve_right ?_, Or.resolve_right ?_, Or.resolve_right ?_⟩
  · unfold addNavigationPoint; split <;> (try split) <;> first | exact .inl rfl | exact .inr rfl
  · unfold clearNavigationPoints; split <;> (try split) <;> (try split) <;>
      first | exact .inl rfl | exact .inr rfl
  · unfold deleteNavPoint; split <;> first | exact .inl rfl | exact .inr rfl
  · unfold importNavPoints; split <;> (try split) <;> first | exact .inl rfl | exact .inr rfl

end RosbridgeFleet.NavApi
