import Mathlib.Data.List.Nodup
import Mathlib.Data.Rat.Defs

set_option autoImplicit false

/-! Navigation points of a robot (`NavigationManager`, `Robot.ImportPoints`). A collection is a
Go slice: `none` is `nil`. -/

namespace RosbridgeFleet.NavPoints

structure NavigationPoint where
  name : String
  imageXPx : ℚ
  imageYPx : ℚ
  imageThetaDeg : ℚ
  worldXM : ℚ
  worldYM : ℚ
  worldThetaRad : ℚ
  deriving DecidableEq, Repr

structure WallObstacle where
  imageXPxStart : ℚ
  imageYPxStart : ℚ
  imageXPxEnd : ℚ
  imageYPxEnd : ℚ
  worldXMStart : ℚ
  worldYMStart : ℚ
  worldXMEnd : ℚ
  worldYMEnd : ℚ
  deriving DecidableEq, Repr

inductive PointKind
  | waypoint
  | servicePoint
  | patrolPoint
  | pathPoint
  deriving DecidableEq, Repr

/-- The navigation fields of a `Robot`, and the `Add*` call holding `nm.mu` between its
check and its append. -/
structure NavRobot where
  waypoints : Option (List NavigationPoint)
  servicePoints : Option (List NavigationPoint)
  patrolPoints : Option (List NavigationPoint)
  pathPoints : Option (List NavigationPoint)
  wallObstacles : Option (List WallObstacle)
  adding : Option (PointKind × NavigationPoint)
  deriving DecidableEq, Repr

def newNavRobot : NavRobot := ⟨none, none, none, none, none, none⟩

/-- Go's `append`: the result is never `nil`. -/
def goAppend {α : Type} (s : Option (List α)) (x : α) : Option (List α) := some (s.getD [] ++ [x])

def NavRobot.get (r : NavRobot) : PointKind → Option (List NavigationPoint)
  | .waypoint => r.waypoints
  | .servicePoint => r.servicePoints
  | .patrolPoint => r.patrolPoints
  | .pathPoint => r.pathPoints

def NavRobot.set (r : NavRobot) (k : PointKind) (pts : Option (List NavigationPoint)) : NavRobot :=
  match k with
  | .waypoint => { r with waypoints := pts }
  | .servicePoint => { r with servicePoints := pts }
  | .patrolPoint => { r with patrolPoints := pts }
  | .pathPoint => { r with pathPoints := pts }

@[simp] theorem NavRobot.get_set (r : NavRobot) (k k' : PointKind) (pts : Option (List NavigationPoint)) :
    (r.set k pts).get k' = if k' = k then pts else r.get k' := by
  cases k <;> cases k' <;> rfl

@[simp] theorem NavRobot.set_adding (r : NavRobot) (k : PointKind) (pts : Option (List NavigationPoint)) :
    (r.set k pts).adding = r.adding := by
  cases k <;> rfl

def names (pts : Option (List NavigationPoint)) : List String := (pts.getD []).map (·.name)

def existingPoints (r : NavRobot) : String → Option (List NavigationPoint)
  | "waypoint" => r.waypoints
  | "servicepoint" => r.servicePoints
  | "patrolpoint" => r.patrolPoints
  | "pathpoint" => r.pathPoints
  | _ => none

def validateAndCreate (r : NavRobot) (pointType name : String) (x y theta : ℚ) :
    Except String NavigationPoint :=
  if name = "" then .error (pointType ++ " name cannot be empty")
  else if ((existingPoints r pointType).getD []).any (·.name == name) then
    .error ("duplicate " ++ pointType ++ " name: " ++ name)
  else .ok ⟨name, 0, 0, 0, x, y, theta⟩

/-- The `Add*` call up to its check; the append is `appendAdding`. -/
def addPoint (kind : PointKind) (pointType : String) (r : NavRobot) (name : String)
    (x y theta : ℚ) : Except String NavRobot :=
  (validateAndCreate r pointType name x y theta).map fun pt => { r with adding := some (kind, pt) }

def addWaypoint := addPoint .waypoint "waypoint"
def addServicePoint := addPoint .servicePoint "servicepoint"
def addPatrolPoint := addPoint .patrolPoint "patrolpoint"
def addPathPoint := addPoint .pathPoint "pathpoint"

def PointKind.add : PointKind → NavRobot → String → ℚ → ℚ → ℚ → Except String NavRobot
  | .waypoint => addWaypoint
  | .servicePoint => addServicePoint
  | .patrolPoint => addPatrolPoint
  | .pathPoint => addPathPoint

/-- The `Add*` call's `append` under `rb.mu.Lock`, after which it releases `nm.mu`. -/
def appendAdding (r : NavRobot) : Option NavRobot :=
  r.adding.map fun (k, pt) => { r.set k (goAppend (r.get k) pt) with adding := none }

def addWallObstacle (r : NavRobot) (name : String) (x1 y1 x2 y2 : ℚ) : Except String NavRobot :=
  if name = "" then .error "wall obstacle name cannot be empty"
  else .ok { r with wallObstacles := goAppend r.wallObstacles ⟨0, 0, 0, 0, x1, y1, x2, y2⟩ }

/-- `removeByName` builds its result with `make`, so it is never `nil`. -/
def removeByName (pts : Option (List NavigationPoint)) (name : String) :
    Option (List NavigationPoint) :=
  some ((pts.getD []).filter (·.name != name))

def pointKindOf : String → Option PointKind
  | "waypoint" => some .waypoint
  | "service_point" => some .servicePoint
  | "patrol_point" => some .patrolPoint
  | "path_point" => some .pathPoint
  | _ => none

def deletePoint (r : NavRobot) (pointType name : String) : NavRobot :=
  match pointKindOf pointType with
  | some k => r.set k (removeByName (r.get k) name)
  | none => r

def clearPoints (kind : PointKind) (r : NavRobot) : NavRobot := r.set kind none

def clearWaypoints := clearPoints .waypoint
def clearServicePoints := clearPoints .servicePoint
def clearPatrolPoints := clearPoints .patrolPoint
def clearPathPoints := clearPoints .pathPoint

def PointKind.clear : PointKind → NavRobot → NavRobot
  | .waypoint => clearWaypoints
  | .servicePoint => clearServicePoints
  | .patrolPoint => clearPatrolPoints
  | .pathPoint => clearPathPoints

theorem PointKind.clear_eq (kind : PointKind) (r : NavRobot) : kind.clear r = r.set kind none := by
  cases kind <;> rfl

def clearWallObstacles (r : NavRobot) : NavRobot := { r with wallObstacles := none }

def clearAllPoints (r : NavRobot) : NavRobot :=
  { r with waypoints := none, servicePoints := none, patrolPoints := none, pathPoints := none,
           wallObstacles := none }

/-- `Robot.ImportPoints`: the uploaded slice replaces the collection, unchecked. -/
def importPoints (r : NavRobot) (pointType : String) (points : Option (List NavigationPoint))
    (walls : Option (List WallObstacle)) : NavRobot :=
  match pointType with
  | "wall" => { r with wallObstacles := walls }
  | _ =>
    match pointKindOf pointType with
    | some k => r.set k points
    | none => r

inductive NavAction
  | add (kind : PointKind) (name : String) (x y theta : ℚ)
  | addAppend
  | addWallObstacle (name : String) (x1 y1 x2 y2 : ℚ)
  | deletePoint (pointType name : String)
  | clear (kind : PointKind)
  | clearWallObstacles
  | clearAllPoints
  | importPoints (pointType : String) (points : Option (List NavigationPoint))
      (walls : Option (List WallObstacle))
  deriving DecidableEq, Repr

def NavAction.isImport : NavAction → Bool
  | .importPoints .. => true
  | _ => false

/-- One step; a call that needs `nm.mu` waits (`none`) while an `Add*` holds it. -/
def step (r : NavRobot) : NavAction → Option NavRobot
  | .add kind name x y theta =>
    if r.adding.isSome then none
    else match kind.add r name x y theta with
      | .ok r' => some r'
      | .error _ => some r
  | .addAppend => appendAdding r
  | .addWallObstacle name x1 y1 x2 y2 =>
    if r.adding.isSome then none
    else match addWallObstacle r name x1 y1 x2 y2 with
      | .ok r' => some r'
      | .error _ => some r
  | .deletePoint pointType name => some (deletePoint r pointType name)
  | .clear kind => some (kind.clear r)
  | .clearWallObstacles => some (clearWallObstacles r)
  | .clearAllPoints => some (clearAllPoints r)
  | .importPoints pointType points walls => some (importPoints r pointType points walls)

def runNav : NavRobot → List NavAction → Option NavRobot
  | r, [] => some r
  | r, a :: as => (step r a).bind (runNav · as)

theorem runNav_cons {r r' : NavRobot} {a : NavAction} {as : List NavAction}
    (h : runNav r (a :: as) = some r') : ∃ r₁, step r a = some r₁ ∧ runNav r₁ as = some r' :=
  Option.bind_eq_some.mp h

theorem addPoint_ok {kind : PointKind} {pointType : String} {r r' : NavRobot} {name : String}
    {x y theta : ℚ} (h : addPoint kind pointType r name x y theta = .ok r') :
    name ∉ names (existingPoints r pointType) ∧
      r' = { r with adding := some (kind, ⟨name, 0, 0, 0, x, y, theta⟩) } := by
  unfold addPoint validateAndCreate at h
  split_ifs at h with hn hd
  all_goals simp only [Except.map, reduceCtorEq, Except.ok.injEq] at h
  subst h
  exact ⟨by simpa [names] using hd, rfl⟩

theorem PointKind.add_ok {kind : PointKind} {r r' : NavRobot} {name : String} {x y theta : ℚ}
    (h : kind.add r name x y theta = .ok r') :
    name ∉ names (r.get kind) ∧
      r' = { r with adding := some (kind, ⟨name, 0, 0, 0, x, y, theta⟩) } := by
  cases kind <;> exact addPoint_ok h

/-- Each collection's names are distinct, and a pending `Add*` holds a name its collection
lacks. -/
structure Distinct (r : NavRobot) : Prop where
  names_nodup : ∀ k, (names (r.get k)).Nodup
  adding_fresh : ∀ k pt, r.adding = some (k, pt) → pt.name ∉ names (r.get k)

theorem distinct_newNavRobot : Distinct newNavRobot :=
  ⟨fun k => by cases k <;> exact List.nodup_nil, fun _ _ h => by cases h⟩

theorem Distinct.set_sublist {r : NavRobot} (hi : Distinct r) {k : PointKind}
    {pts : Option (List NavigationPoint)} (hs : (pts.getD []).Sublist ((r.get k).getD [])) :
    Distinct (r.set k pts) := by
  constructor
  · intro k'
    rw [NavRobot.get_set]
    split_ifs with hk
    · subst hk; exact (hi.names_nodup k').sublist (hs.map _)
    · exact hi.names_nodup k'
  · intro k' pt ha
    rw [NavRobot.set_adding] at ha
    rw [NavRobot.get_set]
    split_ifs with hk
    · subst hk; exact fun hm => hi.adding_fresh _ pt ha ((hs.map _).subset hm)
    · exact hi.adding_fresh k' pt ha

theorem Distinct.appendAdding {r r' : NavRobot} (hi : Distinct r) (h : appendAdding r = some r') :
    Distinct r' := by
  unfold NavPoints.appendAdding at h
  obtain ⟨⟨k, pt⟩, ha, rfl⟩ := Option.map_eq_some'.mp h
  refine ⟨fun k' => ?_, fun _ _ h => by cases h⟩
  change (names ((r.set k (goAppend (r.get k) pt)).get k')).Nodup
  rw [NavRobot.get_set]
  split_ifs with hk
  · subst hk
    rw [names, goAppend, Option.getD_some, List.map_append]
    exact List.nodup_append.mpr ⟨hi.names_nodup k', List.nodup_singleton _,
      List.disjoint_singleton.mpr (hi.adding_fresh k' pt ha)⟩
  · exact hi.names_nodup k'

theorem Distinct.step {r r' : NavRobot} {a : NavAction} (hi : Distinct r) (ha : a.isImport = false)
    (h : NavPoints.step r a = some r') : Distinct r' := by
  cases a with
  | add kind name x y theta =>
    simp only [NavPoints.step] at h
    split at h
    · cases h
    · split at h
      · rename_i hadd
        cases h
        obtain ⟨hfresh, rfl⟩ := PointKind.add_ok hadd
        refine ⟨hi.names_nodup, fun k pt' hk => ?_⟩
        obtain ⟨rfl, rfl⟩ := Prod.mk.inj (Option.some.inj hk).symm
        exact hfresh
      · cases h; exact hi
  | addAppend => exact hi.appendAdding h
  | addWallObstacle name x1 y1 x2 y2 =>
    simp only [NavPoints.step, addWallObstacle] at h
    split at h
    · cases h
    · split_ifs at h <;> cases h <;> exact ⟨hi.names_nodup, hi.adding_fresh⟩
  | deletePoint pointType name =>
    cases h
    unfold deletePoint
    split
    · exact hi.set_sublist (List.filter_sublist _)
    · exact hi
  | clear kind =>
    cases h
    rw [PointKind.clear_eq]
    exact hi.set_sublist (List.nil_sublist _)
  | clearWallObstacles => cases h; exact ⟨hi.names_nodup, hi.adding_fresh⟩
  | clearAllPoints =>
    cases h
    exact ⟨fun k => by cases k <;> exact List.nodup_nil,
      fun k _ _ => by cases k <;> exact List.not_mem_nil _⟩
  | importPoints => cases ha

theorem distinct_run {acts : List NavAction} {r r' : NavRobot} (hi : Distinct r)
    (hno : ∀ a ∈ acts, a.isImport = false) (h : runNav r acts = some r') : Distinct r' := by
  induction acts generalizing r with
  | nil => cases h; exact hi
  | cons a acts ih =>
    obtain ⟨r₁, h₁, h₂⟩ := runNav_cons h
    exact ih (hi.step (hno a (List.mem_cons_self _ _)) h₁)
      (fun a' ha' => hno a' (List.mem_cons_of_mem _ ha')) h₂

/-- Over every interleaving of the `Add*` calls, `DeletePoint` and the `Clear*` calls on a
robot, each of its four collections keeps distinct names: `nm.mu` orders the `Add*` calls,
and a delete or a clear between a check and its append only removes names. -/
theorem names_distinct_without_import (acts : List NavAction) (r : NavRobot)
    (h : runNav newNavRobot acts = some r) (hno : ∀ a ∈ acts, a.isImport = false) (k : PointKind) :
    (names (r.get k)).Nodup :=
  (distinct_run distinct_newNavRobot hno h).names_nodup k

theorem names_distinct_without_import_add_delete :
    let acts : List NavAction := [.add .waypoint "dock" 1 2 0, .addAppend,
      .add .waypoint "dock" 3 4 0, .deletePoint "waypoint" "dock", .add .waypoint "dock" 3 4 0]
    ∃ r, runNav newNavRobot acts = some r ∧ (∀ a ∈ acts, a.isImport = false) ∧
      (names (r.get .waypoint)).Nodup := by
  intro acts
  exact ⟨_, rfl, by decide, names_distinct_without_import acts _ rfl (by decide) .waypoint⟩

/-- `ImportPoints` takes no name check and neither lock of the `Add*` path: an import that
lands between an `AddWaypoint`'s check and its append, even of a list with distinct names,
leaves two waypoints of one name. -/
theorem import_between_check_and_append :
    ¬ ∀ (acts : List NavAction) (r : NavRobot), runNav newNavRobot acts = some r →
        ∀ k, (names (r.get k)).Nodup := by
  intro h
  have := h [.add .waypoint "dock" 1 2 0,
    .importPoints "waypoint" (some [⟨"dock", 0, 0, 0, 5, 6, 0⟩]) none, .addAppend] _ rfl .waypoint
  exact absurd this (by decide)

end RosbridgeFleet.NavPoints
