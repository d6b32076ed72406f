import RosbridgeFleet.GoBasics
import Mathlib.Data.List.AList

set_option autoImplicit false

/-! The robot registry of `robot/manager.go`: each method is one step under `m.mu`, and
`pick` is Go's randomised choice of a map key. -/

namespace RosbridgeFleet.RegistryModel
open GoBasics

/-- The fields of `robot.Robot` that `NewRobot` sets from its arguments and its defaults. -/
structure Robot where
  id : String
  ns : String
  name : String
  ip : String
  port : Int
  radius : GoFloat
  maxHistory : Nat
  linearVelRatio : GoFloat
  angularVelRatio : GoFloat
  deriving DecidableEq, Repr

def newRobot (id ns name ip : String) (port : Int) : Robot :=
  { id, ns, name, ip, port, radius := 0.30, maxHistory := 100,
    linearVelRatio := 1.0, angularVelRatio := 1.0 }

structure BroadcastMsg where
  type : String
  robotID : String
  deriving DecidableEq, Repr

structure Manager where
  robots : AList (fun _ : String => Robot)
  currentID : String
  nextID : BitVec 64

def newManager : Manager := { robots := ∅, currentID := "", nextID := 1 }

/-- What a method call returns, the registry it leaves, the links it stopped while holding
`m.mu`, and the messages it broadcast. -/
structure Call (α : Type) where
  ret : Except String α
  manager : Manager
  stops : List String
  sent : List BroadcastMsg

def Call.map {α β : Type} (f : α → β) (c : Call α) : Call β := { c with ret := c.ret.map f }

/-- The duplicate-address scan at the top of `AddRobot`. -/
def hasAddress (m : Manager) (ip : String) (port : Int) : Bool :=
  m.robots.entries.any (fun e => e.2.ip == ip && e.2.port == port)

def addRobot (m : Manager) (ns name ip : String) (port : Int) : Call Robot :=
  if hasAddress m ip port then
    { ret := .error s!"robot at {ip}:{port} already exists", manager := m, stops := [],
      sent := [] }
  else
    let id := sprintfD m.nextID
    let r := newRobot id ns name ip port
    { ret := .ok r,
      manager := { robots := m.robots.insert id r,
                   currentID := if m.currentID = "" then id else m.currentID,
                   nextID := m.nextID + 1 },
      stops := [], sent := [⟨"robot_added", id⟩] }

/-- The key `for k := range robots { ...; break }` yields; `""` when the map is empty. -/
def rangeFirst (robots : AList (fun _ : String => Robot)) (pick : Nat) : String :=
  (robots.keys[pick % robots.keys.length]?).getD ""

def removeRobot (m : Manager) (id : String) (pick : Nat) : Call Unit :=
  if id ∈ m.robots then
    let rest := m.robots.erase id
    let current := if m.currentID = id then rangeFirst rest pick else m.currentID
    { ret := .ok (), manager := { m with robots := rest, currentID := current },
      stops := [id], sent := [⟨"robot_removed", id⟩] }
  else
    { ret := .error s!"robot {id} not found", manager := m, stops := [], sent := [] }

def switchRobot (m : Manager) (id : String) : Call Unit :=
  if id ∈ m.robots then
    { ret := .ok (), manager := { m with currentID := id }, stops := [],
      sent := [⟨"robot_switched", id⟩] }
  else
    { ret := .error s!"robot {id} not found", manager := m, stops := [], sent := [] }

def clearAll (m : Manager) : Call Unit :=
  { ret := .ok (), manager := { m with robots := ∅, currentID := "" }, stops := m.robots.keys,
    sent := [] }

def getCurrentRobot (m : Manager) : Option Robot :=
  if m.currentID = "" then none else m.robots.lookup m.currentID

def getRobot (m : Manager) (id : String) : Option Robot := m.robots.lookup id

def getRobotCount (m : Manager) : Nat := m.robots.keys.length

inductive Op
  | addRobot (ns name ip : String) (port : Int)
  | removeRobot (id : String) (pick : Nat)
  | switchRobot (id : String)
  | clearAll

/-- One call; the value is the robot a successful `AddRobot` returned. -/
def step (m : Manager) : Op → Call (Option Robot)
  | .addRobot ns name ip port => (addRobot m ns name ip port).map some
  | .removeRobot id pick => (removeRobot m id pick).map fun _ => none
  | .switchRobot id => (switchRobot m id).map fun _ => none
  | .clearAll => (clearAll m).map fun _ => none

def run : Manager → List Op → Manager
  | m, [] => m
  | m, op :: ops => run (step m op).manager ops

theorem run_append (m : Manager) (ops₁ ops₂ : List Op) :
    run m (ops₁ ++ ops₂) = run (run m ops₁) ops₂ := by
  induction ops₁ generalizing m with
  | nil => rfl
  | cons op ops ih => exact ih _

def Call.addedID (c : Call (Option Robot)) : List String :=
  match c.ret with
  | .ok (some r) => [r.id]
  | _ => []

def addedIDs : Manager → List Op → List String
  | _, [] => []
  | m, op :: ops => (step m op).addedID ++ addedIDs (step m op).manager ops

end RosbridgeFleet.RegistryModel
