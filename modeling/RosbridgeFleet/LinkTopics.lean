import RosbridgeFleet.GoBasics

set_option autoImplicit false

/-! Topic subscriptions of a `Client` and the routing of inbound frames by `handlePublish`. -/

namespace RosbridgeFleet.LinkTopics
open GoBasics

/-- The kinds of topic, in the order `handlePublish` tests their fields. -/
inductive TopicKind
  | map
  | cmdVel
  | tf
  | odom
  | ctrlOdom
  | laser
  | mapBfp
  deriving DecidableEq, Repr

/-- `topicMap`, `topicCmdVel`, `topicTF`, `topicOdom`, `topicCtrlOdom`, `topicLaser` and
`topicMapBfp`. -/
structure Topics where
  topicMap : String
  topicCmdVel : String
  topicTF : String
  topicOdom : String
  topicCtrlOdom : String
  topicLaser : String
  topicMapBfp : String
  deriving DecidableEq, Repr

def Topics.empty : Topics := ⟨"", "", "", "", "", "", ""⟩

def Topics.get (t : Topics) : TopicKind → String
  | .map => t.topicMap
  | .cmdVel => t.topicCmdVel
  | .tf => t.topicTF
  | .odom => t.topicOdom
  | .ctrlOdom => t.topicCtrlOdom
  | .laser => t.topicLaser
  | .mapBfp => t.topicMapBfp

def Topics.set (t : Topics) (k : TopicKind) (s : String) : Topics :=
  match k with
  | .map => { t with topicMap := s }
  | .cmdVel => { t with topicCmdVel := s }
  | .tf => { t with topicTF := s }
  | .odom => { t with topicOdom := s }
  | .ctrlOdom => { t with topicCtrlOdom := s }
  | .laser => { t with topicLaser := s }
  | .mapBfp => { t with topicMapBfp := s }

theorem Topics.get_set (t : Topics) (k k' : TopicKind) (s : String) :
    (t.set k s).get k' = if k' = k then s else t.get k' := by
  cases k <;> cases k' <;> rfl

def typeOccupancyGrid : String := "nav_msgs/msg/OccupancyGrid"
def typeOdometry : String := "nav_msgs/msg/Odometry"
def typeTFMessage : String := "tf2_msgs/msg/TFMessage"
def typeLaserScan : String := "sensor_msgs/msg/LaserScan"
def typeTwist : String := "geometry_msgs/msg/Twist"

def subscribeMsg (topic msgType : String) : JsonValue :=
  .object [("op", .string "subscribe"), ("topic", .string topic), ("type", .string msgType)]

structure TopicLink where
  ns : String
  topics : Topics
  subscribed : List TopicKind
  sent : List JsonValue

def newTopicLink (ns : String) : TopicLink := ⟨ns, Topics.empty, [], []⟩

/-- The shape of every `Subscribe*`: an empty topic is the kind's default, the field gets
`ns` and the topic, and the `subscribe` frame goes to `send`. -/
def subscribeTopic (c : TopicLink) (k : TopicKind) (dflt msgType topic : String) : TopicLink :=
  let full := c.ns ++ (if topic = "" then dflt else topic)
  { c with topics := c.topics.set k full, subscribed := c.subscribed ++ [k],
           sent := c.sent ++ [subscribeMsg full msgType] }

def subscribeMap (c : TopicLink) (topic : String) : TopicLink :=
  subscribeTopic c .map "/map" typeOccupancyGrid topic

def subscribeCmdVel (c : TopicLink) (topic : String) : TopicLink :=
  subscribeTopic c .cmdVel "/diff_controller/cmd_vel_unstamped" typeTwist topic

def subscribeTF (c : TopicLink) (topic : String) : TopicLink :=
  subscribeTopic c .tf "/tf" typeTFMessage topic

def subscribeOdom (c : TopicLink) (topic : String) : TopicLink :=
  subscribeTopic c .odom "/odom" typeOdometry topic

def subscribeControllerOdom (c : TopicLink) (topic : String) : TopicLink :=
  subscribeTopic c .ctrlOdom "/diff_controller/odom" typeOdometry topic

def subscribeLaser (c : TopicLink) (topic : String) : TopicLink :=
  subscribeTopic c .laser "/scan" typeLaserScan topic

def subscribeMapBfp (c : TopicLink) (topic : String) : TopicLink :=
  subscribeTopic c .mapBfp "/map_bfp_publisher" "" topic

def subscribeAllTopics (c : TopicLink) : TopicLink :=
  subscribeCmdVel (subscribeMapBfp (subscribeLaser (subscribeControllerOdom
    (subscribeOdom (subscribeTF (subscribeMap c "") "") "") "") "") "") ""

def setCmdVelTopic (c : TopicLink) (topic : String) : TopicLink :=
  { c with topics := c.topics.set .cmdVel (c.ns ++ topic) }

/-- `switch topic`: the first field equal to the frame's topic picks the parser. -/
def handlePublish (t : Topics) (topic : String) : Option TopicKind :=
  if topic = t.topicMap then some .map
  else if topic = t.topicCmdVel then some .cmdVel
  else if topic = t.topicTF then some .tf
  else if topic = t.topicOdom then some .odom
  else if topic = t.topicCtrlOdom then some .ctrlOdom
  else if topic = t.topicLaser then some .laser
  else if topic = t.topicMapBfp then some .mapBfp
  else none

inductive Routed
  | publish (k : TopicKind) (msg : Option JsonValue)
  | serviceResponse (id : String)
  | dropped
  deriving Repr

/-- The envelope `handleMessage` unmarshals: `op`, `topic`, `id` and the raw `msg`. -/
def envelope (fs : List (String × JsonValue)) :
    Option (String × String × String × Option JsonValue) := do
  return (← stringField fs "op", ← stringField fs "topic", ← stringField fs "id",
    fieldOf fs "msg")

def handleMessage (t : Topics) (raw : Option JsonValue) : Routed :=
  match objectFields raw >>= envelope with
  | some (op, topic, id, msg) =>
    if op = "publish" then
      match handlePublish t topic with
      | some k => .publish k msg
      | none => .dropped
    else if op = "service_response" then .serviceResponse id
    else .dropped
  | none => .dropped

structure MapData where
  width : BitVec 64
  height : BitVec 64
  resolution : ℚ
  originX : ℚ
  originY : ℚ
  data : List (BitVec 8)
  deriving DecidableEq, Repr

def toInt8 (v : BitVec 64) : BitVec 8 :=
  (if (127 : BitVec 64).slt v then v - 256 else v).truncate 8

/-- `parseMap`: `OnMap` is called with the decoded grid, unless it is unset or the message
does not unmarshal. -/
def parseMap (onMapSet : Bool) (msg : Option JsonValue) : Option MapData :=
  if onMapSet then do
    let fs ← objectFields msg
    let info ← structField fs "info"
    let position ← structField (← structField info "origin") "position"
    let data ← listField intValue fs "data"
    return ⟨← intField info "width", ← intField info "height", ← floatField info "resolution",
      ← floatField position "x", ← floatField position "y", data.map toInt8⟩
  else none

inductive TopicAction
  | subscribe (k : TopicKind) (topic : String)
  | subscribeAll
  | setCmdVelTopic (topic : String)
  deriving DecidableEq, Repr

def TopicAction.apply (c : TopicLink) : TopicAction → TopicLink
  | .subscribe .map topic => subscribeMap c topic
  | .subscribe .cmdVel topic => subscribeCmdVel c topic
  | .subscribe .tf topic => subscribeTF c topic
  | .subscribe .odom topic => subscribeOdom c topic
  | .subscribe .ctrlOdom topic => subscribeControllerOdom c topic
  | .subscribe .laser topic => subscribeLaser c topic
  | .subscribe .mapBfp topic => subscribeMapBfp c topic
  | .subscribeAll => subscribeAllTopics c
  | .setCmdVelTopic topic => LinkTopics.setCmdVelTopic c topic

def runTopics (c : TopicLink) (acts : List TopicAction) : TopicLink := acts.foldl TopicAction.apply c

/-- Until the first `Subscribe*`, and for every kind never subscribed, the topic field is
empty; a publish frame with no `topic` member has topic `""`, matches `topicMap`, and its
message goes to `parseMap`, which turns `{}` into an empty map for `OnMap`. -/
theorem topicless_frame_reaches_parseMap :
    ¬ ∀ (ns : String) (acts : List TopicAction) (raw : Option JsonValue) (k : TopicKind)
        (msg : Option JsonValue),
        handleMessage (runTopics (newTopicLink ns) acts).topics raw = .publish k msg →
        k ∈ (runTopics (newTopicLink ns) acts).subscribed := by
  intro h
  have hk : KeysDistinct [("op", .string "publish"), ("msg", .object [])] := by
    unfold KeysDistinct; simp only [List.map, foldName_eq]; decide
  have hop :
      fieldOf [("op", .string "publish"), ("msg", .object [])] "op" = some (.string "publish") :=
    fieldOf_of_mem hk (List.mem_cons_self _ _)
  have hmsg : fieldOf [("op", .string "publish"), ("msg", .object [])] "msg" = some (.object []) :=
    fieldOf_of_mem hk (by simp)
  have hnone : ∀ name ∈ ["topic", "id"],
      fieldOf [("op", .string "publish"), ("msg", .object [])] name = none := by
    intro name hn
    exact fieldOf_eq_none (by simp at hn; rcases hn with rfl | rfl <;>
      simp only [Lacks, List.map, foldName_eq] <;> decide)
  have hroute : handleMessage (runTopics (newTopicLink "/r1") []).topics
      (some (.object [("op", .string "publish"), ("msg", .object [])])) =
      .publish .map (some (.object [])) := by
    simp [handleMessage, objectFields, envelope, stringField, hop, hmsg,
      hnone "topic" (by simp), hnone "id" (by simp), runTopics, newTopicLink, handlePublish,
      Topics.empty]
  exact absurd (h "/r1" [] _ _ _ hroute) (by simp [runTopics, newTopicLink])

end RosbridgeFleet.LinkTopics
