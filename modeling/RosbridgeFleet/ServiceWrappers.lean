import RosbridgeFleet.GoBasics

set_option autoImplicit false

/-! The typed service wrappers `Handshake`, `RequestWhichMaps` and `RequestTask`, over the raw
`service_response` frame. -/

namespace RosbridgeFleet.ServiceWrappers
open GoBasics

structure HandshakeResponse where
  robotNamespace : String
  status : BitVec 64
  robotDiameter : ℚ
  deriving DecidableEq, Repr

structure WhichMapsResponse where
  totalMaps : BitVec 64
  mapNames : List String
  deriving DecidableEq, Repr

structure WhichTaskResponse where
  taskName : String
  status : BitVec 64
  responseSettings : String
  deriving DecidableEq, Repr

def decodeHandshake (fs : List (String × JsonValue)) : Option HandshakeResponse := do
  return ⟨← stringField fs "robot_namespace", ← intField fs "status",
    ← floatField fs "robot_diameter"⟩

def decodeWhichMaps (fs : List (String × JsonValue)) : Option WhichMapsResponse := do
  return ⟨← intField fs "total_maps", ← listField stringValue fs "map_names"⟩

def decodeWhichTask (fs : List (String × JsonValue)) : Option WhichTaskResponse := do
  return ⟨← stringField fs "task_name", ← intField fs "status",
    ← stringField fs "response_settings"⟩

/-- `json.Unmarshal(raw, &resp)` into `struct { Values T \x60json:"values"\x60 }`; `none` is a
non-nil error. -/
def decodeValues {α : Type} (dec : List (String × JsonValue) → Option α)
    (raw : Option JsonValue) : Option α := do
  dec (← structField (← objectFields raw) "values")

/-- An unmarshal whose error is ignored: a member of the wrong type is skipped and leaves
its field zero, and so does an element of a slice. -/
def looseStrings : Option JsonValue → List String
  | some (.array xs) => xs.map fun x => (stringValue x).getD ""
  | _ => []

def decodeWhichMapsLoose (raw : Option JsonValue) : WhichMapsResponse :=
  match objectFields raw with
  | some fs => ⟨(intField fs "total_maps").getD 0, looseStrings (fieldOf fs "map_names")⟩
  | none => ⟨0, []⟩

def decodeWhichTaskLoose (raw : Option JsonValue) : WhichTaskResponse :=
  match objectFields raw with
  | some fs => ⟨(stringField fs "task_name").getD "", (intField fs "status").getD 0,
      (stringField fs "response_settings").getD ""⟩
  | none => ⟨"", 0, ""⟩

/-- `Client.Handshake`; the error of the flat parse is `parse handshake: %w`. -/
def handshake (resp : Except String (Option JsonValue)) : Except String HandshakeResponse :=
  match resp with
  | .error e => .error e
  | .ok raw =>
    let flat : Except String HandshakeResponse :=
      match objectFields raw >>= decodeHandshake with
      | some hs => .ok hs
      | none => .error "parse handshake"
    match decodeValues decodeHandshake raw with
    | some v => if v.robotNamespace ≠ "" then .ok v else flat
    | none => flat

/-- `Client.RequestWhichMaps`: the wrapper is kept when `TotalMaps > 0`, a signed test. -/
def requestWhichMaps (resp : Except String (Option JsonValue)) : Except String WhichMapsResponse :=
  match resp with
  | .error e => .error e
  | .ok raw =>
    match decodeValues decodeWhichMaps raw with
    | some v => if (0 : BitVec 64).slt v.totalMaps then .ok v else .ok (decodeWhichMapsLoose raw)
    | none => .ok (decodeWhichMapsLoose raw)

def requestTask (resp : Except String (Option JsonValue)) : Except String WhichTaskResponse :=
  match resp with
  | .error e => .error e
  | .ok raw =>
    match decodeValues decodeWhichTask raw with
    | some v => if v.taskName ≠ "" then .ok v else .ok (decodeWhichTaskLoose raw)
    | none => .ok (decodeWhichTaskLoose raw)

def HandshakeResponse.encode (v : HandshakeResponse) : List (String × JsonValue) :=
  [("robot_namespace", .string v.robotNamespace), ("status", .int v.status.toInt),
    ("robot_diameter", .float v.robotDiameter)]

def WhichMapsResponse.encode (v : WhichMapsResponse) : List (String × JsonValue) :=
  [("total_maps", .int v.totalMaps.toInt), ("map_names", .array (v.mapNames.map .string))]

def WhichTaskResponse.encode (v : WhichTaskResponse) : List (String × JsonValue) :=
  [("task_name", .string v.taskName), ("status", .int v.status.toInt),
    ("response_settings", .string v.responseSettings)]

section Frames

variable {frame : List (String × JsonValue)}

theorem decodeHandshake_of_carries (hk : KeysDistinct frame) (v : HandshakeResponse)
    (hc : Carries frame v.encode) : decodeHandshake frame = some v := by
  obtain ⟨h₁, h₂, h₃, -⟩ := by simpa only [HandshakeResponse.encode, carries_cons] using hc
  simp only [decodeHandshake, stringField_of_mem hk h₁, intField_of_mem hk h₂,
    floatField_of_mem hk h₃]
  rfl

theorem mapM_stringValue (names : List String) :
    (names.map JsonValue.string).mapM stringValue = some names := by
  induction names with
  | nil => rfl
  | cons s ss ih => simp only [List.map_cons, List.mapM_cons, stringValue, ih]; rfl

theorem decodeWhichMaps_of_carries (hk : KeysDistinct frame) (v : WhichMapsResponse)
    (hc : Carries frame v.encode) : decodeWhichMaps frame = some v := by
  obtain ⟨h₁, h₂, -⟩ := by simpa only [WhichMapsResponse.encode, carries_cons] using hc
  simp only [decodeWhichMaps, intField_of_mem hk h₁, listField, fieldOf_of_mem hk h₂,
    mapM_stringValue]
  rfl

theorem decodeWhichTask_of_carries (hk : KeysDistinct frame) (v : WhichTaskResponse)
    (hc : Carries frame v.encode) : decodeWhichTask frame = some v := by
  obtain ⟨h₁, h₂, h₃, -⟩ := by simpa only [WhichTaskResponse.encode, carries_cons] using hc
  simp only [decodeWhichTask, stringField_of_mem hk h₁, intField_of_mem hk h₂,
    stringField_of_mem hk h₃]
  rfl

theorem decodeValues_of_mem {α : Type} (dec : List (String × JsonValue) → Option α)
    (hk : KeysDistinct frame) {inner : List (String × JsonValue)}
    (hv : ("values", .object inner) ∈ frame) :
    decodeValues dec (some (.object frame)) = dec inner := by
  simp [decodeValues, objectFields, structField, fieldOf_of_mem hk hv]

theorem decodeValues_of_lacks {α : Type} (dec : List (String × JsonValue) → Option α)
    (hl : Lacks frame "values") : decodeValues dec (some (.object frame)) = dec [] := by
  simp [decodeValues, objectFields, structField, fieldOf_eq_none hl]

theorem decodeWhichMapsLoose_of_carries (hk : KeysDistinct frame) (v : WhichMapsResponse)
    (hc : Carries frame v.encode) : decodeWhichMapsLoose (some (.object frame)) = v := by
  obtain ⟨h₁, h₂, -⟩ := by simpa only [WhichMapsResponse.encode, carries_cons] using hc
  have hnames : looseStrings (some (.array (v.mapNames.map .string))) = v.mapNames := by
    induction v.mapNames with
    | nil => rfl
    | cons s ss ih => simp only [looseStrings, List.map_cons] at ih ⊢; rw [ih]; rfl
  simp only [decodeWhichMapsLoose, objectFields, intField_of_mem hk h₁, fieldOf_of_mem hk h₂,
    hnames, Option.getD_some]

theorem decodeWhichTaskLoose_of_carries (hk : KeysDistinct frame) (v : WhichTaskResponse)
    (hc : Carries frame v.encode) : decodeWhichTaskLoose (some (.object frame)) = v := by
  obtain ⟨h₁, h₂, h₃, -⟩ := by simpa only [WhichTaskResponse.encode, carries_cons] using hc
  simp only [decodeWhichTaskLoose, objectFields, stringField_of_mem hk h₁, intField_of_mem hk h₂,
    stringField_of_mem hk h₃, Option.getD_some]

end Frames

theorem keysDistinct_handshake (v : HandshakeResponse) : KeysDistinct v.encode := by
  unfold KeysDistinct; simp only [HandshakeResponse.encode, List.map, foldName_eq]; decide

theorem keysDistinct_whichMaps (v : WhichMapsResponse) : KeysDistinct v.encode := by
  unfold KeysDistinct; simp only [WhichMapsResponse.encode, List.map, foldName_eq]; decide

theorem keysDistinct_whichTask (v : WhichTaskResponse) : KeysDistinct v.encode := by
  unfold KeysDistinct; simp only [WhichTaskResponse.encode, List.map, foldName_eq]; decide

section Frames

variable {frame : List (String × JsonValue)} (hk : KeysDistinct frame)
include hk

theorem handshake_of_values (v : HandshakeResponse) (hv : ("values", .object v.encode) ∈ frame)
    (hns : v.robotNamespace ≠ "") : handshake (.ok (some (.object frame))) = .ok v := by
  simp only [handshake, decodeValues_of_mem _ hk hv,
    decodeHandshake_of_carries (keysDistinct_handshake v) v fun _ h => h, if_pos hns]

theorem requestWhichMaps_of_values (v : WhichMapsResponse)
    (hv : ("values", .object v.encode) ∈ frame) (hpos : (0 : BitVec 64).slt v.totalMaps) :
    requestWhichMaps (.ok (some (.object frame))) = .ok v := by
  simp only [requestWhichMaps, decodeValues_of_mem _ hk hv,
    decodeWhichMaps_of_carries (keysDistinct_whichMaps v) v fun _ h => h, if_pos hpos]

theorem requestTask_of_values (v : WhichTaskResponse) (hv : ("values", .object v.encode) ∈ frame)
    (hname : v.taskName ≠ "") : requestTask (.ok (some (.object frame))) = .ok v := by
  simp only [requestTask, decodeValues_of_mem _ hk hv,
    decodeWhichTask_of_carries (keysDistinct_whichTask v) v fun _ h => h, if_pos hname]

theorem handshake_of_flat (hl : Lacks frame "values") (v : HandshakeResponse)
    (hc : Carries frame v.encode) : handshake (.ok (some (.object frame))) = .ok v := by
  have hzero : decodeHandshake [] = some ⟨"", 0, 0⟩ := rfl
  simp [handshake, decodeValues_of_lacks _ hl, hzero, objectFields,
    decodeHandshake_of_carries hk v hc]

theorem requestWhichMaps_of_flat (hl : Lacks frame "values") (v : WhichMapsResponse)
    (hc : Carries frame v.encode) : requestWhichMaps (.ok (some (.object frame))) = .ok v := by
  simp only [requestWhichMaps, decodeValues_of_lacks _ hl, decodeWhichMapsLoose_of_carries hk v hc]
  rfl

theorem requestTask_of_flat (hl : Lacks frame "values") (v : WhichTaskResponse)
    (hc : Carries frame v.encode) : requestTask (.ok (some (.object frame))) = .ok v := by
  simp only [requestTask, decodeValues_of_lacks _ hl, decodeWhichTaskLoose_of_carries hk v hc]
  rfl

/-- An enveloped response whose discriminating field is zero falls through to the flat
parse, which finds none of the response's fields at the top level of the frame and
returns the zero response. -/
theorem handshake_of_values_unnamed (v : HandshakeResponse)
    (hv : ("values", .object v.encode) ∈ frame) (hns : v.robotNamespace = "")
    (hl : Lacks frame "robot_namespace" ∧ Lacks frame "status" ∧ Lacks frame "robot_diameter") :
    handshake (.ok (some (.object frame))) = .ok ⟨"", 0, 0⟩ := by
  have hflat : decodeHandshake frame = some ⟨"", 0, 0⟩ := by
    simp only [decodeHandshake, stringField, intField, floatField, fieldOf_eq_none hl.1,
      fieldOf_eq_none hl.2.1, fieldOf_eq_none hl.2.2]
    rfl
  simp [handshake, decodeValues_of_mem _ hk hv, hns, objectFields, hflat,
    decodeHandshake_of_carries (keysDistinct_handshake v) v fun _ h => h]

theorem requestWhichMaps_of_values_empty (v : WhichMapsResponse)
    (hv : ("values", .object v.encode) ∈ frame) (hz : ¬ (0 : BitVec 64).slt v.totalMaps)
    (hl : Lacks frame "total_maps" ∧ Lacks frame "map_names") :
    requestWhichMaps (.ok (some (.object frame))) = .ok ⟨0, []⟩ := by
  simp only [requestWhichMaps, decodeValues_of_mem _ hk hv,
    decodeWhichMaps_of_carries (keysDistinct_whichMaps v) v fun _ h => h, if_neg hz,
    decodeWhichMapsLoose, objectFields, intField, fieldOf_eq_none hl.1, fieldOf_eq_none hl.2]
  rfl

theorem requestTask_of_values_unnamed (v : WhichTaskResponse)
    (hv : ("values", .object v.encode) ∈ frame) (hname : v.taskName = "")
    (hl : Lacks frame "task_name" ∧ Lacks frame "status" ∧ Lacks frame "response_settings") :
    requestTask (.ok (some (.object frame))) = .ok ⟨"", 0, ""⟩ := by
  simp only [requestTask, decodeValues_of_mem _ hk hv,
    decodeWhichTask_of_carries (keysDistinct_whichTask v) v fun _ h => h, hname, ne_eq,
    not_true_eq_false, if_false, decodeWhichTaskLoose, objectFields, stringField, intField,
    fieldOf_eq_none hl.1, fieldOf_eq_none hl.2.1, fieldOf_eq_none hl.2.2]
  rfl

end Frames

/-- The frame rosbridge sends for a service response in the `values` envelope. -/
def responseFrame (service id : String) (values : List (String × JsonValue)) :
    List (String × JsonValue) :=
  [("op", .string "service_response"), ("service", .string service),
    ("values", .object values), ("result", .bool true), ("id", .string id)]

theorem keysDistinct_responseFrame (service id : String) (values : List (String × JsonValue)) :
    KeysDistinct (responseFrame service id values) := by
  unfold KeysDistinct; simp only [responseFrame, List.map, foldName_eq]; decide

theorem lacks_responseFrame (service id : String) (values : List (String × JsonValue)) :
    ∀ name ∈ ["robot_namespace", "status", "robot_diameter", "total_maps", "map_names",
      "task_name", "response_settings"], Lacks (responseFrame service id values) name := by
  unfold Lacks; simp only [responseFrame, List.map, foldName_eq]; decide

/-- For any frame whose keys differ up to case, each wrapper returns the response the
`values` member encodes when that response's discriminating field is set
(`robot_namespace`, `total_maps > 0`, `task_name`), and the response the top level encodes
when there is no `values` member. -/
theorem wrappers_read_named_and_flat_responses (frame : List (String × JsonValue))
    (hk : KeysDistinct frame) :
    (∀ v : HandshakeResponse, ("values", .object v.encode) ∈ frame → v.robotNamespace ≠ "" →
      handshake (.ok (some (.object frame))) = .ok v) ∧
    (∀ v : WhichMapsResponse, ("values", .object v.encode) ∈ frame →
      (0 : BitVec 64).slt v.totalMaps → requestWhichMaps (.ok (some (.object frame))) = .ok v) ∧
    (∀ v : WhichTaskResponse, ("values", .object v.encode) ∈ frame → v.taskName ≠ "" →
      requestTask (.ok (some (.object frame))) = .ok v) ∧
    (Lacks frame "values" →
      (∀ v : HandshakeResponse, Carries frame v.encode →
        handshake (.ok (some (.object frame))) = .ok v) ∧
      (∀ v : WhichMapsResponse, Carries frame v.encode →
        requestWhichMaps (.ok (some (.object frame))) = .ok v) ∧
      (∀ v : WhichTaskResponse, Carries frame v.encode →
        requestTask (.ok (some (.object frame))) = .ok v)) :=
  ⟨handshake_of_values hk, requestWhichMaps_of_values hk, requestTask_of_values hk,
    fun hl => ⟨handshake_of_flat hk hl, requestWhichMaps_of_flat hk hl, requestTask_of_flat hk hl⟩⟩

theorem wrappers_read_named_and_flat_responses_which_name :
    let frame := responseFrame "/which_name" "svc_/which_name_1000"
      (⟨"robot1", 0, 1 / 2⟩ : HandshakeResponse).encode
    KeysDistinct frame ∧
    (∀ v : HandshakeResponse, ("values", .object v.encode) ∈ frame → v.robotNamespace ≠ "" →
      handshake (.ok (some (.object frame))) = .ok v) ∧
    (∀ v : WhichMapsResponse, ("values", .object v.encode) ∈ frame →
      (0 : BitVec 64).slt v.totalMaps → requestWhichMaps (.ok (some (.object frame))) = .ok v) ∧
    (∀ v : WhichTaskResponse, ("values", .object v.encode) ∈ frame → v.taskName ≠ "" →
      requestTask (.ok (some (.object frame))) = .ok v) ∧
    (Lacks frame "values" →
      (∀ v : HandshakeResponse, Carries frame v.encode →
        handshake (.ok (some (.object frame))) = .ok v) ∧
      (∀ v : WhichMapsResponse, Carries frame v.encode →
        requestWhichMaps (.ok (some (.object frame))) = .ok v) ∧
      (∀ v : WhichTaskResponse, Carries frame v.encode →
        requestTask (.ok (some (.object frame))) = .ok v)) := by
  intro frame
  exact ⟨keysDistinct_responseFrame _ _ _,
    wrappers_read_named_and_flat_responses frame (keysDistinct_responseFrame _ _ _)⟩

/-- A robot in the root namespace, an empty map list with names, and a task response with
no task name: each wrapper drops the enveloped response and returns the zero value. -/
theorem unnamed_response_is_lost :
    (¬ ∀ (frame : List (String × JsonValue)) (v : HandshakeResponse), KeysDistinct frame →
        ("values", .object v.encode) ∈ frame → handshake (.ok (some (.object frame))) = .ok v) ∧
    (¬ ∀ (frame : List (String × JsonValue)) (v : WhichMapsResponse), KeysDistinct frame →
        ("values", .object v.encode) ∈ frame →
        requestWhichMaps (.ok (some (.object frame))) = .ok v) ∧
    (¬ ∀ (frame : List (String × JsonValue)) (v : WhichTaskResponse), KeysDistinct frame →
        ("values", .object v.encode) ∈ frame → requestTask (.ok (some (.object frame))) = .ok v) := by
  have hl := lacks_responseFrame
  have hv : ∀ service id values, ("values", .object values) ∈ responseFrame service id values :=
    fun _ _ _ => by simp [responseFrame]
  refine ⟨fun h => ?_, fun h => ?_, fun h => ?_⟩
  · let v : HandshakeResponse := ⟨"", 1, 1 / 2⟩
    have hk := keysDistinct_responseFrame "/which_name" "svc_/which_name_1000" v.encode
    have := (handshake_of_values_unnamed hk v (hv _ _ _) rfl
      ⟨hl _ _ _ _ (by simp), hl _ _ _ _ (by simp), hl _ _ _ _ (by simp)⟩).symm.trans
      (h _ v hk (hv _ _ _))
    exact absurd (congrArg HandshakeResponse.status (Except.ok.inj this)) (by decide)
  · let v : WhichMapsResponse := ⟨0, ["office"]⟩
    have hk := keysDistinct_responseFrame "/which_maps" "svc_/which_maps_1000" v.encode
    have := (requestWhichMaps_of_values_empty hk v (hv _ _ _) (by decide)
      ⟨hl _ _ _ _ (by simp), hl _ _ _ _ (by simp)⟩).symm.trans (h _ v hk (hv _ _ _))
    exact absurd (congrArg WhichMapsResponse.mapNames (Except.ok.inj this)) (by decide)
  · let v : WhichTaskResponse := ⟨"", 2, "ok"⟩
    have hk := keysDistinct_responseFrame "/which_tasks" "svc_/which_tasks_1000" v.encode
    have := (requestTask_of_values_unnamed hk v (hv _ _ _) rfl
      ⟨hl _ _ _ _ (by simp), hl _ _ _ _ (by simp), hl _ _ _ _ (by simp)⟩).symm.trans
      (h _ v hk (hv _ _ _))
    exact absurd (congrArg WhichTaskResponse.status (Except.ok.inj this)) (by decide)

end RosbridgeFleet.ServiceWrappers
