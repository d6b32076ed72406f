import RosbridgeFleet.GoBasics

set_option autoImplicit false

/-! `parseTF`: the transforms handed to `OnTF`. Floats are rationals and `math.Atan2` is a
parameter. -/

namespace RosbridgeFleet.LinkTF
open GoBasics

structure Vector3 where
  x : ℚ
  y : ℚ
  z : ℚ
  deriving DecidableEq, Repr

structure Quaternion where
  x : ℚ
  y : ℚ
  z : ℚ
  w : ℚ
  deriving DecidableEq, Repr

def Quaternion.yaw (atan2 : ℚ → ℚ → ℚ) (q : Quaternion) : ℚ :=
  atan2 (2 * (q.w * q.z + q.x * q.y)) (1 - 2 * (q.y * q.y + q.z * q.z))

def decodeVector3 (fs : List (String × JsonValue)) : Option Vector3 := do
  return ⟨← floatField fs "x", ← floatField fs "y", ← floatField fs "z"⟩

def decodeQuaternion (fs : List (String × JsonValue)) : Option Quaternion := do
  return ⟨← floatField fs "x", ← floatField fs "y", ← floatField fs "z", ← floatField fs "w"⟩

/-- One element of `transforms`: `header.frame_id`, `child_frame_id` and the transform. -/
structure TransformStamped where
  frameID : String
  childFrameID : String
  translation : Vector3
  rotation : Quaternion
  deriving DecidableEq, Repr

def decodeTransformStamped (v : JsonValue) : Option TransformStamped := do
  let fs ← objectFields (some v)
  let transform ← structField fs "transform"
  return ⟨← stringField (← structField fs "header") "frame_id", ← stringField fs "child_frame_id",
    ← decodeVector3 (← structField transform "translation"),
    ← decodeQuaternion (← structField transform "rotation")⟩

/-- `json.Unmarshal(msg, &tfMsg)`; `none` is an error. -/
def decodeTFMessage (msg : Option JsonValue) : Option (List TransformStamped) := do
  listField decodeTransformStamped (← objectFields msg) "transforms"

structure TFData where
  mapOdomTx : ℚ
  mapOdomTy : ℚ
  mapOdomTz : ℚ
  mapOdomRx : ℚ
  mapOdomRy : ℚ
  mapOdomRz : ℚ
  mapOdomRw : ℚ
  bfpTx : ℚ
  bfpTy : ℚ
  bfpTz : ℚ
  bfpRx : ℚ
  bfpRy : ℚ
  bfpRz : ℚ
  bfpRw : ℚ
  bfpYaw : ℚ
  deriving DecidableEq

def TFData.zero : TFData := ⟨0, 0, 0, 0, 0, 0, 0, 0, 0, 0, 0, 0, 0, 0, 0⟩

structure MapOdom where
  translation : Vector3
  rotation : Quaternion
  deriving DecidableEq, Repr

def MapOdom.zero : MapOdom := ⟨⟨0, 0, 0⟩, ⟨0, 0, 0, 0⟩⟩

def Vector3.encode (v : Vector3) : List (String × JsonValue) :=
  [("x", .float v.x), ("y", .float v.y), ("z", .float v.z)]

def Quaternion.encode (q : Quaternion) : List (String × JsonValue) :=
  [("x", .float q.x), ("y", .float q.y), ("z", .float q.z), ("w", .float q.w)]

/-- A transform with the header reduced to the `frame_id` that is read. -/
def TransformStamped.encode (t : TransformStamped) : List (String × JsonValue) :=
  [("header", .object [("frame_id", .string t.frameID)]), ("child_frame_id", .string t.childFrameID),
    ("transform", .object [("translation", .object t.translation.encode),
      ("rotation", .object t.rotation.encode)])]

def tfMessage (ts : List TransformStamped) : JsonValue :=
  .object [("transforms", .array (ts.map fun t => .object t.encode))]

theorem decodeVector3_encode (v : Vector3) : decodeVector3 v.encode = some v := by
  have hk : KeysDistinct v.encode := by
    unfold KeysDistinct; simp only [Vector3.encode, List.map, foldName_eq]; decide
  obtain ⟨h₁, h₂, h₃, -⟩ := by
    simpa only [Vector3.encode, carries_cons] using carries_self v.encode
  simp only [decodeVector3, floatField_of_mem hk h₁, floatField_of_mem hk h₂,
    floatField_of_mem hk h₃]
  rfl

theorem decodeQuaternion_encode (q : Quaternion) : decodeQuaternion q.encode = some q := by
  have hk : KeysDistinct q.encode := by
    unfold KeysDistinct; simp only [Quaternion.encode, List.map, foldName_eq]; decide
  obtain ⟨h₁, h₂, h₃, h₄, -⟩ := by
    simpa only [Quaternion.encode, carries_cons] using carries_self q.encode
  simp only [decodeQuaternion, floatField_of_mem hk h₁, floatField_of_mem hk h₂,
    floatField_of_mem hk h₃, floatField_of_mem hk h₄]
  rfl

theorem decodeTransformStamped_object {fs header transform tl rot : List (String × JsonValue)}
    {frameID childFrameID : String} {v : Vector3} {q : Quaternion}
    (hh : structField fs "header" = some header) (hf : stringField header "frame_id" = some frameID)
    (hc : stringField fs "child_frame_id" = some childFrameID)
    (ht : structField fs "transform" = some transform)
    (htl : structField transform "translation" = some tl) (hv : decodeVector3 tl = some v)
    (hr : structField transform "rotation" = some rot) (hq : decodeQuaternion rot = some q) :
    decodeTransformStamped (.object fs) = some ⟨frameID, childFrameID, v, q⟩ := by
  simp only [decodeTransformStamped, objectFields, bind, Option.bind, hh, hf, hc, ht, htl, hv, hr, hq]
  rfl

theorem decodeTransformStamped_encode (t : TransformStamped) :
    decodeTransformStamped (.object t.encode) = some t := by
  have hk : KeysDistinct t.encode := by
    unfold KeysDistinct; simp only [TransformStamped.encode, List.map, foldName_eq]; decide
  have ht : KeysDistinct [("translation", JsonValue.object t.translation.encode),
      ("rotation", .object t.rotation.encode)] := by
    unfold KeysDistinct; simp only [List.map, foldName_eq]; decide
  obtain ⟨m₁, m₂, m₃, -⟩ := by
    simpa only [TransformStamped.encode, carries_cons] using carries_self t.encode
  exact decodeTransformStamped_object (structField_of_mem hk m₁)
    (stringField_of_mem (keysDistinct_singleton _) (List.mem_singleton_self _))
    (stringField_of_mem hk m₂) (structField_of_mem hk m₃)
    (structField_of_mem ht (List.mem_cons_self _ _)) (decodeVector3_encode _)
    (structField_of_mem ht (List.mem_cons_of_mem _ (List.mem_singleton_self _)))
    (decodeQuaternion_encode _)

theorem decodeTFMessage_object (fs : List (String × JsonValue)) :
    decodeTFMessage (some (.object fs)) = listField decodeTransformStamped fs "transforms" := rfl

theorem decodeTFMessage_tfMessage (ts : List TransformStamped) :
    decodeTFMessage (some (tfMessage ts)) = some ts := by
  rw [tfMessage, decodeTFMessage_object,
    listField_of_mem (keysDistinct_singleton _) (List.mem_singleton_self _)]
  induction ts with
  | nil => rfl
  | cons t ts ih => simp only [List.map_cons, List.mapM_cons, decodeTransformStamped_encode, ih]; rfl

section Parse

variable (atan2 : ℚ → ℚ → ℚ)

def TFData.setMapOdom (tf : TFData) (tr : Vector3) (rot : Quaternion) : TFData :=
  { tf with mapOdomTx := tr.x, mapOdomTy := tr.y, mapOdomTz := tr.z,
            mapOdomRx := rot.x, mapOdomRy := rot.y, mapOdomRz := rot.z, mapOdomRw := rot.w }

def TFData.setBfp (tf : TFData) (t : TransformStamped) : TFData :=
  { tf with bfpTx := t.translation.x, bfpTy := t.translation.y, bfpTz := t.translation.z,
            bfpRx := t.rotation.x, bfpRy := t.rotation.y, bfpRz := t.rotation.z,
            bfpRw := t.rotation.w,
            bfpYaw := atan2 (2 * (t.rotation.w * t.rotation.z + t.rotation.x * t.rotation.y))
              (1 - 2 * (t.rotation.y * t.rotation.y + t.rotation.z * t.rotation.z)) }

/-- One pass of the transform loop over (`globalMapOdom`, `tfData`, `emitTF`). -/
def tfStep : MapOdom × TFData × Bool → TransformStamped → MapOdom × TFData × Bool
  | (cache, tf, emit), t =>
    if t.frameID = "map" ∧ t.childFrameID = "odom" then
      (⟨t.translation, t.rotation⟩, tf.setMapOdom t.translation t.rotation, emit)
    else if t.frameID = "odom" ∧ t.childFrameID = "base_footprint" then
      (cache, (tf.setMapOdom cache.translation cache.rotation).setBfp atan2 t, true)
    else (cache, tf, emit)

/-- `parseTF`: the new cache, and what `OnTF` is called with, if anything. -/
def parseTF (onTFSet : Bool) (cache : MapOdom) (msg : Option JsonValue) :
    MapOdom × Option TFData :=
  if onTFSet then
    match decodeTFMessage msg with
    | some ts =>
      let (cache', tf, emit) := ts.foldl (tfStep atan2) (cache, TFData.zero, false)
      (cache', if emit then some tf else none)
    | none => (cache, none)
  else (cache, none)

/-- `parseTF` on each message in turn, on a link whose `OnTF` is set. -/
def runTF : MapOdom → List (Option JsonValue) → List (Option TFData)
  | _, [] => []
  | cache, m :: ms => (parseTF atan2 true cache m).2 :: runTF (parseTF atan2 true cache m).1 ms

def isMapOdom (t : TransformStamped) : Bool := t.frameID == "map" && t.childFrameID == "odom"

def isOdomBfp (t : TransformStamped) : Bool :=
  t.frameID == "odom" && t.childFrameID == "base_footprint"

def latestMapOdom (seen : List TransformStamped) : MapOdom :=
  match (seen.filter isMapOdom).getLast? with
  | some t => ⟨t.translation, t.rotation⟩
  | none => MapOdom.zero

def tfDataOf (mo : MapOdom) (b : TransformStamped) : TFData :=
  ⟨mo.translation.x, mo.translation.y, mo.translation.z,
    mo.rotation.x, mo.rotation.y, mo.rotation.z, mo.rotation.w,
    b.translation.x, b.translation.y, b.translation.z,
    b.rotation.x, b.rotation.y, b.rotation.z, b.rotation.w, b.rotation.yaw atan2⟩

/-- For message `msg` after the messages `seen`: the last footprint transform of `msg`
with the latest map-odom transform of `seen ++ msg`, if `msg` has a footprint transform. -/
def expectedTF (seen msg : List TransformStamped) : Option TFData :=
  (msg.filter isOdomBfp).getLast?.map (tfDataOf atan2 (latestMapOdom (seen ++ msg)))

def tfSpec : List TransformStamped → List (List TransformStamped) → List (Option TFData)
  | _, [] => []
  | seen, m :: ms => expectedTF atan2 seen m :: tfSpec (seen ++ m) ms

theorem getLast?_filter_concat (p : TransformStamped → Bool) (l : List TransformStamped)
    (t : TransformStamped) :
    ((l ++ [t]).filter p).getLast? = if p t then some t else (l.filter p).getLast? := by
  by_cases ht : p t <;> simp [List.filter_append, ht, List.getLast?_append]

theorem latestMapOdom_concat (l : List TransformStamped) (t : TransformStamped) :
    latestMapOdom (l ++ [t]) = if isMapOdom t then ⟨t.translation, t.rotation⟩ else latestMapOdom l := by
  unfold latestMapOdom
  rw [getLast?_filter_concat]
  split_ifs <;> rfl

theorem tf_fold (seen ts : List TransformStamped) :
    let st := ts.foldl (tfStep atan2) (latestMapOdom seen, TFData.zero, false)
    st.1 = latestMapOdom (seen ++ ts) ∧ st.2.2 = ts.any isOdomBfp ∧
      (st.2.2 = true → (ts.filter isOdomBfp).getLast?.map (tfDataOf atan2 st.1) = some st.2.1) := by
  induction ts using List.reverseRecOn with
  | nil => simp
  | append_singleton ts t ih =>
    obtain ⟨hc, he, htf⟩ := ih
    simp only [List.foldl_concat, ← List.append_assoc, latestMapOdom_concat, List.any_append,
      List.any_cons, List.any_nil, Bool.or_false, getLast?_filter_concat]
    generalize ts.foldl (tfStep atan2) (latestMapOdom seen, TFData.zero, false) = st at *
    obtain ⟨cache, tf, emit⟩ := st
    simp only at hc he htf ⊢
    unfold tfStep
    by_cases hm : t.frameID = "map" ∧ t.childFrameID = "odom"
    · have hmo : isMapOdom t = true := by simp [isMapOdom, hm.1, hm.2]
      have hbf : isOdomBfp t = false := by simp [isOdomBfp, hm.1]
      simp only [if_pos hm, hmo, if_true, hbf, Bool.or_false, if_false]
      refine ⟨trivial, he, fun h => ?_⟩
      obtain ⟨b, hb, rfl⟩ := Option.map_eq_some'.mp (htf h)
      rw [hb]
      rfl
    · by_cases hb : t.frameID = "odom" ∧ t.childFrameID = "base_footprint"
      · have hmo : isMapOdom t = false := by simp [isMapOdom, hb.1]
        have hbf : isOdomBfp t = true := by simp [isOdomBfp, hb.1, hb.2]
        simp only [if_neg hm, if_pos hb, hmo, hbf, if_true, if_false, Bool.or_true]
        exact ⟨hc, trivial, fun _ => rfl⟩
      · have hmo : isMapOdom t = false := by
          simp only [isMapOdom, Bool.and_eq_true, beq_iff_eq] at hm ⊢; simpa using hm
        have hbf : isOdomBfp t = false := by
          simp only [isOdomBfp, Bool.and_eq_true, beq_iff_eq] at hb ⊢; simpa using hb
        simp only [if_neg hm, if_neg hb, hmo, hbf, if_false, Bool.or_false]
        exact ⟨hc, he, htf⟩

/-- One well-formed message: the cache moves to the latest map-odom transform and `OnTF`
gets exactly what the specification says. -/
theorem parseTF_spec (seen : List TransformStamped) (m : JsonValue) (ts : List TransformStamped)
    (hd : decodeTFMessage (some m) = some ts) :
    parseTF atan2 true (latestMapOdom seen) (some m) =
      (latestMapOdom (seen ++ ts), expectedTF atan2 seen ts) := by
  obtain ⟨hc, he, htf⟩ := tf_fold atan2 seen ts
  simp only [parseTF, if_true, hd]
  generalize ts.foldl (tfStep atan2) (latestMapOdom seen, TFData.zero, false) = st at *
  obtain ⟨cache, tf, emit⟩ := st
  simp only at hc he htf ⊢
  refine Prod.ext hc ?_
  unfold expectedTF
  cases emit with
  | true => rw [← hc]; exact (htf rfl).symm
  | false =>
    have : ts.filter isOdomBfp = [] :=
      List.filter_eq_nil_iff.mpr fun t ht => List.any_eq_false.mp he.symm t ht
    simp [this]

/-- Over every sequence of well-formed TF messages, `OnTF` is called once for each message
that has an `odom` to `base_footprint` transform and never for the others; each call
carries the last such transform of its message, with the yaw of `Quaternion.Yaw`, and the
most recent `map` to `odom` transform of that message or an earlier one, zero if none. -/
theorem parseTF_emits_latest_transforms (msgs : List JsonValue)
    (tss : List (List TransformStamped))
    (hdec : msgs.map (fun m => decodeTFMessage (some m)) = tss.map some) :
    runTF atan2 MapOdom.zero (msgs.map some) = tfSpec atan2 [] tss := by
  suffices h : ∀ seen, runTF atan2 (latestMapOdom seen) (msgs.map some) = tfSpec atan2 seen tss by
    simpa [latestMapOdom] using h []
  induction msgs generalizing tss with
  | nil => cases tss with
    | nil => intro; rfl
    | cons _ _ => cases hdec
  | cons m ms ih => cases tss with
    | nil => cases hdec
    | cons ts tss =>
      simp only [List.map_cons, List.cons.injEq] at hdec
      intro seen
      simp only [List.map_cons, runTF, tfSpec, parseTF_spec atan2 seen m ts hdec.1, ih tss hdec.2]

end Parse


theorem parseTF_emits_latest_transforms_two_messages :
    let tss : List (List TransformStamped) :=
      [[⟨"map", "odom", ⟨1, 2, 0⟩, ⟨0, 0, 0, 1⟩⟩, ⟨"odom", "base_footprint", ⟨3, 0, 0⟩, ⟨0, 0, 0, 1⟩⟩],
        [⟨"odom", "base_footprint", ⟨4, 0, 0⟩, ⟨0, 0, 1, 0⟩⟩]]
    (tss.map tfMessage).map (fun m => decodeTFMessage (some m)) = tss.map some ∧
      runTF (fun _ _ => 0) MapOdom.zero ((tss.map tfMessage).map some) =
        tfSpec (fun _ _ => 0) [] tss := by
  intro tss
  have hdec : (tss.map tfMessage).map (fun m => decodeTFMessage (some m)) = tss.map some := by
    simp only [List.map_map, Function.comp_def, decodeTFMessage_tfMessage]
  exact ⟨hdec, parseTF_emits_latest_transforms (fun _ _ => 0) (tss.map tfMessage) tss hdec⟩

end RosbridgeFleet.LinkTF
