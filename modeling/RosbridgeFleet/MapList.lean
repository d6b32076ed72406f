import RosbridgeFleet.ServiceWrappers
import RosbridgeFleet.RobotApi

set_option autoImplicit false

/-! The map list (`ListMaps`, `SaveMap`, `OpenMap`, `OpenMapDialog`). The read and the write
around a `/which_maps` call are separate steps, with the calls in flight between them. -/

namespace RosbridgeFleet.MapList
open GoBasics RegistryModel ServiceWrappers NavApi RobotApi

/-- `Client.RequestWhichMapsNames`. Its `resp == nil` branch is never taken: every response
`RequestWhichMaps` returns with a nil error is non-nil. -/
def requestWhichMapsNames (resp : Except String (Option JsonValue)) : Except String (List String) :=
  (requestWhichMaps resp).map (·.mapNames)

def mapsOK (maps : List String) : Response := jsonOK (.object [("maps", .array (maps.map .string))])

/-- `ListMaps` up to its call: the answer, or the robot whose empty list it read and for
which it calls `/which_maps`. -/
def listMapsRead (m : Manager) (lists : String → List String) (method : String)
    (connected : Bool) : Response ⊕ String :=
  if method ≠ "GET" then .inl (httpError "method not allowed" 405)
  else
    match getCurrentRobot m with
    | none => .inl (jsonError "no robot selected" 400)
    | some _ =>
      let maps := lists m.currentID
      if maps = [] ∧ connected = true then .inr m.currentID else .inl (mapsOK maps)

def listMapsReply (lists : String → List String) (id : String)
    (resp : Except String (Option JsonValue)) : Response × (String → List String) :=
  match requestWhichMapsNames resp with
  | .ok names => (mapsOK names, Function.update lists id names)
  | .error _ => (mapsOK [], lists)

/-- `SaveMap` and `OpenMap`: they differ only in the service call and in the word of their
error, `verb`. The body is what `json.Decoder.Decode` reads, `none` for an error. -/
def mapCommand (verb : String) (m : Manager) (method : String) (body : Option JsonValue)
    (connected : Bool) (resp : Except String (Option JsonValue)) : Response :=
  if method ≠ "POST" then httpError "method not allowed" 405
  else
    match objectFields body >>= (stringField · "name") with
    | none => jsonError "map name required" 400
    | some name =>
      if name = "" then jsonError "map name required" 400
      else
        match getCurrentRobot m with
        | none => jsonError "no robot selected" 400
        | some _ =>
          if connected = false then jsonError "robot not connected" 503
          else
            match resp with
            | .error e => jsonError (verb ++ " map failed: " ++ e) 500
            | .ok _ => jsonOK (.object [("map", .string name), ("status", .string "ok")])

def saveMap (m : Manager) (method : String) (body : Option JsonValue) (connected : Bool)
    (resp : Except String (Option JsonValue)) : Response :=
  mapCommand "save" m method body connected resp

def openMap (m : Manager) (method : String) (body : Option JsonValue) (connected : Bool)
    (resp : Except String (Option JsonValue)) : Response :=
  mapCommand "open" m method body connected resp

/-- `OpenMapDialog` up to its call: the maps for the template, or the robot and the list it
read when it calls `/which_maps`. -/
def openMapDialogRead (m : Manager) (lists : String → List String) (connected : Bool) :
    List String ⊕ (String × List String) :=
  match getCurrentRobot m with
  | none => .inl []
  | some _ => if connected = true then .inr (m.currentID, lists m.currentID) else .inl (lists m.currentID)

def openMapDialogReply (lists : String → List String) (id : String) (maps : List String)
    (resp : Except String (Option JsonValue)) : List String × (String → List String) :=
  match requestWhichMapsNames resp with
  | .ok names => if names ≠ [] then (names, Function.update lists id names) else (maps, lists)
  | .error _ => (maps, lists)

inductive WhichMapsCall
  | listing (id : String)
  | dialog (id : String) (maps : List String)
  deriving DecidableEq, Repr

structure MapServer where
  manager : Manager
  mapLists : String → List String
  calls : List WhichMapsCall

inductive MapRequest
  | robot (q : RobotRequest)
  | listMaps (method : String) (connected : Bool)
  | saveMap (method : String) (body : Option JsonValue) (connected : Bool)
      (resp : Except String (Option JsonValue))
  | openMap (method : String) (body : Option JsonValue) (connected : Bool)
      (resp : Except String (Option JsonValue))
  | openMapDialog (connected : Bool)
  | whichMapsReply (i : Nat) (resp : Except String (Option JsonValue))

/-- The lists after a robot-API request: an `AddRobot` that answers 200 has stored a new
`Robot` under `sprintfD m.nextID`. -/
def robotMapLists (m : Manager) (lists : String → List String) (q : RobotRequest) :
    String → List String :=
  match q with
  | .add .. => if (serve m q).1.status = 200 then Function.update lists (sprintfD m.nextID) [] else lists
  | _ => lists

def serveMap (s : MapServer) : MapRequest → Option MapServer
  | .robot q => some ⟨(serve s.manager q).2, robotMapLists s.manager s.mapLists q, s.calls⟩
  | .listMaps method connected =>
    match listMapsRead s.manager s.mapLists method connected with
    | .inl _ => some s
    | .inr id => some { s with calls := s.calls ++ [.listing id] }
  | .saveMap .. | .openMap .. => some s
  | .openMapDialog connected =>
    match openMapDialogRead s.manager s.mapLists connected with
    | .inl _ => some s
    | .inr (id, maps) => some { s with calls := s.calls ++ [.dialog id maps] }
  | .whichMapsReply i resp =>
    match s.calls[i]? with
    | some (.listing id) =>
      some { s with mapLists := (listMapsReply s.mapLists id resp).2, calls := s.calls.eraseIdx i }
    | some (.dialog id maps) =>
      some { s with mapLists := (openMapDialogReply s.mapLists id maps resp).2,
                    calls := s.calls.eraseIdx i }
    | none => none

def runMap : MapServer → List MapRequest → Option MapServer
  | s, [] => some s
  | s, q :: qs => (serveMap s q).bind (runMap · qs)

def MapRequest.refreshes : MapRequest → Bool
  | .robot (.add ..) | .openMapDialog .. => true
  | _ => false

def MapRequest.isAdd : MapRequest → Bool
  | .robot (.add ..) => true
  | _ => false

def WhichMapsCall.robot : WhichMapsCall → String
  | .listing id | .dialog id _ => id

theorem runMap_cons {s s' : MapServer} {q : MapRequest} {qs : List MapRequest}
    (h : runMap s (q :: qs) = some s') : ∃ s₁, serveMap s q = some s₁ ∧ runMap s₁ qs = some s' :=
  Option.bind_eq_some.mp h

section Lists

variable {m : Manager} {lists : String → List String} {id : String}

theorem listMapsRead_call {method : String} {connected : Bool} {id' : String}
    (h : listMapsRead m lists method connected = .inr id') : lists id' = [] := by
  unfold listMapsRead at h
  split_ifs at h
  split at h
  · cases h
  · dsimp only at h
    split_ifs at h with hm
    cases h; exact hm.1

theorem listMapsRead_cached {r : Robot} (hr : getCurrentRobot m = some r) (connected : Bool)
    (hne : lists m.currentID ≠ []) :
    listMapsRead m lists "GET" connected = .inl (mapsOK (lists m.currentID)) := by
  simp only [listMapsRead, ne_eq, not_true_eq_false, if_false, hr, hne, false_and, if_false]

theorem openMapDialogReply_nonempty (id' : String) (maps : List String)
    (resp : Except String (Option JsonValue)) (hne : lists id ≠ []) :
    (openMapDialogReply lists id' maps resp).2 id ≠ [] := by
  unfold openMapDialogReply
  split
  · next names _ =>
    split_ifs with hn
    · by_cases hid : id = id'
      · subst hid; simpa only [Function.update_same] using hn
      · simpa only [Function.update_noteq hid] using hne
    · exact hne
  · exact hne

theorem listMapsReply_other {id' : String} (resp : Except String (Option JsonValue))
    (hne : id' ≠ id) : (listMapsReply lists id' resp).2 id = lists id := by
  unfold listMapsReply
  split
  · exact Function.update_noteq (Ne.symm hne) _ _
  · rfl

theorem openMapDialogReply_other {id' : String} (maps : List String)
    (resp : Except String (Option JsonValue)) (hne : id' ≠ id) :
    (openMapDialogReply lists id' maps resp).2 id = lists id := by
  unfold openMapDialogReply
  split
  · split_ifs
    · exact Function.update_noteq (Ne.symm hne) _ _
    · rfl
  · rfl

theorem robotMapLists_of_not_add (q : RobotRequest) (hq : (MapRequest.robot q).isAdd = false) :
    robotMapLists m lists q = lists := by
  cases q <;> first | rfl | cases hq

end Lists

/-- Robot `id`'s list is `L`, non-empty, and no call in flight is about to write it. -/
structure Cached (id : String) (L : List String) (s : MapServer) : Prop where
  list : s.mapLists id = L
  nonempty : L ≠ []
  calls : ∀ c ∈ s.calls, c.robot ≠ id

theorem Cached.step {id : String} {L : List String} {s s' : MapServer} {q : MapRequest}
    (hc : Cached id L s) (hq : q.refreshes = false) (h : serveMap s q = some s') :
    Cached id L s' := by
  cases q with
  | robot q => cases q <;> first | (cases h; exact ⟨hc.list, hc.nonempty, hc.calls⟩) | cases hq
  | listMaps method connected =>
    simp only [serveMap] at h
    split at h
    · cases h; exact hc
    · next id' hr =>
      cases h
      refine ⟨hc.list, hc.nonempty, fun c hm => ?_⟩
      rcases List.mem_append.mp hm with hm | hm
      · exact hc.calls c hm
      · rw [List.mem_singleton.mp hm]
        rintro rfl
        exact hc.nonempty (hc.list ▸ listMapsRead_call hr)
  | saveMap | openMap => cases h; exact hc
  | openMapDialog => cases hq
  | whichMapsReply i resp =>
    simp only [serveMap] at h
    split at h
    · next id' hi =>
      cases h
      exact ⟨(listMapsReply_other resp (hc.calls _ (List.getElem?_mem hi))).trans hc.list,
        hc.nonempty, fun c hm => hc.calls c (List.mem_of_mem_eraseIdx hm)⟩
    · next id' maps hi =>
      cases h
      exact ⟨(openMapDialogReply_other maps resp (hc.calls _ (List.getElem?_mem hi))).trans hc.list,
        hc.nonempty, fun c hm => hc.calls c (List.mem_of_mem_eraseIdx hm)⟩
    · cases h

theorem Cached.run {id : String} {L : List String} {s s' : MapServer} {reqs : List MapRequest}
    (hc : Cached id L s) (hno : ∀ q ∈ reqs, q.refreshes = false) (h : runMap s reqs = some s') :
    Cached id L s' := by
  induction reqs generalizing s with
  | nil => cases h; exact hc
  | cons q qs ih =>
    obtain ⟨s₁, h₁, h₂⟩ := runMap_cons h
    exact ih (hc.step (hno q (List.mem_cons_self _ _)) h₁) (fun q' hq => hno q' (.tail q hq)) h₂

/-- Across any interleaving of robot-API requests but `AddRobot`, `ListMaps` reads and
replies, saves and opens, from a point where robot `id` has a non-empty map list and no
`/which_maps` call on it is in flight, the list stays exactly as it was, and every
`ListMaps` read while `id` is the current robot answers that list, whatever its link reports
and whatever maps were saved in between. -/
theorem list_maps_answers_cached_list (s s' : MapServer) (reqs : List MapRequest)
    (h : runMap s reqs = some s') (hno : ∀ q ∈ reqs, q.refreshes = false) (id : String)
    (hne : s.mapLists id ≠ []) (hcalls : ∀ c ∈ s.calls, c.robot ≠ id) :
    s'.mapLists id = s.mapLists id ∧
      ∀ pre post connected sp, reqs = pre ++ .listMaps "GET" connected :: post →
        runMap s pre = some sp → sp.manager.currentID = id →
        (getCurrentRobot sp.manager).isSome →
        listMapsRead sp.manager sp.mapLists "GET" connected = .inl (mapsOK (s.mapLists id)) := by
  have hc : Cached id (s.mapLists id) s := ⟨rfl, hne, hcalls⟩
  refine ⟨(hc.run hno h).list, fun pre post connected sp hreqs hpre hid hsome => ?_⟩
  have hp := hc.run (fun q hq => hno q (hreqs ▸ List.mem_append_left _ hq)) hpre
  obtain ⟨r, hr⟩ := Option.isSome_iff_exists.mp hsome
  subst hid
  rw [listMapsRead_cached hr connected (hp.list ▸ hne), hp.list]

theorem list_maps_answers_cached_list_after_save :
    let s : MapServer := ⟨⟨(∅ : AList _).insert "1" (newRobot "1" "/r1" "r1" "10.0.0.1" 9090),
      "1", 2⟩, fun k => if k = "1" then ["lab"] else [], []⟩
    let reqs : List MapRequest := [.saveMap "POST" (some (.object [("name", .string "office")]))
      true (.ok none), .listMaps "GET" true]
    ∃ s', runMap s reqs = some s' ∧ (∀ q ∈ reqs, q.refreshes = false) ∧ s.mapLists "1" ≠ [] ∧
      (∀ c ∈ s.calls, c.robot ≠ "1") ∧ s'.mapLists "1" = s.mapLists "1" ∧
      ∀ pre post connected sp, reqs = pre ++ .listMaps "GET" connected :: post →
        runMap s pre = some sp → sp.manager.currentID = "1" →
        (getCurrentRobot sp.manager).isSome →
        listMapsRead sp.manager sp.mapLists "GET" connected = .inl (mapsOK (s.mapLists "1")) := by
  intro s reqs
  have hno : ∀ q ∈ reqs, q.refreshes = false := by decide
  have hne : s.mapLists "1" ≠ [] := by decide
  have hcalls : ∀ c ∈ s.calls, c.robot ≠ "1" := fun _ h => (List.not_mem_nil _ h).elim
  exact ⟨_, rfl, hno, hne, hcalls, list_maps_answers_cached_list s _ reqs rfl hno "1" hne hcalls⟩

/-- Robot `id`'s list is non-empty, and no `ListMaps` call in flight is about to write it. -/
structure NonEmpty (id : String) (s : MapServer) : Prop where
  nonempty : s.mapLists id ≠ []
  calls : WhichMapsCall.listing id ∉ s.calls

theorem NonEmpty.step {id : String} {s s' : MapServer} {q : MapRequest} (hn : NonEmpty id s)
    (hq : q.isAdd = false) (h : serveMap s q = some s') : NonEmpty id s' := by
  cases q with
  | robot q =>
    cases h
    exact ⟨by rw [robotMapLists_of_not_add q hq]; exact hn.nonempty, hn.calls⟩
  | listMaps method connected =>
    simp only [serveMap] at h
    split at h
    · cases h; exact hn
    · next id' hr =>
      cases h
      refine ⟨hn.nonempty, fun hm => ?_⟩
      rcases List.mem_append.mp hm with hm | hm
      · exact hn.calls hm
      · cases List.mem_singleton.mp hm
        exact hn.nonempty (listMapsRead_call hr)
  | saveMap | openMap => cases h; exact hn
  | openMapDialog connected =>
    simp only [serveMap] at h
    split at h
    · cases h; exact hn
    · cases h
      exact ⟨hn.nonempty, fun hm => (List.mem_append.mp hm).elim hn.calls (by simp)⟩
  | whichMapsReply i resp =>
    simp only [serveMap] at h
    split at h
    · next id' hi =>
      cases h
      have hne : id' ≠ id := by rintro rfl; exact hn.calls (List.getElem?_mem hi)
      exact ⟨fun he => hn.nonempty ((listMapsReply_other resp hne).symm.trans he),
        fun hm => hn.calls (List.mem_of_mem_eraseIdx hm)⟩
    · cases h
      exact ⟨openMapDialogReply_nonempty _ _ _ hn.nonempty,
        fun hm => hn.calls (List.mem_of_mem_eraseIdx hm)⟩
    · cases h

theorem NonEmpty.run {id : String} {s s' : MapServer} {reqs : List MapRequest}
    (hn : NonEmpty id s) (hno : ∀ q ∈ reqs, q.isAdd = false) (h : runMap s reqs = some s') :
    NonEmpty id s' := by
  induction reqs generalizing s with
  | nil => cases h; exact hn
  | cons q qs ih =>
    obtain ⟨s₁, h₁, h₂⟩ := runMap_cons h
    exact ih (hn.step (hno q (List.mem_cons_self _ _)) h₁) (fun q' hq => hno q' (.tail q hq)) h₂

/-- Across any run without an `AddRobot`, from a point where robot `id`'s map list is
non-empty and no `ListMaps` call on it is in flight, the list is never empty again: a
`ListMaps` writes only after reading an empty list, and the dialog writes only a non-empty
answer. -/
theorem map_list_never_emptied (s s' : MapServer) (reqs : List MapRequest)
    (h : runMap s reqs = some s') (hno : ∀ q ∈ reqs, q.isAdd = false) (id : String)
    (hne : s.mapLists id ≠ []) (hcalls : WhichMapsCall.listing id ∉ s.calls) :
    s'.mapLists id ≠ [] :=
  (NonEmpty.run ⟨hne, hcalls⟩ hno h).nonempty

theorem map_list_never_emptied_after_empty_dialog :
    let s : MapServer := ⟨⟨(∅ : AList _).insert "1" (newRobot "1" "/r1" "r1" "10.0.0.1" 9090),
      "1", 2⟩, fun k => if k = "1" then ["lab"] else [], []⟩
    let reqs : List MapRequest := [.openMapDialog true, .whichMapsReply 0 (.ok none),
      .listMaps "GET" true]
    ∃ s', runMap s reqs = some s' ∧ (∀ q ∈ reqs, q.isAdd = false) ∧ s.mapLists "1" ≠ [] ∧
      WhichMapsCall.listing "1" ∉ s.calls ∧ s'.mapLists "1" ≠ [] := by
  intro s reqs
  have hno : ∀ q ∈ reqs, q.isAdd = false := by decide
  have hne : s.mapLists "1" ≠ [] := by decide
  have hcalls : WhichMapsCall.listing "1" ∉ s.calls := List.not_mem_nil _
  exact ⟨_, rfl, hno, hne, hcalls, map_list_never_emptied s _ reqs rfl hno "1" hne hcalls⟩

end RosbridgeFleet.MapList
