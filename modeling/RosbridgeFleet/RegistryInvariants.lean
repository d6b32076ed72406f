import RosbridgeFleet.RegistryModel

set_option autoImplicit false

/-!
# Invariants of every reachable registry

Each invariant is proved once per method and carried over whole runs by `run_induction`.
-/
namespace RosbridgeFleet.RegistryInvariants
open GoBasics RegistryModel

theorem run_induction (P : Manager → Prop) (hstep : ∀ m op, P m → P (step m op).manager)
    (m : Manager) (ops : List Op) (hm : P m) : P (run m ops) := by
  induction ops generalizing m with
  | nil => exact hm
  | cons op ops ih => exact ih _ (hstep m op hm)

theorem hasAddress_iff (m : Manager) (ip : String) (port : Int) :
    hasAddress m ip port = true ↔
      ∃ k r, m.robots.lookup k = some r ∧ r.ip = ip ∧ r.port = port := by
  simp only [hasAddress, List.any_eq_true, Bool.and_eq_true, beq_iff_eq]
  constructor
  · rintro ⟨⟨k, r⟩, he, hip, hport⟩
    exact ⟨k, r, AList.mem_lookup_iff.mpr he, hip, hport⟩
  · rintro ⟨k, r, hl, hip, hport⟩
    exact ⟨⟨k, r⟩, AList.mem_lookup_iff.mp hl, hip, hport⟩

theorem rangeFirst_mem (s : AList (fun _ : String => Robot)) (pick : Nat)
    (h : s.keys ≠ []) : rangeFirst s pick ∈ s := by
  have hlt : pick % s.keys.length < s.keys.length :=
    Nat.mod_lt _ (List.length_pos.mpr h)
  simp only [rangeFirst, List.getElem?_eq_getElem hlt, Option.getD_some]
  exact AList.mem_keys.mpr (List.getElem_mem hlt)

theorem rangeFirst_of_empty (s : AList (fun _ : String => Robot)) (pick : Nat)
    (h : s.keys = []) : rangeFirst s pick = "" := by
  simp [rangeFirst, h]

theorem lookup_step (m : Manager) (op : Op) (k : String) (r : Robot)
    (h : (step m op).manager.robots.lookup k = some r) :
    m.robots.lookup k = some r ∨
      ∃ ns name ip port, hasAddress m ip port = false ∧ k = sprintfD m.nextID ∧
        r = newRobot k ns name ip port := by
  cases op with
  | addRobot ns name ip port =>
    simp only [step, Call.map, addRobot] at h
    split at h
    · exact .inl h
    · rename_i hna
      by_cases hk : k = sprintfD m.nextID
      · subst hk
        simp only [AList.lookup_insert, Option.some.injEq] at h
        exact .inr ⟨ns, name, ip, port, by simpa using hna, rfl, h.symm⟩
      · exact .inl (by rwa [AList.lookup_insert_ne hk] at h)
  | removeRobot id pick =>
    simp only [step, Call.map, removeRobot] at h
    split at h
    · by_cases hk : k = id
      · subst hk
        simp [AList.lookup_erase] at h
      · exact .inl (by rwa [AList.lookup_erase_ne hk] at h)
    · exact .inl h
  | switchRobot id =>
    simp only [step, Call.map, switchRobot] at h
    split at h <;> exact .inl h
  | clearAll => simp [step, Call.map, clearAll, AList.lookup_empty] at h

/-- `currentID` is empty exactly when the map is, and otherwise names a robot. -/
structure Selection (m : Manager) : Prop where
  unnamed : "" ∉ m.robots
  empty_iff : m.currentID = "" ↔ m.robots.keys = []
  current_mem : m.currentID ≠ "" → m.currentID ∈ m.robots

theorem selection_newManager : Selection newManager :=
  ⟨AList.not_mem_empty _, by simp [newManager, AList.keys_empty],
    fun h => absurd rfl h⟩

theorem selection_addRobot {m : Manager} (hs : Selection m) (ns name ip : String) (port : Int) :
    Selection (addRobot m ns name ip port).manager := by
  unfold addRobot
  split
  · exact hs
  · have hid := sprintfD_ne_empty m.nextID
    have hcur : (if m.currentID = "" then sprintfD m.nextID else m.currentID) ≠ "" := by
      split <;> assumption
    refine ⟨?_, ⟨fun h => absurd h hcur, fun h => ?_⟩, fun _ => ?_⟩
    · simp only [AList.mem_insert, not_or]
      exact ⟨Ne.symm hid, hs.unnamed⟩
    · simp [AList.keys_insert] at h
    · simp only [AList.mem_insert]
      split
      · exact .inl rfl
      · exact .inr (hs.current_mem ‹_›)

theorem selection_removeRobot {m : Manager} (hs : Selection m) (id : String) (pick : Nat) :
    Selection (removeRobot m id pick).manager := by
  unfold removeRobot
  split
  · rename_i hid
    have hne : m.currentID ≠ "" := fun h =>
      by simp [hs.empty_iff.mp h, AList.mem_keys] at hid
    have unnamed : "" ∉ m.robots.erase id := fun h => hs.unnamed (AList.mem_erase.mp h).2
    by_cases hc : m.currentID = id
    · simp only [hc, if_true]
      by_cases he : (m.robots.erase id).keys = []
      · rw [rangeFirst_of_empty _ _ he]
        exact ⟨unnamed, iff_of_true rfl he, fun h => absurd rfl h⟩
      · have hm := rangeFirst_mem _ pick he
        have hr : rangeFirst (m.robots.erase id) pick ≠ "" := fun h => unnamed (h ▸ hm)
        exact ⟨unnamed, iff_of_false hr he, fun _ => hm⟩
    · have hm : m.currentID ∈ m.robots.erase id := AList.mem_erase.mpr ⟨hc, hs.current_mem hne⟩
      simp only [hc, if_false]
      refine ⟨unnamed, iff_of_false hne ?_, fun _ => hm⟩
      intro he
      simp [AList.mem_keys, he] at hm
  · exact hs

theorem selection_switchRobot {m : Manager} (hs : Selection m) (id : String) :
    Selection (switchRobot m id).manager := by
  unfold switchRobot
  split
  · rename_i hid
    have hne : id ≠ "" := fun h => hs.unnamed (h ▸ hid)
    refine ⟨hs.unnamed, iff_of_false hne ?_, fun _ => hid⟩
    intro he
    simp [AList.mem_keys, he] at hid
  · exact hs

theorem selection_step (m : Manager) (op : Op) (hs : Selection m) :
    Selection (step m op).manager := by
  cases op with
  | addRobot ns name ip port => exact selection_addRobot hs ns name ip port
  | removeRobot id pick => exact selection_removeRobot hs id pick
  | switchRobot id => exact selection_switchRobot hs id
  | clearAll => exact ⟨AList.not_mem_empty _, iff_of_true rfl AList.keys_empty,
      fun h => absurd rfl h⟩

theorem getCurrentRobot_eq_none {m : Manager} (hs : Selection m) :
    getCurrentRobot m = none ↔ getRobotCount m = 0 := by
  rw [getRobotCount, List.length_eq_zero, ← hs.empty_iff, getCurrentRobot]
  split
  · exact iff_of_true rfl ‹_›
  · rename_i hne
    refine iff_of_false ?_ hne
    rw [AList.lookup_eq_none, not_not]
    exact hs.current_mem hne

/-- In every reachable registry `currentID` is empty iff no robot is registered, otherwise
it is a registered id, and so `GetCurrentRobot` is nil iff the registry is empty. -/
theorem currentID_tracks_registry (ops : List Op) :
    ((run newManager ops).currentID = "" ↔ getRobotCount (run newManager ops) = 0) ∧
    ((run newManager ops).currentID ≠ "" →
      (run newManager ops).currentID ∈ (run newManager ops).robots) ∧
    (getCurrentRobot (run newManager ops) = none ↔ getRobotCount (run newManager ops) = 0) := by
  have hs := run_induction Selection selection_step newManager ops selection_newManager
  refine ⟨?_, hs.current_mem, getCurrentRobot_eq_none hs⟩
  rw [hs.empty_iff, getRobotCount, List.length_eq_zero]

/-- No two registered robots share an `(IP, Port)`. -/
def AddressesUnique (m : Manager) : Prop :=
  ∀ k₁ k₂ r₁ r₂, m.robots.lookup k₁ = some r₁ → m.robots.lookup k₂ = some r₂ →
    r₁.ip = r₂.ip → r₁.port = r₂.port → k₁ = k₂

theorem addressesUnique_newManager : AddressesUnique newManager :=
  fun k₁ _ _ _ h₁ => by simp [newManager, AList.lookup_empty] at h₁

theorem addressesUnique_step (m : Manager) (op : Op) (hu : AddressesUnique m) :
    AddressesUnique (step m op).manager := by
  intro k₁ k₂ r₁ r₂ h₁ h₂ hip hport
  rcases lookup_step m op k₁ r₁ h₁ with h₁ | ⟨ns, name, ip, port, hna, hk₁, rfl⟩ <;>
    rcases lookup_step m op k₂ r₂ h₂ with h₂ | ⟨ns', name', ip', port', hna', hk₂, rfl⟩
  · exact hu k₁ k₂ r₁ r₂ h₁ h₂ hip hport
  · exact absurd (hna'.symm.trans ((hasAddress_iff m ip' port').mpr ⟨k₁, r₁, h₁, hip, hport⟩))
      Bool.false_ne_true
  · exact absurd (hna.symm.trans ((hasAddress_iff m ip port).mpr
      ⟨k₂, r₂, h₂, hip.symm, hport.symm⟩)) Bool.false_ne_true
  · exact hk₁.trans hk₂.symm

theorem addRobot_fails_iff (m : Manager) (ns name ip : String) (port : Int) :
    (∃ e, (addRobot m ns name ip port).ret = .error e) ↔ hasAddress m ip port = true := by
  unfold addRobot
  split
  · exact iff_of_true ⟨_, rfl⟩ ‹_›
  · exact iff_of_false (by simp) ‹_›

/-- Every reachable registry holds at most one robot per address, and `AddRobot` fails
exactly on an address already registered. -/
theorem addresses_unique (ops : List Op) :
    (∀ k₁ k₂ r₁ r₂, (run newManager ops).robots.lookup k₁ = some r₁ →
      (run newManager ops).robots.lookup k₂ = some r₂ → r₁.ip = r₂.ip → r₁.port = r₂.port →
        k₁ = k₂) ∧
    ∀ ns name ip port, (∃ e, (addRobot (run newManager ops) ns name ip port).ret = .error e) ↔
      ∃ k r, (run newManager ops).robots.lookup k = some r ∧ r.ip = ip ∧ r.port = port :=
  ⟨run_induction AddressesUnique addressesUnique_step newManager ops addressesUnique_newManager,
    fun ns name ip port => (addRobot_fails_iff _ ns name ip port).trans (hasAddress_iff _ ip port)⟩

theorem step_error_unchanged (m : Manager) (op : Op) (e : String)
    (h : (step m op).ret = .error e) :
    (step m op).manager = m ∧ (step m op).sent = [] ∧ (step m op).stops = [] := by
  cases op with
  | clearAll => cases h
  | _ =>
    simp only [step, Call.map, addRobot, removeRobot, switchRobot] at h ⊢
    split_ifs at h ⊢ <;> first | exact ⟨rfl, rfl, rfl⟩ | cases h

/-- In every registry state, `AddRobot` at a registered address and `RemoveRobot` or
`SwitchRobot` of an unregistered id fail with the error naming what they checked, and
every failing call leaves `robots`, `currentID` and `nextID` as they were, broadcasts
nothing and stops no link. -/
theorem failed_calls_leave_registry (m : Manager) :
    (∀ ns name ip port, (∃ k r, m.robots.lookup k = some r ∧ r.ip = ip ∧ r.port = port) →
      addRobot m ns name ip port =
        ⟨.error s!"robot at {ip}:{port} already exists", m, [], []⟩) ∧
    (∀ id pick, id ∉ m.robots →
      removeRobot m id pick = ⟨.error s!"robot {id} not found", m, [], []⟩) ∧
    (∀ id, id ∉ m.robots → switchRobot m id = ⟨.error s!"robot {id} not found", m, [], []⟩) ∧
    ∀ op e, (step m op).ret = .error e →
      (step m op).manager = m ∧ (step m op).sent = [] ∧ (step m op).stops = [] :=
  ⟨fun ns name ip port h => by rw [addRobot, if_pos ((hasAddress_iff m ip port).mpr h)],
    fun id pick h => by rw [removeRobot, if_neg h],
    fun id h => by rw [switchRobot, if_neg h],
    step_error_unchanged m⟩

def idsFrom (start : BitVec 64) : Nat → List String
  | 0 => []
  | k + 1 => sprintfD start :: idsFrom (start + 1) k

theorem step_addedID (m : Manager) (op : Op) :
    ((step m op).addedID = [sprintfD m.nextID] ∧ (step m op).manager.nextID = m.nextID + 1) ∨
      ((step m op).addedID = [] ∧ (step m op).manager.nextID = m.nextID) := by
  cases op with
  | addRobot ns name ip port =>
    simp only [step, Call.map, addRobot]
    split
    · exact .inr ⟨rfl, rfl⟩
    · exact .inl ⟨rfl, rfl⟩
  | removeRobot id pick =>
    simp only [step, Call.map, removeRobot]
    split <;> exact .inr ⟨rfl, rfl⟩
  | switchRobot id =>
    simp only [step, Call.map, switchRobot]
    split <;> exact .inr ⟨rfl, rfl⟩
  | clearAll => exact .inr ⟨rfl, rfl⟩

theorem addedIDs_eq_idsFrom (m : Manager) (ops : List Op) :
    addedIDs m ops = idsFrom m.nextID (addedIDs m ops).length := by
  induction ops generalizing m with
  | nil => rfl
  | cons op ops ih =>
    rcases step_addedID m op with ⟨h1, h2⟩ | ⟨h1, h2⟩
    · rw [addedIDs, h1, List.singleton_append, List.length_cons, idsFrom, ← h2]
      exact congrArg _ (ih _)
    · rw [addedIDs, h1, List.nil_append, ← h2]
      exact ih _

theorem sprintfD_ofNat (s : Nat) (h : s < 2 ^ 63) :
    sprintfD (BitVec.ofNat 64 s) = toString (s : Int) := by
  have hs : s % 2 ^ 64 = s := Nat.mod_eq_of_lt (by omega)
  simp only [sprintfD, BitVec.toInt_eq_toNat_cond, BitVec.toNat_ofNat, hs]
  rw [if_pos (by omega)]

theorem idsFrom_ofNat (s k : Nat) (h : s + k ≤ 2 ^ 63) :
    idsFrom (BitVec.ofNat 64 s) k = (List.range k).map fun i => toString ((s + i : Nat) : Int) := by
  induction k generalizing s with
  | zero => rfl
  | succ k ih =>
    have hnext : BitVec.ofNat 64 s + 1 = BitVec.ofNat 64 (s + 1) := BitVec.ofNat_add_ofNat s 1
    rw [idsFrom, hnext, ih (s + 1) (by omega), sprintfD_ofNat s (by omega),
      List.range_succ_eq_map, List.map_cons, List.map_map]
    congr 2
    funext i
    simp only [Function.comp_apply]
    congr 2
    omega

/-- Over a run with fewer than `2^63 - 1` successful additions, `AddRobot` hands out
pairwise distinct ids, strictly increasing as integers, and every robot is stored under
its own id. -/
theorem addRobot_ids_increasing (ops : List Op)
    (h : (addedIDs newManager ops).length < 2 ^ 63 - 1) :
    (addedIDs newManager ops).Nodup ∧
    (∃ ns : List Int, addedIDs newManager ops = ns.map toString ∧ ns.Pairwise (· < ·)) ∧
    ∀ k r, (run newManager ops).robots.lookup k = some r → r.id = k := by
  have hids : addedIDs newManager ops =
      (List.range (addedIDs newManager ops).length).map
        fun i => toString ((1 + i : Nat) : Int) :=
    (addedIDs_eq_idsFrom _ _).trans (idsFrom_ofNat 1 _ (by omega))
  refine ⟨?_, ⟨_, hids.trans (List.map_map _ _ _).symm, ?_⟩, ?_⟩
  · rw [hids]
    refine (List.nodup_range _).map fun a b hab => ?_
    have := toString_nat_injective (show toString (1 + a) = toString (1 + b) from hab)
    omega
  · rw [List.pairwise_map]
    exact (List.pairwise_lt_range _).imp fun hab => by omega
  · refine run_induction (fun m => ∀ k r, m.robots.lookup k = some r → r.id = k)
      (fun m op hm k r hk => ?_) newManager ops
      (fun k r hk => by simp [newManager, AList.lookup_empty] at hk)
    rcases lookup_step m op k r hk with hk | ⟨ns, name, ip, port, -, -, rfl⟩
    · exact hm k r hk
    · rfl

theorem addRobot_ids_increasing_two_adds :
    (addedIDs newManager [.addRobot "/r1" "a" "10.0.0.1" 9090, .clearAll,
      .addRobot "/r1" "a" "10.0.0.1" 9090]).length < 2 ^ 63 - 1 ∧
    (addedIDs newManager [.addRobot "/r1" "a" "10.0.0.1" 9090, .clearAll,
      .addRobot "/r1" "a" "10.0.0.1" 9090]).Nodup :=
  ⟨by decide, (addRobot_ids_increasing _ (by decide)).1⟩

end RosbridgeFleet.RegistryInvariants
