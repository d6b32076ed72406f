import RosbridgeFleet.RegistryInvariants
import RosbridgeFleet.NavApi

set_option autoImplicit false

/-! The HTTP robot API (`AddRobot`, `RemoveRobot`, `SwitchRobot`, `UpdateSettings`). An absent
form field reads as `""`; the `HX-Request` branches and logging are left out. -/

namespace RosbridgeFleet.RobotApi
open GoBasics RegistryModel RegistryInvariants NavApi

def atoiSign : List Char → Bool × List Char
  | '-' :: ds => (true, ds)
  | '+' :: ds => (false, ds)
  | ds => (false, ds)

/-- `strconv.Atoi` on a 64-bit platform: an optional sign, then one or more decimal digits,
with the value in `int64` range. -/
def atoi (s : String) : Option Int :=
  let (neg, ds) := atoiSign s.data
  let n : Int := if neg then -(digitsValue ds : Int) else digitsValue ds
  if ds ≠ [] ∧ ds.all Char.isDigit ∧ -2 ^ 63 ≤ n ∧ n < 2 ^ 63 then some n else none

def httpError (msg : String) (code : Nat) : Response := ⟨code, .string msg⟩

/-- `AddRobot`'s port: 9090 when the field is empty. -/
def parsePort (portStr : String) : Option Int := if portStr = "" then some 9090 else atoi portStr

def addRobotHandler (m : Manager) (method : String) (form : String → String) :
    Response × Manager :=
  if method ≠ "POST" then (httpError "method not allowed" 405, m)
  else if form "namespace" = "" ∨ form "name" = "" ∨ form "ip" = "" then
    (jsonError "namespace, name, and ip are required" 400, m)
  else
    match parsePort (form "port") with
    | none => (jsonError "invalid port" 400, m)
    | some port =>
      let c := addRobot m (form "namespace") (form "name") (form "ip") port
      match c.ret with
      | .error e => (jsonError e 409, c.manager)
      | .ok r =>
        (jsonOK (.object [("id", .string r.id), ("ip", .string r.ip), ("name", .string r.name)]),
          c.manager)

/-- `RemoveRobot`; `pick` is the key Go's map iteration yields first. -/
def removeRobotHandler (m : Manager) (method id : String) (pick : Nat) : Response × Manager :=
  if method ≠ "DELETE" then (httpError "method not allowed" 405, m)
  else if id = "" then (jsonError "id required" 400, m)
  else
    let c := removeRobot m id pick
    match c.ret with
    | .error e => (jsonError e 404, c.manager)
    | .ok () => (statusOK "removed", c.manager)

/-- `SwitchRobot`: the form's `id`, else the query's. -/
def switchRobotHandler (m : Manager) (formID queryID : String) : Response × Manager :=
  let id := if formID = "" then queryID else formID
  let c := switchRobot m id
  match c.ret with
  | .error e => (jsonError e 404, c.manager)
  | .ok () => (jsonOK (.object [("id", .string id), ("status", .string "switched")]), c.manager)

inductive RobotRequest
  | add (method : String) (form : String → String)
  | remove (method id : String) (pick : Nat)
  | switch (formID queryID : String)

def serve (m : Manager) : RobotRequest → Response × Manager
  | .add method form => addRobotHandler m method form
  | .remove method id pick => removeRobotHandler m method id pick
  | .switch formID queryID => switchRobotHandler m formID queryID

def serveAll (m : Manager) (reqs : List RobotRequest) : Manager :=
  reqs.foldl (fun m q => (serve m q).2) m

theorem digitChar_isDigit (d : Nat) (h : d < 10) : (Nat.digitChar d).isDigit = true := by
  interval_cases d <;> rfl

theorem toDigitsCore_isDigit (f n : Nat) (ds : List Char) (hds : ∀ c ∈ ds, c.isDigit = true) :
    ∀ c ∈ Nat.toDigitsCore 10 f n ds, c.isDigit = true := by
  induction f generalizing n ds with
  | zero => exact hds
  | succ f ih =>
    have hd : ∀ c ∈ Nat.digitChar (n % 10) :: ds, c.isDigit = true := by
      simpa [digitChar_isDigit _ (Nat.mod_lt n (by norm_num))] using hds
    rw [toDigitsCore_succ]
    split
    · exact hd
    · exact ih _ _ hd

theorem toDigits_ne_nil (n : Nat) : Nat.toDigits 10 n ≠ [] := by
  rw [Nat.toDigits, toDigitsCore_succ]
  split
  · exact List.cons_ne_nil _ _
  · exact toDigitsCore_ne_nil _ _ _ _

theorem toDigits_isDigit (n : Nat) : ∀ c ∈ Nat.toDigits 10 n, c.isDigit = true :=
  toDigitsCore_isDigit _ _ _ (fun _ h => (List.not_mem_nil _ h).elim)

theorem atoiSign_digit {c : Char} (hc : c.isDigit = true) (rest : List Char) :
    atoiSign (c :: rest) = (false, c :: rest) := by
  unfold atoiSign
  split
  · next h => cases (List.cons.inj h).1; cases hc
  · next h => cases (List.cons.inj h).1; cases hc
  · rfl

theorem atoi_digits {ds : List Char} (hne : ds ≠ []) (hd : ∀ c ∈ ds, c.isDigit = true)
    (hlt : digitsValue ds < 2 ^ 63) : atoi ⟨ds⟩ = some (digitsValue ds) := by
  obtain ⟨c, rest, rfl⟩ := List.exists_cons_of_ne_nil hne
  have hv : -2 ^ 63 ≤ (digitsValue (c :: rest) : Int) ∧ (digitsValue (c :: rest) : Int) < 2 ^ 63 :=
    ⟨by omega, by exact_mod_cast hlt⟩
  simp only [atoi, atoiSign_digit (hd c (List.mem_cons_self _ _))]
  rw [if_pos ⟨hne, List.all_eq_true.mpr hd, hv⟩]
  rfl

theorem atoi_neg_digits {ds : List Char} (hne : ds ≠ []) (hd : ∀ c ∈ ds, c.isDigit = true)
    (hle : digitsValue ds ≤ 2 ^ 63) : atoi ⟨'-' :: ds⟩ = some (-(digitsValue ds : Int)) := by
  have hv : -2 ^ 63 ≤ -(digitsValue ds : Int) ∧ -(digitsValue ds : Int) < 2 ^ 63 :=
    ⟨by omega, by omega⟩
  simp only [atoi, atoiSign]
  rw [if_pos ⟨hne, List.all_eq_true.mpr hd, hv⟩]
  rfl

/-- Every `int64` written by `fmt` reads back: `Atoi(strconv.Itoa(p)) = p`. -/
theorem atoi_toString (p : Int) (hlo : -2 ^ 63 ≤ p) (hhi : p < 2 ^ 63) :
    atoi (toString p) = some p := by
  cases p with
  | ofNat n =>
    have hs : toString (Int.ofNat n) = ⟨Nat.toDigits 10 n⟩ := rfl
    have hn : n < 2 ^ 63 := by simp only [Int.ofNat_eq_coe] at hhi; omega
    rw [hs, atoi_digits (toDigits_ne_nil n) (toDigits_isDigit n)
      (by rw [digitsValue_toDigits]; exact hn), digitsValue_toDigits]
    rfl
  | negSucc n =>
    have hs : toString (Int.negSucc n) = ⟨'-' :: Nat.toDigits 10 (n + 1)⟩ := rfl
    have hn : n + 1 ≤ 2 ^ 63 := by simp only [Int.negSucc_eq] at hlo; omega
    rw [hs, atoi_neg_digits (toDigits_ne_nil _) (toDigits_isDigit _)
      (by rw [digitsValue_toDigits]; exact hn), digitsValue_toDigits]
    rfl

theorem parsePort_toString (p : Int) (hlo : -2 ^ 63 ≤ p) (hhi : p < 2 ^ 63) :
    parsePort (toString p) = some p := by
  rw [parsePort, if_neg (toString_int_ne_empty p), atoi_toString p hlo hhi]

/-- A form with the namespace, name and ip set and the port written as `p` in decimal (or
left empty, for 9090) either finds the address taken and answers 409 with the registry as
it was, or answers 200 with the new robot's id, ip and name and stores it under that id with
exactly the port `p`. -/
theorem add_robot_form_stores_port (m : Manager) (form : String → String) (p : Int)
    (hfields : form "namespace" ≠ "" ∧ form "name" ≠ "" ∧ form "ip" ≠ "")
    (hport : form "port" = "" ∧ p = 9090 ∨ form "port" = toString p ∧ -2 ^ 63 ≤ p ∧ p < 2 ^ 63) :
    (hasAddress m (form "ip") p = true →
      (addRobotHandler m "POST" form).1.status = 409 ∧ (addRobotHandler m "POST" form).2 = m) ∧
    (hasAddress m (form "ip") p = false →
      (addRobotHandler m "POST" form).1 = jsonOK (.object [("id", .string (sprintfD m.nextID)),
        ("ip", .string (form "ip")), ("name", .string (form "name"))]) ∧
      getRobot (addRobotHandler m "POST" form).2 (sprintfD m.nextID) =
        some (newRobot (sprintfD m.nextID) (form "namespace") (form "name") (form "ip") p)) := by
  have hp : parsePort (form "port") = some p := by
    rcases hport with ⟨he, rfl⟩ | ⟨he, hlo, hhi⟩
    · rw [he]; rfl
    · rw [he, parsePort_toString p hlo hhi]
  have hf : ¬(form "namespace" = "" ∨ form "name" = "" ∨ form "ip" = "") := by tauto
  have hh : addRobotHandler m "POST" form =
      match (addRobot m (form "namespace") (form "name") (form "ip") p).ret with
      | .error e => (jsonError e 409, (addRobot m (form "namespace") (form "name") (form "ip") p).manager)
      | .ok r => (jsonOK (.object [("id", .string r.id), ("ip", .string r.ip),
          ("name", .string r.name)]), (addRobot m (form "namespace") (form "name") (form "ip") p).manager) := by
    rw [addRobotHandler, if_neg (fun h => h rfl), if_neg hf, hp]
  refine ⟨fun ha => ?_, fun ha => ?_⟩ <;> rw [hh] <;> simp only [addRobot, ha, if_true, if_false]
  · exact ⟨rfl, trivial⟩
  · exact ⟨rfl, by simp [getRobot, AList.lookup_insert]⟩

theorem add_robot_form_stores_port_dock :
    let form : String → String := fun k =>
      if k = "namespace" then "/r1" else if k = "name" then "r1" else if k = "ip" then "10.0.0.1"
      else if k = "port" then "9091" else ""
    (form "namespace" ≠ "" ∧ form "name" ≠ "" ∧ form "ip" ≠ "") ∧
      (form "port" = "" ∧ (9091 : Int) = 9090 ∨
        form "port" = toString (9091 : Int) ∧ -2 ^ 63 ≤ (9091 : Int) ∧ (9091 : Int) < 2 ^ 63) ∧
      (hasAddress newManager (form "ip") 9091 = true →
        (addRobotHandler newManager "POST" form).1.status = 409 ∧
          (addRobotHandler newManager "POST" form).2 = newManager) ∧
      (hasAddress newManager (form "ip") 9091 = false →
        (addRobotHandler newManager "POST" form).1 =
          jsonOK (.object [("id", .string (sprintfD newManager.nextID)),
            ("ip", .string (form "ip")), ("name", .string (form "name"))]) ∧
        getRobot (addRobotHandler newManager "POST" form).2 (sprintfD newManager.nextID) =
          some (newRobot (sprintfD newManager.nextID) (form "namespace") (form "name")
            (form "ip") 9091)) :=
  have hfields : "/r1" ≠ "" ∧ "r1" ≠ "" ∧ "10.0.0.1" ≠ "" := by decide
  have hport : "9091" = "" ∧ (9091 : Int) = 9090 ∨
      "9091" = toString (9091 : Int) ∧ -2 ^ 63 ≤ (9091 : Int) ∧ (9091 : Int) < 2 ^ 63 :=
    .inr ⟨rfl, by norm_num, by norm_num⟩
  ⟨hfields, hport, add_robot_form_stores_port newManager (fun k =>
    if k = "namespace" then "/r1" else if k = "name" then "r1" else if k = "ip" then "10.0.0.1"
    else if k = "port" then "9091" else "") 9091 hfields hport⟩

theorem serve_manager (m : Manager) (q : RobotRequest) :
    (serve m q).2 = m ∨ ∃ op, (serve m q).2 = (step m op).manager := by
  cases q with
  | add method form =>
    simp only [serve, addRobotHandler]
    split_ifs
    · exact .inl rfl
    · exact .inl rfl
    · split
      · exact .inl rfl
      · next port _ =>
        refine .inr ⟨.addRobot (form "namespace") (form "name") (form "ip") port, ?_⟩
        split <;> rfl
  | remove method id pick =>
    simp only [serve, removeRobotHandler]
    split_ifs
    · exact .inl rfl
    · exact .inl rfl
    · exact .inr ⟨.removeRobot id pick, by split <;> rfl⟩
  | switch formID queryID =>
    simp only [serve, switchRobotHandler]
    exact .inr ⟨.switchRobot (if formID = "" then queryID else formID), by split <;> rfl⟩

theorem serveAll_run (m : Manager) (reqs : List RobotRequest) :
    ∃ ops, serveAll m reqs = run m ops := by
  induction reqs generalizing m with
  | nil => exact ⟨[], rfl⟩
  | cons q qs ih =>
    obtain ⟨ops, hops⟩ := ih (serve m q).2
    rcases serve_manager m q with h | ⟨op, h⟩
    · exact ⟨ops, hops.trans (congrArg (run · ops) h)⟩
    · exact ⟨op :: ops, hops.trans (congrArg (run · ops) h)⟩

/-- Every sequence of robot API requests leaves a registry that some sequence of `Manager`
calls leaves, so the registry's invariants hold at the API too: `currentID` is empty exactly
when no robot is registered and otherwise names one, and no two robots share an address. -/
theorem api_requests_refine_registry (reqs : List RobotRequest) :
    (∃ ops, serveAll newManager reqs = run newManager ops) ∧
      Selection (serveAll newManager reqs) ∧ AddressesUnique (serveAll newManager reqs) := by
  obtain ⟨ops, h⟩ := serveAll_run newManager reqs
  rw [h]
  exact ⟨⟨ops, rfl⟩, run_induction Selection selection_step _ ops selection_newManager,
    run_induction _ addressesUnique_step _ ops addressesUnique_newManager⟩

end RosbridgeFleet.RobotApi
