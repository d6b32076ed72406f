import Mathlib.Data.List.AList

set_option autoImplicit false

/-! `CallService` and `handleServiceResponse`: a one-slot channel per correlation id in
`svcPending`, numbered in the order the calls made them. -/

namespace RosbridgeFleet.LinkService

/-- `fmt.Sprintf("svc_%s_%d", service, time.Now().UnixMilli())`. -/
def correlationID (service : String) (now : Int) : String := s!"svc_{service}_{now}"

inductive CallResult
  | response (raw : String)
  | failure (err : String)
  deriving DecidableEq, Repr

/-- Where a `CallService` goroutine is; `returning r` has its result and is about to run
the deferred delete. -/
inductive CallPc
  | registered
  | waiting
  | returning (r : CallResult)
  | done (r : CallResult)
  deriving DecidableEq, Repr

structure SvcCall where
  service : String
  id : String
  chan : Nat
  pc : CallPc
  deriving DecidableEq, Repr

def SvcCall.inProgress (call : SvcCall) : Bool :=
  match call.pc with
  | .done _ => false
  | _ => true

inductive RouterPc
  | idle
  | sending (ch : Nat) (raw : String)
  deriving DecidableEq, Repr

structure Service where
  svcPending : AList (fun _ : String => Nat)
  calls : List SvcCall
  chans : List (Option String)
  router : RouterPc

def newService : Service := { svcPending := ∅, calls := [], chans := [], router := .idle }

/-- `callSend` carries the error `send` returned, if any: `not connected` when the link is
down, else the socket's. -/
inductive SvcAction
  | callStart (service : String) (now : Int)
  | callSend (i : Nat) (sendErr : Option String)
  | callReceive (i : Nat)
  | callTimeout (i : Nat)
  | callExit (i : Nat)
  | frame (id raw : String)
  | routerDeliver

def setPc (s : Service) (i : Nat) (call : SvcCall) (pc : CallPc) : Service :=
  { s with calls := s.calls.set i { call with pc := pc } }

def step (s : Service) : SvcAction → Option Service
  | .callStart service now =>
    let id := correlationID service now
    let ch := s.chans.length
    some { s with
      svcPending := s.svcPending.insert id ch, chans := s.chans ++ [none],
      calls := s.calls ++ [⟨service, id, ch, .registered⟩] }
  | .callSend i sendErr =>
    match s.calls[i]? with
    | some call =>
      if call.pc = .registered then
        some (setPc s i call (match sendErr with
          | none => .waiting
          | some e => .returning (.failure e)))
      else none
    | none => none
  | .callReceive i =>
    match s.calls[i]? with
    | some call =>
      match call.pc, s.chans[call.chan]? with
      | .waiting, some (some raw) =>
        some { setPc s i call (.returning (.response raw)) with chans := s.chans.set call.chan none }
      | _, _ => none
    | none => none
  | .callTimeout i =>
    match s.calls[i]? with
    | some call =>
      if call.pc = .waiting then
        some (setPc s i call (.returning (.failure s!"service call {call.service} timed out")))
      else none
    | none => none
  | .callExit i =>
    match s.calls[i]? with
    | some call =>
      match call.pc with
      | .returning r => some { setPc s i call (.done r) with svcPending := s.svcPending.erase call.id }
      | _ => none
    | none => none
  | .frame id raw =>
    if s.router = .idle then
      match s.svcPending.lookup id with
      | some ch => some { s with router := .sending ch raw }
      | none => some s
    else none
  | .routerDeliver =>
    match s.router with
    | .sending ch raw =>
      if s.chans[ch]? = some none then
        some { s with chans := s.chans.set ch (some raw), router := .idle }
      else none
    | .idle => none

def runService : Service → List SvcAction → Option Service
  | s, [] => some s
  | s, a :: as =>
    match step s a with
    | some s' => runService s' as
    | none => none

/-- Two calls to the same service in the same millisecond get the same id: the second
registration overwrites the first, so the table holds one entry for two calls in progress
and routes the response meant for the first call into the second call's channel. -/
theorem same_millisecond_calls_share_entry :
    ¬ ∀ (acts : List SvcAction) (s : Service), runService newService acts = some s →
        ∀ (i : Nat) (call : SvcCall), s.calls[i]? = some call → call.inProgress = true →
          s.svcPending.lookup call.id = some call.chan := by
  intro h
  have := h [.callStart "/which_maps" 1000, .callStart "/which_maps" 1000] _ rfl 0
    ⟨"/which_maps", correlationID "/which_maps" 1000, 0, .registered⟩ rfl rfl
  exact absurd this (by decide)

def SvcAction.startedID : SvcAction → List String
  | .callStart service now => [correlationID service now]
  | _ => []

theorem runService_cons {s s' : Service} {a : SvcAction} {as : List SvcAction}
    (h : runService s (a :: as) = some s') : ∃ s₁, step s a = some s₁ ∧ runService s₁ as = some s' := by
  simp only [runService] at h
  split at h
  · exact ⟨_, ‹_›, h⟩
  · cases h

theorem runService_induction (P : Service → Prop) {s s' : Service} {acts : List SvcAction}
    (hstep : ∀ d d' a, P d → step d a = some d' → P d') (hs : P s)
    (h : runService s acts = some s') : P s' := by
  induction acts generalizing s with
  | nil => cases h; exact hs
  | cons a acts ih =>
    obtain ⟨s₁, h₁, h₂⟩ := runService_cons h
    exact ih (hstep s s₁ a hs h₁) h₂

theorem getElem?_concat_eq_some {α : Type} {l : List α} {x y : α} {j : Nat}
    (h : (l ++ [x])[j]? = some y) : l[j]? = some y ∨ (j = l.length ∧ y = x) := by
  rw [List.getElem?_append] at h
  split at h
  · exact .inl h
  · obtain ⟨hj, rfl⟩ := List.getElem?_eq_some_iff.mp h
    exact .inr ⟨by simp at hj; omega, List.getElem_singleton _ _⟩

theorem getElem?_set_eq_some {α : Type} {l : List α} {i j : Nat} {v y : α}
    (h : (l.set i v)[j]? = some y) : (i = j ∧ y = v) ∨ (i ≠ j ∧ l[j]? = some y) := by
  rw [List.getElem?_set] at h
  split_ifs at h with hij hi
  · cases h; exact .inl ⟨hij, rfl⟩
  · exact .inr ⟨hij, h⟩

theorem map_set_of_getElem? {α β : Type} {f : α → β} {l : List α} {i : Nat} {x v : α}
    (hx : l[i]? = some x) (hv : f v = f x) : (l.set i v).map f = l.map f := by
  refine List.ext_getElem? fun j => ?_
  rw [List.getElem?_map, List.getElem?_map, List.getElem?_set]
  split_ifs with hij hi
  · subst hij; simp [hx, hv]
  · subst hij; simp [List.getElem?_eq_none (not_lt.mp hi)]
  · rfl

theorem ne_of_map_nodup {α β : Type} {f : α → β} {l : List α} {i j : Nat} {x y : α}
    (hn : (l.map f).Nodup) (hx : l[i]? = some x) (hy : l[j]? = some y) (hij : i ≠ j) :
    f x ≠ f y := by
  have hx' : (l.map f)[i]? = some (f x) := by simp [hx]
  have hy' : (l.map f)[j]? = some (f y) := by simp [hy]
  intro he
  rcases Nat.lt_or_gt_of_ne hij with hlt | hlt
  · exact List.nodup_iff_getElem?_ne_getElem?.mp hn i j hlt
      (List.getElem?_eq_some_iff.mp hy').1 (by rw [hx', hy', he])
  · exact List.nodup_iff_getElem?_ne_getElem?.mp hn j i hlt
      (List.getElem?_eq_some_iff.mp hx').1 (by rw [hx', hy', he])

/-- What one step can do to the table, the calls and the channels: a call registers its
id under a new channel, one call in progress moves on (and its deferred delete removes its
id when it ends), or none of the three changes but a slot's contents. -/
theorem step_cases {s s' : Service} {a : SvcAction} (h : step s a = some s') :
    (∃ service now, a = .callStart service now ∧
      s'.svcPending = s.svcPending.insert (correlationID service now) s.chans.length ∧
      s'.chans = s.chans ++ [none] ∧
      s'.calls = s.calls ++ [⟨service, correlationID service now, s.chans.length, .registered⟩]) ∨
    (∃ i call pc, a.startedID = [] ∧ s.calls[i]? = some call ∧ call.inProgress = true ∧
      s'.calls = s.calls.set i { call with pc } ∧ s'.chans.length = s.chans.length ∧
      (s'.svcPending = s.svcPending ∨
        (∃ r, pc = .done r) ∧ s'.svcPending = s.svcPending.erase call.id)) ∨
    (a.startedID = [] ∧ s'.calls = s.calls ∧ s'.svcPending = s.svcPending ∧
      s'.chans.length = s.chans.length) := by
  cases a with
  | callStart service now =>
    cases h
    exact .inl ⟨service, now, rfl, rfl, rfl, rfl⟩
  | frame | routerDeliver =>
    simp only [step] at h
    repeat' split at h
    all_goals cases h
    all_goals exact .inr (.inr ⟨rfl, rfl, rfl, by simp⟩)
  | _ =>
    simp only [step] at h
    repeat' split at h
    all_goals cases h
    all_goals exact .inr (.inl ⟨_, _, _, rfl, ‹_›, by simp [SvcCall.inProgress, *], rfl,
      by simp [setPc], by first | exact .inl rfl | exact .inr ⟨⟨_, rfl⟩, rfl⟩⟩)

theorem step_ids {s s' : Service} {a : SvcAction} (h : step s a = some s') :
    s'.calls.map SvcCall.id = s.calls.map SvcCall.id ++ a.startedID := by
  rcases step_cases h with ⟨service, now, rfl, -, -, hc⟩ | ⟨i, call, pc, ha, hi, -, hc, -⟩ |
      ⟨ha, hc, -⟩
  · simp [hc, SvcAction.startedID]
  · rw [hc, ha, List.append_nil]
    exact map_set_of_getElem? hi rfl
  · rw [hc, ha, List.append_nil]

theorem run_ids {s s' : Service} {acts : List SvcAction} (h : runService s acts = some s') :
    s'.calls.map SvcCall.id = s.calls.map SvcCall.id ++ acts.flatMap SvcAction.startedID := by
  induction acts generalizing s with
  | nil => cases h; simp
  | cons a acts ih =>
    obtain ⟨s₁, h₁, h₂⟩ := runService_cons h
    rw [ih h₂, step_ids h₁, List.flatMap_cons, List.append_assoc]

/-- Channel `i` is the one call `i` made, and while the calls' ids are distinct the table
maps each call in progress to its own channel. -/
structure Routing (s : Service) : Prop where
  length_eq : s.chans.length = s.calls.length
  chan_eq : ∀ (i : Nat) (call : SvcCall), s.calls[i]? = some call → call.chan = i
  pending : (s.calls.map SvcCall.id).Nodup → ∀ (i : Nat) (call : SvcCall), s.calls[i]? = some call →
    call.inProgress = true → s.svcPending.lookup call.id = some i

theorem routing_step {s s' : Service} {a : SvcAction} (h : step s a = some s')
    (hr : Routing s) : Routing s' := by
  have hids := step_ids h
  rcases step_cases h with ⟨service, now, rfl, hp, hch, hc⟩ |
      ⟨i, call, pc, ha, hi, hprog, hc, hch, hp⟩ | ⟨ha, hc, hp, hch⟩
  · refine ⟨by simp [hch, hc, hr.length_eq], fun j call' hj => ?_, fun hn j call' hj hj' => ?_⟩
    · rw [hc] at hj
      rcases getElem?_concat_eq_some hj with hj | ⟨rfl, rfl⟩
      · exact hr.chan_eq j call' hj
      · exact hr.length_eq
    · have hold := hr.pending (by rw [hids] at hn; exact hn.of_append_left)
      rw [hc] at hj hn
      rcases getElem?_concat_eq_some hj with hj | ⟨rfl, rfl⟩
      · have hfresh : call'.id ≠ correlationID service now := fun he =>
          (List.nodup_append.mp (List.map_append _ _ _ ▸ hn)).2.2
            (List.mem_map_of_mem SvcCall.id (List.getElem?_mem hj)) (by simp [he])
        rw [hp, AList.lookup_insert_ne hfresh]
        exact hold j call' hj hj'
      · rw [hp, AList.lookup_insert, hr.length_eq]
  · refine ⟨by simp [hch, hc, hr.length_eq], fun j call' hj => ?_, fun hn j call' hj hj' => ?_⟩
    · rw [hc] at hj
      rcases getElem?_set_eq_some hj with ⟨rfl, rfl⟩ | ⟨-, hj⟩
      · exact hr.chan_eq _ call hi
      · exact hr.chan_eq j call' hj
    · have hold := hr.pending (by rwa [hids, ha, List.append_nil] at hn)
      rw [hc] at hj
      rcases getElem?_set_eq_some hj with ⟨rfl, rfl⟩ | ⟨hij, hj⟩
      · rcases hp with hp | ⟨⟨r, rfl⟩, -⟩
        · rw [hp]; exact hold _ call hi hprog
        · cases hj'
      · rcases hp with hp | ⟨-, hp⟩
        · rw [hp]; exact hold j call' hj hj'
        · have hx : s'.calls[i]? = some { call with pc } := by
            rw [hc]; exact List.getElem?_set_self (List.getElem?_eq_some_iff.mp hi).1
          have hy : s'.calls[j]? = some call' := by rw [hc, List.getElem?_set_ne hij, hj]
          have hne : call'.id ≠ call.id := fun he => ne_of_map_nodup hn hx hy hij he.symm
          rw [hp, AList.lookup_erase_ne hne]
          exact hold j call' hj hj'
  · refine ⟨by rw [hch, hc, hr.length_eq], fun j call' hj => hr.chan_eq j call' (hc ▸ hj),
      fun hn j call' hj hj' => ?_⟩
    rw [hp]
    exact hr.pending (hc ▸ hn) j call' (hc ▸ hj) hj'

theorem routing_newService : Routing newService :=
  ⟨rfl, fun _ _ h => by simp [newService] at h, fun _ _ _ h => by simp [newService] at h⟩

/-- When no two calls of a run register the same correlation id, every call in progress
owns the channel of its index, and a `service_response` frame carrying its id, taken by the
idle read task, is routed into that channel. -/
theorem fresh_ids_route_to_caller (acts : List SvcAction) (s : Service)
    (h : runService newService acts = some s) (hfresh : (acts.flatMap SvcAction.startedID).Nodup) :
    ∀ i call, s.calls[i]? = some call → call.inProgress = true →
      call.chan = i ∧ ∀ raw, s.router = .idle →
        step s (.frame call.id raw) = some { s with router := .sending i raw } := by
  have hr := runService_induction Routing (fun _ _ _ hd hs => routing_step hs hd)
    routing_newService h
  have hn : (s.calls.map SvcCall.id).Nodup := by
    rw [run_ids h]; simpa [newService] using hfresh
  intro i call hi hprog
  refine ⟨hr.chan_eq i call hi, fun raw hidle => ?_⟩
  simp [step, hidle, hr.pending hn i call hi hprog]

theorem fresh_ids_route_to_caller_two_services :
    let acts : List SvcAction := [.callStart "/which_maps" 1000, .callStart "/which_name" 1000]
    (acts.flatMap SvcAction.startedID).Nodup ∧
      ∃ s, runService newService acts = some s ∧
        ∀ i call, s.calls[i]? = some call → call.inProgress = true →
          call.chan = i ∧ ∀ raw, s.router = .idle →
            step s (.frame call.id raw) = some { s with router := .sending i raw } := by
  intro acts
  exact ⟨by decide, _, rfl, fresh_ids_route_to_caller acts _ rfl (by decide)⟩

/-- The read task is sending `raw` into slot `ch`, the slot is full, and no call that could
empty it is still running: every call on that channel has returned. -/
structure Blocked (s : Service) (ch : Nat) (raw : String) : Prop where
  router : s.router = .sending ch raw
  full : (s.chans[ch]?).join.isSome = true
  no_reader : ∀ call ∈ s.calls, call.chan = ch → call.inProgress = false

theorem Blocked.chan_ne {s : Service} {ch : Nat} {raw : String} {i : Nat} {call : SvcCall}
    (hb : Blocked s ch raw) (hi : s.calls[i]? = some call) (hp : call.inProgress = true) :
    call.chan ≠ ch := fun h => by simpa [hp] using hb.no_reader call (List.getElem?_mem hi) h

theorem Blocked.no_reader_set {s : Service} {ch : Nat} {raw : String} {i : Nat}
    {call : SvcCall} (hb : Blocked s ch raw) (hi : s.calls[i]? = some call)
    (hp : call.inProgress = true) (pc : CallPc) :
    ∀ c ∈ s.calls.set i { call with pc }, c.chan = ch → c.inProgress = false := by
  intro c hc hch
  rcases List.mem_or_eq_of_mem_set hc with hc | hc
  · exact hb.no_reader c hc hch
  · rw [hc] at hch
    exact (hb.chan_ne hi hp hch).elim

theorem blocked_step {s s' : Service} {a : SvcAction} {ch : Nat} {raw : String}
    (h : step s a = some s') (hb : Blocked s ch raw) : Blocked s' ch raw := by
  have hlt : ch < s.chans.length := by
    have := hb.full
    by_contra hge
    rw [List.getElem?_eq_none (not_lt.mp hge)] at this
    cases this
  cases a with
  | callStart service now =>
    cases h
    refine ⟨hb.router, by simpa [List.getElem?_append_left hlt] using hb.full, fun c hc hch => ?_⟩
    rcases List.mem_append.mp hc with hc | hc
    · exact hb.no_reader c hc hch
    · obtain rfl := List.mem_singleton.mp hc
      exact absurd hch (by simp only; omega)
  | callReceive i =>
    simp only [step] at h
    repeat' split at h
    all_goals cases h
    exact ⟨hb.router,
      by rw [List.getElem?_set_ne (hb.chan_ne ‹_› (by simp [SvcCall.inProgress, *]))]; exact hb.full,
      hb.no_reader_set ‹_› (by simp [SvcCall.inProgress, *]) _⟩
  | frame id raw' =>
    simp [step, hb.router] at h
  | routerDeliver =>
    have := hb.full
    simp only [step, hb.router] at h
    split at h
    · simp_all
    · cases h
  | _ =>
    simp only [step] at h
    repeat' split at h
    all_goals cases h
    all_goals exact ⟨hb.router, hb.full,
      hb.no_reader_set ‹_› (by simp [SvcCall.inProgress, *]) _⟩

theorem blocked_run {s s' : Service} {acts : List SvcAction} {ch : Nat} {raw : String}
    (h : runService s acts = some s') (hb : Blocked s ch raw) : Blocked s' ch raw :=
  runService_induction (Blocked · ch raw) (fun _ _ _ hd hs => blocked_step hs hd) hb h

/-- A call times out and, before its deferred delete, two responses for its id arrive: the
first fills its slot, the second finds the id still registered and the read task blocks
sending into the full slot. Once the call returns nothing reads that slot, so whatever
happens next the read task never returns to read another frame. -/
theorem late_response_blocks_reader :
    ¬ ∀ (acts : List SvcAction) (s : Service), runService newService acts = some s →
        ∀ ch raw, s.router = .sending ch raw →
          ∃ (acts' : List SvcAction) (s' : Service),
            runService s acts' = some s' ∧ s'.router = .idle := by
  intro h
  let id := correlationID "/which_maps" 1000
  obtain ⟨s, hs, hb⟩ : ∃ s, runService newService [.callStart "/which_maps" 1000,
      .callSend 0 none, .callTimeout 0, .frame id "r1", .routerDeliver, .frame id "r2",
      .callExit 0] = some s ∧ Blocked s 0 "r2" :=
    ⟨_, rfl, rfl, by decide, by decide⟩
  obtain ⟨acts', s', hrun, hidle⟩ := h _ s hs 0 "r2" hb.router
  have := (blocked_run hrun hb).router
  rw [hidle] at this
  cases this

end RosbridgeFleet.LinkService
