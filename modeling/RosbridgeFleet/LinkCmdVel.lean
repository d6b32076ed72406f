import RosbridgeFleet.GoBasics

set_option autoImplicit false

/-! The cmd_vel publishers of a `Client`. The read under `c.mu`, the `send` and the store of
`lastTwist` are separate steps, and every `Connect` starts a publisher of its own. -/

namespace RosbridgeFleet.LinkCmdVel
open GoBasics

structure TwistData where
  linearX : GoFloat
  linearY : GoFloat
  linearZ : GoFloat
  angularX : GoFloat
  angularY : GoFloat
  angularZ : GoFloat
  deriving DecidableEq, Repr

def TwistData.zero : TwistData := ⟨0, 0, 0, 0, 0, 0⟩

/-- The tick's "only publish on change" test. -/
def sameCmd (d l : TwistData) : Bool :=
  d.linearX.beq l.linearX && d.angularZ.beq l.angularZ && d.linearY.beq l.linearY

def cmdVelMsg (t : TwistData) : TwistData :=
  { linearX := t.linearX, linearY := t.linearY, linearZ := 0,
    angularX := 0, angularY := 0, angularZ := t.angularZ }

structure Sent where
  topic : String
  msg : TwistData
  ok : Bool
  deriving DecidableEq, Repr

structure CmdVel where
  ns : String
  connected : Bool
  cmdVelEnabled : Bool
  topicCmdVel : String
  desiredTwist : TwistData
  lastTwist : TwistData
  sent : List Sent
  deriving DecidableEq, Repr

def newCmdVel (ns : String) : CmdVel :=
  { ns, connected := false, cmdVelEnabled := false, topicCmdVel := "",
    desiredTwist := .zero, lastTwist := .zero, sent := [] }

/-- The read under `c.mu`: the twist to publish and its topic, if the tick publishes. -/
def tickRead (c : CmdVel) : Option (TwistData × String) :=
  if !c.connected || !c.cmdVelEnabled then none
  else if c.topicCmdVel = "" then none
  else if sameCmd c.desiredTwist c.lastTwist then none
  else some (c.desiredTwist, c.topicCmdVel)

def tickSend (c : CmdVel) (d : TwistData) (topic : String) (ok : Bool) : CmdVel :=
  { c with sent := c.sent ++ [⟨topic, cmdVelMsg d, ok && c.connected⟩] }

def tickCommit (c : CmdVel) (d : TwistData) : CmdVel := { c with lastTwist := d }

def publishCmdVelTick (c : CmdVel) (writeOk : Bool) : CmdVel :=
  match tickRead c with
  | some (d, topic) => tickCommit (tickSend c d topic writeOk) d
  | none => c

def subscribeCmdVel (c : CmdVel) (topic : String) : CmdVel :=
  { c with topicCmdVel := c.ns ++ (if topic = "" then "/diff_controller/cmd_vel_unstamped" else topic) }

inductive CmdAction
  | setDesiredCmdVel (twist : TwistData)
  | setCmdVelEnabled (enabled : Bool)
  | setCmdVelTopic (topic : String)
  | subscribeCmdVel (topic : String)
  | setConnected (connected : Bool)
  | tick (writeOk : Bool)
  deriving DecidableEq, Repr

def step (c : CmdVel) : CmdAction → CmdVel
  | .setDesiredCmdVel twist => { c with desiredTwist := twist }
  | .setCmdVelEnabled enabled => { c with cmdVelEnabled := enabled }
  | .setCmdVelTopic topic => { c with topicCmdVel := c.ns ++ topic }
  | .subscribeCmdVel topic => subscribeCmdVel c topic
  | .setConnected b => { c with connected := b }
  | .tick ok => publishCmdVelTick c ok

def runCmd (c : CmdVel) (acts : List CmdAction) : CmdVel := acts.foldl step c

theorem sameCmd_comm (a b : TwistData) : sameCmd a b = sameCmd b a := by
  simp only [sameCmd, GoFloat.beq_comm]

@[simp] theorem sameCmd_cmdVelMsg_left (a b : TwistData) :
    sameCmd (cmdVelMsg a) b = sameCmd a b := rfl

@[simp] theorem sameCmd_cmdVelMsg_right (a b : TwistData) :
    sameCmd a (cmdVelMsg b) = sameCmd a b := rfl

theorem tickRead_eq_some {c : CmdVel} {d : TwistData} {topic : String}
    (h : tickRead c = some (d, topic)) :
    d = c.desiredTwist ∧ topic = c.topicCmdVel ∧ sameCmd c.desiredTwist c.lastTwist = false := by
  unfold tickRead at h
  split_ifs at h with h₁ h₂ h₃
  cases h
  exact ⟨rfl, rfl, by simpa using h₃⟩

theorem tickRead_isSome_iff (c : CmdVel) :
    (tickRead c).isSome ↔ c.connected = true ∧ c.cmdVelEnabled = true ∧ c.topicCmdVel ≠ "" ∧
      sameCmd c.desiredTwist c.lastTwist = false := by
  unfold tickRead
  split_ifs with h₁ h₂ h₃
  · simp only [Bool.or_eq_true, Bool.not_eq_true'] at h₁
    rcases h₁ with h | h <;> simp [h]
  all_goals simp_all

def lastAttempted (c : CmdVel) : TwistData := (c.sent.getLast?.map (·.msg)).getD .zero

def lastWritten (c : CmdVel) : TwistData :=
  ((c.sent.filter (·.ok)).getLast?.map (·.msg)).getD .zero

/-- A tick that finds the link connected and enabled but whose write fails still records
the twist as `lastTwist`; the next tick then sees no change and never resends it, although
no frame carrying it reached the socket. -/
theorem failed_write_not_resent :
    ¬ ∀ (acts : List CmdAction) (ok : Bool),
        let c := runCmd (newCmdVel "/r1") acts
        ((publishCmdVelTick c ok).sent.length = c.sent.length + 1 ↔
          c.connected = true ∧ c.cmdVelEnabled = true ∧ c.topicCmdVel ≠ "" ∧
            sameCmd c.desiredTwist (lastWritten c) = false) := by
  intro h
  have := h [.setConnected true, .setCmdVelEnabled true, .subscribeCmdVel "",
    .setDesiredCmdVel ⟨1, 0, 0, 0, 0, 0⟩, .tick false] true
  exact absurd this (by decide)

/-- Where a publisher goroutine is: between ticks, past the read with the twist and topic it
will send, or past the send with the twist it will store. -/
inductive PubPc
  | idle
  | read (d : TwistData) (topic : String)
  | sent (d : TwistData)
  deriving DecidableEq, Repr

def PubPc.twist : PubPc → Option TwistData
  | .idle => none
  | .read d _ => some d
  | .sent d => some d

structure Pubs where
  link : CmdVel
  pubs : List PubPc
  deriving DecidableEq, Repr

def newPubs (ns : String) : Pubs := ⟨newCmdVel ns, []⟩

/-- A call on the link, a publisher started by `Connect`, one leaving its loop on `stopCh`
between ticks, and the three steps of publisher `i`'s tick. -/
inductive PubAction
  | call (a : CmdAction)
  | start
  | stop (i : Nat)
  | read (i : Nat)
  | send (i : Nat) (ok : Bool)
  | commit (i : Nat)
  deriving DecidableEq, Repr

def pubStep (s : Pubs) : PubAction → Option Pubs
  | .call (.tick _) => none
  | .call a => some { s with link := step s.link a }
  | .start => some { s with pubs := s.pubs ++ [.idle] }
  | .stop i => if s.pubs[i]? = some .idle then some { s with pubs := s.pubs.eraseIdx i } else none
  | .read i =>
    if s.pubs[i]? = some .idle then
      some { s with pubs := s.pubs.set i (match tickRead s.link with
        | some (d, topic) => .read d topic
        | none => .idle) }
    else none
  | .send i ok =>
    match s.pubs[i]? with
    | some (.read d topic) => some ⟨tickSend s.link d topic ok, s.pubs.set i (.sent d)⟩
    | _ => none
  | .commit i =>
    match s.pubs[i]? with
    | some (.sent d) => some ⟨tickCommit s.link d, s.pubs.set i .idle⟩
    | _ => none

def runPub : Pubs → List PubAction → Option Pubs
  | s, [] => some s
  | s, a :: as => (pubStep s a).bind (runPub · as)

def PubAction.isStart : PubAction → Bool
  | .start => true
  | _ => false

/-- No publisher is started while another is live: the runs in which no reconnect leaves an
old publisher running. -/
def noLeak : Pubs → List PubAction → Bool
  | _, [] => true
  | s, a :: as => (!a.isStart || s.pubs.isEmpty) && (pubStep s a).elim true (noLeak · as)

theorem runPub_cons {s s' : Pubs} {a : PubAction} {as : List PubAction}
    (h : runPub s (a :: as) = some s') : ∃ s₁, pubStep s a = some s₁ ∧ runPub s₁ as = some s' := by
  simp only [runPub, Option.bind_eq_some] at h
  exact h

theorem noLeak_cons {s s₁ : Pubs} {a : PubAction} {as : List PubAction}
    (h : noLeak s (a :: as) = true) (hs : pubStep s a = some s₁) :
    (!a.isStart || s.pubs.isEmpty) = true ∧ noLeak s₁ as = true := by
  simp only [noLeak, hs, Option.elim, Bool.and_eq_true] at h
  exact h

theorem eq_single_of_length_le_one {α : Type} {l : List α} {i : Nat} {p : α} (hl : l.length ≤ 1)
    (h : l[i]? = some p) : l = [p] ∧ i = 0 := by
  match l, i, hl, h with
  | [x], 0, _, h => exact ⟨by simpa using h, rfl⟩
  | [_], _ + 1, _, h => simp at h
  | [], _, _, h => simp at h

theorem step_sent_last (c : CmdVel) {a : CmdAction} (ha : ∀ ok, a ≠ .tick ok) :
    (step c a).sent = c.sent ∧ (step c a).lastTwist = c.lastTwist := by
  cases a with
  | tick ok => exact absurd rfl (ha ok)
  | _ => exact ⟨rfl, rfl⟩

theorem lastAttempted_tickSend (c : CmdVel) (d : TwistData) (topic : String) (ok : Bool) :
    lastAttempted (tickSend c d topic ok) = cmdVelMsg d := by
  simp [lastAttempted, tickSend]

/-- What a publisher's phase says about the link while it is the only one: `lastTwist` is
the twist of the last frame handed to `send`, except past a send, where that frame carries
the twist about to be stored. -/
def PcInv (c : CmdVel) : PubPc → Prop
  | .idle => cmdVelMsg c.lastTwist = lastAttempted c
  | .read d _ => cmdVelMsg c.lastTwist = lastAttempted c ∧ sameCmd d c.lastTwist = false
  | .sent d => lastAttempted c = cmdVelMsg d

theorem pcInv_congr {c c' : CmdVel} (hs : c'.sent = c.sent) (hl : c'.lastTwist = c.lastTwist)
    (p : PubPc) : PcInv c' p ↔ PcInv c p := by
  cases p <;> simp only [PcInv, lastAttempted, hs, hl]

structure Solo (s : Pubs) : Prop where
  one : s.pubs.length ≤ 1
  chain : s.link.sent.Chain' fun a b => sameCmd a.msg b.msg = false
  rest : s.pubs = [] → cmdVelMsg s.link.lastTwist = lastAttempted s.link
  pc : ∀ p ∈ s.pubs, PcInv s.link p

theorem solo_newPubs (ns : String) : Solo (newPubs ns) :=
  ⟨by simp [newPubs], List.chain'_nil, fun _ => rfl, by simp [newPubs]⟩

theorem solo_single {c : CmdVel} (p : PubPc)
    (hc : c.sent.Chain' fun a b => sameCmd a.msg b.msg = false) (hp : PcInv c p) : Solo ⟨c, [p]⟩ :=
  ⟨by simp, hc, (fun h => by cases h), by simpa using hp⟩

theorem solo_step {s s' : Pubs} {a : PubAction} (hs : Solo s)
    (hlk : (!a.isStart || s.pubs.isEmpty) = true) (h : pubStep s a = some s') : Solo s' := by
  cases a with
  | call a =>
    by_cases ht : ∃ ok, a = .tick ok
    · obtain ⟨ok, rfl⟩ := ht
      cases h
    · have hk : pubStep s (.call a) = some { s with link := step s.link a } := by
        cases a <;> first | rfl | exact absurd ⟨_, rfl⟩ ht
      obtain ⟨hse, hla⟩ := step_sent_last s.link fun ok e => ht ⟨ok, e⟩
      cases h.symm.trans hk
      exact ⟨hs.one, hse ▸ hs.chain, fun he => by simpa only [lastAttempted, hse, hla] using hs.rest he,
        fun p hp => (pcInv_congr hse hla p).mpr (hs.pc p hp)⟩
  | start =>
    have he : s.pubs = [] := by simpa [PubAction.isStart] using hlk
    cases h
    simpa [he] using solo_single .idle hs.chain (hs.rest he)
  | stop i =>
    simp only [pubStep] at h
    split_ifs at h with hi
    cases h
    obtain ⟨hp, rfl⟩ := eq_single_of_length_le_one hs.one hi
    exact ⟨by simp [hp], hs.chain, fun _ => hs.pc .idle (by simp [hp]), by simp [hp]⟩
  | read i =>
    simp only [pubStep] at h
    split_ifs at h with hi
    cases h
    obtain ⟨hp, rfl⟩ := eq_single_of_length_le_one hs.one hi
    have hidle : PcInv s.link .idle := hs.pc .idle (by simp [hp])
    simp only [hp, List.set_cons_zero]
    split
    · next d topic hr =>
      exact solo_single _ hs.chain ⟨hidle, (tickRead_eq_some hr).1 ▸ (tickRead_eq_some hr).2.2⟩
    · exact solo_single _ hs.chain hidle
  | send i ok =>
    simp only [pubStep] at h
    split at h
    · next d topic hi =>
      cases h
      obtain ⟨hp, rfl⟩ := eq_single_of_length_le_one hs.one hi
      obtain ⟨hl, hd⟩ : PcInv s.link (.read d topic) := hs.pc _ (by simp [hp])
      simp only [hp, List.set_cons_zero]
      refine solo_single (.sent d) (List.chain'_append.mpr ⟨hs.chain, List.chain'_singleton _, ?_⟩)
        (lastAttempted_tickSend _ _ _ _)
      intro x hx y hy
      have hx' : x.msg = cmdVelMsg s.link.lastTwist := by
        rw [hl, lastAttempted, hx]; rfl
      simp only [List.head?_cons, Option.mem_def, Option.some.injEq] at hy
      subst hy
      rw [hx', sameCmd_cmdVelMsg_left, sameCmd_cmdVelMsg_right, sameCmd_comm, hd]
    · cases h
  | commit i =>
    simp only [pubStep] at h
    split at h
    · next d hi =>
      cases h
      obtain ⟨hp, rfl⟩ := eq_single_of_length_le_one hs.one hi
      have hl : lastAttempted s.link = cmdVelMsg d := hs.pc (.sent d) (by simp [hp])
      simp only [hp, List.set_cons_zero]
      exact solo_single .idle hs.chain hl.symm
    · cases h

theorem solo_run {s s' : Pubs} {acts : List PubAction} (hs : Solo s)
    (hl : noLeak s acts = true) (h : runPub s acts = some s') : Solo s' := by
  induction acts generalizing s with
  | nil => cases h; exact hs
  | cons a as ih =>
    obtain ⟨s₁, h₁, h₂⟩ := runPub_cons h
    obtain ⟨hlk, hl'⟩ := noLeak_cons hl h₁
    exact ih (solo_step hs hlk h₁) hl' h₂

/-- Without a leaked publisher and with every write taken, an idle publisher's read goes on
to a send exactly when the link is up, publishing is on, the topic is set and the desired
twist differs from the last frame written. -/
theorem read_sends_iff_of_writes_ok (ns : String) (acts : List PubAction) (s : Pubs)
    (h : runPub (newPubs ns) acts = some s) (hl : noLeak (newPubs ns) acts = true)
    (hok : ∀ f ∈ s.link.sent, f.ok = true) (hidle : s.pubs = [.idle]) :
    (∃ d topic, pubStep s (.read 0) = some ⟨s.link, [.read d topic]⟩) ↔
      s.link.connected = true ∧ s.link.cmdVelEnabled = true ∧ s.link.topicCmdVel ≠ "" ∧
        sameCmd s.link.desiredTwist (lastWritten s.link) = false := by
  have hlast : cmdVelMsg s.link.lastTwist = lastAttempted s.link :=
    (solo_run (solo_newPubs ns) hl h).pc .idle (by simp [hidle])
  have hw : lastWritten s.link = cmdVelMsg s.link.lastTwist := by
    rw [hlast, lastWritten, lastAttempted,
      List.filter_eq_self.mpr (fun f hf => by simpa using hok f hf)]
  rw [hw, sameCmd_cmdVelMsg_right, ← tickRead_isSome_iff]
  cases hr : tickRead s.link with
  | none => simp [pubStep, hidle, hr]
  | some dt => simp [pubStep, hidle, hr]

theorem read_sends_iff_of_writes_ok_forward :
    let acts : List PubAction := [.call (.setConnected true), .call (.setCmdVelEnabled true),
      .call (.subscribeCmdVel ""), .start, .call (.setDesiredCmdVel ⟨1, 0, 0, 0, 0, 0⟩), .read 0,
      .send 0 true, .commit 0, .call (.setDesiredCmdVel ⟨0, 0, 0, 0, 0, 1⟩)]
    ∃ s, runPub (newPubs "/r1") acts = some s ∧ noLeak (newPubs "/r1") acts = true ∧
      (∀ f ∈ s.link.sent, f.ok = true) ∧ s.pubs = [.idle] ∧
      ((∃ d topic, pubStep s (.read 0) = some ⟨s.link, [.read d topic]⟩) ↔
        s.link.connected = true ∧ s.link.cmdVelEnabled = true ∧ s.link.topicCmdVel ≠ "" ∧
          sameCmd s.link.desiredTwist (lastWritten s.link) = false) := by
  intro acts
  have hok : ∀ f ∈ (newPubs "/r1").link.sent ++ [⟨"/r1/diff_controller/cmd_vel_unstamped",
      ⟨1, 0, 0, 0, 0, 0⟩, true⟩], f.ok = true := by decide
  exact ⟨_, rfl, rfl, hok, rfl, read_sends_iff_of_writes_ok "/r1" acts _ rfl rfl hok rfl⟩

/-- Publisher phases and frames that only the twist `D` can have produced since `s₀`. -/
structure SendsOnly (D : TwistData) (s₀ s : Pubs) : Prop where
  desired : s.link.desiredTwist = D
  pcs : ∀ p ∈ s.pubs, p.twist = none ∨ p.twist = some D
  sent : ∃ new, s.link.sent = s₀.link.sent ++ new ∧ ∀ f ∈ new, f.msg = cmdVelMsg D

theorem sendsOnly_step {D : TwistData} {s₀ s s' : Pubs} {a : PubAction} (hs : SendsOnly D s₀ s)
    (ha : ∀ t, a ≠ .call (.setDesiredCmdVel t)) (h : pubStep s a = some s') : SendsOnly D s₀ s' := by
  cases a with
  | call a =>
    cases a with
    | setDesiredCmdVel t => exact absurd rfl (ha t)
    | tick => cases h
    | _ => cases h; exact ⟨hs.desired, hs.pcs, hs.sent⟩
  | start =>
    cases h
    refine ⟨hs.desired, fun p hp => ?_, hs.sent⟩
    rcases List.mem_append.mp hp with hp | hp
    · exact hs.pcs p hp
    · simp only [List.mem_singleton] at hp; exact .inl (by rw [hp]; rfl)
  | stop i =>
    simp only [pubStep] at h
    split_ifs at h
    cases h
    exact ⟨hs.desired, fun p hp => hs.pcs p (List.mem_of_mem_eraseIdx hp), hs.sent⟩
  | read i =>
    simp only [pubStep] at h
    split_ifs at h
    cases h
    refine ⟨hs.desired, fun p hp => ?_, hs.sent⟩
    rcases List.mem_or_eq_of_mem_set hp with hp | rfl
    · exact hs.pcs p hp
    · split
      · next d topic hr => exact .inr (by rw [PubPc.twist, (tickRead_eq_some hr).1, hs.desired])
      · exact .inl rfl
  | send i ok =>
    simp only [pubStep] at h
    split at h
    · next d topic hi =>
      cases h
      have hd : d = D := by
        simpa [PubPc.twist] using hs.pcs _ (List.getElem?_mem hi)
      subst hd
      obtain ⟨new, hn, hf⟩ := hs.sent
      refine ⟨hs.desired, fun p hp => ?_, ⟨new ++ [⟨topic, cmdVelMsg d, ok && s.link.connected⟩],
        by simp [tickSend, hn], fun f hf' => ?_⟩⟩
      · rcases List.mem_or_eq_of_mem_set hp with hp | rfl
        · exact hs.pcs p hp
        · exact .inr rfl
      · rcases List.mem_append.mp hf' with hf' | hf'
        · exact hf f hf'
        · simp only [List.mem_singleton] at hf'; rw [hf']
    · cases h
  | commit i =>
    simp only [pubStep] at h
    split at h
    · cases h
      refine ⟨hs.desired, fun p hp => ?_, hs.sent⟩
      rcases List.mem_or_eq_of_mem_set hp with hp | rfl
      · exact hs.pcs p hp
      · exact .inl rfl
    · cases h

theorem sendsOnly_run {D : TwistData} {s₀ s s' : Pubs} {acts : List PubAction}
    (hs : SendsOnly D s₀ s) (hkeep : ∀ a ∈ acts, ∀ t, a ≠ .call (.setDesiredCmdVel t))
    (h : runPub s acts = some s') : SendsOnly D s₀ s' := by
  induction acts generalizing s with
  | nil => cases h; exact hs
  | cons a as ih =>
    obtain ⟨s₁, h₁, h₂⟩ := runPub_cons h
    exact ih (sendsOnly_step hs (hkeep a (.head as)) h₁) (fun b hb => hkeep b (.tail a hb)) h₂

/-- Between two `SetDesiredCmdVel` calls, from a point where no publisher is inside a tick
and with no leaked publisher, the link hands at most one cmd_vel frame to `send`, carrying
the desired twist, whatever ticks, reconnections and topic changes run; the twist's linear
x, linear y and angular z must not be NaN, which `==` never finds unchanged. -/
theorem one_frame_per_desired_twist (ns : String) (pre acts : List PubAction) (s s' : Pubs)
    (hs : runPub (newPubs ns) pre = some s) (hls : noLeak (newPubs ns) pre = true)
    (hidle : ∀ p ∈ s.pubs, p = .idle)
    (hnan : sameCmd s.link.desiredTwist s.link.desiredTwist = true)
    (hkeep : ∀ a ∈ acts, ∀ twist, a ≠ .call (.setDesiredCmdVel twist))
    (h : runPub s acts = some s') (hl : noLeak s acts = true) :
    ∃ new, s'.link.sent = s.link.sent ++ new ∧ new.length ≤ 1 ∧
      ∀ f ∈ new, f.msg = cmdVelMsg s.link.desiredTwist := by
  have h₀ : SendsOnly s.link.desiredTwist s s :=
    ⟨rfl, fun p hp => .inl (by rw [hidle p hp]; rfl), ⟨[], by simp, by simp⟩⟩
  obtain ⟨-, -, new, hn, hf⟩ := sendsOnly_run h₀ hkeep h
  have hc := (solo_run (solo_run (solo_newPubs ns) hls hs) hl h).chain
  rw [hn] at hc
  refine ⟨new, hn, ?_, hf⟩
  match new, (List.chain'_append.mp hc).2.1, hf with
  | [], _, _ => simp
  | [_], _, _ => simp
  | f₁ :: f₂ :: _, hc', hf =>
    have h₁₂ := List.chain'_cons.mp hc' |>.1
    rw [hf f₁ (by simp), hf f₂ (by simp), sameCmd_cmdVelMsg_left, sameCmd_cmdVelMsg_right,
      hnan] at h₁₂
    cases h₁₂

theorem one_frame_per_desired_twist_ticks :
    let pre : List PubAction := [.call (.setConnected true), .call (.setCmdVelEnabled true),
      .call (.subscribeCmdVel ""), .start, .call (.setDesiredCmdVel ⟨1, 0, 0, 0, 0, 0⟩)]
    let acts : List PubAction := [.read 0, .send 0 true, .commit 0, .read 0,
      .call (.setConnected false), .call (.setConnected true), .read 0]
    ∃ s s', runPub (newPubs "/r1") pre = some s ∧ noLeak (newPubs "/r1") pre = true ∧
      (∀ p ∈ s.pubs, p = .idle) ∧ sameCmd s.link.desiredTwist s.link.desiredTwist = true ∧
      (∀ a ∈ acts, ∀ twist, a ≠ .call (.setDesiredCmdVel twist)) ∧
      runPub s acts = some s' ∧ noLeak s acts = true ∧
      ∃ new, s'.link.sent = s.link.sent ++ new ∧ new.length ≤ 1 ∧
        ∀ f ∈ new, f.msg = cmdVelMsg s.link.desiredTwist := by
  intro pre acts
  have hkeep : ∀ a ∈ ([.read 0, .send 0 true, .commit 0, .read 0, .call (.setConnected false),
      .call (.setConnected true), .read 0] : List PubAction),
      ∀ twist, a ≠ .call (.setDesiredCmdVel twist) := by
    rintro a ha twist rfl
    simp at ha
  have hidle : ∀ p ∈ [PubPc.idle], p = .idle := by simp
  exact ⟨_, _, rfl, rfl, hidle, rfl, hkeep, rfl, rfl,
    one_frame_per_desired_twist "/r1" pre acts _ _ rfl rfl hidle rfl hkeep rfl rfl⟩

end RosbridgeFleet.LinkCmdVel
