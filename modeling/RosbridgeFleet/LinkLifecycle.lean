import RosbridgeFleet.LinkModel

set_option autoImplicit false

/-!
# What the connection life of a `Client` does and does not guarantee
-/
namespace RosbridgeFleet.LinkLifecycle
open LinkModel

theorem forall_mem_set {α : Type} {P : α → Prop} {l : List α} (i : Nat) {v : α}
    (hl : ∀ x ∈ l, P x) (hv : P v) : ∀ x ∈ l.set i v, P x := fun x hx =>
  (List.mem_or_eq_of_mem_set hx).elim (hl x) fun h => h ▸ hv

/-- The link is down, no `scheduleReconnect` is live and no read task is about to start
one. -/
structure Quiet (c : Client) : Prop where
  down : c.connected = false
  noReconnect : ∀ p ∈ c.reconnects, p = .exited
  noNotify : ∀ r ∈ c.readers, r ≠ .notify

theorem quiet_step {c c' : Client} {a : Action} {cbs : List Callback} (hq : Quiet c)
    (ha : ∀ ok, a ≠ .connect ok) (h : step c a = some (c', cbs)) : Quiet c' := by
  obtain ⟨hd, hr, hn⟩ := hq
  cases a with
  | connect ok => exact absurd rfl (ha ok)
  | readerNotify i =>
    simp only [step] at h
    split at h
    · exact absurd rfl (hn _ (List.getElem?_mem ‹_›))
    · cases h
  | reconnectWake i | reconnectDial i _ =>
    simp only [step] at h
    split at h
    · cases hr _ (List.getElem?_mem ‹_›)
    · cases h
  | _ =>
    simp only [step, disconnect, hd, Bool.not_false, if_true, Bool.false_eq_true, if_false] at h
    repeat' split at h
    all_goals cases h
    all_goals exact ⟨by simp [hd], hr, by first | exact hn | exact forall_mem_set _ hn (by simp)⟩

theorem quiet_run {c c' : Client} {acts : List Action} {cbs : List Callback} (hq : Quiet c)
    (ha : ∀ ok, Action.connect ok ∉ acts) (h : runLink c acts = some (c', cbs)) : Quiet c' :=
  runLink_induction Quiet (fun _ _ _ _ hm hd hs => quiet_step hd (fun ok he => ha ok (he ▸ hm)) hs)
    hq h

theorem quiet_disconnect {c c' : Client} {stopTo : Option Nat} {cbs : List Callback}
    (hr : ∀ p ∈ c.reconnects, p = .exited) (hn : ∀ r ∈ c.readers, r ≠ .notify)
    (h : disconnect c stopTo = some (c', cbs)) : Quiet c' := by
  unfold disconnect at h
  split at h
  · rename_i hnc
    cases h
    exact ⟨by simpa using hnc, hr, hn⟩
  · repeat' split at h
    all_goals cases h
    all_goals exact ⟨rfl, hr, hn⟩

/-- A `Disconnect` taken while no reconnect goroutine is live and no read task is in its
failure path is final: until an explicit `Connect`, the link stays down. -/
theorem disconnect_final_of_no_pending_reconnect (c : Client) (stopTo : Option Nat)
    (post : List Action) (c' : Client) (cbs : List Callback)
    (hr : ∀ p ∈ c.reconnects, p = .exited) (hn : ∀ r ∈ c.readers, r ≠ .notify)
    (hpost : ∀ ok, Action.connect ok ∉ post)
    (h : runLink c (.disconnect stopTo :: post) = some (c', cbs)) : c'.connected = false := by
  obtain ⟨c₁, cb₁, cb₂, h₁, h₂, -⟩ := runLink_cons h
  exact (quiet_run (quiet_disconnect hr hn h₁) hpost h₂).down

theorem disconnect_final_after_connect :
    (∀ p ∈ (connect newClient true).1.reconnects, p = .exited) ∧
    (∀ r ∈ (connect newClient true).1.readers, r ≠ .notify) ∧
    (∀ ok, Action.connect ok ∉ [Action.readerRead 0, .readerFail 0]) ∧
    runLink (connect newClient true).1 [.disconnect none, .readerRead 0, .readerFail 0] =
      some (⟨false, some 0, [false], [.exited], [.loop], [false], some 0, []⟩, [.onDisconnected]) ∧
    Client.connected ⟨false, some 0, [false], [.exited], [.loop], [false], some 0, []⟩ = false :=
  ⟨by decide, by decide, by decide, rfl,
    disconnect_final_of_no_pending_reconnect (connect newClient true).1 none
      [.readerRead 0, .readerFail 0] _ _ (by decide) (by decide) (by decide) rfl⟩

/-- A `scheduleReconnect` that a failed dial started is still asleep when `Disconnect`
runs (a no-op, the link being down); it then wakes, sees `connected = false`, and dials:
the stopped link is connected again with no explicit `Connect` after the stop. -/
theorem reconnect_outlives_disconnect :
    ¬ ∀ (pre : List Action) (stopTo : Option Nat) (post : List Action) (c : Client)
        (cbs : List Callback), (∀ ok, Action.connect ok ∉ post) →
        runLink newClient (pre ++ .disconnect stopTo :: post) = some (c, cbs) →
        c.connected = false := by
  intro h
  have := h [.connect false] none [.reconnectWake 0, .reconnectDial 0 true] _ _ (by simp) rfl
  exact absurd this (by decide)

/-- `Disconnect` closes socket 0, `Connect` opens socket 1, and only then does socket 0's
`readLoop` see its read error: it finds `connected` set by the new connection, clears it,
and schedules a reconnect, which opens socket 2 while socket 1 is still open. A message on
socket 1 then sends its reader to `c.conn`, so two readers block on socket 2. -/
theorem stale_reader_takes_over :
    ¬ ∀ (acts : List Action) (c : Client) (cbs : List Callback),
        runLink newClient acts = some (c, cbs) →
        openSockets c ≤ 1 ∧ liveReaders c ≤ 1 ∧
        (c.connected = true ↔ ∃ s, c.conn = some s ∧ c.sockets[s]? = some true ∧
          c.readers[s]?.map ReadPc.live = some true) := by
  intro h
  have := h [.connect true, .readerRead 0, .publisherSelect 0, .disconnect (some 0),
    .connect true, .readerRead 1, .readerFail 0, .readerNotify 0, .reconnectWake 0,
    .reconnectDial 0 true, .readerMessage 1, .readerRead 1, .readerRead 2] _ _ rfl
  exact absurd this.1 (by decide)

theorem countP_set_same {α : Type} (p : α → Bool) {l : List α} {i : Nat} {u : α} (v : α)
    (hu : l[i]? = some u) (hv : p v = p u) : (l.set i v).countP p = l.countP p := by
  obtain ⟨hi, rfl⟩ := List.getElem?_eq_some_iff.mp hu
  rw [List.countP_set p l i v hi, hv]
  have := List.boole_getElem_le_countP p l i hi
  by_cases hp : p l[i] <;> simp only [hp, if_true] at this ⊢ <;> omega

theorem eq_of_some_connect {c c' : Client} {ok : Bool} {cbs : List Callback}
    (h : some (connect c ok) = some (c', cbs)) : c' = (connect c ok).1 ∧ cbs = (connect c ok).2 :=
  ⟨(congrArg Prod.fst (Option.some.inj h)).symm, (congrArg Prod.snd (Option.some.inj h)).symm⟩

theorem connect_livePublishers (c : Client) (ok : Bool) :
    livePublishers c + (connect c ok).2.count .onConnected = livePublishers (connect c ok).1 := by
  unfold connect livePublishers
  split_ifs <;> simp [PubPc.live]

theorem step_livePublishers {c c' : Client} {a : Action} {cbs : List Callback}
    (h : step c a = some (c', cbs)) :
    livePublishers c + cbs.count .onConnected ≤
      livePublishers c' + if a.isDisconnect then 1 else 0 := by
  cases a with
  | connect ok =>
    obtain ⟨rfl, rfl⟩ := eq_of_some_connect h
    exact (connect_livePublishers c ok).le
  | reconnectDial i ok =>
    simp only [step] at h
    split at h
    · obtain ⟨rfl, rfl⟩ := eq_of_some_connect h
      exact (connect_livePublishers { c with reconnects := c.reconnects.set i .exited } ok).le
    · cases h
  | disconnect stopTo =>
    simp only [step, disconnect] at h
    repeat' split at h
    all_goals cases h
    · simp
    · simp [livePublishers, Action.isDisconnect]
    · rename_i hi
      have := List.countP_set PubPc.live c.publishers _ .exited
        (List.getElem?_eq_some_iff.mp hi).1
      simp only [livePublishers, teardown, List.count_cons, List.count_nil, Action.isDisconnect]
      split at this <;> simp [PubPc.live] at this ⊢ <;> omega
  | _ =>
    simp only [step] at h
    repeat' split at h
    all_goals cases h
    all_goals simp only [livePublishers, Action.isDisconnect, Bool.false_eq_true, if_false,
      add_zero]
    all_goals first | exact (countP_set_same PubPc.live _ ‹_› (by rfl)).ge | simp

theorem livePublishers_run {d c : Client} {acts : List Action} {cbs : List Callback}
    (h : runLink d acts = some (c, cbs)) :
    livePublishers d + cbs.count .onConnected ≤
      livePublishers c + (acts.filter Action.isDisconnect).length := by
  induction acts generalizing d cbs with
  | nil => cases h; simp
  | cons a acts ih =>
    obtain ⟨d₁, cb₁, cb₂, h₁, h₂, rfl⟩ := runLink_cons h
    have hs := step_livePublishers h₁
    have hr := ih h₂
    by_cases ha : a.isDisconnect = true <;> simp [ha] at hs ⊢ <;> omega

/-- Over any run, every `OnConnected` started a publisher, and only `Disconnect` calls end
publishers: the publishers of connections that ended without one are all still live. -/
theorem onConnected_le_livePublishers (acts : List Action) (c : Client) (cbs : List Callback)
    (h : runLink newClient acts = some (c, cbs)) :
    cbs.count .onConnected ≤ livePublishers c + (acts.filter Action.isDisconnect).length := by
  simpa [livePublishers, newClient] using livePublishers_run h

theorem onConnected_le_livePublishers_after_reconnect :
    let acts : List Action := [.connect true, .readerRead 0, .peerClose 0, .readerFail 0,
      .readerNotify 0, .reconnectWake 0, .reconnectDial 0 true]
    ∃ c cbs, runLink newClient acts = some (c, cbs) ∧
      cbs.count .onConnected ≤ livePublishers c + (acts.filter Action.isDisconnect).length := by
  intro acts
  exact ⟨_, _, rfl, onConnected_le_livePublishers acts _ _ rfl⟩

/-- After a read failure `readLoop` neither stops the ticker nor signals `stopCh`, and the
reconnect starts a second publisher while the first one still runs. -/
theorem publishers_accumulate :
    ¬ ∀ (acts : List Action) (c : Client) (cbs : List Callback),
        runLink newClient acts = some (c, cbs) → livePublishers c ≤ 1 := by
  intro h
  have := h [.connect true, .readerRead 0, .peerClose 0, .readerFail 0, .readerNotify 0,
    .reconnectWake 0, .reconnectDial 0 true] _ _ rfl
  exact absurd this (by decide)

/-- Every failed dial starts its own `scheduleReconnect`, and nothing records that one is
already pending: a robot that is offline when added and the browser's connect command
leave two reconnect goroutines asleep at once. -/
theorem reconnects_pile_up :
    ¬ ∀ (acts : List Action) (c : Client) (cbs : List Callback),
        runLink newClient acts = some (c, cbs) → pendingReconnects c ≤ 1 := by
  intro h
  have := h [.connect false, .connect false] _ _ rfl
  exact absurd this (by decide)

theorem count_set_add {α : Type} [DecidableEq α] {l : List α} {i : Nat} {u : α} (v a : α)
    (hu : l[i]? = some u) :
    (l.set i v).count a + (if u = a then 1 else 0) = l.count a + (if v = a then 1 else 0) := by
  obtain ⟨hi, rfl⟩ := List.getElem?_eq_some_iff.mp hu
  have := List.boole_getElem_le_countP (· == a) l i hi
  simp only [List.count, List.countP_set _ _ _ _ hi, beq_iff_eq] at this ⊢
  split_ifs at this ⊢ <;> omega

theorem connect_flag_callbacks (c : Client) (ok : Bool) :
    (connect c ok).2.count .onConnected = (rises c (connect c ok).1).toNat ∧
    (connect c ok).2.count .onDisconnected + (connect c ok).1.readers.count .notify =
      c.readers.count .notify + (falls c (connect c ok).1).toNat := by
  unfold connect
  split_ifs <;> simp [rises, falls, *]

theorem step_flag_callbacks {c c' : Client} {a : Action} {cbs : List Callback}
    (h : step c a = some (c', cbs)) :
    cbs.count .onConnected = (rises c c').toNat ∧
    cbs.count .onDisconnected + c'.readers.count .notify =
      c.readers.count .notify + (falls c c').toNat := by
  cases a with
  | connect ok =>
    obtain ⟨rfl, rfl⟩ := eq_of_some_connect h
    exact connect_flag_callbacks c ok
  | reconnectDial i ok =>
    simp only [step] at h
    split at h
    · obtain ⟨rfl, rfl⟩ := eq_of_some_connect h
      exact connect_flag_callbacks { c with reconnects := c.reconnects.set i .exited } ok
    · cases h
  | readerFail i =>
    simp only [step] at h
    repeat' split at h
    all_goals cases h
    · have := count_set_add ReadPc.notify ReadPc.notify ‹_›
      simp_all [rises, falls]
    · have := count_set_add ReadPc.exited ReadPc.notify ‹_›
      simp_all [rises, falls]
  | readerNotify i =>
    simp only [step] at h
    split at h
    · cases h
      have := count_set_add ReadPc.exited ReadPc.notify ‹_›
      simp only [if_true, reduceCtorEq, if_false] at this
      simp [rises, falls]
      omega
    · cases h
  | readerRead i =>
    simp only [step] at h
    split at h
    · cases h
      have := count_set_add (ReadPc.blocked (c.conn.getD 0)) ReadPc.notify ‹_›
      simp_all [rises, falls]
    · cases h
  | readerMessage i =>
    simp only [step] at h
    repeat' split at h
    all_goals cases h
    have := count_set_add ReadPc.loop ReadPc.notify ‹_›
    simp_all [rises, falls]
  | _ =>
    simp only [step, disconnect] at h
    repeat' split at h
    all_goals cases h
    all_goals simp_all [rises, falls]
    all_goals omega

theorem flag_callbacks_run {d c : Client} {acts : List Action} {cbs : List Callback}
    (h : runLink d acts = some (c, cbs)) :
    cbs.count .onConnected = countAlong rises d acts ∧
    cbs.count .onDisconnected + c.readers.count .notify =
      d.readers.count .notify + countAlong falls d acts := by
  induction acts generalizing d cbs with
  | nil => cases h; simp [countAlong]
  | cons a acts ih =>
    obtain ⟨d₁, cb₁, cb₂, h₁, h₂, rfl⟩ := runLink_cons h
    obtain ⟨hr, hf⟩ := step_flag_callbacks h₁
    obtain ⟨ihr, ihf⟩ := ih h₂
    simp only [countAlong, h₁, List.count_append]
    omega

/-- Over every run of a link, `OnConnected` is started once per false-to-true transition
of `connected`, and `OnDisconnected` once per true-to-false transition, counting a read
task that has cleared the flag and is about to start the callback. A `Disconnect` racing
a read failure clears the flag once, so only one of them starts the callback. -/
theorem callbacks_match_flag_edges (acts : List Action) (c : Client) (cbs : List Callback)
    (h : runLink newClient acts = some (c, cbs)) :
    cbs.count .onConnected = countAlong rises newClient acts ∧
    cbs.count .onDisconnected + c.readers.count .notify = countAlong falls newClient acts := by
  simpa [newClient] using flag_callbacks_run h

theorem callbacks_match_flag_edges_after_drop :
    let acts : List Action := [.connect true, .peerClose 0, .readerRead 0, .readerFail 0,
      .readerNotify 0, .reconnectWake 0, .reconnectDial 0 true]
    ∃ c cbs, runLink newClient acts = some (c, cbs) ∧
      cbs.count .onConnected = countAlong rises newClient acts ∧
      cbs.count .onDisconnected + c.readers.count .notify = countAlong falls newClient acts := by
  intro acts
  exact ⟨_, _, rfl, callbacks_match_flag_edges acts _ _ rfl⟩

end RosbridgeFleet.LinkLifecycle
