import RosbridgeFleet.HubModel

set_option autoImplicit false

/-! `HubInv`, what every reachable hub satisfies, and the hub's contracts read off it. -/

namespace RosbridgeFleet.HubModel

open Function

theorem readersDone_iff (h : Hub) :
    readersDone h = true ↔ ∀ b < h.bcasts, (h.bcast b).returned = true := by
  simp [readersDone, List.all_eq_true]

theorem not_running_of_readersDone {h : Hub} (hd : readersDone h = true) {b : Nat}
    (hb : b < h.bcasts) (hr : (h.bcast b).returned = false) : False := by
  rw [(readersDone_iff h).mp hd b hb] at hr
  cases hr

theorem mem_returnedCalls (h : Hub) (b : Nat) :
    b ∈ returnedCalls h ↔ b < h.bcasts ∧ (h.bcast b).returned = true := by
  simp [returnedCalls]

theorem pair_sublist_concat {x y z : Nat} {l : List Nat} (hs : [x, y].Sublist (l ++ [z])) :
    [x, y].Sublist l ∨ (y = z ∧ x ∈ l) := by
  obtain ⟨l₁, l₂, he, h₁, h₂⟩ := List.sublist_append_iff.mp hs
  rcases List.sublist_singleton.mp h₂ with rfl | rfl
  · rw [List.append_nil] at he
    exact .inl (he ▸ h₁)
  · obtain ⟨rfl, rfl⟩ : l₁ = [x] ∧ y = z := by
      rcases l₁ with _ | ⟨a, _ | ⟨b, t⟩⟩ <;> simp_all
    exact .inr ⟨rfl, List.singleton_sublist.mp h₁⟩

structure HubInv (h : Hub) : Prop where
  subs_lt : ∀ ch ∈ h.subs, ch < h.chans
  subs_nodup : h.subs.Nodup
  subs_open : ∀ ch ∈ h.subs, h.closed ch = false
  closing_lt : ∀ ch ∈ h.closing, ch < h.chans
  closing_gone : ∀ ch ∈ h.closing, ch ∉ h.subs
  targets_lt : ∀ b < h.bcasts, ∀ ch ∈ (h.bcast b).targets, ch < h.chans
  pending_targets : ∀ b < h.bcasts, ∀ ch ∈ (h.bcast b).pending, ch ∈ (h.bcast b).targets
  pending_nodup : ∀ b < h.bcasts, (h.bcast b).pending.Nodup
  running : ∀ b < h.bcasts, (h.bcast b).returned = false → (h.bcast b).targets = h.subs
  finished : ∀ b < h.bcasts, (h.bcast b).returned = true → (h.bcast b).pending = []
  before_returned : ∀ b₂ < h.bcasts, ∀ b₁ ∈ (h.bcast b₂).returnedBefore,
    b₁ < h.bcasts ∧ (h.bcast b₁).returned = true
  queue_le : ∀ ch, (h.queue ch).length ≤ queueCap
  delivered_nodup : ∀ ch, (delivered h ch).Nodup
  delivered_sent : ∀ ch, ∀ b ∈ delivered h ch,
    b < h.bcasts ∧ ch ∈ (h.bcast b).targets ∧ ch ∉ (h.bcast b).pending
  fifo : ∀ ch, ∀ b₂ < h.bcasts, ∀ b₁ ∈ (h.bcast b₂).returnedBefore, ¬ [b₂, b₁].Sublist (delivered h ch)
  visited : ∀ b < h.bcasts, ∀ ch ∈ (h.bcast b).targets, ch ∉ (h.bcast b).pending →
    b ∈ delivered h ch ∨ (ch, queueCap) ∈ (h.bcast b).dropped
  no_send_panic : h.panic ≠ some .sendOnClosed

theorem hubInv_newHub : HubInv newHub := by
  constructor <;> simp [newHub, delivered]

section Steps

variable {h h' : Hub}

theorem delivered_subscribe (hs : subscribe h = some h') (ch : Nat) :
    delivered h' ch = if ch = h.chans then [] else delivered h ch := by
  unfold HubModel.subscribe at hs
  split_ifs at hs
  cases hs
  split_ifs with hc <;> simp [delivered, update_apply, hc]

theorem HubInv.subscribe (hi : HubInv h) (hs : subscribe h = some h') : HubInv h' := by
  have hdel := delivered_subscribe hs
  unfold HubModel.subscribe at hs
  split_ifs at hs with hd
  cases hs
  have hnew : h.chans ∉ h.subs := fun hm => by simpa using hi.subs_lt _ hm
  have hlt : ∀ b < h.bcasts, ∀ ch ∈ (h.bcast b).targets, ch ≠ h.chans :=
    fun b hb ch hc => (hi.targets_lt b hb ch hc).ne
  refine ⟨?_, ?_, ?_, ?_, ?_, ?_, hi.pending_targets, hi.pending_nodup, ?_, hi.finished,
    hi.before_returned, ?_, ?_, ?_, ?_, ?_, hi.no_send_panic⟩
  · simp only [List.mem_append, List.mem_singleton]
    rintro ch (hc | rfl) <;> [have := hi.subs_lt ch hc; skip] <;> omega
  · exact List.nodup_append.mpr ⟨hi.subs_nodup, List.nodup_singleton _,
      List.disjoint_singleton.mpr hnew⟩
  · simp only [List.mem_append, List.mem_singleton]
    rintro ch (hc | rfl)
    · rw [update_noteq (ne_of_mem_of_not_mem hc hnew)]; exact hi.subs_open ch hc
    · exact update_same _ _ _
  · exact fun ch hc => Nat.lt_succ_of_lt (hi.closing_lt ch hc)
  · simp only [List.mem_append, List.mem_singleton, not_or]
    exact fun ch hc => ⟨hi.closing_gone ch hc, (hi.closing_lt ch hc).ne⟩
  · exact fun b hb ch hc => Nat.lt_succ_of_lt (hi.targets_lt b hb ch hc)
  · exact fun b hb hr => (not_running_of_readersDone hd hb hr).elim
  · intro ch
    by_cases hc : ch = h.chans
    · subst hc; simp
    · simpa [update_noteq hc] using hi.queue_le ch
  · intro ch
    by_cases hc : ch = h.chans
    · rw [hdel, if_pos hc]; exact List.nodup_nil
    · rw [hdel, if_neg hc]; exact hi.delivered_nodup ch
  · intro ch
    by_cases hc : ch = h.chans
    · simp [hdel, hc]
    · rw [hdel, if_neg hc]; exact hi.delivered_sent ch
  · intro ch
    by_cases hc : ch = h.chans
    · simp [hdel, hc]
    · rw [hdel, if_neg hc]; exact hi.fifo ch
  · intro b hb ch hc hp
    rw [hdel, if_neg (hlt b hb ch hc)]
    exact hi.visited b hb ch hc hp

theorem HubInv.unsubscribe {ch : Nat} (hi : HubInv h) (hs : unsubscribe h ch = some h') :
    HubInv h' := by
  unfold HubModel.unsubscribe at hs
  split_ifs at hs with hd
  cases hs
  have hsub : ∀ c ∈ h.subs.erase ch, c ∈ h.subs := fun _ => List.mem_of_mem_erase
  refine { hi with
    subs_lt := fun c hc => hi.subs_lt c (hsub c hc)
    subs_nodup := hi.subs_nodup.erase ch
    subs_open := fun c hc => hi.subs_open c (hsub c hc)
    closing_lt := ?_
    closing_gone := ?_
    running := fun b hb hr => (not_running_of_readersDone hd.1 hb hr).elim }
  · simp only [List.mem_append, List.mem_singleton]
    rintro c (hc | rfl)
    exacts [hi.closing_lt c hc, hd.2]
  · simp only [List.mem_append, List.mem_singleton]
    rintro c (hc | rfl)
    exacts [fun hm => hi.closing_gone c hc (hsub c hm), hi.subs_nodup.not_mem_erase]

theorem HubInv.closeChan {k : Nat} (hi : HubInv h) (hs : closeChan h k = some h') :
    HubInv h' := by
  unfold HubModel.closeChan at hs
  split at hs
  · rename_i ch hk
    have hgone := hi.closing_gone ch (List.getElem?_mem hk)
    have hsub : ∀ c ∈ h.closing.eraseIdx k, c ∈ h.closing := fun _ => List.mem_of_mem_eraseIdx
    split_ifs at hs <;> cases hs
    · exact { hi with
        closing_lt := fun c hc => hi.closing_lt c (hsub c hc)
        closing_gone := fun c hc => hi.closing_gone c (hsub c hc)
        no_send_panic := by simp }
    · exact { hi with
        subs_open := fun c hc =>
          (update_noteq (ne_of_mem_of_not_mem hc hgone) _ _).trans (hi.subs_open c hc)
        closing_lt := fun c hc => hi.closing_lt c (hsub c hc)
        closing_gone := fun c hc => hi.closing_gone c (hsub c hc) }
  · cases hs

theorem delivered_receive {ch : Nat} (hs : receive h ch = some h') (c : Nat) :
    delivered h' c = delivered h c := by
  unfold HubModel.receive at hs
  split at hs
  · rename_i m rest hq
    cases hs
    by_cases hc : c = ch
    · subst hc; simp [delivered, hq]
    · simp [delivered, update_noteq hc]
  · cases hs

theorem HubInv.receive {ch : Nat} (hi : HubInv h) (hs : receive h ch = some h') :
    HubInv h' := by
  have hdel := delivered_receive hs
  unfold HubModel.receive at hs
  split at hs
  · rename_i m rest hq
    cases hs
    refine { hi with
      queue_le := fun c => ?_
      delivered_nodup := fun c => by rw [hdel]; exact hi.delivered_nodup c
      delivered_sent := fun c => by rw [hdel]; exact hi.delivered_sent c
      fifo := fun c => by rw [hdel]; exact hi.fifo c
      visited := fun b hb c => by rw [hdel]; exact hi.visited b hb c }
    have := hi.queue_le ch
    rw [hq, List.length_cons] at this
    by_cases hc : c = ch
    · subst hc; simp only [update_same]; omega
    · simpa [update_noteq hc] using hi.queue_le c
  · cases hs

theorem HubInv.beginBroadcast (hi : HubInv h) : HubInv (beginBroadcast h) := by
  have hold : ∀ b < h.bcasts, (HubModel.beginBroadcast h).bcast b = h.bcast b :=
    fun b hb => update_noteq hb.ne _ _
  have hnew : (HubModel.beginBroadcast h).bcast h.bcasts =
      ⟨h.subs, h.subs, [], returnedCalls h, false⟩ := update_same _ _ _
  have hcase : ∀ b < h.bcasts + 1, b < h.bcasts ∨ b = h.bcasts := fun b hb => by omega
  refine { hi with
    targets_lt := fun b hb => ?_
    pending_targets := fun b hb => ?_
    pending_nodup := fun b hb => ?_
    running := fun b hb => ?_
    finished := fun b hb => ?_
    before_returned := fun b₂ hb₂ b₁ hb₁ => ?_
    delivered_sent := fun ch b hb => ?_
    fifo := fun ch b₂ hb₂ b₁ hb₁ hs => ?_
    visited := fun b hb => ?_ }
  · rcases hcase b hb with hb | rfl
    · rw [hold b hb]; exact hi.targets_lt b hb
    · rw [hnew]; exact hi.subs_lt
  · rcases hcase b hb with hb | rfl
    · rw [hold b hb]; exact hi.pending_targets b hb
    · rw [hnew]; exact fun _ => id
  · rcases hcase b hb with hb | rfl
    · rw [hold b hb]; exact hi.pending_nodup b hb
    · rw [hnew]; exact hi.subs_nodup
  · rcases hcase b hb with hb | rfl
    · rw [hold b hb]; exact hi.running b hb
    · rw [hnew]; exact fun _ => rfl
  · rcases hcase b hb with hb | rfl
    · rw [hold b hb]; exact hi.finished b hb
    · rw [hnew]; exact fun h => by cases h
  · have hb₁ : b₁ < h.bcasts ∧ (h.bcast b₁).returned = true := by
      rcases hcase b₂ hb₂ with hb₂ | rfl
      · rw [hold b₂ hb₂] at hb₁; exact hi.before_returned b₂ hb₂ b₁ hb₁
      · rw [hnew] at hb₁; exact (mem_returnedCalls h b₁).mp hb₁
    rw [hold b₁ hb₁.1]
    exact ⟨Nat.lt_succ_of_lt hb₁.1, hb₁.2⟩
  · have := hi.delivered_sent ch b hb
    rw [hold b this.1]
    exact ⟨Nat.lt_succ_of_lt this.1, this.2⟩
  · rcases hcase b₂ hb₂ with hb₂ | rfl
    · rw [hold b₂ hb₂] at hb₁; exact hi.fifo ch b₂ hb₂ b₁ hb₁ hs
    · exact absurd (hi.delivered_sent ch _ (hs.subset (List.mem_cons_self _ _))).1 (lt_irrefl _)
  · rcases hcase b hb with hb | rfl
    · rw [hold b hb]; exact hi.visited b hb
    · rw [hnew]; exact fun ch hc hn => absurd hc hn

theorem proj_update_of_eq {β : Type} (p : Bcast → β) {f : Nat → Bcast} {b : Nat} {v : Bcast}
    (hv : p v = p (f b)) (b' : Nat) : p (update f b v b') = p (f b') := by
  by_cases hb : b' = b
  · subst hb; rw [update_same, hv]
  · rw [update_noteq hb]

theorem HubInv.finishBroadcast {b : Nat} (hi : HubInv h) (hs : finishBroadcast h b = some h') :
    HubInv h' := by
  unfold HubModel.finishBroadcast at hs
  split_ifs at hs with hg
  cases hs
  obtain ⟨hb, hr, hp⟩ := hg
  have ht := proj_update_of_eq Bcast.targets (v := { h.bcast b with returned := true }) rfl
  have hpd := proj_update_of_eq Bcast.pending (v := { h.bcast b with returned := true }) rfl
  have hdr := proj_update_of_eq Bcast.dropped (v := { h.bcast b with returned := true }) rfl
  have hrb := proj_update_of_eq Bcast.returnedBefore (v := { h.bcast b with returned := true }) rfl
  have hret : ∀ b', (h.bcast b').returned = true →
      (update h.bcast b { h.bcast b with returned := true } b').returned = true := fun b' hr' => by
    by_cases hbb : b' = b
    · subst hbb; rw [update_same]
    · rw [update_noteq hbb]; exact hr'
  refine { hi with
    targets_lt := by simpa only [ht] using hi.targets_lt
    pending_targets := by simpa only [ht, hpd] using hi.pending_targets
    pending_nodup := by simpa only [hpd] using hi.pending_nodup
    running := fun b' hb' => ?_
    finished := fun b' hb' => ?_
    before_returned := fun b₂ hb₂ b₁ hb₁ => ?_
    delivered_sent := by simpa only [ht, hpd] using hi.delivered_sent
    fifo := by simpa only [hrb] using hi.fifo
    visited := by simpa only [ht, hpd, hdr] using hi.visited }
  all_goals dsimp only at *
  · by_cases hbb : b' = b
    · subst hbb; rw [update_same]; exact fun h => by cases h
    · rw [update_noteq hbb]; exact hi.running b' hb'
  · by_cases hbb : b' = b
    · subst hbb; rw [update_same]; exact fun _ => hp
    · rw [update_noteq hbb]; exact hi.finished b' hb'
  · rw [hrb] at hb₁
    obtain ⟨hlt, hr₁⟩ := hi.before_returned b₂ hb₂ b₁ hb₁
    exact ⟨hlt, hret b₁ hr₁⟩

theorem HubInv.visit {b ch : Nat} (hi : HubInv h) (hb : b < h.bcasts)
    (hr : (h.bcast b).returned = false) (hp : ch ∈ (h.bcast b).pending) (v : Bcast)
    (hvt : v.targets = (h.bcast b).targets) (hvr : v.returned = (h.bcast b).returned)
    (hvrb : v.returnedBefore = (h.bcast b).returnedBefore)
    (hvp : v.pending = (h.bcast b).pending.erase ch)
    (hvd : ∀ d ∈ (h.bcast b).dropped, d ∈ v.dropped) (q : Nat → List Nat)
    (hq : ∀ c, (q c).length ≤ queueCap)
    (hgive : ∀ c, h.received c ++ q c = delivered h c ∨
      (c = ch ∧ h.received c ++ q c = delivered h c ++ [b]))
    (hreach : b ∈ h.received ch ++ q ch ∨ (ch, queueCap) ∈ v.dropped) :
    HubInv { h with bcast := update h.bcast b v, queue := q } := by
  have ht := proj_update_of_eq Bcast.targets hvt
  have hret := proj_update_of_eq Bcast.returned hvr
  have hrb := proj_update_of_eq Bcast.returnedBefore hvrb
  have hnd := hi.pending_nodup b hb
  have hpd : ∀ b' c, c ∈ (update h.bcast b v b').pending →
      c ∈ (h.bcast b').pending ∧ (b' = b → c ≠ ch) := fun b' c hc => by
    by_cases hbb : b' = b
    · subst hbb
      rw [update_same, hvp, hnd.mem_erase_iff] at hc
      exact ⟨hc.2, fun _ => hc.1⟩
    · rw [update_noteq hbb] at hc
      exact ⟨hc, fun h => absurd h hbb⟩
  have hdm : ∀ b', (h.bcast b').dropped ⊆ (update h.bcast b v b').dropped := fun b' d hd => by
    by_cases hbb : b' = b
    · subst hbb; rw [update_same]; exact hvd d hd
    · rw [update_noteq hbb]; exact hd
  have hmono : ∀ c, delivered h c ⊆ h.received c ++ q c := fun c x hx => by
    rcases hgive c with he | ⟨_, he⟩ <;> rw [he] <;> simp [hx]
  have hfresh : b ∉ delivered h ch := fun hm => (hi.delivered_sent ch b hm).2.2 hp
  refine { hi with
    targets_lt := by simpa only [ht] using hi.targets_lt
    pending_targets := fun b' hb' c hc => ?_
    pending_nodup := fun b' hb' => ?_
    running := by simpa only [ht, hret] using hi.running
    finished := fun b' hb' hr' => ?_
    before_returned := by simpa only [hrb, hret] using hi.before_returned
    queue_le := hq
    delivered_nodup := fun c => ?_
    delivered_sent := fun c x hx => ?_
    fifo := fun c b₂ hb₂ b₁ hb₁ hs => ?_
    visited := fun b' hb' c hc hn => ?_ }
  all_goals dsimp only at *
  · rw [ht]; exact hi.pending_targets b' hb' c (hpd b' c hc).1
  · by_cases hbb : b' = b
    · subst hbb; rw [update_same, hvp]; exact hnd.erase ch
    · rw [update_noteq hbb]; exact hi.pending_nodup b' hb'
  · rw [hret] at hr'
    have hne : b' ≠ b := fun he => by rw [he, hr] at hr'; cases hr'
    rw [update_noteq hne]; exact hi.finished b' hb' hr'
  · rcases hgive c with he | ⟨rfl, he⟩
    · unfold delivered; rw [he]; exact hi.delivered_nodup c
    · unfold delivered; rw [he]
      exact List.nodup_append.mpr ⟨hi.delivered_nodup c, List.nodup_singleton b,
        List.disjoint_singleton.mpr hfresh⟩
  · rw [ht]
    have hx' : x ∈ delivered h c ∨ (c = ch ∧ x = b) := by
      rcases hgive c with he | ⟨rfl, he⟩
      · exact .inl (by unfold delivered at hx; rwa [he] at hx)
      · unfold delivered at hx; rw [he] at hx
        simpa using hx
    rcases hx' with hx' | ⟨rfl, rfl⟩
    · obtain ⟨hlt, htg, hn⟩ := hi.delivered_sent c x hx'
      exact ⟨hlt, htg, fun hm => hn (hpd x c hm).1⟩
    · exact ⟨hb, hi.pending_targets x hb c hp, fun hm => (hpd x c hm).2 rfl rfl⟩
  · rw [hrb] at hb₁
    rcases hgive c with he | ⟨rfl, he⟩
    · unfold delivered at hs; rw [he] at hs; exact hi.fifo c b₂ hb₂ b₁ hb₁ hs
    · unfold delivered at hs; rw [he] at hs
      rcases pair_sublist_concat hs with hs | ⟨rfl, -⟩
      · exact hi.fifo c b₂ hb₂ b₁ hb₁ hs
      · have := (hi.before_returned b₂ hb₂ _ hb₁).2
        rw [hr] at this; cases this
  · rw [ht] at hc
    by_cases hold : c ∈ (h.bcast b').pending
    · have hbc : b' = b ∧ c = ch := by
        by_contra hne
        exact hn (by
          by_cases hbb : b' = b
          · subst hbb
            rw [update_same, hvp, hnd.mem_erase_iff]
            exact ⟨fun he => hne ⟨rfl, he⟩, hold⟩
          · rw [update_noteq hbb]; exact hold)
      obtain ⟨rfl, rfl⟩ := hbc
      rw [update_same]
      exact hreach
    · rcases hi.visited b' hb' c hc hold with hd | hd
      · exact .inl (hmono c hd)
      · exact .inr (hdm b' hd)

theorem HubInv.sendTo {b ch : Nat} (hi : HubInv h) (hs : sendTo h b ch = some h') :
    HubInv h' := by
  unfold HubModel.sendTo at hs
  split_ifs at hs with hg hc hlen <;> cases hs <;> obtain ⟨hb, hr, hp⟩ := hg
  · -- the channel is a current subscriber, so `Unsubscribe` has not closed it
    have := hi.subs_open ch (hi.running b hb hr ▸ hi.pending_targets b hb ch hp)
    rw [hc] at this; cases this
  · refine hi.visit hb hr hp ((h.bcast b).leave ch) rfl rfl rfl rfl (fun _ => id) _
      (fun c => ?_) (fun c => ?_) ?_
    · by_cases hcc : c = ch
      · subst hcc; rw [update_same, List.length_append]; exact hlen
      · rw [update_noteq hcc]; exact hi.queue_le c
    · by_cases hcc : c = ch
      · subst hcc; right; simp [delivered]
      · left; rw [update_noteq hcc]; rfl
    · left; simp
  · refine hi.visit hb hr hp { (h.bcast b).leave ch with
      dropped := (h.bcast b).dropped ++ [(ch, (h.queue ch).length)] } rfl rfl rfl rfl
      (fun d hd => List.mem_append_left _ hd) _ hi.queue_le (fun c => .inl rfl) (.inr ?_)
    have := hi.queue_le ch
    have hfull : (h.queue ch).length = queueCap := by omega
    simp [hfull]

theorem HubInv.step {a : HubAction} (hi : HubInv h) (hs : step h a = some h') : HubInv h' := by
  unfold HubModel.step at hs
  split_ifs at hs
  cases a with
  | subscribe => exact hi.subscribe hs
  | unsubscribe ch => exact hi.unsubscribe hs
  | close k => exact hi.closeChan hs
  | broadcast => cases hs; exact hi.beginBroadcast
  | send b ch => exact hi.sendTo hs
  | finish b => exact hi.finishBroadcast hs
  | receive ch => exact hi.receive hs

end Steps

theorem hubInv_run {acts : List HubAction} {h : Hub} (hr : runHub newHub acts = some h) :
    HubInv h :=
  runHub_induction HubInv (fun _ _ _ hi hs => hi.step hs) acts _ _ hubInv_newHub hr

/-- The delivery contract of the hub, over every interleaving of `Subscribe`, `Unsubscribe`,
the steps of any number of concurrent `Broadcast` calls, and receives: buffers never pass
100; a channel receives each message at most once and only from a call that saw it among
the subscribers, and a call sees the subscriber set as it is for as long as it holds the
read lock; a call that began after another returned is never received before it; and
once a call has returned, each subscriber it saw has its message unless that subscriber's
own buffer held 100 messages when the loop reached it. -/
theorem broadcast_delivery_contract (acts : List HubAction) (h : Hub)
    (hrun : runHub newHub acts = some h) :
    (∀ ch, (h.queue ch).length ≤ queueCap) ∧
    (∀ ch, (h.received ch).Nodup ∧ ∀ b ∈ h.received ch, b < h.bcasts ∧ ch ∈ (h.bcast b).targets) ∧
    (∀ b < h.bcasts, (h.bcast b).returned = false → (h.bcast b).targets = h.subs) ∧
    (∀ ch, ∀ b₂ < h.bcasts, ∀ b₁ ∈ (h.bcast b₂).returnedBefore,
      ¬ [b₂, b₁].Sublist (h.received ch)) ∧
    (∀ b < h.bcasts, (h.bcast b).returned = true → ∀ ch ∈ (h.bcast b).targets,
      b ∈ delivered h ch ∨ (ch, queueCap) ∈ (h.bcast b).dropped) := by
  have hi := hubInv_run hrun
  have hrec : ∀ ch, (h.received ch).Sublist (delivered h ch) := fun ch =>
    List.sublist_append_left _ _
  refine ⟨hi.queue_le, fun ch => ⟨(hi.delivered_nodup ch).sublist (hrec ch), fun b hb => ?_⟩,
    hi.running, fun ch b₂ hb₂ b₁ hb₁ hs => hi.fifo ch b₂ hb₂ b₁ hb₁ (hs.trans (hrec ch)),
    fun b hb hr ch hc => hi.visited b hb ch hc (by simp [hi.finished b hb hr])⟩
  obtain ⟨hlt, htg, -⟩ := hi.delivered_sent ch b ((hrec ch).subset hb)
  exact ⟨hlt, htg⟩

theorem broadcast_delivery_contract_two_calls :
    let acts : List HubAction := [.subscribe, .subscribe, .broadcast, .send 0 1, .broadcast,
      .send 1 0, .send 0 0, .send 1 1, .finish 1, .finish 0, .receive 0, .unsubscribe 0, .close 0]
    ∃ h, runHub newHub acts = some h ∧
      (∀ ch, (h.queue ch).length ≤ queueCap) ∧
      (∀ ch, (h.received ch).Nodup ∧
        ∀ b ∈ h.received ch, b < h.bcasts ∧ ch ∈ (h.bcast b).targets) ∧
      (∀ b < h.bcasts, (h.bcast b).returned = false → (h.bcast b).targets = h.subs) ∧
      (∀ ch, ∀ b₂ < h.bcasts, ∀ b₁ ∈ (h.bcast b₂).returnedBefore,
        ¬ [b₂, b₁].Sublist (h.received ch)) ∧
      (∀ b < h.bcasts, (h.bcast b).returned = true → ∀ ch ∈ (h.bcast b).targets,
        b ∈ delivered h ch ∨ (ch, queueCap) ∈ (h.bcast b).dropped) := by
  intro acts
  exact ⟨_, rfl, broadcast_delivery_contract acts _ rfl⟩

/-- No `Broadcast` sends on a closed channel, in any interleaving with `Unsubscribe`: every
subscriber a running call has yet to visit is still open, because `Unsubscribe` deletes the
channel under the write lock, which waits for the call to return. -/
theorem broadcast_never_sends_on_closed (acts : List HubAction) (h : Hub)
    (hrun : runHub newHub acts = some h) :
    h.panic ≠ some .sendOnClosed ∧
    ∀ b < h.bcasts, (h.bcast b).returned = false → ∀ ch ∈ (h.bcast b).pending,
      h.closed ch = false := by
  have hi := hubInv_run hrun
  exact ⟨hi.no_send_panic, fun b hb hr ch hp =>
    hi.subs_open ch (hi.running b hb hr ▸ hi.pending_targets b hb ch hp)⟩

theorem broadcast_never_sends_on_closed_racing_unsubscribe :
    let acts : List HubAction := [.subscribe, .subscribe, .broadcast, .send 0 0, .send 0 1,
      .finish 0, .unsubscribe 1, .close 0, .broadcast, .send 1 0]
    ∃ h, runHub newHub acts = some h ∧ h.panic ≠ some .sendOnClosed ∧
      ∀ b < h.bcasts, (h.bcast b).returned = false → ∀ ch ∈ (h.bcast b).pending,
        h.closed ch = false := by
  intro acts
  exact ⟨_, rfl, broadcast_never_sends_on_closed acts _ rfl⟩

theorem unsubscribeCall_live (h : Hub) {q : Nat} (hp : h.panic = none) (hd : readersDone h = true)
    (hq : q < h.chans) :
    unsubscribeCall h q = some (if h.closed q then
      { h with subs := h.subs.erase q, panic := some .closeOfClosed } else
      { h with subs := h.subs.erase q, closed := update h.closed q true }) := by
  obtain ⟨subs, chans, queue, closed, closing, received, bcasts, bcast, panic⟩ := h
  simp only at hp hq
  subst hp
  simp [unsubscribeCall, runHub, step, HubModel.unsubscribe, closeChan, hd, hq,
    List.eraseIdx_append_of_length_le]
  split_ifs <;> rfl

theorem unsubscribeCall_pre {h h₁ : Hub} {q : Nat} (hc : unsubscribeCall h q = some h₁) :
    h.panic = none ∧ readersDone h = true ∧ q < h.chans := by
  simp only [unsubscribeCall, runHub, step, HubModel.unsubscribe] at hc
  split_ifs at hc with hp hu
  · simp at hc
  · exact ⟨Option.not_isSome_iff_eq_none.mp hp, hu⟩
  · simp at hc

/-- In every reachable hub, unsubscribing a live subscriber twice panics: the first call
deletes and closes the channel, and the second finds nothing to delete but closes the
channel again. -/
theorem second_unsubscribe_panics {acts : List HubAction} {h h₁ : Hub} {q : Nat}
    (hr : runHub newHub acts = some h) (hq : q ∈ h.subs) (h1 : unsubscribeCall h q = some h₁) :
    h₁.panic = none ∧ unsubscribeCall h₁ q = some { h₁ with panic := some .closeOfClosed } := by
  have hi := hubInv_run hr
  obtain ⟨hp, hd, hlt⟩ := unsubscribeCall_pre h1
  rw [unsubscribeCall_live h hp hd hlt, hi.subs_open q hq, if_neg Bool.false_ne_true,
    Option.some.injEq] at h1
  subst h1
  have hgone : q ∉ h.subs.erase q := hi.subs_nodup.not_mem_erase
  refine ⟨hp, ?_⟩
  rw [unsubscribeCall_live { h with subs := h.subs.erase q, closed := update h.closed q true } hp hd hlt]
  simp [List.erase_of_not_mem hgone]

theorem second_unsubscribe_panics_after_subscribe :
    ∃ h h₁, runHub newHub [.subscribe] = some h ∧ 0 ∈ h.subs ∧ unsubscribeCall h 0 = some h₁ ∧
      h₁.panic = none ∧ unsubscribeCall h₁ 0 = some { h₁ with panic := some .closeOfClosed } :=
  ⟨_, _, rfl, by decide, rfl, @second_unsubscribe_panics [.subscribe] _ _ 0 rfl (by decide) rfl⟩

/-- `Unsubscribe` is not idempotent: after one `Subscribe` and one `Unsubscribe` of its
channel, a second `Unsubscribe` does not leave the hub as it was but closes the closed
channel and panics. -/
theorem unsubscribe_not_idempotent :
    ¬ ∀ (acts : List HubAction) (h h₁ : Hub) (q : Nat), runHub newHub acts = some h →
        q < h.chans → unsubscribeCall h q = some h₁ → unsubscribeCall h₁ q = some h₁ := by
  intro hc
  have := hc [.subscribe] _ _ 0 rfl (by decide) rfl
  exact absurd (congrArg (Option.map Hub.panic) this) (by decide)

/-- The hub with the connections `WSHandler` serves, each named by the channel its
`Subscribe` made, and whether each connection's `closeOnce` has run. -/
structure Served where
  hub : Hub
  once : Nat → Bool

def newServed : Served := ⟨newHub, fun _ => false⟩

/-- A connection accepted (`Subscribe`); a `cleanup` call of the connection on channel `ch`,
from its reader or its writer, which runs `Unsubscribe` through `closeOnce.Do`; or another
step of the hub: a `Broadcast` step, a receive, or the `close` of an `Unsubscribe` past its
delete. -/
inductive ServedAction
  | accept
  | cleanup (ch : Nat)
  | hub (a : HubAction)

def HubAction.isCall : HubAction → Bool
  | .subscribe | .unsubscribe _ => true
  | _ => false

def servedStep (s : Served) : ServedAction → Option Served
  | .accept => (step s.hub .subscribe).map fun h => ⟨h, s.once⟩
  | .cleanup ch =>
    if ch < s.hub.chans then
      if s.once ch then some s
      else (step s.hub (.unsubscribe ch)).map fun h => ⟨h, update s.once ch true⟩
    else none
  | .hub a => if a.isCall then none else (step s.hub a).map fun h => ⟨h, s.once⟩

def runServed : Served → List ServedAction → Option Served
  | s, [] => some s
  | s, a :: as => (servedStep s a).bind (runServed · as)

/-- The hub's invariant, and `closeOnce`'s: a connection whose cleanup has not run has no
close pending and an open channel; every pending close is of a connection whose cleanup
ran, at most once each, on a channel still open. -/
structure OnceInv (s : Served) : Prop where
  hub : HubInv s.hub
  fresh : ∀ ch, s.once ch = false → ch ∉ s.hub.closing ∧ s.hub.closed ch = false
  closing_once : ∀ ch ∈ s.hub.closing, s.once ch = true
  closing_nodup : s.hub.closing.Nodup
  closing_open : ∀ ch ∈ s.hub.closing, s.hub.closed ch = false
  no_close_panic : s.hub.panic ≠ some .closeOfClosed

theorem onceInv_newServed : OnceInv newServed :=
  ⟨hubInv_newHub, fun _ _ => ⟨List.not_mem_nil _, rfl⟩, fun _ h => (List.not_mem_nil _ h).elim,
    List.nodup_nil, fun _ h => (List.not_mem_nil _ h).elim, fun h => Option.noConfusion h⟩

theorem eraseIdx_eq_erase_of_nodup {l : List Nat} {k ch : Nat} (hl : l.Nodup)
    (hk : l[k]? = some ch) : l.eraseIdx k = l.erase ch := by
  obtain ⟨hlt, rfl⟩ := List.getElem?_eq_some_iff.mp hk
  exact (hl.erase_getElem k hlt).symm

theorem step_frame {h h' : Hub} {a : HubAction} (ha : a.isCall = false) (hc : ∀ k, a ≠ .close k)
    (hs : step h a = some h') :
    h'.closing = h.closing ∧ h'.closed = h.closed ∧
      (h'.panic = h.panic ∨ h'.panic = some .sendOnClosed) := by
  unfold HubModel.step at hs
  split_ifs at hs
  cases a with
  | subscribe => cases ha
  | unsubscribe => cases ha
  | close k => exact absurd rfl (hc k)
  | broadcast => cases hs; exact ⟨rfl, rfl, .inl rfl⟩
  | send b ch =>
    dsimp only at hs
    unfold sendTo at hs
    split_ifs at hs <;> cases hs
    exacts [⟨rfl, rfl, .inr rfl⟩, ⟨rfl, rfl, .inl rfl⟩, ⟨rfl, rfl, .inl rfl⟩]
  | finish b =>
    dsimp only at hs
    unfold finishBroadcast at hs
    split_ifs at hs
    cases hs; exact ⟨rfl, rfl, .inl rfl⟩
  | receive ch =>
    dsimp only at hs
    unfold HubModel.receive at hs
    split at hs <;> cases hs
    exact ⟨rfl, rfl, .inl rfl⟩

theorem OnceInv.accept {s s' : Served} (hi : OnceInv s) (hs : servedStep s .accept = some s') :
    OnceInv s' := by
  obtain ⟨h', hh, rfl⟩ := Option.map_eq_some'.mp hs
  have hinv := hi.hub.step hh
  unfold HubModel.step at hh
  split_ifs at hh
  unfold subscribe at hh
  split_ifs at hh
  cases hh
  have hnew : ∀ ch ∈ s.hub.closing, ch ≠ s.hub.chans := fun ch hc =>
    (hi.hub.closing_lt ch hc).ne
  refine ⟨hinv, fun ch ho => ⟨hi.fresh ch ho |>.1, ?_⟩, hi.closing_once, hi.closing_nodup,
    fun ch hc => ?_, hi.no_close_panic⟩ <;> dsimp only
  · by_cases he : ch = s.hub.chans
    · rw [he, update_same]
    · rw [update_noteq he]; exact (hi.fresh ch ho).2
  · rw [update_noteq (hnew ch hc)]; exact hi.closing_open ch hc

theorem OnceInv.cleanup {s s' : Served} {ch : Nat} (hi : OnceInv s)
    (hs : servedStep s (.cleanup ch) = some s') : OnceInv s' := by
  simp only [servedStep] at hs
  split_ifs at hs with hlt ho
  · cases hs; exact hi
  · obtain ⟨h', hh, rfl⟩ := Option.map_eq_some'.mp hs
    have hinv := hi.hub.step hh
    have ⟨hnc, hopen⟩ := hi.fresh ch (Bool.not_eq_true _ ▸ ho)
    unfold HubModel.step at hh
    split_ifs at hh
    dsimp only at hh
    unfold HubModel.unsubscribe at hh
    split_ifs at hh
    cases hh
    refine ⟨hinv, fun c hc => ?_, fun c hc => ?_, ?_, fun c hc => ?_, hi.no_close_panic⟩ <;>
      dsimp only at *
    · have hne : c ≠ ch := by rintro rfl; simp at hc
      rw [update_noteq hne] at hc
      exact ⟨by simp [hne, (hi.fresh c hc).1], (hi.fresh c hc).2⟩
    · rcases List.mem_append.mp hc with hc | hc
      · by_cases hne : c = ch
        · rw [hne, update_same]
        · rw [update_noteq hne]; exact hi.closing_once c hc
      · rw [List.mem_singleton.mp hc, update_same]
    · exact hi.closing_nodup.append (List.nodup_singleton ch)
        (List.disjoint_singleton.mpr hnc)
    · rcases List.mem_append.mp hc with hc | hc
      · exact hi.closing_open c hc
      · rw [List.mem_singleton.mp hc]; exact hopen

theorem OnceInv.close {s s' : Served} {k : Nat} (hi : OnceInv s)
    (hs : servedStep s (.hub (.close k)) = some s') : OnceInv s' := by
  simp only [servedStep, HubAction.isCall, Bool.false_eq_true, if_false] at hs
  obtain ⟨h', hh, rfl⟩ := Option.map_eq_some'.mp hs
  have hinv := hi.hub.step hh
  unfold HubModel.step at hh
  split_ifs at hh
  dsimp only at hh
  unfold closeChan at hh
  split at hh
  · next ch hk =>
    have hmem : ch ∈ s.hub.closing := List.getElem?_mem hk
    have herase := eraseIdx_eq_erase_of_nodup hi.closing_nodup hk
    rw [if_neg (by simp [hi.closing_open ch hmem])] at hh
    cases hh
    rw [herase] at hinv ⊢
    refine ⟨hinv, fun c hc => ?_, fun c hc => hi.closing_once c (List.mem_of_mem_erase hc),
      hi.closing_nodup.erase ch, fun c hc => ?_, hi.no_close_panic⟩
    · have hne : c ≠ ch := fun e => (hi.fresh c hc).1 (e ▸ hmem)
      exact ⟨fun hm => (hi.fresh c hc).1 (List.mem_of_mem_erase hm),
        by simp [update_noteq hne, (hi.fresh c hc).2]⟩
    · have hne : c ≠ ch := ((hi.closing_nodup.mem_erase_iff).mp hc).1
      simp [update_noteq hne, hi.closing_open c (List.mem_of_mem_erase hc)]
  · cases hh

theorem OnceInv.step {s s' : Served} (hi : OnceInv s) :
    ∀ a, servedStep s a = some s' → OnceInv s'
  | .accept, hs => hi.accept hs
  | .cleanup _, hs => hi.cleanup hs
  | .hub a, hs => by
    simp only [servedStep] at hs
    split_ifs at hs with ha
    obtain ⟨h', hh, rfl⟩ := Option.map_eq_some'.mp hs
    by_cases hc : ∀ k, a ≠ .close k
    · obtain ⟨hcl, hcd, hp⟩ := step_frame (Bool.not_eq_true _ ▸ ha) hc hh
      refine ⟨hi.hub.step hh, ?_, ?_, ?_, ?_, ?_⟩ <;> simp only [hcl, hcd]
      · exact hi.fresh
      · exact hi.closing_once
      · exact hi.closing_nodup
      · exact hi.closing_open
      · rcases hp with hp | hp <;> rw [hp]
        · exact hi.no_close_panic
        · exact fun e => Panic.noConfusion (Option.some.inj e)
    · push_neg at hc
      obtain ⟨k, rfl⟩ := hc
      exact hi.close hs

theorem onceInv_run {acts : List ServedAction} {s s' : Served} (hi : OnceInv s)
    (h : runServed s acts = some s') : OnceInv s' := by
  induction acts generalizing s with
  | nil => cases h; exact hi
  | cons a as ih =>
    obtain ⟨s₁, h₁, h₂⟩ := Option.bind_eq_some.mp h
    exact ih (hi.step a h₁) h₂

/-- `WSHandler` calls `Unsubscribe` only inside `closeOnce.Do`. Over every interleaving of
connections accepted, each connection's `cleanup` calls from its reader and its writer, the
closes of the `Unsubscribe` calls, `Broadcast` steps and receives, no channel has two closes
pending, each pending close finds its channel open, and the hub never panics. -/
theorem cleanup_once_never_panics (acts : List ServedAction) (s : Served)
    (h : runServed newServed acts = some s) :
    s.hub.panic = none ∧ s.hub.closing.Nodup ∧ ∀ ch ∈ s.hub.closing, s.hub.closed ch = false := by
  have hi := onceInv_run onceInv_newServed h
  refine ⟨?_, hi.closing_nodup, hi.closing_open⟩
  cases hp : s.hub.panic with
  | none => rfl
  | some p =>
    cases p
    · exact absurd hp hi.hub.no_send_panic
    · exact absurd hp hi.no_close_panic

theorem cleanup_once_never_panics_reader_and_writer :
    let acts : List ServedAction := [.accept, .accept, .hub .broadcast, .hub (.send 0 0),
      .hub (.send 0 1), .hub (.finish 0), .cleanup 0, .cleanup 0, .hub (.close 0), .cleanup 1,
      .cleanup 0, .hub (.close 0), .cleanup 1]
    ∃ s, runServed newServed acts = some s ∧ s.hub.panic = none ∧ s.hub.closing.Nodup ∧
      ∀ ch ∈ s.hub.closing, s.hub.closed ch = false := by
  intro acts
  exact ⟨_, rfl, cleanup_once_never_panics acts _ rfl⟩

end RosbridgeFleet.HubModel
