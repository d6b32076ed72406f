import Mathlib.Algebra.Order.Ring.Rat
import Mathlib.Tactic.NormNum

set_option autoImplicit false

/-! Driving from the browser (`app.js`, `joystick.js`). `keysDown` is keyed by the name a key
event reports; the keyboard holds the physical keys. `Math.sqrt` is a parameter. -/

namespace RosbridgeFleet.Teleop

inductive DriveCmd
  | joystick (linearX angularZ : ℚ)
  | stop
  deriving DecidableEq, Repr

def movementKeys : List String :=
  ["w", "s", "a", "d", "ArrowUp", "ArrowDown", "ArrowLeft", "ArrowRight"]

def typingTags : List String := ["INPUT", "TEXTAREA", "SELECT"]

def keyCommand : String → Option DriveCmd
  | "w" | "ArrowUp" => some (.joystick (3 / 10) 0)
  | "s" | "ArrowDown" => some (.joystick (-3 / 10) 0)
  | "a" | "ArrowLeft" => some (.joystick 0 (1 / 2))
  | "d" | "ArrowRight" => some (.joystick 0 (-1 / 2))
  | " " => some .stop
  | _ => none

def center : ℚ := 90

def outerR : ℚ := 75

/-- `keysDown`, the joystick's closure and the commands sent so far. -/
structure Controls where
  keysDown : List String
  active : Bool
  knobX : ℚ
  knobY : ℚ
  sendInterval : Bool
  sent : List DriveCmd
  deriving DecidableEq, Repr

def initControls : Controls := ⟨[], false, center, center, false, []⟩

def clampUnit (v : ℚ) : ℚ := max (-1) (min 1 v)

/-- `getValues`: the knob's offset over `OUTER_R`, up and left positive. -/
def getValues (t : Controls) : DriveCmd :=
  let dx := (t.knobX - center) / outerR
  let dy := -(t.knobY - center) / outerR
  .joystick (clampUnit dy) (clampUnit (-dx))

def send (t : Controls) (c : DriveCmd) : Controls := { t with sent := t.sent ++ [c] }

section Events

variable (sqrt : ℚ → ℚ)

/-- `clampKnob`: a point beyond the outer ring is pulled back onto it. -/
def clampKnob (t : Controls) (x y : ℚ) : Controls :=
  let dx := x - center
  let dy := y - center
  let dist := sqrt (dx * dx + dy * dy)
  if dist > outerR then
    { t with knobX := center + dx / dist * outerR, knobY := center + dy / dist * outerR }
  else { t with knobX := x, knobY := y }

def onKeyDown (t : Controls) (key tagName : String) : Controls :=
  if tagName ∈ typingTags then t
  else if key ∈ t.keysDown then t
  else
    let t := { t with keysDown := t.keysDown ++ [key] }
    match keyCommand key with
    | some c => send t c
    | none => t

def onKeyUp (t : Controls) (key : String) : Controls :=
  let t := { t with keysDown := t.keysDown.filter (· != key) }
  if key ∈ movementKeys ∧ ¬ movementKeys.any (· ∈ t.keysDown) then send t .stop else t

def onStart (t : Controls) (x y : ℚ) : Controls :=
  { clampKnob sqrt { t with active := true } x y with sendInterval := true }

def onMove (t : Controls) (x y : ℚ) : Controls := if t.active then clampKnob sqrt t x y else t

def onEnd (t : Controls) : Controls :=
  send { t with active := false, knobX := center, knobY := center, sendInterval := false } .stop

def sendTick (t : Controls) : Controls :=
  if t.sendInterval ∧ t.active then send t (getValues t) else t

inductive KnobEvent
  | start (x y : ℚ)
  | move (x y : ℚ)
  | finish
  | tick
  deriving DecidableEq, Repr

inductive ControlEvent
  | keyDown (key tagName : String)
  | keyUp (key : String)
  | knob (e : KnobEvent)
  deriving DecidableEq, Repr

def knobStep (t : Controls) : KnobEvent → Controls
  | .start x y => onStart sqrt t x y
  | .move x y => onMove sqrt t x y
  | .finish => onEnd t
  | .tick => sendTick t

def step (t : Controls) : ControlEvent → Controls
  | .keyDown key tagName => onKeyDown t key tagName
  | .keyUp key => onKeyUp t key
  | .knob e => knobStep sqrt t e

def runControls (t : Controls) (evs : List ControlEvent) : Controls := evs.foldl (step sqrt) t

end Events

def Bounded : DriveCmd → Prop
  | .joystick linearX angularZ => -1 ≤ linearX ∧ linearX ≤ 1 ∧ -1 ≤ angularZ ∧ angularZ ≤ 1
  | .stop => True

/-- No movement key is recorded as down and the joystick is not held. -/
def Released (t : Controls) : Prop := (∀ k ∈ movementKeys, k ∉ t.keysDown) ∧ t.active = false

instance (t : Controls) : Decidable (Released t) := inferInstanceAs (Decidable (_ ∧ _))

def LastIsStop (t : Controls) : Prop := t.sent.getLast? = none ∨ t.sent.getLast? = some .stop

theorem lastIsStop_send_stop (t : Controls) : LastIsStop (send t .stop) :=
  .inr (by simp [send])

theorem clampUnit_bounds (v : ℚ) : -1 ≤ clampUnit v ∧ clampUnit v ≤ 1 :=
  ⟨le_max_left _ _, max_le (by norm_num) (min_le_left _ _)⟩

theorem bounded_getValues (t : Controls) : Bounded (getValues t) :=
  ⟨(clampUnit_bounds _).1, (clampUnit_bounds _).2, (clampUnit_bounds _).1, (clampUnit_bounds _).2⟩

theorem keyCommand_bounded {key : String} {c : DriveCmd} (h : keyCommand key = some c) :
    Bounded c := by
  unfold keyCommand at h
  split at h <;> cases h <;> norm_num [Bounded]

theorem keyCommand_of_not_movement {key : String} (hk : key ∉ movementKeys) :
    keyCommand key = none ∨ keyCommand key = some .stop := by
  unfold keyCommand
  split <;> first | exact .inl rfl | exact .inr rfl | exact absurd (by decide) hk

theorem released_of_filter {t : Controls} {key : String} (hk : key ∉ movementKeys)
    (hr : Released { t with keysDown := t.keysDown.filter (· != key) }) : Released t :=
  ⟨fun k hm hd => hr.1 k hm (List.mem_filter.mpr ⟨hd, bne_iff_ne.mpr fun (e : k = key) =>
    hk (e ▸ hm)⟩), hr.2⟩

@[simp] theorem released_send (t : Controls) (c : DriveCmd) : Released (send t c) ↔ Released t :=
  Iff.rfl

theorem bounded_send {t : Controls} {c : DriveCmd} (ht : ∀ c' ∈ t.sent, Bounded c')
    (hc : Bounded c) : ∀ c' ∈ (send t c).sent, Bounded c' := by
  intro c' h
  rcases List.mem_append.mp h with h | h
  · exact ht c' h
  · exact (List.mem_singleton.mp h) ▸ hc

theorem clampKnob_frame (sqrt : ℚ → ℚ) (t : Controls) (x y : ℚ) :
    (clampKnob sqrt t x y).keysDown = t.keysDown ∧ (clampKnob sqrt t x y).active = t.active ∧
      (clampKnob sqrt t x y).sent = t.sent := by
  unfold clampKnob; dsimp only; split <;> exact ⟨rfl, rfl, rfl⟩

/-- Every command sent is bounded, and once everything is released the last one is a stop. -/
structure ControlsInv (t : Controls) : Prop where
  bounded : ∀ c ∈ t.sent, Bounded c
  stops : Released t → LastIsStop t

theorem controlsInv_init : ControlsInv initControls :=
  ⟨fun _ h => (List.not_mem_nil _ h).elim, fun _ => .inl rfl⟩

theorem ControlsInv.send_stop {t : Controls} (ht : ∀ c ∈ t.sent, Bounded c) :
    ControlsInv (send t .stop) :=
  ⟨bounded_send ht trivial, fun _ => lastIsStop_send_stop _⟩

theorem ControlsInv.keyDown {t : Controls} (hi : ControlsInv t) (key tagName : String) :
    ControlsInv (onKeyDown t key tagName) := by
  unfold onKeyDown
  split_ifs with ht hd
  · exact hi
  · exact hi
  · by_cases hk : key ∈ movementKeys
    · have hheld : ¬ Released { t with keysDown := t.keysDown ++ [key] } :=
        fun hr => hr.1 key hk (List.mem_append_right _ (List.mem_singleton_self _))
      split
      · exact ⟨bounded_send hi.bounded (keyCommand_bounded ‹_›),
          fun hr => absurd ((released_send _ _).mp hr) hheld⟩
      · exact ⟨hi.bounded, fun hr => absurd hr hheld⟩
    · have hrel : Released { t with keysDown := t.keysDown ++ [key] } → Released t :=
        fun hr => ⟨fun k hm hd => hr.1 k hm (List.mem_append_left _ hd), hr.2⟩
      rcases keyCommand_of_not_movement hk with hc | hc
      · simp only [hc]
        exact ⟨hi.bounded, fun hr => hi.stops (hrel hr)⟩
      · simp only [hc]
        exact ControlsInv.send_stop hi.bounded

theorem ControlsInv.keyUp {t : Controls} (hi : ControlsInv t) (key : String) :
    ControlsInv (onKeyUp t key) := by
  unfold onKeyUp
  dsimp only
  split_ifs with h
  · exact ControlsInv.send_stop hi.bounded
  · refine ⟨hi.bounded, fun hr => hi.stops ?_⟩
    by_cases hk : key ∈ movementKeys
    · refine absurd ⟨hk, ?_⟩ h
      simpa [List.any_eq_true] using fun k hm hd => hr.1 k hm hd
    · exact released_of_filter hk hr

theorem ControlsInv.knobStep (sqrt : ℚ → ℚ) {t : Controls} (hi : ControlsInv t) :
    ∀ e, ControlsInv (knobStep sqrt t e)
  | .start x y =>
    have hf := clampKnob_frame sqrt { t with active := true } x y
    ⟨hf.2.2 ▸ hi.bounded, fun hr => absurd (hf.2.1.symm.trans hr.2) Bool.noConfusion⟩
  | .move x y => by
    show ControlsInv (onMove sqrt t x y)
    unfold onMove
    split_ifs with ha
    · have hf := clampKnob_frame sqrt t x y
      exact ⟨hf.2.2 ▸ hi.bounded, fun hr => absurd (ha.symm.trans (hf.2.1.symm.trans hr.2))
        Bool.noConfusion⟩
    · exact hi
  | .finish => ControlsInv.send_stop hi.bounded
  | .tick => by
    show ControlsInv (sendTick t)
    unfold sendTick
    split_ifs with h
    · exact ⟨bounded_send hi.bounded (bounded_getValues t),
        fun hr => absurd (h.2.symm.trans hr.2) Bool.noConfusion⟩
    · exact hi

theorem ControlsInv.step (sqrt : ℚ → ℚ) {t : Controls} (hi : ControlsInv t) :
    ∀ e, ControlsInv (Teleop.step sqrt t e)
  | .keyDown key tagName => hi.keyDown key tagName
  | .keyUp key => hi.keyUp key
  | .knob e => hi.knobStep sqrt e

theorem knobStep_keysDown (sqrt : ℚ → ℚ) (t : Controls) :
    ∀ e, (knobStep sqrt t e).keysDown = t.keysDown
  | .start x y => (clampKnob_frame sqrt _ x y).1
  | .move x y => by
    show (onMove sqrt t x y).keysDown = _
    unfold onMove; split_ifs
    · exact (clampKnob_frame sqrt t x y).1
    · rfl
  | .finish => rfl
  | .tick => by
    show (sendTick t).keysDown = _
    unfold sendTick; split_ifs <;> rfl

/-- A key of the keyboard: one of the 26 letter keys, which reports its upper-case letter
while Shift is down, or a key whose name Shift leaves alone. -/
inductive PhysKey
  | letter (i : Fin 26)
  | named (key : String)
  deriving DecidableEq, Repr

def shiftKey : PhysKey := .named "Shift"

/-- The `KeyboardEvent.key` of a key's events. -/
def PhysKey.report (shift : Bool) : PhysKey → String
  | .letter i => String.singleton (Char.ofNat ((if shift then 65 else 97) + i))
  | .named key => key

def PhysKey.moves (k : PhysKey) : Bool := k.report false ∈ movementKeys

structure Desk where
  held : List PhysKey
  page : Controls
  deriving DecidableEq, Repr

def initDesk : Desk := ⟨[], initControls⟩

def Desk.shift (d : Desk) : Bool := shiftKey ∈ d.held

/-- A key going down, or repeating while held, over the element `tagName`; a held key coming
up; or the joystick. -/
inductive DeskEvent
  | press (k : PhysKey) (tagName : String)
  | release (k : PhysKey)
  | knob (e : KnobEvent)
  deriving DecidableEq, Repr

section Keyboard

variable (sqrt : ℚ → ℚ)

def deskStep (d : Desk) : DeskEvent → Desk
  | .press k tagName =>
    ⟨if k ∈ d.held then d.held else d.held ++ [k], onKeyDown d.page (k.report d.shift) tagName⟩
  | .release k =>
    if k ∈ d.held then ⟨d.held.filter (· != k), onKeyUp d.page (k.report d.shift)⟩ else d
  | .knob e => ⟨d.held, knobStep sqrt d.page e⟩

def runDesk (d : Desk) (evs : List DeskEvent) : Desk := evs.foldl (deskStep sqrt) d

/-- Shift goes down or up only while no held movement key reports a name Shift changes. -/
def steady : Desk → List DeskEvent → Bool
  | _, [] => true
  | d, e :: es =>
    ((deskStep sqrt d e).shift == d.shift ||
      d.held.all fun k => !k.moves || k.report true == k.report false) &&
    steady (deskStep sqrt d e) es

end Keyboard

def KeysReleased (d : Desk) : Prop := (∀ k ∈ d.held, k.moves = false) ∧ d.page.active = false

instance (d : Desk) : Decidable (KeysReleased d) := inferInstanceAs (Decidable (_ ∧ _))

/-- Each movement key the page records as down is the name a held key reports. -/
def Synced (d : Desk) : Prop :=
  ∀ m ∈ movementKeys, m ∈ d.page.keysDown → ∃ k ∈ d.held, k.report d.shift = m

theorem letter_report_shift_not_movement (i : Fin 26) :
    (PhysKey.letter i).report true ∉ movementKeys := by
  revert i; decide

theorem moves_of_report {k : PhysKey} {b : Bool} (h : k.report b ∈ movementKeys) :
    k.moves = true := by
  cases b
  · exact decide_eq_true h
  · cases k with
    | letter i => exact absurd h (letter_report_shift_not_movement i)
    | named key => exact decide_eq_true h

theorem report_eq_of_same {k : PhysKey} (h : k.report true = k.report false) (a b : Bool) :
    k.report a = k.report b := by
  cases a <;> cases b <;> simp [h]

theorem report_stable {d d' : Desk}
    (hs : (d'.shift == d.shift ||
      d.held.all fun k => !k.moves || k.report true == k.report false) = true)
    {k : PhysKey} (hk : k ∈ d.held) (hm : k.report d.shift ∈ movementKeys) :
    k.report d'.shift = k.report d.shift := by
  rcases Bool.or_eq_true_iff.mp hs with h | h
  · rw [beq_iff_eq.mp h]
  · have hk' := List.all_eq_true.mp h k hk
    rw [moves_of_report hm, Bool.not_true, Bool.false_or, beq_iff_eq] at hk'
    exact report_eq_of_same hk' _ _

theorem onKeyDown_keysDown {t : Controls} {key tagName m : String}
    (h : m ∈ (onKeyDown t key tagName).keysDown) : m ∈ t.keysDown ∨ m = key := by
  unfold onKeyDown at h
  split_ifs at h
  · exact .inl h
  · exact .inl h
  · have h' : m ∈ t.keysDown ++ [key] := by split at h <;> exact h
    simpa using h'

theorem onKeyUp_keysDown (t : Controls) (key : String) :
    (onKeyUp t key).keysDown = t.keysDown.filter (· != key) := by
  unfold onKeyUp; dsimp only; split_ifs <;> rfl

theorem mem_press_held {l : List PhysKey} {k k' : PhysKey} :
    k' ∈ (if k ∈ l then l else l ++ [k]) ↔ k' ∈ l ∨ k' = k := by
  split_ifs with hk
  · exact ⟨.inl, fun h => h.elim id (· ▸ hk)⟩
  · simp

theorem shift_press (d : Desk) (k : PhysKey) (page : Controls) :
    (⟨if k ∈ d.held then d.held else d.held ++ [k], page⟩ : Desk).shift = d.shift ∨
      k = shiftKey := by
  by_cases hk : k = shiftKey
  · exact .inr hk
  · exact .inl (by simp only [Desk.shift, mem_press_held, Ne.symm hk, or_false])

theorem Synced.step (sqrt : ℚ → ℚ) {d : Desk} (hi : Synced d) (e : DeskEvent)
    (hs : ((deskStep sqrt d e).shift == d.shift ||
      d.held.all fun k => !k.moves || k.report true == k.report false) = true) :
    Synced (deskStep sqrt d e) := by
  have stable := fun {k} hk hm => @report_stable d (deskStep sqrt d e) hs k hk hm
  cases e with
  | press k tagName =>
    intro m hm hd
    rcases onKeyDown_keysDown hd with hd | rfl
    · obtain ⟨k', hk', rfl⟩ := hi m hm hd
      exact ⟨k', mem_press_held.mpr (.inl hk'), stable hk' hm⟩
    · refine ⟨k, mem_press_held.mpr (.inr rfl), ?_⟩
      rcases shift_press d k (onKeyDown d.page (k.report d.shift) tagName) with h | rfl
      · exact congrArg (k.report ·) h
      · rfl
  | release k =>
    by_cases hk : k ∈ d.held
    · have hd' : deskStep sqrt d (.release k) =
          ⟨d.held.filter (· != k), onKeyUp d.page (k.report d.shift)⟩ := if_pos hk
      rw [hd'] at stable ⊢
      intro m hm hd
      rw [onKeyUp_keysDown, List.mem_filter, bne_iff_ne, ne_eq] at hd
      obtain ⟨k', hk', rfl⟩ := hi m hm hd.1
      have hne : k' ≠ k := fun e => hd.2 (e ▸ rfl)
      exact ⟨k', List.mem_filter.mpr ⟨hk', bne_iff_ne.mpr hne⟩, stable hk' hm⟩
    · rw [show deskStep sqrt d (.release k) = d from if_neg hk]
      exact hi
  | knob e =>
    intro m hm hd
    rw [deskStep, knobStep_keysDown] at hd
    exact hi m hm hd

theorem synced_init : Synced initDesk := fun _ _ h => (List.not_mem_nil _ h).elim

theorem synced_runDesk (sqrt : ℚ → ℚ) {d : Desk} (hi : Synced d) (evs : List DeskEvent)
    (hs : steady sqrt d evs = true) : Synced (runDesk sqrt d evs) := by
  induction evs generalizing d with
  | nil => exact hi
  | cons e es ih =>
    rw [steady, Bool.and_eq_true] at hs
    exact ih (hi.step sqrt e hs.1) hs.2

theorem controlsInv_deskStep (sqrt : ℚ → ℚ) {d : Desk} (hi : ControlsInv d.page) :
    ∀ e, ControlsInv (deskStep sqrt d e).page
  | .press _ _ => hi.keyDown _ _
  | .release k => by
    by_cases hk : k ∈ d.held
    · rw [deskStep, if_pos hk]; exact hi.keyUp _
    · rw [deskStep, if_neg hk]; exact hi
  | .knob e => hi.knobStep sqrt e

theorem controlsInv_runDesk (sqrt : ℚ → ℚ) {d : Desk} (hi : ControlsInv d.page)
    (evs : List DeskEvent) : ControlsInv (runDesk sqrt d evs).page := by
  induction evs generalizing d with
  | nil => exact hi
  | cons e es ih => exact ih (controlsInv_deskStep sqrt hi e)

theorem released_of_synced {d : Desk} (hs : Synced d) (hr : KeysReleased d) : Released d.page := by
  refine ⟨fun m hm hd => ?_, hr.2⟩
  obtain ⟨k, hk, rfl⟩ := hs _ hm hd
  exact Bool.noConfusion ((moves_of_report hm).symm.trans (hr.1 k hk))

/-- Once no movement key is held and the joystick is let go, the last drive command the page
sent is a stop, or it sent none, on every run in which Shift goes down or up only while no
held movement key reports a name Shift changes. -/
theorem released_keys_send_stop_last (sqrt : ℚ → ℚ) (evs : List DeskEvent)
    (hs : steady sqrt initDesk evs = true) (hr : KeysReleased (runDesk sqrt initDesk evs)) :
    LastIsStop (runDesk sqrt initDesk evs).page :=
  (controlsInv_runDesk sqrt controlsInv_init evs).stops
    (released_of_synced (synced_runDesk sqrt synced_init evs hs) hr)

theorem released_keys_send_stop_last_after_drive :
    let evs : List DeskEvent := [.press (.letter 22) "BODY", .knob (.start 90 40), .knob .tick,
      .release (.letter 22), .knob .finish, .press shiftKey "BODY", .press (.letter 0) "BODY",
      .release (.letter 0), .release shiftKey]
    steady (fun _ => 0) initDesk evs = true ∧ KeysReleased (runDesk (fun _ => 0) initDesk evs) ∧
      LastIsStop (runDesk (fun _ => 0) initDesk evs).page := by
  intro evs
  have hs : steady (fun _ => 0) initDesk evs = true := by decide
  have hr : KeysReleased (runDesk (fun _ => 0) initDesk evs) := by decide
  exact ⟨hs, hr, released_keys_send_stop_last _ evs hs hr⟩

end RosbridgeFleet.Teleop
