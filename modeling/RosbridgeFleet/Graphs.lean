import Mathlib.Data.List.Range
import Mathlib.Data.Rat.Defs

set_option autoImplicit false

/-! The dashboard's charts (`static/js/graphs.js`). Drawing is left out; `Stamped` runs the
pushes beside a ghost that records when each position slot was written. -/

namespace RosbridgeFleet.Graphs

/-- The closure state of `Graphs`. -/
structure State where
  timestamps : List Nat
  velLinear : List ℚ
  velAngular : List ℚ
  posX : List ℚ
  posY : List ℚ
  counter : Nat
  deriving DecidableEq, Repr

def maxPoints : Nat := 100

def newGraphs : State := ⟨[], [], [], [], [], 0⟩

def shiftIf {α : Type} (over : Bool) (l : List α) : List α := if over then l.drop 1 else l

/-- `arr[arr.length - 1] = v`. On an empty array the index is `-1`, which names a property
and no element, and `List.set` out of range leaves the list as it is. -/
def setLast {α : Type} (l : List α) (v : α) : List α := l.set (l.length - 1) v

/-- What `pushPosition` writes to one series: append while there is `room`, else overwrite
the last slot. -/
def writeSlot {α : Type} (room : Bool) (l : List α) (v : α) : List α :=
  if room then l ++ [v] else setLast l v

def pushVelocity (g : State) (linear angular : ℚ) : State :=
  let counter := g.counter + 1
  let timestamps := g.timestamps ++ [counter]
  let over := decide (timestamps.length > maxPoints)
  { g with counter, timestamps := shiftIf over timestamps,
           velLinear := shiftIf over (g.velLinear ++ [linear]),
           velAngular := shiftIf over (g.velAngular ++ [angular]) }

def State.room (g : State) : Bool := decide (g.posX.length < g.timestamps.length)

def State.overAfter (g : State) (x : ℚ) : Bool :=
  decide ((writeSlot g.room g.posX x).length > maxPoints)

def pushPosition (g : State) (x y : ℚ) : State :=
  { g with posX := shiftIf (g.overAfter x) (writeSlot g.room g.posX x),
           posY := shiftIf (g.overAfter x) (writeSlot g.room g.posY y) }

inductive GraphAction
  | pushVelocity (linear angular : ℚ)
  | pushPosition (x y : ℚ)
  deriving DecidableEq, Repr

def step (g : State) : GraphAction → State
  | .pushVelocity linear angular => pushVelocity g linear angular
  | .pushPosition x y => pushPosition g x y

def runGraphs (g : State) (acts : List GraphAction) : State := acts.foldl step g

theorem runGraphs_cons (g : State) (a : GraphAction) (acts : List GraphAction) :
    runGraphs g (a :: acts) = runGraphs (step g a) acts := rfl

theorem runGraphs_append (g : State) (acts acts' : List GraphAction) :
    runGraphs g (acts ++ acts') = runGraphs (runGraphs g acts) acts' := List.foldl_append ..

@[simp] theorem length_shiftIf {α : Type} (over : Bool) (l : List α) :
    (shiftIf over l).length = if over then l.length - 1 else l.length := by
  cases over <;> simp [shiftIf]

theorem length_shiftIf_le {α : Type} (over : Bool) (l : List α) :
    (shiftIf over l).length ≤ l.length := by
  cases over <;> simp [shiftIf]

@[simp] theorem length_setLast {α : Type} (l : List α) (v : α) :
    (setLast l v).length = l.length := List.length_set ..

@[simp] theorem length_writeSlot {α : Type} (room : Bool) (l : List α) (v : α) :
    (writeSlot room l v).length = if room then l.length + 1 else l.length := by
  cases room <;> simp [writeSlot]

theorem dropLast_setLast {α : Type} (l : List α) (v : α) : (setLast l v).dropLast = l.dropLast := by
  rcases List.eq_nil_or_concat l with rfl | ⟨l', b, rfl⟩
  · rfl
  · simp [setLast]

/-- The last `min counter MAX_POINTS` counter values, oldest first. -/
def window (counter : Nat) : List Nat :=
  List.range' (counter + 1 - min counter maxPoints) (min counter maxPoints)

@[simp] theorem length_window (counter : Nat) : (window counter).length = min counter maxPoints :=
  List.length_range' ..

theorem window_succ (n : Nat) :
    shiftIf (decide ((window n ++ [n + 1]).length > maxPoints)) (window n ++ [n + 1]) =
      window (n + 1) := by
  have hcat : window n ++ [n + 1] =
      List.range' (n + 1 - min n maxPoints) (min n maxPoints + 1) := by
    rw [window, List.range'_1_concat, Nat.sub_add_cancel (by omega : min n maxPoints ≤ n + 1)]
  rw [hcat, window, List.length_range']
  by_cases hn : n < maxPoints
  · have hover : ¬ (n + 1 > maxPoints) := by omega
    rw [min_eq_left hn.le, min_eq_left hn, shiftIf, decide_eq_false hover, if_neg Bool.false_ne_true]
    congr 1; omega
  · have hover : maxPoints + 1 > maxPoints := by omega
    rw [min_eq_right (by omega : maxPoints ≤ n), min_eq_right (by omega : maxPoints ≤ n + 1), shiftIf,
      decide_eq_true hover, if_pos rfl, List.range'_succ, List.drop_one, List.tail_cons]
    congr 1; omega

/-- What every run keeps: `timestamps` is the window of the `counter`, the velocity series
are as long as it, and the position series are as long as each other and no longer. -/
structure Window (g : State) : Prop where
  timestamps_eq : g.timestamps = window g.counter
  velLinear_length : g.velLinear.length = g.timestamps.length
  velAngular_length : g.velAngular.length = g.timestamps.length
  posY_length : g.posY.length = g.posX.length
  posX_le : g.posX.length ≤ g.timestamps.length

theorem window_newGraphs : Window newGraphs := ⟨rfl, rfl, rfl, rfl, le_refl _⟩

theorem Window.length_le {g : State} (hw : Window g) : g.timestamps.length ≤ maxPoints := by
  rw [hw.timestamps_eq, length_window]; exact min_le_right ..

theorem Window.pushVelocity {g : State} (hw : Window g) (linear angular : ℚ) :
    Window (Graphs.pushVelocity g linear angular) := by
  have hlen := hw.length_le
  obtain ⟨hts, hl, ha, hy, hx⟩ := hw
  have hw' := window_succ g.counter
  rw [← hts] at hw'
  constructor
  · exact hw'.symm ▸ rfl
  · simp only [Graphs.pushVelocity, length_shiftIf, List.length_append, List.length_singleton, hl]
  · simp only [Graphs.pushVelocity, length_shiftIf, List.length_append, List.length_singleton, ha]
  · exact hy
  · simp only [Graphs.pushVelocity, length_shiftIf, List.length_append, List.length_singleton]
    split_ifs <;> omega

theorem length_writeSlot_room_le {g : State} (hx : g.posX.length ≤ g.timestamps.length) (x : ℚ) :
    (writeSlot g.room g.posX x).length ≤ g.timestamps.length := by
  unfold State.room
  cases h : decide (g.posX.length < g.timestamps.length)
  · simpa only [length_writeSlot, Bool.false_eq_true, if_false] using hx
  · simpa only [length_writeSlot, if_true] using (decide_eq_true_iff.mp h)

theorem Window.pushPosition {g : State} (hw : Window g) (x y : ℚ) :
    Window (Graphs.pushPosition g x y) := by
  obtain ⟨hts, hl, ha, hy, hx⟩ := hw
  refine ⟨hts, hl, ha, ?_, ?_⟩
  · simp only [Graphs.pushPosition, length_shiftIf, length_writeSlot, hy]
  · exact (length_shiftIf_le _ _).trans (length_writeSlot_room_le hx x)

theorem Window.step {g : State} (hw : Window g) : ∀ a, Window (Graphs.step g a)
  | .pushVelocity linear angular => hw.pushVelocity linear angular
  | .pushPosition x y => hw.pushPosition x y

theorem Window.run {g : State} (hw : Window g) (acts : List GraphAction) :
    Window (runGraphs g acts) := by
  induction acts generalizing g with
  | nil => exact hw
  | cons a as ih => exact ih (hw.step a)

/-- Over every interleaving of the pushes, `timestamps` holds the labels of the last
`MAX_POINTS` velocity samples, the velocity series run beside it, and the position series
are as long as each other and no longer than it. -/
theorem timestamps_window_every_run (acts : List GraphAction) :
    (runGraphs newGraphs acts).timestamps = window (runGraphs newGraphs acts).counter ∧
      (runGraphs newGraphs acts).velLinear.length = (runGraphs newGraphs acts).timestamps.length ∧
      (runGraphs newGraphs acts).velAngular.length = (runGraphs newGraphs acts).timestamps.length ∧
      (runGraphs newGraphs acts).posY.length = (runGraphs newGraphs acts).posX.length ∧
      (runGraphs newGraphs acts).posX.length ≤ (runGraphs newGraphs acts).timestamps.length ∧
      (runGraphs newGraphs acts).timestamps.length ≤ maxPoints :=
  have hw := window_newGraphs.run acts
  ⟨hw.timestamps_eq, hw.velLinear_length, hw.velAngular_length, hw.posY_length, hw.posX_le,
    hw.length_le⟩

theorem counter_velocities (g : State) (n : Nat) (linear angular : ℚ) :
    (runGraphs g (List.replicate n (.pushVelocity linear angular))).counter = g.counter + n := by
  induction n generalizing g with
  | zero => rfl
  | succ n ih =>
    rw [List.replicate_succ, runGraphs_cons, ih]
    show g.counter + 1 + n = _
    omega

theorem posX_length_positions {g : State} (hw : Window g) (n : Nat) (x y : ℚ)
    (hn : g.posX.length + n ≤ g.timestamps.length) :
    (runGraphs g (List.replicate n (.pushPosition x y))).posX.length = g.posX.length + n := by
  induction n generalizing g with
  | zero => rfl
  | succ n ih =>
    have hlen := hw.length_le
    have hroom : g.room = true := by simp only [State.room, decide_eq_true_iff]; omega
    have hover : g.overAfter x = false := by
      simp only [State.overAfter, hroom, length_writeSlot, if_true, decide_eq_false_iff_not]; omega
    have hx : (step g (.pushPosition x y)).posX.length = g.posX.length + 1 := by
      simp only [step, Graphs.pushPosition, hroom, hover, length_shiftIf, length_writeSlot, if_true,
        Bool.false_eq_true, if_false]
    have hn' : (step g (.pushPosition x y)).posX.length + n ≤
        (step g (.pushPosition x y)).timestamps.length := by
      rw [hx]; show g.posX.length + 1 + n ≤ g.timestamps.length; omega
    rw [List.replicate_succ, runGraphs_cons, ih (hw.step _) hn', hx]
    omega

/-- A run of the charts beside a ghost: `posWritten` holds, for each slot of `posX`, the
`counter` value at the moment `pushPosition` last wrote it. -/
structure Stamped where
  graphs : State
  posWritten : List Nat

def Stamped.step (s : Stamped) : GraphAction → Stamped
  | .pushVelocity linear angular => ⟨pushVelocity s.graphs linear angular, s.posWritten⟩
  | .pushPosition x y =>
    ⟨pushPosition s.graphs x y,
     shiftIf (s.graphs.overAfter x) (writeSlot s.graphs.room s.posWritten s.graphs.counter)⟩

def stampedRun (s : Stamped) (acts : List GraphAction) : Stamped := acts.foldl Stamped.step s

theorem stampedRun_graphs (s : Stamped) (acts : List GraphAction) :
    (stampedRun s acts).graphs = runGraphs s.graphs acts := by
  induction acts generalizing s with
  | nil => rfl
  | cons a as ih =>
    rw [stampedRun, List.foldl_cons, ← stampedRun, ih]
    cases a <;> rfl

theorem posWritten_velocities (s : Stamped) (n : Nat) (linear angular : ℚ) :
    (stampedRun s (List.replicate n (.pushVelocity linear angular))).posWritten = s.posWritten := by
  induction n generalizing s with
  | zero => rfl
  | succ n ih => exact ih _

/-- The positions do not slide with the velocity window: a position pushed after the first
velocity sample stays in `posX` after a hundred more samples have shifted `timestamps` past
it, since `pushPosition` then finds no room and only overwrites the last slot, which is that
same position. -/
theorem positions_not_kept_recent :
    ¬ ∀ acts : List GraphAction,
        (stampedRun ⟨newGraphs, []⟩ acts).graphs.posX.length ≤
            (stampedRun ⟨newGraphs, []⟩ acts).graphs.timestamps.length ∧
          (stampedRun ⟨newGraphs, []⟩ acts).graphs.posY.length ≤
            (stampedRun ⟨newGraphs, []⟩ acts).graphs.timestamps.length ∧
          ∀ t₀ ∈ (stampedRun ⟨newGraphs, []⟩ acts).graphs.timestamps.head?,
            ∀ t ∈ (stampedRun ⟨newGraphs, []⟩ acts).posWritten, t₀ ≤ t := by
  intro hc
  have hs : stampedRun ⟨newGraphs, []⟩
      ([.pushVelocity 0 0, .pushPosition 0 0] ++ List.replicate 100 (.pushVelocity 0 0)) =
      stampedRun (stampedRun ⟨newGraphs, []⟩ [.pushVelocity 0 0, .pushPosition 0 0])
        (List.replicate 100 (.pushVelocity 0 0)) := List.foldl_append ..
  have hts : (stampedRun (stampedRun ⟨newGraphs, []⟩ [.pushVelocity 0 0, .pushPosition 0 0])
      (List.replicate 100 (.pushVelocity 0 0))).graphs.timestamps.head? = some 2 := by
    rw [stampedRun_graphs, stampedRun_graphs,
      ((window_newGraphs.run _).run _).timestamps_eq, counter_velocities]
    rfl
  have := (hc ([.pushVelocity 0 0, .pushPosition 0 0] ++ List.replicate 100 (.pushVelocity 0 0))).2.2
    2 (by rw [hs]; exact hts) 1 (by rw [hs, posWritten_velocities]; exact List.mem_singleton_self 1)
  omega

theorem Window.step_full {g : State} (hw : Window g) (hfull : g.posX.length = maxPoints)
    (a : GraphAction) :
    (Graphs.step g a).posX.length = maxPoints ∧ (Graphs.step g a).posX.dropLast = g.posX.dropLast := by
  have hlen := hw.length_le
  have hx := hw.posX_le
  cases a with
  | pushVelocity linear angular => exact ⟨hfull, rfl⟩
  | pushPosition x y =>
    have hroom : g.room = false := by simp only [State.room, decide_eq_false_iff_not]; omega
    have hover : g.overAfter x = false := by
      simp only [State.overAfter, hroom, length_writeSlot, decide_eq_false_iff_not]; simp [hfull]
    simp only [Graphs.step, Graphs.pushPosition, hroom, hover, shiftIf, writeSlot,
      Bool.false_eq_true, if_false, length_setLast, hfull, dropLast_setLast, and_self]

/-- Once `posX` holds `MAX_POINTS` positions, its first `MAX_POINTS - 1` are plotted for
ever: whatever is pushed next, only the last slot changes. -/
theorem plotted_positions_freeze (pre acts : List GraphAction)
    (hfull : (runGraphs newGraphs pre).posX.length = maxPoints) :
    (runGraphs newGraphs (pre ++ acts)).posX.dropLast = (runGraphs newGraphs pre).posX.dropLast := by
  rw [runGraphs_append]
  have hw := window_newGraphs.run pre
  generalize runGraphs newGraphs pre = g at hw hfull ⊢
  induction acts generalizing g with
  | nil => rfl
  | cons a as ih =>
    obtain ⟨hf, hd⟩ := hw.step_full hfull a
    rw [runGraphs_cons, ih _ (hw.step a) hf, hd]

theorem plotted_positions_freeze_after_hundred :
    (runGraphs newGraphs (List.replicate 100 (.pushVelocity 0 0) ++
        List.replicate 100 (.pushPosition 0 0))).posX.length = maxPoints ∧
      (runGraphs newGraphs ((List.replicate 100 (.pushVelocity 0 0) ++
          List.replicate 100 (.pushPosition 0 0)) ++ [.pushPosition 1 1])).posX.dropLast =
        (runGraphs newGraphs (List.replicate 100 (.pushVelocity 0 0) ++
          List.replicate 100 (.pushPosition 0 0))).posX.dropLast := by
  have hw := window_newGraphs.run (List.replicate 100 (.pushVelocity 0 0))
  have hts : (runGraphs newGraphs (List.replicate 100 (.pushVelocity 0 0))).timestamps.length =
      100 := by
    rw [hw.timestamps_eq, counter_velocities]; rfl
  have hfull : (runGraphs newGraphs (List.replicate 100 (.pushVelocity 0 0) ++
      List.replicate 100 (.pushPosition 0 0))).posX.length = maxPoints := by
    rw [runGraphs_append, posX_length_positions hw _ _ _ (by rw [hts]; exact le_refl _)]; rfl
  exact ⟨hfull, plotted_positions_freeze _ _ hfull⟩

end RosbridgeFleet.Graphs
