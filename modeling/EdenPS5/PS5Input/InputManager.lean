import EdenPS5.PS5Audio.AudioManager
import Mathlib.Data.BitVec

/-!
# The input manager

`PS5InputManager` (`ps5_input/ps5_input_manager.cpp`) keeps the DualSense controllers in a
vector of slots indexed by controller id, and the table that maps DualSense buttons to
Switch buttons.  `PS5Controller` is a class whose sources are not part of the port: a
controller is modelled by the id it was created with, and the results of its `Initialize`,
`IsConnected` and `GetInputEvents` calls are arguments.  The configuration is the audio
manager's `Build`.

## Main definitions

* `PS5InputManager` and one definition per member function that reads or writes it:
  `onControllerConnected` grows the slot vector to `controller_id + 1` in `uint32_t`, and
  fails on the write past the end that this allows.
* `defaultButtonMapping` — the table `Initialize` installs, and `mapPS5ToSwitchInput`, the
  first entry of the table whose DualSense button matches a button event.
* `processControllerEvents` — the events `Update` hands to `input_event_callback_`.
* `InputOp`, `step`, `Reachable`.

## Design notes

`PollControllers` is the only caller of `OnControllerConnected` and
`OnControllerDisconnected`.  In the console build its body is a comment, so no controller
is ever connected there (`Reachable.controllers_eq_nil_of_ps5`).  In development it connects
controller `0` when the vector is empty; the vector is resized before the controller's
`Initialize`, so a controller that fails to initialize leaves an empty slot behind and is
not tried again before `Shutdown`.
-/

namespace EdenPS5.PS5Input

open PS5Audio (Build)

/-- `InputEventType`. -/
inductive InputEventType
  | buttonPress
  | buttonRelease
  | axisMove
  | touchpadTouch
  | touchpadRelease
  | motionUpdate
  deriving DecidableEq, Repr

/-- `InputEvent`. -/
structure InputEvent where
  type : InputEventType
  controllerId : BitVec 32
  buttonId : BitVec 32
  value : Float
  x : Float
  y : Float
  timestamp : BitVec 64
  deriving Repr

/-- `PS5InputManager::SwitchButtonMapping`. -/
structure SwitchButtonMapping where
  ps5Button : BitVec 32
  switchButton : BitVec 32
  deriving DecidableEq, Repr

/-- A `PS5Controller`, by the id it was created with. -/
structure PS5Controller where
  controllerId : BitVec 32
  deriving DecidableEq, Repr

/-- The state of a `PS5InputManager`.  `last_update_time_` is left out: only `Update` writes
it, from the clock, and nothing reads it.  So are the three callbacks: what reaches
`input_event_callback_` is the result of `processControllerEvents`. -/
structure PS5InputManager where
  controllers : List (Option PS5Controller)
  buttonMapping : List SwitchButtonMapping
  initialized : Bool
  deriving DecidableEq, Repr

namespace PS5InputManager

/-- `PS5InputManager()`. -/
def new : PS5InputManager where
  controllers := []
  buttonMapping := []
  initialized := false

/-- The table `Initialize` installs: each of the fourteen DualSense buttons to the Switch
button with the same bit. -/
def defaultButtonMapping : List SwitchButtonMapping :=
  [⟨0x0001, 0x0001⟩, ⟨0x0002, 0x0002⟩, ⟨0x0004, 0x0004⟩, ⟨0x0008, 0x0008⟩, ⟨0x0010, 0x0010⟩,
    ⟨0x0020, 0x0020⟩, ⟨0x0040, 0x0040⟩, ⟨0x0080, 0x0080⟩, ⟨0x0100, 0x0100⟩, ⟨0x0200, 0x0200⟩,
    ⟨0x0400, 0x0400⟩, ⟨0x0800, 0x0800⟩, ⟨0x1000, 0x1000⟩, ⟨0x2000, 0x2000⟩]

/-- `SetSwitchButtonMapping`. -/
def setSwitchButtonMapping (m : PS5InputManager) (mapping : List SwitchButtonMapping) :
    PS5InputManager :=
  { m with buttonMapping := mapping }

/-- **`PS5InputManager::Initialize`**: `InitializePS5InputSystem` succeeds in both builds. -/
def Initialize (m : PS5InputManager) : Bool × PS5InputManager :=
  if m.initialized then (true, m) else
  (true, { m.setSwitchButtonMapping defaultButtonMapping with initialized := true })

/-- **`PS5InputManager::Shutdown`**: the controllers are cleared. -/
def shutdown (m : PS5InputManager) : PS5InputManager :=
  if !m.initialized then m else { m with controllers := [], initialized := false }

/-- `std::vector::resize`: truncate, or pad with null slots. -/
def resize (slots : List (Option PS5Controller)) (n : ℕ) : List (Option PS5Controller) :=
  slots.take n ++ List.replicate (n - slots.length) none

/-- `OnControllerConnected`: the vector grows to `controller_id + 1` slots, a `uint32_t` sum,
before the new controller's `Initialize`, whose result is `initOk`; the slot is written only
when it succeeds.  At `controller_id = 0xFFFFFFFF` the size wraps to `0`, and the write
`controllers_[controller_id]` then falls outside the vector, which is undefined behaviour:
`none`. -/
def onControllerConnected (m : PS5InputManager) (controllerId : BitVec 32) (initOk : Bool) :
    Option PS5InputManager :=
  let m := if m.controllers.length ≤ controllerId.toNat then
    { m with controllers := resize m.controllers (controllerId + 1).toNat } else m
  if !initOk then some m else
  if controllerId.toNat < m.controllers.length then
    some { m with controllers := m.controllers.set controllerId.toNat (some ⟨controllerId⟩) }
  else none

/-- Connecting controller `0` writes inside the vector, which has a slot `0` after the
resize. -/
theorem isSome_onControllerConnected_zero (m : PS5InputManager) (initOk : Bool) :
    (m.onControllerConnected 0 initOk).isSome := by
  unfold onControllerConnected
  split_ifs <;> simp_all [resize, List.length_pos]

/-- **Connecting controller `0xFFFFFFFF` writes outside the vector**: the `uint32_t` size
`controller_id + 1` wraps to `0`, the resize empties any vector shorter than `2^32` slots, and
when the controller initializes, the write to its slot is out of bounds. -/
theorem onControllerConnected_max_writes_out_of_bounds (m : PS5InputManager)
    (short : m.controllers.length ≤ 0xFFFFFFFF) :
    m.onControllerConnected 0xFFFFFFFF true = none := by
  simp [onControllerConnected, short, resize]

/-- `OnControllerDisconnected`. -/
def onControllerDisconnected (m : PS5InputManager) (controllerId : BitVec 32) :
    PS5InputManager :=
  if h : controllerId.toNat < m.controllers.length then
    if m.controllers[controllerId.toNat].isSome then
      { m with controllers := m.controllers.set controllerId.toNat none }
    else m
  else m

/-- `PollControllers`.  The console build's body is a comment; in development one
controller, id `0`, is connected when there is no slot. -/
def pollControllers (build : Build) (m : PS5InputManager) (initOk : Bool) : PS5InputManager :=
  match build with
  | .ps5 => m
  | .development => if m.controllers.isEmpty then
      (m.onControllerConnected 0 initOk).get (isSome_onControllerConnected_zero m initOk) else m

/-- `MapPS5ToSwitchInput`: a button event takes the Switch button of the first entry of the
table for its DualSense button; everything else is copied. -/
def mapPS5ToSwitchInput (m : PS5InputManager) (ps5Event : InputEvent) : InputEvent :=
  if ps5Event.type = .buttonPress ∨ ps5Event.type = .buttonRelease then
    match m.buttonMapping.find? fun mapping => mapping.ps5Button == ps5Event.buttonId with
    | some mapping => { ps5Event with buttonId := mapping.switchButton }
    | none => ps5Event
  else ps5Event

/-- `ProcessControllerEvents`: the events handed to `input_event_callback_`, when one is
set.  Each connected controller's events, in slot order, are mapped. -/
def processControllerEvents (m : PS5InputManager) (isConnected : PS5Controller → Bool)
    (events : PS5Controller → List InputEvent) : List InputEvent :=
  m.controllers.flatMap fun slot =>
    match slot with
    | some controller =>
      if isConnected controller then (events controller).map m.mapPS5ToSwitchInput else []
    | none => []

/-- **`PS5InputManager::Update`**: poll the controllers, then hand their events on. -/
def update (build : Build) (m : PS5InputManager) (initOk : Bool)
    (isConnected : PS5Controller → Bool) (events : PS5Controller → List InputEvent) :
    List InputEvent × PS5InputManager :=
  if !m.initialized then ([], m) else
  let m := m.pollControllers build initOk
  (m.processControllerEvents isConnected events, m)

/-- `GetConnectedControllers`. -/
def getConnectedControllers (m : PS5InputManager) (isConnected : PS5Controller → Bool) :
    List PS5Controller :=
  m.controllers.filterMap fun slot => slot.filter isConnected

/-- `GetController`: the slot's controller, `nullptr` past the end. -/
def getController (m : PS5InputManager) (controllerId : BitVec 32) : Option PS5Controller :=
  if h : controllerId.toNat < m.controllers.length then m.controllers[controllerId.toNat]
  else none

/-- `GetControllerCount`: a `uint32_t` count of the connected controllers. -/
def getControllerCount (m : PS5InputManager) (isConnected : PS5Controller → Bool) :
    BitVec 32 :=
  m.controllers.foldl (fun count slot => if slot.any isConnected then count + 1 else count) 0

end PS5InputManager

/-- The public operations of `PS5InputManager` that write its state, with the results of
the controller calls as arguments.  The callback setters, the getters and the haptic, LED
and motion calls, which forward to a `PS5Controller`, write nothing. -/
inductive InputOp
  | Initialize
  | shutdown
  | update (initOk : Bool) (isConnected : PS5Controller → Bool)
      (events : PS5Controller → List InputEvent)
  | setSwitchButtonMapping (mapping : List SwitchButtonMapping)

namespace PS5InputManager

section Runs

variable (build : Build)

/-- One public operation. -/
def step (m : PS5InputManager) : InputOp → PS5InputManager
  | .Initialize => m.Initialize.2
  | .shutdown => m.shutdown
  | .update initOk isConnected events => (m.update build initOk isConnected events).2
  | .setSwitchButtonMapping mapping => m.setSwitchButtonMapping mapping

/-- The manager states reachable from the constructor. -/
inductive Reachable : PS5InputManager → Prop
  | new : Reachable new
  | step {m : PS5InputManager} (op : InputOp) : Reachable m → Reachable (m.step build op)

end Runs

/-! ### What each operation does to the slots -/

@[simp] theorem setSwitchButtonMapping_controllers (m : PS5InputManager)
    (mapping : List SwitchButtonMapping) :
    (m.setSwitchButtonMapping mapping).controllers = m.controllers := rfl

@[simp] theorem Initialize_controllers (m : PS5InputManager) :
    m.Initialize.2.controllers = m.controllers := by
  unfold Initialize
  split <;> rfl

theorem shutdown_controllers (m : PS5InputManager) :
    m.shutdown.controllers = if m.initialized then [] else m.controllers := by
  by_cases h : m.initialized <;> simp [shutdown, h]

@[simp] theorem pollControllers_ps5 (m : PS5InputManager) (initOk : Bool) :
    m.pollControllers .ps5 initOk = m := rfl

theorem update_snd (build : Build) (m : PS5InputManager) (initOk : Bool)
    (isConnected : PS5Controller → Bool) (events : PS5Controller → List InputEvent) :
    (m.update build initOk isConnected events).2 =
      if m.initialized then m.pollControllers build initOk else m := by
  by_cases h : m.initialized <;> simp [update, h]

theorem getController_eq_some {m : PS5InputManager} {controllerId : BitVec 32}
    {controller : PS5Controller} :
    m.getController controllerId = some controller ↔
      m.controllers[controllerId.toNat]? = some (some controller) := by
  unfold getController
  split <;> simp_all [List.getElem?_eq_none]

theorem buttonMapping_of_onControllerConnected {m m' : PS5InputManager}
    {controllerId : BitVec 32} {initOk : Bool}
    (connected : m.onControllerConnected controllerId initOk = some m') :
    m'.buttonMapping = m.buttonMapping := by
  unfold onControllerConnected at connected
  dsimp only at connected
  split_ifs at connected <;> cases connected <;> rfl

@[simp] theorem pollControllers_buttonMapping (build : Build) (m : PS5InputManager)
    (initOk : Bool) : (m.pollControllers build initOk).buttonMapping = m.buttonMapping := by
  cases build
  · rfl
  · unfold pollControllers
    split_ifs
    · exact buttonMapping_of_onControllerConnected (Option.some_get _).symm
    · rfl

/-! ### Every controller in the slot of its own id -/

/-- Every controller held in the slots sits at the index of its own id. -/
def SlotsIndexed (slots : List (Option PS5Controller)) : Prop :=
  ∀ (i : ℕ) (controller : PS5Controller), slots[i]? = some (some controller) →
    controller.controllerId.toNat = i

theorem slotsIndexed_nil : SlotsIndexed [] := by
  intro i controller held
  simp at held

theorem SlotsIndexed.resize {slots : List (Option PS5Controller)} (h : SlotsIndexed slots)
    (n : ℕ) : SlotsIndexed (resize slots n) := by
  intro i controller held
  rw [PS5InputManager.resize, List.getElem?_append, List.getElem?_take] at held
  split_ifs at held
  · exact h i controller held
  · simp [List.getElem?_replicate] at held

theorem SlotsIndexed.set_none {slots : List (Option PS5Controller)} (h : SlotsIndexed slots)
    (i : ℕ) : SlotsIndexed (slots.set i none) := by
  intro j controller held
  rw [List.getElem?_set] at held
  split_ifs at held
  · cases held
  · exact h j controller held

theorem SlotsIndexed.set_own {slots : List (Option PS5Controller)} (h : SlotsIndexed slots)
    (controllerId : BitVec 32) :
    SlotsIndexed (slots.set controllerId.toNat (some ⟨controllerId⟩)) := by
  intro j controller held
  rw [List.getElem?_set] at held
  split_ifs at held with same
  · cases held
    exact same
  · exact h j controller held

theorem SlotsIndexed.onControllerConnected {m m' : PS5InputManager}
    (h : SlotsIndexed m.controllers) {controllerId : BitVec 32} {initOk : Bool}
    (connected : m.onControllerConnected controllerId initOk = some m') :
    SlotsIndexed m'.controllers := by
  unfold PS5InputManager.onControllerConnected at connected
  dsimp only at connected
  split_ifs at connected <;> cases connected
  · exact h.resize _
  · exact h
  · exact (h.resize _).set_own controllerId
  · exact h.set_own controllerId

theorem SlotsIndexed.onControllerDisconnected {m : PS5InputManager}
    (h : SlotsIndexed m.controllers) (controllerId : BitVec 32) :
    SlotsIndexed (m.onControllerDisconnected controllerId).controllers := by
  unfold PS5InputManager.onControllerDisconnected
  split_ifs
  · exact h.set_none _
  all_goals exact h

theorem SlotsIndexed.pollControllers {m : PS5InputManager} (h : SlotsIndexed m.controllers)
    (build : Build) (initOk : Bool) :
    SlotsIndexed (m.pollControllers build initOk).controllers := by
  cases build
  · exact h
  · unfold PS5InputManager.pollControllers
    split_ifs
    · exact h.onControllerConnected (Option.some_get _).symm
    · exact h

theorem slotsIndexed_step (build : Build) {m : PS5InputManager} (h : SlotsIndexed m.controllers)
    (op : InputOp) : SlotsIndexed (m.step build op).controllers := by
  cases op with
  | Initialize => simpa [step] using h
  | shutdown =>
    rw [step, shutdown_controllers]
    split_ifs
    · exact slotsIndexed_nil
    · exact h
  | update initOk isConnected events =>
    rw [step, update_snd]
    split_ifs
    · exact h.pollControllers build initOk
    · exact h
  | setSwitchButtonMapping mapping => exact h

theorem Reachable.slotsIndexed {build : Build} {m : PS5InputManager} (reach : Reachable build m) :
    SlotsIndexed m.controllers := by
  induction reach with
  | new => exact slotsIndexed_nil
  | step op _ ih => exact slotsIndexed_step build ih op

/-- On every run, `GetController` returns only a controller created with the id asked for. -/
theorem Reachable.getController_controllerId {build : Build} {m : PS5InputManager}
    (reach : Reachable build m) {controllerId : BitVec 32} {controller : PS5Controller}
    (held : m.getController controllerId = some controller) :
    controller.controllerId = controllerId :=
  BitVec.eq_of_toNat_eq (reach.slotsIndexed _ _ (getController_eq_some.mp held))

theorem getController_zero_after_update :
    ((new.step .development .Initialize).step .development
        (.update true (fun _ => true) (fun _ => []))).getController 0 = some ⟨0⟩ ∧
      (⟨0⟩ : PS5Controller).controllerId = 0 :=
  ⟨by decide, Reachable.getController_controllerId
    (((Reachable.new : Reachable .development new).step .Initialize).step
      (.update true (fun _ => true) (fun _ => []))) (by decide)⟩

/-! ### The console build -/

theorem controllers_step_ps5 {m : PS5InputManager} (empty : m.controllers = []) (op : InputOp) :
    (m.step .ps5 op).controllers = [] := by
  cases op with
  | Initialize => simpa [step] using empty
  | shutdown =>
    rw [step, shutdown_controllers]
    split_ifs
    · rfl
    · exact empty
  | update initOk isConnected events =>
    rw [step, update_snd]
    split_ifs <;> exact empty
  | setSwitchButtonMapping mapping => exact empty

theorem Reachable.controllers_eq_nil_of_ps5 {m : PS5InputManager} (reach : Reachable .ps5 m) :
    m.controllers = [] := by
  induction reach with
  | new => rfl
  | step op _ ih => exact controllers_step_ps5 ih op

/-- In the console build no controller is ever connected: on every run `Update` hands no
event on, and `GetControllerCount` and `GetConnectedControllers` report none. -/
theorem Reachable.reports_no_controller_on_ps5 {m : PS5InputManager} (reach : Reachable .ps5 m)
    (initOk : Bool) (isConnected : PS5Controller → Bool)
    (events : PS5Controller → List InputEvent) :
    (m.update .ps5 initOk isConnected events).1 = [] ∧ m.getControllerCount isConnected = 0 ∧
      m.getConnectedControllers isConnected = [] := by
  have empty := reach.controllers_eq_nil_of_ps5
  refine ⟨?_, ?_, ?_⟩
  · by_cases h : m.initialized <;> simp [update, processControllerEvents, empty, h]
  · simp [getControllerCount, empty]
  · simp [getConnectedControllers, empty]

theorem reports_no_controller_after_initialize_and_update :
    (new.step .ps5 .Initialize).initialized = true ∧
      ((new.step .ps5 .Initialize).update .ps5 true (fun _ => true)
          (fun _ => [⟨.buttonPress, 0, 1, 1.0, 0.0, 0.0, 0⟩])).1 = [] ∧
        (new.step .ps5 .Initialize).getControllerCount (fun _ => true) = 0 ∧
          (new.step .ps5 .Initialize).getConnectedControllers (fun _ => true) = [] :=
  ⟨rfl, Reachable.reports_no_controller_on_ps5
    ((Reachable.new : Reachable .ps5 new).step .Initialize) true (fun _ => true)
    (fun _ => [⟨.buttonPress, 0, 1, 1.0, 0.0, 0.0, 0⟩])⟩

/-! ### The development build -/

theorem step_keeps_failed_slot {m : PS5InputManager} (failed : m.controllers = [none])
    (op : InputOp) (notShutdown : op ≠ .shutdown) :
    (m.step .development op).controllers = [none] := by
  cases op with
  | Initialize => simpa [step] using failed
  | shutdown => exact absurd rfl notShutdown
  | update initOk isConnected events =>
    rw [step, update_snd]
    split_ifs
    · simp [pollControllers, failed]
    · exact failed
  | setSwitchButtonMapping mapping => exact failed

/-- In development, once controller `0` has failed to initialize, its null slot stays: no
run without `Shutdown` connects a controller again. -/
theorem failed_controller_never_retried {m : PS5InputManager} (failed : m.controllers = [none])
    (ops : List InputOp) (noShutdown : ∀ op ∈ ops, op ≠ .shutdown) :
    (ops.foldl (step .development) m).controllers = [none] := by
  induction ops generalizing m with
  | nil => exact failed
  | cons op ops ih =>
    exact ih (step_keeps_failed_slot failed op (noShutdown op (List.mem_cons_self _ _)))
      fun later mem => noShutdown later (List.mem_cons_of_mem _ mem)

theorem failed_controller_never_retried_after_failed_update :
    ((new.step .development .Initialize).step .development
        (.update false (fun _ => true) (fun _ => []))).controllers = [none] ∧
      (∀ op ∈ [InputOp.update true (fun _ => true) (fun _ => [])], op ≠ .shutdown) ∧
        ([InputOp.update true (fun _ => true) (fun _ => [])].foldl (step .development)
          ((new.step .development .Initialize).step .development
            (.update false (fun _ => true) (fun _ => [])))).controllers = [none] :=
  ⟨by decide, by simp, failed_controller_never_retried (by decide) _ (by simp)⟩

/-! ### Counting controllers -/

theorem foldl_count_toNat (isConnected : PS5Controller → Bool)
    (slots : List (Option PS5Controller)) (count : BitVec 32) :
    (slots.foldl (fun count slot => if slot.any isConnected then count + 1 else count)
        count).toNat =
      (count.toNat + (slots.filterMap fun slot => slot.filter isConnected).length) % 2 ^ 32 := by
  induction slots generalizing count with
  | nil => exact (Nat.mod_eq_of_lt count.isLt).symm
  | cons slot slots ih =>
    rcases slot with _ | controller
    · rw [List.foldl_cons, Option.any_none, if_neg Bool.false_ne_true, ih,
        List.filterMap_cons_none rfl]
    · by_cases connected : isConnected controller
      · have one : (1 : BitVec 32).toNat = 1 := rfl
        rw [List.foldl_cons, Option.any_some, if_pos connected, ih, BitVec.toNat_add,
          Nat.mod_add_mod, List.filterMap_cons_some
            (show (some controller).filter isConnected = some controller by
              simp [Option.filter_some, connected]),
          List.length_cons, one, Nat.add_assoc, Nat.add_comm 1]
      · rw [List.foldl_cons, Option.any_some, if_neg connected, ih,
          List.filterMap_cons_none (by simp [Option.filter_some, connected])]

/-- `GetControllerCount` is the number of controllers `GetConnectedControllers` lists, modulo
`2^32`. -/
theorem getControllerCount_toNat (m : PS5InputManager) (isConnected : PS5Controller → Bool) :
    (m.getControllerCount isConnected).toNat =
      (m.getConnectedControllers isConnected).length % 2 ^ 32 := by
  simpa using foldl_count_toNat isConnected m.controllers 0

/-! ### The button table -/

/-- A table that maps each of its DualSense buttons to the Switch button with the same bit. -/
def IdentityMapping (mapping : List SwitchButtonMapping) : Prop :=
  ∀ entry ∈ mapping, entry.switchButton = entry.ps5Button

instance (mapping : List SwitchButtonMapping) : Decidable (IdentityMapping mapping) :=
  inferInstanceAs (Decidable (∀ entry ∈ mapping, entry.switchButton = entry.ps5Button))

/-- The table `Initialize` installs maps each button to itself, whatever its comments name. -/
theorem identityMapping_defaultButtonMapping : IdentityMapping defaultButtonMapping := by
  decide

theorem mapPS5ToSwitchInput_of_identityMapping {m : PS5InputManager}
    (h : IdentityMapping m.buttonMapping) (e : InputEvent) : m.mapPS5ToSwitchInput e = e := by
  unfold mapPS5ToSwitchInput
  split_ifs
  · split
    · next mapping found =>
      have matched : mapping.ps5Button = e.buttonId := by simpa using List.find?_some found
      rw [h mapping (List.mem_of_find?_eq_some found), matched]
    · rfl
  · rfl

theorem processControllerEvents_of_identityMapping {m : PS5InputManager}
    (h : IdentityMapping m.buttonMapping) (isConnected : PS5Controller → Bool)
    (events : PS5Controller → List InputEvent) :
    m.processControllerEvents isConnected events =
      (m.getConnectedControllers isConnected).flatMap events := by
  have unchanged := List.map_id'' (mapPS5ToSwitchInput_of_identityMapping h)
  unfold processControllerEvents getConnectedControllers
  simp only [unchanged]
  induction m.controllers with
  | nil => rfl
  | cons slot slots ih =>
    rcases slot with _ | controller
    · simpa using ih
    · by_cases connected : isConnected controller <;> simp [connected, ih, Option.filter_some]

/-- While the table maps each button to itself, as the one `Initialize` installs does,
`Update` hands on exactly the events of the controllers that `GetConnectedControllers` lists
after polling, unchanged and in slot order. -/
theorem update_passes_events_unchanged (build : Build) {m : PS5InputManager}
    (identity : IdentityMapping m.buttonMapping) (init : m.initialized = true) (initOk : Bool)
    (isConnected : PS5Controller → Bool) (events : PS5Controller → List InputEvent) :
    (m.update build initOk isConnected events).1 =
      ((m.pollControllers build initOk).getConnectedControllers isConnected).flatMap events := by
  simp only [update, init, Bool.not_true, Bool.false_eq_true, if_false]
  exact processControllerEvents_of_identityMapping (by simpa using identity) isConnected events

theorem update_passes_events_unchanged_after_initialize :
    IdentityMapping new.Initialize.2.buttonMapping ∧ new.Initialize.2.initialized = true ∧
      (new.Initialize.2.update .development true (fun _ => true)
          (fun _ => [⟨.buttonPress, 0, 2, 1.0, 0.0, 0.0, 0⟩])).1 =
        ((new.Initialize.2.pollControllers .development true).getConnectedControllers
          (fun _ => true)).flatMap (fun _ => [⟨.buttonPress, 0, 2, 1.0, 0.0, 0.0, 0⟩]) :=
  ⟨by decide, rfl, update_passes_events_unchanged .development (by decide) rfl true
    (fun _ => true) (fun _ => [⟨.buttonPress, 0, 2, 1.0, 0.0, 0.0, 0⟩])⟩

end PS5InputManager

end EdenPS5.PS5Input
