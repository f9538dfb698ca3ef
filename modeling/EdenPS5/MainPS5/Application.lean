import Mathlib.Tactic.SplitIfs

/-!
# The application lifecycle

`PS5Application` (`main_ps5/ps5_application.cpp`) owns the renderer, the audio and input
managers, the frontend and the emulator core, `EdenCoreIntegration`, and drives the core
through four flags: `initialized_`, `game_loaded_`, `emulation_running_` and
`emulation_paused_`.  The core, the frontend and the managers are classes whose sources are
not part of the port here: the application is modelled with whether it holds each, and the
results of their `Initialize`, `LoadGame` and `StartEmulation` calls are arguments of the
operations.

## Main definitions

* `PS5Application`, with `coreCalls`, the history of the calls made into `eden_core_`: each
  call is recorded with `game_loaded_` and `emulation_running_` as they were when it was
  made.  The guarded calls are invariants of this history.
* `coresMade` and `coreLog`, the identity of the cores: `InitializeSubsystems` makes a new
  `EdenCoreIntegration` each time it runs, and each call is recorded with the core that
  received it.
* `processCommandLine` — the argument parser, with its `--help` exit.
* One definition per member function, `AppOp`, `step` and `Reachable`.
* `LifecycleInvariant` — the flags imply each other (`paused ⇒ running ⇒ loaded ⇒ core`),
  the core is only updated or rendered with a game loaded, and only started or unloaded
  with emulation stopped.

## Design notes

`UnloadGame` and `Shutdown` stop emulation before they touch the game; `LoadGame` does not,
so a second `LoadGame` while a game runs calls the core's `LoadGame` under a running
emulation (`loadGame_calls_core_while_running`).

`Initialize` returns early only when `initialized_` is set, and a failed `Initialize` leaves it
clear with the subsystems it made, the core included.  `LoadGame` and `StartEmulation` check
only the core, so a game can be loaded and started on that core; a retried `Initialize` then
replaces it with a new core that has loaded nothing, under the old `game_loaded_` and
`emulation_running_` (`retried_initialize_keeps_stale_flags`).
-/

namespace EdenPS5

/-- A call the application makes into `EdenCoreIntegration`. -/
inductive CoreCall
  | Initialize
  | loadGame (gamePath : String)
  | unloadGame
  | startEmulation
  | stopEmulation
  | update
  | render
  | saveState (slotName : String)
  | loadState (slotName : String)
  | shutdown
  deriving DecidableEq, Repr

/-- A call into the core, with the application's flags when it was made. -/
structure CoreEvent where
  call : CoreCall
  gameLoaded : Bool
  emulationRunning : Bool
  deriving DecidableEq, Repr

/-- A call that the core may only receive in a given state: a frame (`Update`, `Render`)
needs a game loaded, and `StartEmulation` and `UnloadGame` need emulation stopped. -/
def CoreEvent.Guarded (e : CoreEvent) : Prop :=
  (e.call = .update ∨ e.call = .render → e.gameLoaded = true) ∧
    (e.call = .startEmulation ∨ e.call = .unloadGame → e.emulationRunning = false)

/-- A call that is neither a frame nor a start or an unload is always allowed. -/
theorem CoreEvent.guarded_of_other {e : CoreEvent}
    (other : e.call ≠ .update ∧ e.call ≠ .render ∧ e.call ≠ .startEmulation ∧
      e.call ≠ .unloadGame) : e.Guarded := by
  obtain ⟨update, render, start, unload⟩ := other
  exact ⟨fun frame => by simp_all, fun taking => by simp_all⟩

/-- The state of a `PS5Application`.  `renderer` to `edenCore` say whether the corresponding
`unique_ptr` is set.  `current_fps_` and `emulation_speed_` are left out: only the main
loop's clock writes the first, and nothing writes the second. -/
structure PS5Application where
  renderer : Bool
  audioManager : Bool
  inputManager : Bool
  frontend : Bool
  edenCore : Bool
  shutdownRequested : Bool
  initialized : Bool
  gameLoaded : Bool
  emulationRunning : Bool
  emulationPaused : Bool
  configPath : String
  gamePath : String
  coreCalls : List CoreEvent
  /-- The number of `EdenCoreIntegration` objects made so far; the current core is the
  last one. -/
  coresMade : Nat
  /-- Each call into a core, with the number of the core that received it. -/
  coreLog : List (Nat × CoreCall)
  deriving DecidableEq, Repr

/-- The results of the subsystems' `Initialize` calls in `InitializeSubsystems`. -/
structure SubsystemResults where
  renderer : Bool
  audioManager : Bool
  inputManager : Bool
  frontend : Bool
  edenCore : Bool
  deriving DecidableEq, Repr

namespace PS5Application

/-- `PS5Application()`: the default configuration directory, nothing else set. -/
def new : PS5Application where
  renderer := false
  audioManager := false
  inputManager := false
  frontend := false
  edenCore := false
  shutdownRequested := false
  initialized := false
  gameLoaded := false
  emulationRunning := false
  emulationPaused := false
  configPath := "/data/eden/config"
  gamePath := ""
  coreCalls := []
  coresMade := 0
  coreLog := []

/-- `eden_core_->call`, recorded with the flags at the moment of the call. -/
def callCore (a : PS5Application) (call : CoreCall) : PS5Application :=
  { a with
    coreCalls := a.coreCalls ++ [⟨call, a.gameLoaded, a.emulationRunning⟩]
    coreLog := a.coreLog ++ [(a.coresMade, call)] }

/-- The calls the core numbered `core` has received, in order. -/
def callsTo (a : PS5Application) (core : Nat) : List CoreCall :=
  (a.coreLog.filter fun e => e.1 == core).map Prod.snd

/-- `if (eden_core_) eden_core_->call()`. -/
def callCoreIfSet (a : PS5Application) (call : CoreCall) : PS5Application :=
  if a.edenCore then a.callCore call else a

/-- `ProcessCommandLine`, over the arguments after `argv[0]`: `--game` and `--config` take
the next argument when there is one, `--help` and `-h` stop with `false`, anything else is
skipped. -/
def processCommandLine (a : PS5Application) : List String → Bool × PS5Application
  | [] => (true, a)
  | "--game" :: gamePath :: rest => processCommandLine { a with gamePath := gamePath } rest
  | "--config" :: configPath :: rest => processCommandLine { a with configPath := configPath } rest
  | "--help" :: _ => (false, a)
  | "-h" :: _ => (false, a)
  | _ :: rest => processCommandLine a rest

/-- `StopEmulation`. -/
def stopEmulation (a : PS5Application) : PS5Application :=
  if !a.emulationRunning then a else
  let a := a.callCoreIfSet .stopEmulation
  { a with emulationRunning := false, emulationPaused := false }

/-- `LoadGame`: with a core, whatever runs, the core loads `gamePath`; `loadOk` is its
result. -/
def loadGame (a : PS5Application) (gamePath : String) (loadOk : Bool) : Bool × PS5Application :=
  if !a.edenCore then (false, a) else
  let a := a.callCore (.loadGame gamePath)
  if loadOk then (true, { a with gameLoaded := true, gamePath := gamePath }) else (false, a)

/-- `UnloadGame`: emulation is stopped first. -/
def unloadGame (a : PS5Application) : PS5Application :=
  if !a.gameLoaded then a else
  let a := if a.emulationRunning then a.stopEmulation else a
  let a := a.callCoreIfSet .unloadGame
  { a with gameLoaded := false, gamePath := "" }

/-- `StartEmulation`: only with a game loaded and nothing running; `startOk` is the core's
result. -/
def startEmulation (a : PS5Application) (startOk : Bool) : PS5Application :=
  if !a.gameLoaded || a.emulationRunning then a else
  if !a.edenCore then a else
  let a := a.callCore .startEmulation
  if startOk then { a with emulationRunning := true, emulationPaused := false } else a

/-- `PauseEmulation`. -/
def pauseEmulation (a : PS5Application) : PS5Application :=
  if !a.emulationRunning || a.emulationPaused then a else { a with emulationPaused := true }

/-- `ResumeEmulation`. -/
def resumeEmulation (a : PS5Application) : PS5Application :=
  if !a.emulationRunning || !a.emulationPaused then a else { a with emulationPaused := false }

/-- `SaveState`. -/
def saveState (a : PS5Application) (slotName : String) : PS5Application :=
  if !a.emulationRunning then a else a.callCoreIfSet (.saveState slotName)

/-- `LoadState`. -/
def loadState (a : PS5Application) (slotName : String) : PS5Application :=
  if !a.gameLoaded then a else a.callCoreIfSet (.loadState slotName)

/-- `RequestShutdown`. -/
def requestShutdown (a : PS5Application) : PS5Application :=
  { a with shutdownRequested := true }

/-- `InitializeSubsystems`: renderer, audio manager, input manager, frontend, then a new
core, each created before its `Initialize`, stopping at the first failure. -/
def initializeSubsystems (a : PS5Application) (results : SubsystemResults) :
    Bool × PS5Application :=
  let a := { a with renderer := true }
  if !results.renderer then (false, a) else
  let a := { a with audioManager := true }
  if !results.audioManager then (false, a) else
  let a := { a with inputManager := true }
  if !results.inputManager then (false, a) else
  let a := { a with frontend := true }
  if !results.frontend then (false, a) else
  let a := { a with edenCore := true, coresMade := a.coresMade + 1 }.callCore .Initialize
  if !results.edenCore then (false, a) else (true, a)

/-- `ShutdownSubsystems`: the core is shut down and released, then the others. -/
def shutdownSubsystems (a : PS5Application) : PS5Application :=
  let a := if a.edenCore then { a.callCore .shutdown with edenCore := false } else a
  { a with frontend := false, inputManager := false, audioManager := false, renderer := false }

/-- **`PS5Application::Initialize`**: the command line (after `argv[0]`), then the
subsystems. -/
def Initialize (a : PS5Application) (argv : List String) (results : SubsystemResults) :
    Bool × PS5Application :=
  if a.initialized then (true, a) else
  let parsed := a.processCommandLine argv.tail
  if !parsed.1 then (false, parsed.2) else
  let ready := parsed.2.initializeSubsystems results
  if !ready.1 then (false, ready.2) else (true, { ready.2 with initialized := true })

/-- **`PS5Application::Shutdown`**: stop emulation, unload the game, release the
subsystems. -/
def shutdown (a : PS5Application) : PS5Application :=
  if !a.initialized then a else
  let a := if a.emulationRunning then a.stopEmulation else a
  let a := if a.gameLoaded then a.unloadGame else a
  { a.shutdownSubsystems with initialized := false }

/-- `Run` up to its main loop: with a game path, load it and start emulation.  It returns
`-1` when not initialized; the loop's iterations are `mainLoopFrame`. -/
def run (a : PS5Application) (loadOk startOk : Bool) : Int × PS5Application :=
  if !a.initialized then (-1, a) else
  if a.gamePath = "" then (0, a) else
  let loaded := a.loadGame a.gamePath loadOk
  if loaded.1 then (0, loaded.2.startEmulation startOk) else (0, loaded.2)

/-- One iteration of `MainLoop`, unless shutdown was requested: the core is updated when
emulation runs unpaused, and rendered between the renderer's `BeginFrame` and `EndFrame`
when emulation runs. -/
def mainLoopFrame (a : PS5Application) : PS5Application :=
  if a.shutdownRequested then a else
  let a := if a.edenCore && a.emulationRunning && !a.emulationPaused then a.callCore .update
    else a
  if a.renderer && a.edenCore && a.emulationRunning then a.callCore .render else a

end PS5Application

/-- The public operations of `PS5Application`, with the results of the calls into the
subsystems as arguments. -/
inductive AppOp
  | Initialize (argv : List String) (results : SubsystemResults)
  | run (loadOk startOk : Bool)
  | mainLoopFrame
  | loadGame (gamePath : String) (loadOk : Bool)
  | unloadGame
  | startEmulation (startOk : Bool)
  | pauseEmulation
  | resumeEmulation
  | stopEmulation
  | saveState (slotName : String)
  | loadState (slotName : String)
  | requestShutdown
  | shutdown
  deriving DecidableEq, Repr

namespace PS5Application

/-- One public operation. -/
def step (a : PS5Application) : AppOp → PS5Application
  | .Initialize argv results => (a.Initialize argv results).2
  | .run loadOk startOk => (a.run loadOk startOk).2
  | .mainLoopFrame => a.mainLoopFrame
  | .loadGame gamePath loadOk => (a.loadGame gamePath loadOk).2
  | .unloadGame => a.unloadGame
  | .startEmulation startOk => a.startEmulation startOk
  | .pauseEmulation => a.pauseEmulation
  | .resumeEmulation => a.resumeEmulation
  | .stopEmulation => a.stopEmulation
  | .saveState slotName => a.saveState slotName
  | .loadState slotName => a.loadState slotName
  | .requestShutdown => a.requestShutdown
  | .shutdown => a.shutdown

/-- The application states reachable from the constructor. -/
inductive Reachable : PS5Application → Prop
  | new : Reachable new
  | step {a : PS5Application} (op : AppOp) : Reachable a → Reachable (a.step op)

/-! ### The lifecycle invariant -/

/-- The lifecycle flags imply each other: paused only while running, running only with a
game loaded, a game loaded only with a core. -/
def FlagsConsistent (a : PS5Application) : Prop :=
  (a.emulationPaused = true → a.emulationRunning = true) ∧
    (a.emulationRunning = true → a.gameLoaded = true) ∧
    (a.gameLoaded = true → a.edenCore = true)

/-- **The lifecycle invariant**: consistent flags, every call made so far guarded, and made
to a core already made. -/
structure LifecycleInvariant (a : PS5Application) : Prop where
  flags : FlagsConsistent a
  calls : ∀ e ∈ a.coreCalls, e.Guarded
  cores : ∀ e ∈ a.coreLog, e.1 ≤ a.coresMade

@[simp] theorem callCore_gameLoaded (a : PS5Application) (call : CoreCall) :
    (a.callCore call).gameLoaded = a.gameLoaded := rfl

@[simp] theorem callCore_emulationRunning (a : PS5Application) (call : CoreCall) :
    (a.callCore call).emulationRunning = a.emulationRunning := rfl

@[simp] theorem callCore_emulationPaused (a : PS5Application) (call : CoreCall) :
    (a.callCore call).emulationPaused = a.emulationPaused := rfl

@[simp] theorem callCore_edenCore (a : PS5Application) (call : CoreCall) :
    (a.callCore call).edenCore = a.edenCore := rfl

@[simp] theorem callCore_coresMade (a : PS5Application) (call : CoreCall) :
    (a.callCore call).coresMade = a.coresMade := rfl

/-- A call keeps the invariant when the state allows it. -/
theorem LifecycleInvariant.callCore {a : PS5Application} (inv : LifecycleInvariant a)
    (call : CoreCall) (guarded : CoreEvent.Guarded ⟨call, a.gameLoaded, a.emulationRunning⟩) :
    LifecycleInvariant (a.callCore call) := by
  refine ⟨inv.flags, fun e mem => ?_, fun e mem => ?_⟩
  all_goals simp only [PS5Application.callCore, List.mem_append, List.mem_singleton] at mem
  · rcases mem with old | rfl
    · exact inv.calls e old
    · exact guarded
  · rcases mem with old | rfl
    · exact inv.cores e old
    · exact Nat.le_refl _

/-- An update of the flags alone keeps the invariant when the new flags are consistent. -/
theorem LifecycleInvariant.of_flags {a a' : PS5Application} (inv : LifecycleInvariant a)
    (history : a'.coreCalls = a.coreCalls ∧ a'.coreLog = a.coreLog ∧ a'.coresMade = a.coresMade)
    (flags : FlagsConsistent a') : LifecycleInvariant a' := by
  obtain ⟨calls, log, made⟩ := history
  exact ⟨flags, calls ▸ inv.calls, log ▸ made ▸ inv.cores⟩

@[simp] theorem callCoreIfSet_gameLoaded (a : PS5Application) (call : CoreCall) :
    (a.callCoreIfSet call).gameLoaded = a.gameLoaded := by
  unfold callCoreIfSet; split <;> rfl

@[simp] theorem callCoreIfSet_emulationRunning (a : PS5Application) (call : CoreCall) :
    (a.callCoreIfSet call).emulationRunning = a.emulationRunning := by
  unfold callCoreIfSet; split <;> rfl

@[simp] theorem callCoreIfSet_edenCore (a : PS5Application) (call : CoreCall) :
    (a.callCoreIfSet call).edenCore = a.edenCore := by
  unfold callCoreIfSet; split <;> rfl

theorem LifecycleInvariant.callCoreIfSet {a : PS5Application} (inv : LifecycleInvariant a)
    (call : CoreCall) (guarded : CoreEvent.Guarded ⟨call, a.gameLoaded, a.emulationRunning⟩) :
    LifecycleInvariant (a.callCoreIfSet call) := by
  unfold PS5Application.callCoreIfSet
  split
  · exact inv.callCore call guarded
  · exact inv

/-! #### The flag updates the operations make -/

theorem LifecycleInvariant.stop {a : PS5Application} (inv : LifecycleInvariant a) :
    LifecycleInvariant { a with emulationRunning := false, emulationPaused := false } :=
  inv.of_flags ⟨rfl, rfl, rfl⟩ ⟨by simp, by simp, inv.flags.2.2⟩

theorem LifecycleInvariant.load {a : PS5Application} (inv : LifecycleInvariant a)
    (core : a.edenCore = true) (gamePath : String) :
    LifecycleInvariant { a with gameLoaded := true, gamePath := gamePath } :=
  inv.of_flags ⟨rfl, rfl, rfl⟩ ⟨inv.flags.1, fun _ => rfl, fun _ => core⟩

theorem LifecycleInvariant.unload {a : PS5Application} (inv : LifecycleInvariant a)
    (stopped : a.emulationRunning = false) :
    LifecycleInvariant { a with gameLoaded := false, gamePath := "" } :=
  inv.of_flags ⟨rfl, rfl, rfl⟩
    ⟨inv.flags.1, fun running => by simp_all, fun loaded => by simp at loaded⟩

theorem LifecycleInvariant.start {a : PS5Application} (inv : LifecycleInvariant a)
    (loaded : a.gameLoaded = true) :
    LifecycleInvariant { a with emulationRunning := true, emulationPaused := false } :=
  inv.of_flags ⟨rfl, rfl, rfl⟩ ⟨fun _ => rfl, fun _ => loaded, inv.flags.2.2⟩

theorem LifecycleInvariant.withInitialized {a : PS5Application} (inv : LifecycleInvariant a)
    {initialized : Bool} : LifecycleInvariant { a with initialized := initialized } :=
  inv.of_flags ⟨rfl, rfl, rfl⟩ inv.flags

/-! #### One lemma per member function -/

@[simp] theorem stopEmulation_emulationRunning (a : PS5Application) :
    a.stopEmulation.emulationRunning = false := by
  unfold stopEmulation
  split_ifs with notRunning
  · simpa using notRunning
  · rfl

@[simp] theorem stopEmulation_gameLoaded (a : PS5Application) :
    a.stopEmulation.gameLoaded = a.gameLoaded := by
  unfold stopEmulation
  split_ifs <;> simp

theorem LifecycleInvariant.stopEmulation {a : PS5Application} (inv : LifecycleInvariant a) :
    LifecycleInvariant a.stopEmulation := by
  unfold PS5Application.stopEmulation
  split_ifs
  · exact inv
  · exact (inv.callCoreIfSet _ (CoreEvent.guarded_of_other (by simp))).stop

theorem LifecycleInvariant.loadGame {a : PS5Application} (inv : LifecycleInvariant a)
    (gamePath : String) (loadOk : Bool) : LifecycleInvariant (a.loadGame gamePath loadOk).2 := by
  unfold PS5Application.loadGame
  split_ifs with noCore ok
  · exact inv
  · exact (inv.callCore _ (CoreEvent.guarded_of_other (by simp))).load (by simpa using noCore) gamePath
  · exact inv.callCore _ (CoreEvent.guarded_of_other (by simp))

@[simp] theorem unloadGame_gameLoaded (a : PS5Application) : a.unloadGame.gameLoaded = false := by
  unfold unloadGame
  split_ifs with notLoaded
  · simpa using notLoaded
  all_goals rfl

theorem LifecycleInvariant.unloadGame {a : PS5Application} (inv : LifecycleInvariant a) :
    LifecycleInvariant a.unloadGame := by
  unfold PS5Application.unloadGame
  split_ifs with notLoaded running
  · exact inv
  · exact (inv.stopEmulation.callCoreIfSet _ ⟨by simp, fun _ => by simp⟩).unload (by simp)
  · have stopped : a.emulationRunning = false := by simpa using running
    exact (inv.callCoreIfSet _ ⟨by simp, fun _ => stopped⟩).unload (by simpa using stopped)

theorem LifecycleInvariant.startEmulation {a : PS5Application} (inv : LifecycleInvariant a)
    (startOk : Bool) : LifecycleInvariant (a.startEmulation startOk) := by
  unfold PS5Application.startEmulation
  split_ifs with blocked noCore ok
  · exact inv
  · exact inv
  all_goals
    obtain ⟨loaded, stopped⟩ : a.gameLoaded = true ∧ a.emulationRunning = false := by
      simpa using blocked
    have called := inv.callCore .startEmulation ⟨by simp, fun _ => stopped⟩
  · exact called.start loaded
  · exact called

theorem LifecycleInvariant.pauseEmulation {a : PS5Application} (inv : LifecycleInvariant a) :
    LifecycleInvariant a.pauseEmulation := by
  unfold PS5Application.pauseEmulation
  split_ifs with blocked
  · exact inv
  · have running : a.emulationRunning = true := by simp_all
    exact inv.of_flags ⟨rfl, rfl, rfl⟩ ⟨fun _ => running, inv.flags.2.1, inv.flags.2.2⟩

theorem LifecycleInvariant.resumeEmulation {a : PS5Application} (inv : LifecycleInvariant a) :
    LifecycleInvariant a.resumeEmulation := by
  unfold PS5Application.resumeEmulation
  split_ifs
  · exact inv
  · exact inv.of_flags ⟨rfl, rfl, rfl⟩ ⟨by simp, inv.flags.2.1, inv.flags.2.2⟩

theorem LifecycleInvariant.saveState {a : PS5Application} (inv : LifecycleInvariant a)
    (slotName : String) : LifecycleInvariant (a.saveState slotName) := by
  unfold PS5Application.saveState
  split_ifs
  · exact inv
  · exact inv.callCoreIfSet _ (CoreEvent.guarded_of_other (by simp))

theorem LifecycleInvariant.loadState {a : PS5Application} (inv : LifecycleInvariant a)
    (slotName : String) : LifecycleInvariant (a.loadState slotName) := by
  unfold PS5Application.loadState
  split_ifs
  · exact inv
  · exact inv.callCoreIfSet _ (CoreEvent.guarded_of_other (by simp))

/-- **The main loop updates and renders the core only while a game runs.** -/
theorem LifecycleInvariant.mainLoopFrame {a : PS5Application} (inv : LifecycleInvariant a) :
    LifecycleInvariant a.mainLoopFrame := by
  unfold PS5Application.mainLoopFrame
  dsimp only
  split_ifs
  · exact inv
  · exact (inv.callCore .update ⟨fun _ => inv.flags.2.1 (by simp_all), by simp⟩).callCore .render
      ⟨fun _ => inv.flags.2.1 (by simp_all), by simp⟩
  · exact inv.callCore .update ⟨fun _ => inv.flags.2.1 (by simp_all), by simp⟩
  · exact inv.callCore .render ⟨fun _ => inv.flags.2.1 (by simp_all), by simp⟩
  · exact inv

/-- `ProcessCommandLine` writes only the two paths. -/
theorem processCommandLine_snd (a : PS5Application) (args : List String) :
    ∃ gamePath configPath,
      (a.processCommandLine args).2 = { a with gamePath := gamePath, configPath := configPath } := by
  induction a, args using processCommandLine.induct with
  | case1 a => exact ⟨a.gamePath, a.configPath, rfl⟩
  | case2 a gamePath rest ih =>
    obtain ⟨game, config, parsed⟩ := ih
    exact ⟨game, config, by rw [processCommandLine, parsed]⟩
  | case3 a configPath rest ih =>
    obtain ⟨game, config, parsed⟩ := ih
    exact ⟨game, config, by rw [processCommandLine, parsed]⟩
  | case4 a tail => exact ⟨a.gamePath, a.configPath, by rw [processCommandLine]⟩
  | case5 a tail => exact ⟨a.gamePath, a.configPath, by rw [processCommandLine]⟩
  | case6 a head rest notGame notConfig notHelp notH ih =>
    obtain ⟨game, config, parsed⟩ := ih
    exact ⟨game, config, by
      rw [processCommandLine.eq_6 a head rest notGame notConfig notHelp notH, parsed]⟩

theorem LifecycleInvariant.processCommandLine {a : PS5Application} (inv : LifecycleInvariant a)
    (args : List String) : LifecycleInvariant (a.processCommandLine args).2 := by
  obtain ⟨gamePath, configPath, parsed⟩ := a.processCommandLine_snd args
  rw [parsed]
  exact inv.of_flags ⟨rfl, rfl, rfl⟩ inv.flags

theorem LifecycleInvariant.initializeSubsystems {a : PS5Application} (inv : LifecycleInvariant a)
    (results : SubsystemResults) : LifecycleInvariant (a.initializeSubsystems results).2 := by
  have withCore : LifecycleInvariant { a with
      renderer := true
      audioManager := true
      inputManager := true
      frontend := true
      edenCore := true
      coresMade := a.coresMade + 1 } :=
    ⟨⟨inv.flags.1, inv.flags.2.1, fun _ => rfl⟩, inv.calls,
      fun e mem => Nat.le_succ_of_le (inv.cores e mem)⟩
  have created := withCore.callCore .Initialize (CoreEvent.guarded_of_other (by simp))
  unfold PS5Application.initializeSubsystems
  split_ifs <;> first | exact created | exact inv.of_flags ⟨rfl, rfl, rfl⟩ inv.flags

theorem LifecycleInvariant.shutdownSubsystems {a : PS5Application} (inv : LifecycleInvariant a)
    (notLoaded : a.gameLoaded = false) : LifecycleInvariant a.shutdownSubsystems := by
  unfold PS5Application.shutdownSubsystems
  split_ifs
  · have called := inv.callCore .shutdown (CoreEvent.guarded_of_other (by simp))
    exact called.of_flags ⟨rfl, rfl, rfl⟩ ⟨called.flags.1, called.flags.2.1, fun loaded => by simp_all⟩
  · exact inv.of_flags ⟨rfl, rfl, rfl⟩ inv.flags

theorem LifecycleInvariant.Initialize {a : PS5Application} (inv : LifecycleInvariant a)
    (argv : List String) (results : SubsystemResults) :
    LifecycleInvariant (a.Initialize argv results).2 := by
  have parsed := inv.processCommandLine argv.tail
  have ready := parsed.initializeSubsystems results
  unfold PS5Application.Initialize
  dsimp only
  split_ifs
  · exact inv
  · exact parsed
  · exact ready
  · exact ready.withInitialized

theorem LifecycleInvariant.shutdown {a : PS5Application} (inv : LifecycleInvariant a) :
    LifecycleInvariant a.shutdown := by
  unfold PS5Application.shutdown
  dsimp only
  split_ifs with notInit running loaded loaded
  · exact inv
  · exact (inv.stopEmulation.unloadGame.shutdownSubsystems (unloadGame_gameLoaded _)).withInitialized
  · exact (inv.stopEmulation.shutdownSubsystems (by simpa using loaded)).withInitialized
  · exact (inv.unloadGame.shutdownSubsystems (unloadGame_gameLoaded _)).withInitialized
  · exact (inv.shutdownSubsystems (by simpa using loaded)).withInitialized

theorem LifecycleInvariant.run {a : PS5Application} (inv : LifecycleInvariant a)
    (loadOk startOk : Bool) : LifecycleInvariant (a.run loadOk startOk).2 := by
  have loaded := inv.loadGame a.gamePath loadOk
  unfold PS5Application.run
  dsimp only
  split_ifs
  · exact inv
  · exact inv
  · exact loaded.startEmulation startOk
  · exact loaded

/-- **Every operation keeps the lifecycle invariant.** -/
theorem LifecycleInvariant.step {a : PS5Application} (inv : LifecycleInvariant a) (op : AppOp) :
    LifecycleInvariant (a.step op) := by
  cases op with
  | Initialize argv results => exact inv.Initialize argv results
  | run loadOk startOk => exact inv.run loadOk startOk
  | mainLoopFrame => exact inv.mainLoopFrame
  | loadGame gamePath loadOk => exact inv.loadGame gamePath loadOk
  | unloadGame => exact inv.unloadGame
  | startEmulation startOk => exact inv.startEmulation startOk
  | pauseEmulation => exact inv.pauseEmulation
  | resumeEmulation => exact inv.resumeEmulation
  | stopEmulation => exact inv.stopEmulation
  | saveState slotName => exact inv.saveState slotName
  | loadState slotName => exact inv.loadState slotName
  | requestShutdown => exact inv.of_flags ⟨rfl, rfl, rfl⟩ inv.flags
  | shutdown => exact inv.shutdown

/-- **Every reachable application satisfies the lifecycle invariant.** -/
theorem Reachable.lifecycleInvariant {a : PS5Application} (reach : Reachable a) :
    LifecycleInvariant a := by
  induction reach with
  | new => exact ⟨⟨nofun, nofun, nofun⟩, nofun, nofun⟩
  | step op _ inv => exact inv.step op

/-! ### The lifecycle on every run -/

/-- **On every run the lifecycle flags are consistent, and the core is updated and rendered
only with a game loaded**: paused only while running, running only with a game loaded, a
game loaded only with a core, and every `Update` or `Render` the core receives comes with
`game_loaded_` set. -/
theorem lifecycle_flags_consistent_and_frames_loaded {a : PS5Application} (reach : Reachable a) :
    (a.emulationPaused = true → a.emulationRunning = true) ∧
      (a.emulationRunning = true → a.gameLoaded = true) ∧
      (a.gameLoaded = true → a.edenCore = true) ∧
      ∀ e ∈ a.coreCalls, e.call = .update ∨ e.call = .render → e.gameLoaded = true :=
  let inv := reach.lifecycleInvariant
  ⟨inv.flags.1, inv.flags.2.1, inv.flags.2.2, fun e mem => (inv.calls e mem).1⟩

/-- Booting with a game on the command line, `Run` and one frame: emulation runs, and the
frame's calls come with the game loaded. -/
theorem lifecycle_flags_consistent_after_boot_frame :
    (((new.step (.Initialize ["eden", "--game", "game.nsp"] ⟨true, true, true, true, true⟩)).step
        (.run true true)).step .mainLoopFrame).emulationRunning = true ∧
      ∀ e ∈ (((new.step (.Initialize ["eden", "--game", "game.nsp"] ⟨true, true, true, true, true⟩)).step
          (.run true true)).step .mainLoopFrame).coreCalls,
        e.call = .update ∨ e.call = .render → e.gameLoaded = true :=
  ⟨by decide, (lifecycle_flags_consistent_and_frames_loaded (.step _ (.step _ (.step _ .new)))).2.2.2⟩

/-- Every `StartEmulation` and `UnloadGame` the core has received came with emulation
stopped. -/
def StartsAndUnloadsWhileStopped (a : PS5Application) : Prop :=
  ∀ e ∈ a.coreCalls, e.call = .startEmulation ∨ e.call = .unloadGame → e.emulationRunning = false

instance (a : PS5Application) : Decidable a.StartsAndUnloadsWhileStopped :=
  inferInstanceAs (Decidable (∀ e ∈ a.coreCalls, _))

/-- **The core is started and unloaded only with emulation stopped**, on every run. -/
theorem core_started_and_unloaded_only_when_stopped {a : PS5Application} (reach : Reachable a) :
    a.StartsAndUnloadsWhileStopped :=
  fun e mem => (reach.lifecycleInvariant.calls e mem).2

/-- After booting, running and shutting down, the start and the unload came with emulation
stopped. -/
theorem core_started_and_unloaded_when_stopped_after_shutdown :
    (((new.step (.Initialize ["eden", "--game", "game.nsp"] ⟨true, true, true, true, true⟩)).step
        (.run true true)).step .shutdown).StartsAndUnloadsWhileStopped :=
  core_started_and_unloaded_only_when_stopped (.step _ (.step _ (.step _ .new)))

/-- **`LoadGame` calls the core under a running emulation.**  After `Initialize`, `LoadGame`
and `StartEmulation`, a second `LoadGame` calls `eden_core_->LoadGame` with
`emulation_running_` set. -/
theorem loadGame_calls_core_while_running :
    (((new.step (.Initialize ["eden"] ⟨true, true, true, true, true⟩)).step
        (.loadGame "first.nsp" true)).step (.startEmulation true)).emulationRunning = true ∧
      ((((new.step (.Initialize ["eden"] ⟨true, true, true, true, true⟩)).step
          (.loadGame "first.nsp" true)).step (.startEmulation true)).step
          (.loadGame "second.nsp" true)).coreCalls.getLast? =
        some ⟨.loadGame "second.nsp", true, true⟩ := by
  decide

/-- A successful `InitializeSubsystems` has made the five subsystems, the core last, and
called the new core's `Initialize`. -/
theorem initializeSubsystems_of_ok {a : PS5Application} {results : SubsystemResults}
    (ok : (a.initializeSubsystems results).1 = true) :
    (a.initializeSubsystems results).2 = { a with
      renderer := true
      audioManager := true
      inputManager := true
      frontend := true
      edenCore := true
      coresMade := a.coresMade + 1 }.callCore .Initialize := by
  unfold initializeSubsystems at ok ⊢
  split_ifs at ok ⊢
  rfl

/-- A core that did not exist yet has received nothing. -/
theorem callsTo_of_lt {a : PS5Application} (inv : LifecycleInvariant a) {core : Nat}
    (later : a.coresMade < core) : a.callsTo core = [] := by
  rw [callsTo, List.filter_eq_nil_iff.2 fun e mem => ?_, List.map_nil]
  have := inv.cores e mem
  simp only [beq_iff_eq]
  omega

/-- **A retried `Initialize` gives the application a new core under the old game flags.**
On every run, an `Initialize` of an application that is not initialized, for instance after
one that failed, makes a new `EdenCoreIntegration` whenever it succeeds.  That core has
received only its `Initialize`, while `game_loaded_` and `emulation_running_` keep the values
they had for the old one. -/
theorem retried_initialize_keeps_stale_flags {a : PS5Application} (reach : Reachable a)
    (notInit : a.initialized = false) {argv : List String} {results : SubsystemResults}
    (ok : (a.Initialize argv results).1 = true) :
    (a.Initialize argv results).2.coresMade = a.coresMade + 1 ∧
      (a.Initialize argv results).2.callsTo (a.coresMade + 1) = [.Initialize] ∧
      (a.Initialize argv results).2.gameLoaded = a.gameLoaded ∧
      (a.Initialize argv results).2.emulationRunning = a.emulationRunning := by
  obtain ⟨gamePath, configPath, parsed⟩ := a.processCommandLine_snd argv.tail
  have unused := callsTo_of_lt reach.lifecycleInvariant (Nat.lt_succ_self a.coresMade)
  unfold Initialize at ok ⊢
  simp only [notInit, Bool.false_eq_true, if_false, parsed] at ok ⊢
  split_ifs at ok ⊢ with parsedOk ready
  have made := initializeSubsystems_of_ok (by simpa using ready)
  simp only [made]
  refine ⟨rfl, ?_, rfl, rfl⟩
  simp only [callsTo, callCore, List.filter_append, List.map_append] at unused ⊢
  simp [unused]

/-- `Initialize` fails at the core; a game is loaded and started on that core, and
`Initialize` is retried: the game runs on a new core that has loaded nothing. -/
theorem retried_initialize_after_failed_core :
    let a := ((new.step (.Initialize ["eden"] ⟨true, true, true, true, false⟩)).step
      (.loadGame "game.nsp" true)).step (.startEmulation true)
    a.initialized = false ∧ (a.Initialize ["eden"] ⟨true, true, true, true, true⟩).1 = true ∧
      a.gameLoaded = true ∧ a.emulationRunning = true ∧
      (a.Initialize ["eden"] ⟨true, true, true, true, true⟩).2.callsTo 2 = [.Initialize] := by
  intro a
  have stale := retried_initialize_keeps_stale_flags (show Reachable a from .step _ (.step _
    (.step _ .new))) rfl (show (a.Initialize ["eden"] ⟨true, true, true, true, true⟩).1 = true from rfl)
  exact ⟨rfl, rfl, rfl, rfl, stale.2.1⟩

end PS5Application

end EdenPS5
