import EdenPS5.MainPS5.Application
import EdenPS5.EtahenIntegration.Plugin
import Mathlib.Logic.Function.Iterate

/-!
# The program

`main` (`main_ps5/main.cpp`) brings up the platform layer `PS5System`, the etaHEN plugin and
the application, runs the application's main loop until a signal asks it to stop, and shuts
the three down in turn.  The plugin is the singleton `GetEtaHENPlugin` creates and the
application lives in the global `g_ps5_app`: both are objects with static storage, and their
destructors shut down an object that is still initialized when the process ends.

## Main definitions

* `PS5System` — the platform layer's static flags (`ps5_platform/ps5_system.h`, where the
  implementation follows the class).
* `MainOutcomes` — what the world answers during one run: the etaHEN daemon, the
  subsystems and the core, and the number of frames before the signal.
* `mainPluginOps`, `mainAppOps` — the calls `main` makes on the plugin and on the
  application, destructors included.
* `Program` and `main`, to the end of the process.

## Design notes

The plugin and the application share no state, so `main` runs each over the list of the
calls it makes on it, and the files that follow the sockets, the registrations and the
objects run their layers over the same lists: what they prove of `main` is proved of these
calls.  The run from `main` is a run of the application's `step`, so every lifecycle
invariant holds along it, and a run that returns `0` ends with the core's `Shutdown`
(`main_tears_down_application`).
-/

namespace EdenPS5

/-- The static flags of `PS5Platform::PS5System`. -/
structure PS5System where
  initialized : Bool
  etahenAvailable : Bool
  highPerformanceMode : Bool
  deriving DecidableEq, Repr

namespace PS5System

/-- The flags' initial values. -/
def new : PS5System := ⟨false, false, false⟩

/-- `InitializeEtaHEN`: a placeholder that answers `false` in both builds. -/
def initializeEtaHEN : Bool := false

/-- **`PS5System::Initialize`**: it cannot fail. -/
def Initialize (s : PS5System) : Bool × PS5System :=
  if s.initialized then (true, s) else
  (true, { s with etahenAvailable := initializeEtaHEN, initialized := true })

/-- `ReleaseHighPerformanceMode`. -/
def releaseHighPerformanceMode (s : PS5System) : PS5System :=
  if !s.highPerformanceMode then s else { s with highPerformanceMode := false }

/-- **`PS5System::Shutdown`**. -/
def shutdown (s : PS5System) : PS5System :=
  if !s.initialized then s else
  let s := if s.highPerformanceMode then s.releaseHighPerformanceMode else s
  { s with initialized := false }

end PS5System

open EtaHEN

/-- What the world answers during one run of `main` on the console: the outcomes of the
plugin's `socket` and `connect` and the daemon's answer to its registration, the process id
`getpid` returns and the daemon's answers to `RequestJailbreak` and `EnableDataAccess`, the
results of the subsystems' `Initialize`, of the core's `LoadGame` and `StartEmulation`, and
the number of main-loop frames before `SIGINT` or `SIGTERM` makes the handler call
`RequestShutdown`. -/
structure MainOutcomes where
  socket : Option ℕ
  connectOk : Bool
  registerReply : Option String
  processId : Int
  jailbreakReply : Option String
  dataAccessReply : Option String
  subsystems : SubsystemResults
  loadOk : Bool
  startOk : Bool
  frames : ℕ

/-- The calls `main` makes on the plugin `GetEtaHENPlugin` returns, to the end of the process:
`Initialize`; when `IsEtaHENAvailable`, `RequestJailbreak` for this process and, when it
succeeds, `EnableDataAccess`; `Shutdown` when the application came up; and last the
destructor of the static plugin, whose `if (initialized_) Shutdown();` is `Shutdown`'s own
first test. -/
def mainPluginOps (argv : List String) (o : MainOutcomes) : List PluginOp :=
  let booted := (EtaHENPlugin.new.Initialize o.socket o.connectOk o.registerReply).2
  let jailbreak : List PluginOp := if !booted.etahenAvailable then [] else
    .requestJailbreak (-1) o.processId o.jailbreakReply ::
      if booted.requestJailbreak (-1) o.processId o.jailbreakReply then
        [.enableDataAccess o.dataAccessReply] else []
  let appShutdown : List PluginOp :=
    if (PS5Application.new.Initialize argv o.subsystems).1 then [.shutdown] else []
  .Initialize o.socket o.connectOk o.registerReply :: (jailbreak ++ appShutdown ++ [.shutdown])

/-- The calls `main` makes on `g_ps5_app`, to the end of the process: `Initialize`; when it
succeeds, `Run` (its loading and starting, `frames` iterations of the main loop, and the
signal handler's `RequestShutdown`), then `Shutdown`; and last the destructor, whose
`if (initialized_) Shutdown();` is `Shutdown`'s own first test. -/
def mainAppOps (argv : List String) (o : MainOutcomes) : List AppOp :=
  let ran : List AppOp := if (PS5Application.new.Initialize argv o.subsystems).1 then
    .run o.loadOk o.startOk ::
      (List.replicate o.frames .mainLoopFrame ++ [.requestShutdown, .shutdown])
    else []
  .Initialize argv o.subsystems :: (ran ++ [.shutdown])

/-- The objects `main` drives, as they are when the process ends; `none` for one it never
created. -/
structure Program where
  system : PS5System
  plugin : Option EtaHENPlugin
  app : Option PS5Application

/-- **`main`**, console build, to the end of the process.  A failed application `Initialize`
returns `-1` at once, and the destructors of the plugin and of `g_ps5_app` shut down what is
still initialized.  Otherwise `Run` loads and starts the game, its loop runs `frames` frames
until `RequestShutdown`, and the application, the plugin and the platform are shut down in
turn; `main` returns what `Run` returned. -/
def main (stops : ServiceStops) (argv : List String) (o : MainOutcomes) : Int × Program :=
  let platform := PS5System.new.Initialize
  if !platform.1 then (-1, ⟨platform.2, none, none⟩) else
  let booted := PS5Application.new.Initialize argv o.subsystems
  let plugin := (mainPluginOps argv o).foldl (EtaHENPlugin.step stops) EtaHENPlugin.new
  let app := (mainAppOps argv o).foldl PS5Application.step PS5Application.new
  if !booted.1 then (-1, ⟨platform.2, some plugin, some app⟩) else
  ((booted.2.run o.loadOk o.startOk).1, ⟨platform.2.shutdown, some plugin, some app⟩)

/-! ### Initialize, run and tear down -/

namespace PS5Application

theorem processCommandLine_initialized (a : PS5Application) (args : List String) :
    (a.processCommandLine args).2.initialized = a.initialized := by
  obtain ⟨gamePath, configPath, parsed⟩ := a.processCommandLine_snd args
  rw [parsed]

theorem initializeSubsystems_initialized (a : PS5Application) (results : SubsystemResults) :
    (a.initializeSubsystems results).2.initialized = a.initialized := by
  unfold initializeSubsystems
  dsimp only
  split_ifs <;> rfl

theorem initializeSubsystems_edenCore {a : PS5Application} {results : SubsystemResults}
    (ok : (a.initializeSubsystems results).1 = true) :
    (a.initializeSubsystems results).2.edenCore = true := by
  rw [initializeSubsystems_of_ok ok]
  rfl

/-- From a fresh application, `Initialize` ends initialized exactly when it succeeds, and then
with a core. -/
theorem Initialize_lifetime {a : PS5Application} (notInit : a.initialized = false)
    (argv : List String) (results : SubsystemResults) :
    (a.Initialize argv results).2.initialized = (a.Initialize argv results).1 ∧
      ((a.Initialize argv results).1 = true → (a.Initialize argv results).2.edenCore = true) := by
  unfold Initialize
  simp only [notInit, Bool.false_eq_true, if_false]
  split_ifs with parsed ready
  · exact ⟨by rw [processCommandLine_initialized, notInit], nofun⟩
  · exact ⟨by rw [initializeSubsystems_initialized, processCommandLine_initialized, notInit],
      nofun⟩
  · exact ⟨rfl, fun _ => initializeSubsystems_edenCore (by simpa using ready)⟩

/-- Whether the application is initialized and holds a core: what `Run`, the main loop and
`RequestShutdown` leave as they are. -/
def lifetime (a : PS5Application) : Bool × Bool := (a.initialized, a.edenCore)

theorem loadGame_lifetime (a : PS5Application) (gamePath : String) (loadOk : Bool) :
    (a.loadGame gamePath loadOk).2.lifetime = a.lifetime := by
  unfold loadGame
  split_ifs <;> rfl

theorem startEmulation_lifetime (a : PS5Application) (startOk : Bool) :
    (a.startEmulation startOk).lifetime = a.lifetime := by
  unfold startEmulation
  split_ifs <;> rfl

theorem run_lifetime (a : PS5Application) (loadOk startOk : Bool) :
    (a.run loadOk startOk).2.lifetime = a.lifetime := by
  unfold run
  dsimp only
  split_ifs <;> simp only [startEmulation_lifetime, loadGame_lifetime]

theorem run_fst {a : PS5Application} (init : a.initialized = true) (loadOk startOk : Bool) :
    (a.run loadOk startOk).1 = 0 := by
  unfold run
  dsimp only
  split_ifs <;> simp_all

theorem mainLoopFrame_lifetime (a : PS5Application) : a.mainLoopFrame.lifetime = a.lifetime := by
  unfold mainLoopFrame
  dsimp only
  split_ifs <;> rfl

theorem iterate_mainLoopFrame_lifetime (n : ℕ) (a : PS5Application) :
    (mainLoopFrame^[n] a).lifetime = a.lifetime := by
  induction n generalizing a with
  | zero => rfl
  | succ n ih => rw [Function.iterate_succ_apply, ih, mainLoopFrame_lifetime]

@[simp] theorem stopEmulation_edenCore (a : PS5Application) :
    a.stopEmulation.edenCore = a.edenCore := by
  unfold stopEmulation
  split_ifs <;> simp

@[simp] theorem unloadGame_edenCore (a : PS5Application) : a.unloadGame.edenCore = a.edenCore := by
  unfold unloadGame
  dsimp only
  split_ifs <;> simp

theorem unloadGame_emulationRunning {a : PS5Application} (stopped : a.emulationRunning = false) :
    a.unloadGame.emulationRunning = false := by
  unfold unloadGame
  dsimp only
  split_ifs <;> simp [stopped]

/-- Every subsystem released, and the application no longer initialized. -/
def Released (a : PS5Application) : Prop :=
  a.initialized = false ∧ a.renderer = false ∧ a.audioManager = false ∧ a.inputManager = false ∧
    a.frontend = false ∧ a.edenCore = false

/-- **`Shutdown` of an initialized application with a core**: the core's last call is its
`Shutdown`, made with emulation stopped and no game loaded, and everything is released. -/
theorem shutdown_tears_down {a : PS5Application} (init : a.initialized = true)
    (core : a.edenCore = true) :
    a.shutdown.coreCalls.getLast? = some ⟨.shutdown, false, false⟩ ∧ Released a.shutdown := by
  unfold shutdown
  simp only [init, Bool.not_true, Bool.false_eq_true, if_false]
  generalize stop : (if a.emulationRunning = true then a.stopEmulation else a) = b
  have bStopped : b.emulationRunning = false := by
    subst stop
    split_ifs with running <;> simp_all
  have bCore : b.edenCore = true := by
    subst stop
    split_ifs <;> simp [core]
  generalize unload : (if b.gameLoaded = true then b.unloadGame else b) = c
  have cLoaded : c.gameLoaded = false := by
    subst unload
    split_ifs with loaded <;> simp_all
  have cStopped : c.emulationRunning = false := by
    subst unload
    split_ifs
    · exact unloadGame_emulationRunning bStopped
    · exact bStopped
  have cCore : c.edenCore = true := by
    subst unload
    split_ifs <;> simp [bCore]
  simp [shutdownSubsystems, callCore, cCore, cLoaded, cStopped, Released]

theorem Reachable.foldl {a : PS5Application} (reach : Reachable a) (ops : List AppOp) :
    Reachable (ops.foldl PS5Application.step a) := by
  induction ops generalizing a with
  | nil => exact reach
  | cons op ops ih => exact ih (reach.step op)

/-- The main loop's frames, as calls. -/
theorem foldl_replicate_mainLoopFrame (n : ℕ) (a : PS5Application) :
    (List.replicate n AppOp.mainLoopFrame).foldl step a = mainLoopFrame^[n] a := by
  induction n generalizing a with
  | zero => rfl
  | succ n ih => exact ih a.mainLoopFrame

/-- A second `Shutdown`, the destructor's, does nothing. -/
theorem shutdown_shutdown (a : PS5Application) : a.shutdown.shutdown = a.shutdown := by
  cases init : a.initialized
  · simp [shutdown, init]
  · simp [shutdown, init]

end PS5Application

/-! ### What every run of `main` does -/

open PS5Application

theorem platform_initialize : PS5System.new.Initialize = (true, ⟨true, false, false⟩) := rfl

/-- The plugin and the application `main` ends with are the runs of its calls on them. -/
theorem main_objects (stops : ServiceStops) (argv : List String) (o : MainOutcomes) :
    (main stops argv o).2.plugin =
        some ((mainPluginOps argv o).foldl (EtaHENPlugin.step stops) EtaHENPlugin.new) ∧
      (main stops argv o).2.app = some ((mainAppOps argv o).foldl step new) := by
  simp only [main, platform_initialize, Bool.not_true, Bool.false_eq_true, if_false]
  split_ifs <;> exact ⟨rfl, rfl⟩

/-- `main` returns `0` exactly when the application initializes, and `-1` otherwise. -/
theorem main_result (stops : ServiceStops) (argv : List String) (o : MainOutcomes) :
    (main stops argv o).1 = if (new.Initialize argv o.subsystems).1 then 0 else -1 := by
  have initialized := (Initialize_lifetime (show new.initialized = false from rfl)
    argv o.subsystems).1
  by_cases ok : (new.Initialize argv o.subsystems).1 = true
  · simp only [main, platform_initialize, ok, Bool.not_true, Bool.false_eq_true, if_false,
      if_true]
    exact run_fst (initialized.trans ok) _ _
  · simp [main, platform_initialize, ok]

/-- When `Initialize` succeeds, `main` leaves the application shut down after its frames and
`RequestShutdown`. -/
theorem foldl_mainAppOps_of_ok {argv : List String} {o : MainOutcomes}
    (ok : (new.Initialize argv o.subsystems).1 = true) :
    (mainAppOps argv o).foldl step new =
      (mainLoopFrame^[o.frames] ((new.Initialize argv o.subsystems).2.run o.loadOk
        o.startOk).2).requestShutdown.shutdown := by
  simp only [mainAppOps, ok, if_true, List.cons_append, List.foldl_cons, List.foldl_append,
    foldl_replicate_mainLoopFrame, List.foldl_nil]
  exact shutdown_shutdown _

/-- **Every run of `main` is a run of the application, torn down in order**: the application
ends in a reachable state, so every lifecycle invariant holds along the run; and when `main`
returns `0`, the core's last call was its `Shutdown`, made with emulation stopped and no game
loaded, and every subsystem is released. -/
theorem main_tears_down_application (stops : ServiceStops) (argv : List String)
    (o : MainOutcomes) :
    ∃ a, (main stops argv o).2.app = some a ∧ Reachable a ∧
      ((main stops argv o).1 = 0 →
        a.coreCalls.getLast? = some ⟨.shutdown, false, false⟩ ∧ Released a) := by
  refine ⟨_, (main_objects stops argv o).2, Reachable.new.foldl _, fun zero => ?_⟩
  have ok : (new.Initialize argv o.subsystems).1 = true := by
    by_contra failed
    simp [main_result, failed] at zero
  obtain ⟨initialized, core⟩ := Initialize_lifetime
    (show new.initialized = false from rfl) argv o.subsystems
  have life : ((mainLoopFrame^[o.frames] ((new.Initialize argv o.subsystems).2.run o.loadOk
      o.startOk).2).requestShutdown).lifetime = (true, true) := by
    show (mainLoopFrame^[o.frames] _).lifetime = _
    rw [iterate_mainLoopFrame_lifetime, run_lifetime, lifetime, initialized.trans ok, core ok]
  rw [foldl_mainAppOps_of_ok ok]
  exact shutdown_tears_down (congrArg Prod.fst life) (congrArg Prod.snd life)

end EdenPS5
