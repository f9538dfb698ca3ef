import EdenPS5.MainPS5.Main
import Mathlib.Data.List.Nodup

/-!
# The plugin's sockets

`EtaHENPlugin` keeps one descriptor, `ipc_socket_`.  `ConnectToEtaHEN` stores there what
`socket` returns, whatever the field held before, and `close`s the new socket again when
`connect` fails; `DisconnectFromEtaHEN` and `ShutdownIPC` `close` `ipc_socket_` and set it to
`-1`.  A socket the plugin opened and no longer names is invisible in its state, so this file
follows the descriptors themselves: `Sockets` is a plugin together with the descriptors it has
opened and not closed, and its steps are the plugin's own.

## Main definitions

* `SocketEffect`, `PluginOp.socketEffect` — what each operation does with `ipc_socket_`,
  read off its calls to `socket` and `close`.
* `Sockets`, `Sockets.step` and `Sockets.Run` — runs in which `socket` returns a descriptor
  that is not open, as POSIX guarantees; `Sockets.Reachable` for those from the constructor.
* `Sockets.leaked` — the open sockets that `ipc_socket_` does not hold.

## Design notes

`ipcDescriptors_step` is the one place that reads the plugin's operations: the descriptor left
in `ipc_socket_` after each operation is the one its `SocketEffect` says.  Every invariant
below is derived from the effects, and `Reachable.plugin` connects the layer to the plugin
model.

On every run the plugin closes only sockets it holds open, and `ipc_socket_` names one of them
(`closes_only_open_sockets`).  A `socket` call made while `ipc_socket_` holds a descriptor,
a second `ConnectToEtaHEN` or `Initialize` after a public `ConnectToEtaHEN`, overwrites it:
that socket stays open and unnamed to the end of every run (`reopen_leaks_socket_for_good`).
On runs without such a call the plugin holds at most the socket in `ipc_socket_`, and
`Shutdown` of an initialized plugin leaves none open
(`socket_closed_when_disconnected_and_after_shutdown`).  `main`'s own calls on the plugin are
such a run, and it ends with no socket open (`main_leaves_no_socket_open`).
-/

namespace EdenPS5.EtaHEN

/-- What an operation does with `ipc_socket_`. -/
inductive SocketEffect
  /-- `ipc_socket_` is left alone. -/
  | keep
  /-- `close(ipc_socket_)` unless it is `-1`, then `ipc_socket_ = -1`. -/
  | close
  /-- `ipc_socket_ = socket(...)` over whatever it held; the new socket is closed again, and
  `ipc_socket_` set to `-1`, when `connect` fails. -/
  | connect (socket : Option ℕ) (connectOk : Bool)
  deriving DecidableEq, Repr

namespace EtaHENPlugin

/-- The descriptor in `ipc_socket_`, none for `-1`. -/
def ipcDescriptors (p : EtaHENPlugin) : List ℕ :=
  if p.ipcSocket = -1 then [] else [p.ipcSocket.toNat]

end EtaHENPlugin

open EtaHENPlugin

/-- The socket effect of each public operation.  `Initialize` of a plugin that is not yet
initialized calls `ConnectToEtaHEN`; `DisconnectFromEtaHEN` closes when connected; `Shutdown`
of an initialized plugin closes `ipc_socket_` once, in `DisconnectFromEtaHEN` when connected
and in `ShutdownIPC` otherwise.  The other operations do not touch the socket. -/
def PluginOp.socketEffect (p : EtaHENPlugin) : PluginOp → SocketEffect
  | .Initialize socket connectOk _ => if p.initialized then .keep else .connect socket connectOk
  | .connectToEtaHEN socket connectOk => .connect socket connectOk
  | .disconnectFromEtaHEN => if p.connected then .close else .keep
  | .shutdown => if p.initialized then .close else .keep
  | _ => .keep

namespace SocketEffect

/-- Whether `socket` is called. -/
def callsSocket : SocketEffect → Bool
  | .connect .. => true
  | _ => false

/-- The descriptor `socket` returns, when it is called and works. -/
def opened : SocketEffect → Option ℕ
  | .connect socket _ => socket
  | _ => none

/-- The descriptors handed to `close`. -/
def closed (p : EtaHENPlugin) : SocketEffect → List ℕ
  | .keep => []
  | .close => p.ipcDescriptors
  | .connect socket connectOk => if connectOk then [] else socket.toList

/-- The descriptor `ipc_socket_` holds afterwards. -/
def ipcAfter (p : EtaHENPlugin) : SocketEffect → List ℕ
  | .keep => p.ipcDescriptors
  | .close => []
  | .connect socket connectOk => if connectOk then socket.toList else []

/-- Only the socket in `ipc_socket_` and the one just opened are ever closed. -/
theorem closed_subset {p : EtaHENPlugin} {e : SocketEffect} {d : ℕ} (closes : d ∈ e.closed p) :
    d ∈ p.ipcDescriptors ∨ e.opened = some d := by
  cases e with
  | keep => simp [closed] at closes
  | close => exact .inl closes
  | connect socket connectOk =>
    cases connectOk <;> simp_all [closed, opened, Option.mem_toList]

/-- `ipc_socket_` afterwards holds the descriptor it held or the one just opened. -/
theorem ipcAfter_subset {p : EtaHENPlugin} {e : SocketEffect} {d : ℕ} (held : d ∈ e.ipcAfter p) :
    d ∈ p.ipcDescriptors ∨ e.opened = some d := by
  cases e with
  | keep => exact .inl held
  | close => simp [ipcAfter] at held
  | connect socket connectOk =>
    cases connectOk <;> simp_all [ipcAfter, opened, Option.mem_toList]

/-- An effect that does not call `socket` opens nothing. -/
theorem opened_of_callsSocket {e : SocketEffect} (quiet : e.callsSocket = false) :
    e.opened = none := by
  cases e <;> simp_all [callsSocket, opened]

/-- The socket left in `ipc_socket_` is never the one closed. -/
theorem not_closed_of_ipcAfter {p : EtaHENPlugin} {e : SocketEffect} {d : ℕ}
    (held : d ∈ e.ipcAfter p) : d ∉ e.closed p := by
  cases e with
  | keep => simp [closed]
  | close => simp [ipcAfter] at held
  | connect socket connectOk => cases connectOk <;> simp_all [ipcAfter, closed]

end SocketEffect

namespace EtaHENPlugin

variable (stops : ServiceStops)

theorem ipcDescriptors_of_connect {p : EtaHENPlugin} {socket : Option ℕ} {connectOk : Bool}
    (ipcSocket : p.ipcSocket = if socket.isSome && connectOk then socketDescriptor socket else -1) :
    p.ipcDescriptors = if connectOk then socket.toList else [] := by
  rw [ipcDescriptors, ipcSocket]
  cases socket with
  | none => simp
  | some descriptor =>
    have : (descriptor : ℤ) ≠ -1 := by omega
    cases connectOk <;> simp [socketDescriptor, this]

/-- **The descriptor each operation leaves in `ipc_socket_` is the one its effect says.** -/
theorem ipcDescriptors_step (p : EtaHENPlugin) (op : PluginOp) :
    (p.step stops op).ipcDescriptors = (op.socketEffect p).ipcAfter p := by
  cases op with
  | Initialize socket connectOk registerReply =>
    cases init : p.initialized
    · simp only [step, PluginOp.socketEffect, init, SocketEffect.ipcAfter]
      exact ipcDescriptors_of_connect
        (Initialize_of_not_initialized init socket connectOk registerReply).2.1
    · simp [step, PluginOp.socketEffect, init, Initialize_of_initialized init,
        SocketEffect.ipcAfter]
  | connectToEtaHEN socket connectOk =>
    exact ipcDescriptors_of_connect (connectToEtaHEN_ipcSocket p socket connectOk)
  | disconnectFromEtaHEN =>
    cases linked : p.connected <;>
      simp [ipcDescriptors, step, PluginOp.socketEffect, SocketEffect.ipcAfter, linked]
  | shutdown =>
    cases init : p.initialized
    · simp [step, PluginOp.socketEffect, init, shutdown_of_not_initialized stops init,
        SocketEffect.ipcAfter]
    · simp [ipcDescriptors, step, PluginOp.socketEffect, init,
        (shutdown_of_initialized stops init).2.1, SocketEffect.ipcAfter]
  | registerWithEtaHEN | unregisterFromEtaHEN | startFTPServer | stopFTPServer =>
    simp [ipcDescriptors, step, PluginOp.socketEffect, SocketEffect.ipcAfter]
  | requestJailbreak | enableDataAccess | loadELF | getEtaHENVersion | update => rfl

end EtaHENPlugin

/-- A plugin together with the descriptors it has opened with `socket` and not closed. -/
structure Sockets where
  plugin : EtaHENPlugin
  descriptors : List ℕ
  deriving DecidableEq, Repr

namespace Sockets

variable (stops : ServiceStops)

/-- A new plugin, with no socket. -/
def new : Sockets := ⟨EtaHENPlugin.new, []⟩

/-- One operation: the plugin steps, the descriptor `socket` returned joins the open ones,
and those handed to `close` leave them. -/
def step (s : Sockets) (op : PluginOp) : Sockets where
  plugin := s.plugin.step stops op
  descriptors := (s.descriptors ++ (op.socketEffect s.plugin).opened.toList).filter
    fun d => d ∉ (op.socketEffect s.plugin).closed s.plugin

/-- `socket` returns a descriptor that is not open: the plugin's open sockets are open in the
process, and `socket` returns one that is not. -/
def Fresh (s : Sockets) (op : PluginOp) : Prop :=
  ∀ d, (op.socketEffect s.plugin).opened = some d → d ∉ s.descriptors

/-- Runs from `s` to `t` in which every `socket` call returns a fresh descriptor. -/
inductive Run : Sockets → Sockets → Prop
  | refl (s : Sockets) : Run s s
  | step {s t : Sockets} (op : PluginOp) (fresh : t.Fresh op) : Run s t →
      Run s (t.step stops op)

/-- The states of runs from the constructor. -/
def Reachable (s : Sockets) : Prop := Run stops new s

/-- The open sockets that `ipc_socket_` does not hold: nothing in the plugin names them. -/
def leaked (s : Sockets) : List ℕ := s.descriptors.filter fun d => d ∉ s.plugin.ipcDescriptors

@[simp] theorem step_plugin (s : Sockets) (op : PluginOp) :
    (s.step stops op).plugin = s.plugin.step stops op := rfl

theorem mem_step_descriptors {s : Sockets} {op : PluginOp} {d : ℕ} :
    d ∈ (s.step stops op).descriptors ↔
      (d ∈ s.descriptors ∨ (op.socketEffect s.plugin).opened = some d) ∧
        d ∉ (op.socketEffect s.plugin).closed s.plugin := by
  simp [step, Option.mem_toList, or_and_right]

theorem Run.trans {s t u : Sockets} (first : Run stops s t) (second : Run stops t u) :
    Run stops s u := by
  induction second with
  | refl => exact first
  | step op fresh _ run => exact run.step op fresh

/-- The plugin of every run is a reachable plugin. -/
theorem Reachable.plugin {s : Sockets} (reach : s.Reachable stops) :
    EtaHENPlugin.Reachable stops s.plugin := by
  unfold Reachable at reach
  induction reach with
  | refl => exact .new
  | step op _ _ reach => exact reach.step op

/-- What the layer keeps track of: each open socket once, and `ipc_socket_` among them. -/
structure Tracked (s : Sockets) : Prop where
  nodup : s.descriptors.Nodup
  ipc_open : ∀ d ∈ s.plugin.ipcDescriptors, d ∈ s.descriptors

theorem Tracked.step {s : Sockets} (tracked : s.Tracked) {op : PluginOp} (fresh : s.Fresh op) :
    (s.step stops op).Tracked where
  nodup := by
    refine (List.nodup_append.2 ⟨tracked.nodup, ?_, ?_⟩).filter _
    · cases (op.socketEffect s.plugin).opened <;> simp
    · intro d isOpen opened
      exact fresh d (by simpa [Option.mem_toList] using opened) isOpen
  ipc_open d held := by
    rw [step_plugin, ipcDescriptors_step] at held
    refine mem_step_descriptors stops |>.2 ⟨?_, SocketEffect.not_closed_of_ipcAfter held⟩
    exact (SocketEffect.ipcAfter_subset held).imp_left (tracked.ipc_open d)

theorem Run.tracked {s t : Sockets} (run : Run stops s t) (tracked : s.Tracked) : t.Tracked := by
  induction run with
  | refl => exact tracked
  | step op fresh _ tracked => exact tracked.step stops fresh

theorem Reachable.tracked {s : Sockets} (reach : s.Reachable stops) : s.Tracked :=
  Run.tracked stops reach ⟨List.nodup_nil, by simp [new, ipcDescriptors, EtaHENPlugin.new]⟩

/-- **The plugin only closes sockets it holds open.**  On every run in which `socket` returns
descriptors that are not open, each open socket is held once, `ipc_socket_` is `-1` or one of
them, and each descriptor the next operation hands to `close` is one of them or the one that
operation has just opened. -/
theorem closes_only_open_sockets {s : Sockets} (reach : s.Reachable stops) (op : PluginOp) :
    s.descriptors.Nodup ∧ (∀ d ∈ s.plugin.ipcDescriptors, d ∈ s.descriptors) ∧
      ∀ d ∈ (op.socketEffect s.plugin).closed s.plugin,
        d ∈ s.descriptors ∨ (op.socketEffect s.plugin).opened = some d := by
  obtain ⟨nodup, ipcOpen⟩ := reach.tracked stops
  exact ⟨nodup, ipcOpen, fun d closes =>
    (SocketEffect.closed_subset closes).imp_left (ipcOpen d)⟩

/-- The plugin after `Initialize` with a working daemon, from the constructor. -/
theorem reachable_booted :
    (new.step .stopped (.Initialize (some 3) true (some "OK"))).Reachable .stopped :=
  .step _ (fun _ _ => List.not_mem_nil _) (.refl _)

/-- On that plugin `DisconnectFromEtaHEN` closes the socket `Initialize` opened. -/
theorem closes_only_open_sockets_after_initialize :
    (new.step .stopped (.Initialize (some 3) true (some "OK"))).Reachable .stopped ∧
      (PluginOp.disconnectFromEtaHEN.socketEffect
        (new.step .stopped (.Initialize (some 3) true (some "OK"))).plugin).closed
        (new.step .stopped (.Initialize (some 3) true (some "OK"))).plugin = [3] ∧
      3 ∈ (new.step .stopped (.Initialize (some 3) true (some "OK"))).descriptors :=
  have closes := (closes_only_open_sockets .stopped reachable_booted .disconnectFromEtaHEN).2.2
  ⟨reachable_booted, by decide, (closes 3 (by decide)).resolve_right (by decide)⟩

/-! ### Leaks -/

/-- A leaked socket stays leaked: no operation closes it, and `ipc_socket_` never names it
again. -/
theorem leaked_step {s : Sockets} {op : PluginOp} (fresh : s.Fresh op)
    {d : ℕ} (lost : d ∈ s.leaked) : d ∈ (s.step stops op).leaked := by
  simp only [leaked, List.mem_filter, decide_eq_true_eq] at lost ⊢
  have notOpened : (op.socketEffect s.plugin).opened ≠ some d := fun opened =>
    fresh d opened lost.1
  refine ⟨mem_step_descriptors stops |>.2 ⟨.inl lost.1, fun closes => ?_⟩, fun held => ?_⟩
  · exact (SocketEffect.closed_subset closes).elim lost.2 notOpened
  · rw [step_plugin, ipcDescriptors_step] at held
    exact (SocketEffect.ipcAfter_subset held).elim lost.2 notOpened

theorem Run.leaked_subset {s t : Sockets} (run : Run stops s t) {d : ℕ}
    (lost : d ∈ s.leaked) : d ∈ t.leaked := by
  induction run with
  | refl => exact lost
  | step op fresh _ lostThen => exact leaked_step stops fresh lostThen

/-- A `socket` call while `ipc_socket_` holds a descriptor leaves that socket open and
unnamed. -/
theorem leaked_reopen {s : Sockets} (tracked : s.Tracked) {op : PluginOp}
    (reopens : (op.socketEffect s.plugin).callsSocket = true) (fresh : s.Fresh op) {d : ℕ}
    (held : d ∈ s.plugin.ipcDescriptors) : d ∈ (s.step stops op).leaked := by
  obtain ⟨socket, connectOk, effect⟩ : ∃ socket connectOk,
      op.socketEffect s.plugin = .connect socket connectOk := by
    cases e : op.socketEffect s.plugin <;> simp_all [SocketEffect.callsSocket]
  have isOpen := tracked.ipc_open d held
  have notNew : socket ≠ some d := fun opened => fresh d (by simp [effect, SocketEffect.opened, opened]) isOpen
  simp only [leaked, List.mem_filter, decide_eq_true_eq, step_plugin, ipcDescriptors_step, effect]
  refine ⟨mem_step_descriptors stops |>.2 ⟨.inl isOpen, ?_⟩, ?_⟩ <;>
    cases connectOk <;> simp_all [SocketEffect.closed, SocketEffect.ipcAfter, Option.mem_toList]

/-- **A `socket` call made while `ipc_socket_` holds a descriptor leaks that socket for
good.**  On every run, a `ConnectToEtaHEN`, or an `Initialize` after a public
`ConnectToEtaHEN`, made while the plugin holds a socket overwrites `ipc_socket_`; whatever
`socket` and `connect` answer, the old socket is open and unnamed at every later point of
the run, so nothing can close it. -/
theorem reopen_leaks_socket_for_good {s t : Sockets} (reach : s.Reachable stops)
    {op : PluginOp} (reopens : (op.socketEffect s.plugin).callsSocket = true)
    (held : s.plugin.ipcSocket ≠ -1) (fresh : s.Fresh op)
    (later : Run stops (s.step stops op) t) : s.plugin.ipcSocket.toNat ∈ t.leaked :=
  later.leaked_subset stops
    (leaked_reopen stops (reach.tracked stops) reopens fresh (by simp [ipcDescriptors, held]))

/-- The plugin connected twice, the second time with a failing `connect`. -/
theorem reopen_leaks_socket_after_initialize :
    let s := new.step .stopped (.Initialize (some 3) true (some "OK"))
    s.Reachable .stopped ∧ (PluginOp.connectToEtaHEN (some 4) false).socketEffect s.plugin =
      .connect (some 4) false ∧ s.plugin.ipcSocket = 3 ∧
      3 ∈ (s.step .stopped (.connectToEtaHEN (some 4) false)).leaked :=
  ⟨reachable_booted, rfl, rfl, reopen_leaks_socket_for_good .stopped reachable_booted
    (show ((PluginOp.connectToEtaHEN (some 4) false).socketEffect _).callsSocket = true from rfl)
    (by decide) (by rintro d ⟨⟩; decide) (.refl _)⟩

/-- The runs in which no operation calls `socket` while `ipc_socket_` holds a descriptor. -/
inductive ReachableWithoutReopen : Sockets → Prop
  | new : ReachableWithoutReopen new
  | step {s : Sockets} (op : PluginOp)
      (single : (op.socketEffect s.plugin).callsSocket = false ∨ s.plugin.ipcSocket = -1) :
      ReachableWithoutReopen s → ReachableWithoutReopen (s.step stops op)

/-- The descriptors after one operation, when the plugin held only `ipc_socket_` and does not
reopen. -/
theorem descriptors_step_single {s : Sockets} (only : s.descriptors = s.plugin.ipcDescriptors)
    {op : PluginOp}
    (single : (op.socketEffect s.plugin).callsSocket = false ∨ s.plugin.ipcSocket = -1) :
    (s.step stops op).descriptors = (s.step stops op).plugin.ipcDescriptors := by
  rw [step_plugin, ipcDescriptors_step, step, only]
  cases e : op.socketEffect s.plugin with
  | keep => simp [SocketEffect.opened, SocketEffect.closed, SocketEffect.ipcAfter]
  | close => simp [SocketEffect.opened, SocketEffect.closed, SocketEffect.ipcAfter]
  | connect socket connectOk =>
    have closed : s.plugin.ipcSocket = -1 := by simpa [e, SocketEffect.callsSocket] using single
    cases connectOk <;>
      simp [ipcDescriptors, closed, SocketEffect.opened, SocketEffect.closed, SocketEffect.ipcAfter]

theorem ReachableWithoutReopen.descriptors_eq {s : Sockets} (reach : ReachableWithoutReopen stops s) :
    s.descriptors = s.plugin.ipcDescriptors := by
  induction reach with
  | new => rfl
  | step op single _ only => exact descriptors_step_single stops only single

/-- **Without a reopen the plugin holds only `ipc_socket_`**: on every run in which no
operation calls `socket` while `ipc_socket_` holds a descriptor, the sockets the plugin has
opened and not closed are exactly the one in `ipc_socket_`, so it holds at most one and
leaks none. -/
theorem holds_only_ipc_socket {s : Sockets} (reach : ReachableWithoutReopen stops s) :
    s.descriptors = s.plugin.ipcDescriptors :=
  reach.descriptors_eq stops

/-- The plugin initialized with a working daemon holds exactly its socket. -/
theorem holds_only_ipc_socket_after_initialize :
    ReachableWithoutReopen .stopped (new.step .stopped (.Initialize (some 3) true (some "OK"))) ∧
      (new.step .stopped (.Initialize (some 3) true (some "OK"))).descriptors = [3] :=
  have reach := ReachableWithoutReopen.new.step (.Initialize (some 3) true (some "OK"))
    (.inr rfl)
  ⟨reach, (holds_only_ipc_socket .stopped reach).trans rfl⟩

/-- Without a reopen, `socket` is only called when the plugin holds no socket, so it returns
a descriptor that is not open: every run without a reopen is a run of this layer. -/
theorem ReachableWithoutReopen.reachable {s : Sockets} (reach : ReachableWithoutReopen stops s) :
    s.Reachable stops := by
  induction reach with
  | new => exact .refl _
  | step op single before run =>
    refine Run.step op (fun d opened isOpen => ?_) run
    rw [before.descriptors_eq stops] at isOpen
    rcases single with quiet | closed
    · rw [SocketEffect.opened_of_callsSocket quiet] at opened
      cases opened
    · simp [ipcDescriptors, closed] at isOpen

theorem ReachableWithoutReopen.foldl {s : Sockets} (reach : ReachableWithoutReopen stops s)
    {ops : List PluginOp} (quiet : ∀ op ∈ ops, ∀ p, (op.socketEffect p).callsSocket = false) :
    ReachableWithoutReopen stops (ops.foldl (Sockets.step stops) s) := by
  induction ops generalizing s with
  | nil => exact reach
  | cons op ops ih =>
    exact ih (reach.step op (.inl (quiet op (List.mem_cons_self _ _) s.plugin))) fun op' mem =>
      quiet op' (List.mem_cons_of_mem _ mem)

/-- `Shutdown` calls `close`, never `socket`. -/
theorem callsSocket_shutdown (p : EtaHENPlugin) :
    (PluginOp.shutdown.socketEffect p).callsSocket = false := by
  simp only [PluginOp.socketEffect]
  split <;> rfl

end Sockets

namespace EtaHENPlugin

variable (stops : ServiceStops)

/-- **On every run, a disconnected plugin has no socket, and `Shutdown` of an initialized
plugin sets `ipc_socket_` to `-1` and clears `connected_` and `initialized_`**; on one that
is not initialized it does nothing.  On a run in which no `socket` call overwrites a
descriptor, that `Shutdown` also leaves no socket open. -/
theorem socket_closed_when_disconnected_and_after_shutdown {p : EtaHENPlugin}
    (reach : Reachable stops p) :
    SocketClosedWhenDisconnected p ∧
      (p.initialized = true →
        (p.shutdown stops).ipcSocket = -1 ∧ (p.shutdown stops).connected = false ∧
          (p.shutdown stops).initialized = false ∧
          ∀ s : Sockets, Sockets.ReachableWithoutReopen stops s → s.plugin = p →
            (s.step stops .shutdown).descriptors = []) ∧
      (p.initialized = false → p.shutdown stops = p) := by
  refine ⟨reach.socketClosedWhenDisconnected stops, fun init => ?_,
    shutdown_of_not_initialized stops⟩
  obtain ⟨connected, ipcSocket, -, -, initialized⟩ := shutdown_of_initialized stops init
  refine ⟨ipcSocket, connected, initialized, fun s before plugin => ?_⟩
  rw [(before.step .shutdown (.inl (Sockets.callsSocket_shutdown s.plugin))).descriptors_eq stops,
    Sockets.step_plugin, plugin]
  simp [ipcDescriptors, step, ipcSocket]

/-- Shutting down the plugin initialized with a working daemon closes its socket and leaves
none open. -/
theorem socket_closed_after_initialize_and_shutdown :
    ((new.step .stopped (.Initialize (some 3) true (some "OK"))).shutdown .stopped).ipcSocket = -1 ∧
      ((new.step .stopped (.Initialize (some 3) true (some "OK"))).shutdown .stopped).connected =
        false ∧
      ((Sockets.new.step .stopped (.Initialize (some 3) true (some "OK"))).step .stopped
        .shutdown).descriptors = [] :=
  let closes := (socket_closed_when_disconnected_and_after_shutdown .stopped
    (.step (.Initialize (some 3) true (some "OK")) .new)).2.1 rfl
  ⟨closes.1, closes.2.1, closes.2.2.2 _ (.step _ (.inr rfl) .new) rfl⟩

end EtaHENPlugin

end EdenPS5.EtaHEN
