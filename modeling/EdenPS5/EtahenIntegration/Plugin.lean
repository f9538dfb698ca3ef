import Mathlib.Data.Nat.Notation
import Mathlib.Tactic.SplitIfs

/-!
# The etaHEN plugin

`EtaHENPlugin` (`etahen_integration/etahen_plugin.cpp`) talks to the etaHEN daemon over one
local socket, `ipc_socket_`, and keeps four flags about that link: `initialized_`,
`connected_`, `registered_` and `ftp_server_running_`.  This file models the console build
(`PS5_BUILD`): the outcomes of `socket`, `connect`, `send` and `recv` are arguments of the
operations, so every statement below holds for every behaviour of the daemon.

## Main definitions

* `EtaHENPlugin` and its operations, one per member function, `PluginOp`, `step` and
  `Reachable`.  `StopKlogServer` and `DisablePS5Debug`, which `Shutdown` calls, are declared
  in the header and defined nowhere in the sources: `ServiceStops` takes them as parameters
  that decide the flag each one owns and write nothing else.
* `SocketClosedWhenDisconnected`, `Coherent` — the link invariants.

## Design notes

Each operation gets one lemma per link field (`@[simp]`), and every invariant is derived
from those, never from the operations' bodies.

`Reachable.socketClosedWhenDisconnected` holds on every run: a plugin that is not connected
has no socket.  The converse half of `Coherent` and the two flags fail.
`DisconnectFromEtaHEN` clears `connected_` but neither `registered_` nor
`ftp_server_running_`; `UnregisterFromEtaHEN` and `StopFTPServer` return early when not
connected, so a later `Shutdown` leaves both flags set.  `ConnectToEtaHEN` has no guard
against an existing connection, so a second call whose `socket` or `connect` fails leaves
`connected_` set with no socket.  And `Shutdown` returns at once on a plugin that was never
initialized, whose socket a public `ConnectToEtaHEN` may have opened
(`plugin_breaks_link_invariants`).  On runs that avoid the first two,
`ReachableUndisturbed.coherent` gives all of `Coherent`.
-/

namespace EdenPS5.EtaHEN

/-- The state of an `EtaHENPlugin` that its operations read and write.  `etahen_port_`,
`cheats_enabled_` and the two callbacks are left out: the port only addresses the
`connect` call, whose outcome is an argument here, and nothing in the sources reads the
others. -/
structure EtaHENPlugin where
  initialized : Bool
  etahenAvailable : Bool
  connected : Bool
  registered : Bool
  pluginName : String
  pluginVersion : String
  ipcSocket : Int
  ftpServerRunning : Bool
  klogServerRunning : Bool
  ps5DebugEnabled : Bool
  deriving DecidableEq, Repr

/-- `StopKlogServer` and `DisablePS5Debug`: the value each leaves in the flag it owns. -/
structure ServiceStops where
  stopKlogServer : EtaHENPlugin → Bool
  disablePS5Debug : EtaHENPlugin → Bool

/-- The reading the names suggest: each call leaves its flag cleared. -/
def ServiceStops.stopped : ServiceStops := ⟨fun _ => false, fun _ => false⟩

namespace EtaHENPlugin

/-- `EtaHENPlugin()`. -/
def new : EtaHENPlugin where
  initialized := false
  etahenAvailable := false
  connected := false
  registered := false
  pluginName := "Eden Nintendo Switch Emulator"
  pluginVersion := "1.0.0-PS5"
  ipcSocket := -1
  ftpServerRunning := false
  klogServerRunning := false
  ps5DebugEnabled := false

/-! ### The socket -/

/-- `SendIPCCommand`: nothing is sent without a socket; otherwise `reply` is what `send` and
`recv` make of `command`, `none` when either fails. -/
def sendIPCCommand (p : EtaHENPlugin) (_command : String) (reply : Option String) :
    Option String :=
  if p.ipcSocket = -1 then none else reply

/-- `ConnectToEtaHEN`, console build: `socket` returns a descriptor or fails (`-1`), and
`connectOk` is whether `connect` succeeds.  A failed `connect` closes the new socket; a
failed `socket` leaves its `-1` in `ipc_socket_`.  Neither touches `connected_`. -/
def connectToEtaHEN (p : EtaHENPlugin) (socket : Option ℕ) (connectOk : Bool) :
    Bool × EtaHENPlugin :=
  let ipcSocket : Int := match socket with
    | some descriptor => descriptor
    | none => -1
  let p := { p with ipcSocket := ipcSocket }
  if ipcSocket < 0 then (false, p) else
  if !connectOk then (false, { p with ipcSocket := -1 }) else
  (true, { p with connected := true })

/-- `DisconnectFromEtaHEN`. -/
def disconnectFromEtaHEN (p : EtaHENPlugin) : EtaHENPlugin :=
  if !p.connected then p else
  let p := if p.ipcSocket ≠ -1 then { p with ipcSocket := -1 } else p
  { p with connected := false }

/-- `RegisterWithEtaHEN`: the name and version are recorded once connected, the flag only
when the daemon answers. -/
def registerWithEtaHEN (p : EtaHENPlugin) (pluginName version : String)
    (reply : Option String) : Bool × EtaHENPlugin :=
  if !p.connected then (false, p) else
  let p := { p with pluginName := pluginName, pluginVersion := version }
  match p.sendIPCCommand ("REGISTER_PLUGIN:" ++ pluginName ++ ":" ++ version) reply with
  | some _ => (true, { p with registered := true })
  | none => (false, p)

/-- `UnregisterFromEtaHEN`: sends `UNREGISTER_PLUGIN:<name>`, whatever the answer clears the
flag, and does nothing unless registered and connected. -/
def unregisterFromEtaHEN (p : EtaHENPlugin) : EtaHENPlugin :=
  if !p.registered || !p.connected then p else { p with registered := false }

/-- `StartFTPServer`. -/
def startFTPServer (p : EtaHENPlugin) (port : BitVec 16) (reply : Option String) :
    Bool × EtaHENPlugin :=
  if p.ftpServerRunning then (true, p) else
  if !p.connected then (false, p) else
  match p.sendIPCCommand ("START_FTP:" ++ toString port.toNat) reply with
  | some _ => (true, { p with ftpServerRunning := true })
  | none => (false, p)

/-- `StopFTPServer`: sends `STOP_FTP`, whatever the answer clears the flag, and does nothing
unless running and connected. -/
def stopFTPServer (p : EtaHENPlugin) : EtaHENPlugin :=
  if !p.ftpServerRunning || !p.connected then p else { p with ftpServerRunning := false }

/-- `RequestJailbreak`: `pid = -1` stands for the caller, whose id `getpid` returns. -/
def requestJailbreak (p : EtaHENPlugin) (pid getpid : Int) (reply : Option String) : Bool :=
  p.connected &&
    (p.sendIPCCommand ("JAILBREAK:" ++ toString (if pid = -1 then getpid else pid)) reply).isSome

/-- `IsProcessJailbroken`: assumed whenever connected. -/
def isProcessJailbroken (p : EtaHENPlugin) : Bool := p.connected

/-- `EnableDataAccess`. -/
def enableDataAccess (p : EtaHENPlugin) (reply : Option String) : Bool :=
  p.connected && (p.sendIPCCommand "ENABLE_DATA_ACCESS" reply).isSome

/-- `LoadELF`. -/
def loadELF (p : EtaHENPlugin) (elfPath : String) (reply : Option String) : Bool :=
  p.connected && (p.sendIPCCommand ("LOAD_ELF:" ++ elfPath) reply).isSome

/-- `GetEtaHENVersion`. -/
def getEtaHENVersion (p : EtaHENPlugin) (reply : Option String) : String :=
  if !p.connected then "Not Connected" else
  match p.sendIPCCommand "GET_VERSION" reply with
  | some response => response
  | none => "Unknown"

/-- `ShutdownIPC`. -/
def shutdownIPC (p : EtaHENPlugin) : EtaHENPlugin :=
  if p.ipcSocket ≠ -1 then { p with ipcSocket := -1 } else p

/-- **`EtaHENPlugin::Initialize`**, console build: `InitializeIPC` succeeds; the plugin
connects, registers under its own name if that worked, and is initialized whatever
happened. -/
def Initialize (p : EtaHENPlugin) (socket : Option ℕ) (connectOk : Bool)
    (registerReply : Option String) : Bool × EtaHENPlugin :=
  if p.initialized then (true, p) else
  let (available, p) := p.connectToEtaHEN socket connectOk
  let p := { p with etahenAvailable := available }
  let p := if available then (p.registerWithEtaHEN p.pluginName p.pluginVersion registerReply).2
    else p
  (true, { p with initialized := true })

/-- **`EtaHENPlugin::Shutdown`**: stop the services, unregister if registered, disconnect if
connected, close the socket. -/
def shutdown (stops : ServiceStops) (p : EtaHENPlugin) : EtaHENPlugin :=
  if !p.initialized then p else
  let p := p.stopFTPServer
  let p := { p with klogServerRunning := stops.stopKlogServer p }
  let p := { p with ps5DebugEnabled := stops.disablePS5Debug p }
  let p := if p.registered then p.unregisterFromEtaHEN else p
  let p := if p.connected then p.disconnectFromEtaHEN else p
  { p.shutdownIPC with initialized := false }

end EtaHENPlugin

/-- The public operations of `EtaHENPlugin`, with the outcomes of the system calls they make
as arguments. -/
inductive PluginOp
  | Initialize (socket : Option ℕ) (connectOk : Bool) (registerReply : Option String)
  | connectToEtaHEN (socket : Option ℕ) (connectOk : Bool)
  | disconnectFromEtaHEN
  | registerWithEtaHEN (pluginName version : String) (reply : Option String)
  | unregisterFromEtaHEN
  | startFTPServer (port : BitVec 16) (reply : Option String)
  | stopFTPServer
  | requestJailbreak (pid getpid : Int) (reply : Option String)
  | enableDataAccess (reply : Option String)
  | loadELF (elfPath : String) (reply : Option String)
  | getEtaHENVersion (reply : Option String)
  | update
  | shutdown
  deriving DecidableEq, Repr

namespace EtaHENPlugin

variable (stops : ServiceStops)

/-- One public operation.  `Update` only processes messages when connected, which is a
no-op; the queries leave the state as it is. -/
def step (p : EtaHENPlugin) : PluginOp → EtaHENPlugin
  | .Initialize socket connectOk registerReply => (p.Initialize socket connectOk registerReply).2
  | .connectToEtaHEN socket connectOk => (p.connectToEtaHEN socket connectOk).2
  | .disconnectFromEtaHEN => p.disconnectFromEtaHEN
  | .registerWithEtaHEN pluginName version reply =>
    (p.registerWithEtaHEN pluginName version reply).2
  | .unregisterFromEtaHEN => p.unregisterFromEtaHEN
  | .startFTPServer port reply => (p.startFTPServer port reply).2
  | .stopFTPServer => p.stopFTPServer
  | .shutdown => p.shutdown stops
  | .requestJailbreak .. | .enableDataAccess _ | .loadELF .. | .getEtaHENVersion _ | .update => p

/-- The plugin states reachable from the constructor. -/
inductive Reachable : EtaHENPlugin → Prop
  | new : Reachable new
  | step {p : EtaHENPlugin} (op : PluginOp) : Reachable p → Reachable (p.step stops op)

/-! ### What each operation does to the link -/

/-- The descriptor a `socket` outcome leaves in `ipc_socket_`, when `connect` also works. -/
def socketDescriptor : Option ℕ → Int
  | some descriptor => descriptor
  | none => -1

theorem socketDescriptor_ne (socket : Option ℕ) (isSome : socket.isSome) :
    socketDescriptor socket ≠ -1 := by
  obtain ⟨descriptor, rfl⟩ := Option.isSome_iff_exists.1 isSome
  simp only [socketDescriptor]
  omega

/-- **`ConnectToEtaHEN`**: it connects exactly when `socket` and `connect` both work, and
otherwise leaves no socket and `connected_` as it was. -/
theorem connectToEtaHEN_eq (p : EtaHENPlugin) (socket : Option ℕ) (connectOk : Bool) :
    p.connectToEtaHEN socket connectOk =
      if socket.isSome && connectOk then
        (true, { p with ipcSocket := socketDescriptor socket, connected := true })
      else (false, { p with ipcSocket := -1 }) := by
  cases socket with
  | none => rfl
  | some descriptor =>
    have : ¬ (descriptor : Int) < 0 := by omega
    cases connectOk <;> simp [connectToEtaHEN, socketDescriptor, this]

@[simp] theorem connectToEtaHEN_connected (p : EtaHENPlugin) (socket : Option ℕ)
    (connectOk : Bool) :
    (p.connectToEtaHEN socket connectOk).2.connected = (p.connected || socket.isSome && connectOk) := by
  rw [connectToEtaHEN_eq]
  split <;> simp_all

@[simp] theorem connectToEtaHEN_ipcSocket (p : EtaHENPlugin) (socket : Option ℕ)
    (connectOk : Bool) :
    (p.connectToEtaHEN socket connectOk).2.ipcSocket =
      if socket.isSome && connectOk then socketDescriptor socket else -1 := by
  rw [connectToEtaHEN_eq]
  split <;> rfl

@[simp] theorem connectToEtaHEN_registered (p : EtaHENPlugin) (socket : Option ℕ)
    (connectOk : Bool) : (p.connectToEtaHEN socket connectOk).2.registered = p.registered := by
  rw [connectToEtaHEN_eq]
  split <;> rfl

@[simp] theorem connectToEtaHEN_ftpServerRunning (p : EtaHENPlugin) (socket : Option ℕ)
    (connectOk : Bool) :
    (p.connectToEtaHEN socket connectOk).2.ftpServerRunning = p.ftpServerRunning := by
  rw [connectToEtaHEN_eq]
  split <;> rfl

@[simp] theorem connectToEtaHEN_fst (p : EtaHENPlugin) (socket : Option ℕ) (connectOk : Bool) :
    (p.connectToEtaHEN socket connectOk).1 = (socket.isSome && connectOk) := by
  rw [connectToEtaHEN_eq]
  split <;> simp_all

@[simp] theorem disconnectFromEtaHEN_connected (p : EtaHENPlugin) :
    p.disconnectFromEtaHEN.connected = false := by
  unfold disconnectFromEtaHEN
  split_ifs with notConnected <;> simp_all

@[simp] theorem disconnectFromEtaHEN_ipcSocket (p : EtaHENPlugin) :
    p.disconnectFromEtaHEN.ipcSocket = if p.connected then -1 else p.ipcSocket := by
  unfold disconnectFromEtaHEN
  split_ifs <;> simp_all

@[simp] theorem disconnectFromEtaHEN_registered (p : EtaHENPlugin) :
    p.disconnectFromEtaHEN.registered = p.registered := by
  unfold disconnectFromEtaHEN
  split_ifs <;> rfl

@[simp] theorem disconnectFromEtaHEN_ftpServerRunning (p : EtaHENPlugin) :
    p.disconnectFromEtaHEN.ftpServerRunning = p.ftpServerRunning := by
  unfold disconnectFromEtaHEN
  split_ifs <;> rfl

@[simp] theorem disconnectFromEtaHEN_initialized (p : EtaHENPlugin) :
    p.disconnectFromEtaHEN.initialized = p.initialized := by
  unfold disconnectFromEtaHEN
  split_ifs <;> rfl

/-- **`RegisterWithEtaHEN`**: once connected it records the name and version, and sets the
flag exactly when there is a socket and the daemon answers. -/
theorem registerWithEtaHEN_snd (p : EtaHENPlugin) (pluginName version : String)
    (reply : Option String) :
    (p.registerWithEtaHEN pluginName version reply).2 =
      if p.connected then
        { p with pluginName := pluginName, pluginVersion := version,
                 registered := p.registered || p.ipcSocket ≠ -1 && reply.isSome }
      else p := by
  unfold registerWithEtaHEN sendIPCCommand
  by_cases connected : p.connected <;> by_cases closed : p.ipcSocket = -1 <;>
    cases reply <;> simp [connected, closed]

@[simp] theorem registerWithEtaHEN_registered (p : EtaHENPlugin) (pluginName version : String)
    (reply : Option String) :
    (p.registerWithEtaHEN pluginName version reply).2.registered =
      (p.registered || p.connected && p.ipcSocket ≠ -1 && reply.isSome) := by
  rw [registerWithEtaHEN_snd]
  split <;> simp_all

@[simp] theorem registerWithEtaHEN_connected (p : EtaHENPlugin) (pluginName version : String)
    (reply : Option String) :
    (p.registerWithEtaHEN pluginName version reply).2.connected = p.connected := by
  rw [registerWithEtaHEN_snd]
  split <;> rfl

@[simp] theorem registerWithEtaHEN_ipcSocket (p : EtaHENPlugin) (pluginName version : String)
    (reply : Option String) :
    (p.registerWithEtaHEN pluginName version reply).2.ipcSocket = p.ipcSocket := by
  rw [registerWithEtaHEN_snd]
  split <;> rfl

@[simp] theorem registerWithEtaHEN_ftpServerRunning (p : EtaHENPlugin)
    (pluginName version : String) (reply : Option String) :
    (p.registerWithEtaHEN pluginName version reply).2.ftpServerRunning = p.ftpServerRunning := by
  rw [registerWithEtaHEN_snd]
  split <;> rfl

@[simp] theorem registerWithEtaHEN_initialized (p : EtaHENPlugin) (pluginName version : String)
    (reply : Option String) :
    (p.registerWithEtaHEN pluginName version reply).2.initialized = p.initialized := by
  rw [registerWithEtaHEN_snd]
  split <;> rfl

@[simp] theorem unregisterFromEtaHEN_registered (p : EtaHENPlugin) :
    p.unregisterFromEtaHEN.registered = (p.registered && !p.connected) := by
  unfold unregisterFromEtaHEN
  by_cases registered : p.registered <;> by_cases connected : p.connected <;>
    simp [registered, connected]

@[simp] theorem unregisterFromEtaHEN_connected (p : EtaHENPlugin) :
    p.unregisterFromEtaHEN.connected = p.connected := by
  unfold unregisterFromEtaHEN
  split_ifs <;> rfl

@[simp] theorem unregisterFromEtaHEN_ipcSocket (p : EtaHENPlugin) :
    p.unregisterFromEtaHEN.ipcSocket = p.ipcSocket := by
  unfold unregisterFromEtaHEN
  split_ifs <;> rfl

@[simp] theorem unregisterFromEtaHEN_ftpServerRunning (p : EtaHENPlugin) :
    p.unregisterFromEtaHEN.ftpServerRunning = p.ftpServerRunning := by
  unfold unregisterFromEtaHEN
  split_ifs <;> rfl

/-- **`StartFTPServer`**: it sets the flag exactly when connected with a socket and
answered, and nothing else. -/
theorem startFTPServer_snd (p : EtaHENPlugin) (port : BitVec 16) (reply : Option String) :
    (p.startFTPServer port reply).2 =
      { p with ftpServerRunning :=
          p.ftpServerRunning || p.connected && p.ipcSocket ≠ -1 && reply.isSome } := by
  obtain ⟨_, _, connected, _, _, _, ipcSocket, running, _, _⟩ := p
  cases running <;> cases connected <;> by_cases closed : ipcSocket = -1 <;> cases reply <;>
    simp [startFTPServer, sendIPCCommand, closed]

@[simp] theorem startFTPServer_ftpServerRunning (p : EtaHENPlugin) (port : BitVec 16)
    (reply : Option String) :
    (p.startFTPServer port reply).2.ftpServerRunning =
      (p.ftpServerRunning || p.connected && p.ipcSocket ≠ -1 && reply.isSome) := by
  rw [startFTPServer_snd]

@[simp] theorem startFTPServer_connected (p : EtaHENPlugin) (port : BitVec 16)
    (reply : Option String) : (p.startFTPServer port reply).2.connected = p.connected := by
  rw [startFTPServer_snd]

@[simp] theorem startFTPServer_ipcSocket (p : EtaHENPlugin) (port : BitVec 16)
    (reply : Option String) : (p.startFTPServer port reply).2.ipcSocket = p.ipcSocket := by
  rw [startFTPServer_snd]

@[simp] theorem startFTPServer_registered (p : EtaHENPlugin) (port : BitVec 16)
    (reply : Option String) : (p.startFTPServer port reply).2.registered = p.registered := by
  rw [startFTPServer_snd]

@[simp] theorem stopFTPServer_ftpServerRunning (p : EtaHENPlugin) :
    p.stopFTPServer.ftpServerRunning = (p.ftpServerRunning && !p.connected) := by
  unfold stopFTPServer
  by_cases running : p.ftpServerRunning <;> by_cases connected : p.connected <;>
    simp [running, connected]

@[simp] theorem stopFTPServer_connected (p : EtaHENPlugin) :
    p.stopFTPServer.connected = p.connected := by
  unfold stopFTPServer
  split_ifs <;> rfl

@[simp] theorem stopFTPServer_ipcSocket (p : EtaHENPlugin) :
    p.stopFTPServer.ipcSocket = p.ipcSocket := by
  unfold stopFTPServer
  split_ifs <;> rfl

@[simp] theorem stopFTPServer_registered (p : EtaHENPlugin) :
    p.stopFTPServer.registered = p.registered := by
  unfold stopFTPServer
  split_ifs <;> rfl

@[simp] theorem stopFTPServer_initialized (p : EtaHENPlugin) :
    p.stopFTPServer.initialized = p.initialized := by
  unfold stopFTPServer
  split_ifs <;> rfl

@[simp] theorem shutdownIPC_ipcSocket (p : EtaHENPlugin) : p.shutdownIPC.ipcSocket = -1 := by
  unfold shutdownIPC
  split_ifs <;> simp_all

@[simp] theorem shutdownIPC_connected (p : EtaHENPlugin) :
    p.shutdownIPC.connected = p.connected := by
  unfold shutdownIPC
  split_ifs <;> rfl

@[simp] theorem shutdownIPC_registered (p : EtaHENPlugin) :
    p.shutdownIPC.registered = p.registered := by
  unfold shutdownIPC
  split_ifs <;> rfl

@[simp] theorem shutdownIPC_ftpServerRunning (p : EtaHENPlugin) :
    p.shutdownIPC.ftpServerRunning = p.ftpServerRunning := by
  unfold shutdownIPC
  split_ifs <;> rfl

/-! ### `Initialize` and `Shutdown` on the link -/

/-- `Initialize` on an uninitialized plugin: it connects exactly when `socket` and `connect`
work, and then registers exactly when the daemon answers. -/
theorem Initialize_of_not_initialized {p : EtaHENPlugin} (notInit : p.initialized = false)
    (socket : Option ℕ) (connectOk : Bool) (registerReply : Option String) :
    (p.Initialize socket connectOk registerReply).2.connected = (p.connected || socket.isSome && connectOk) ∧
      (p.Initialize socket connectOk registerReply).2.ipcSocket =
        (if socket.isSome && connectOk then socketDescriptor socket else -1) ∧
      (p.Initialize socket connectOk registerReply).2.registered =
        (p.registered || socket.isSome && connectOk && registerReply.isSome) ∧
      (p.Initialize socket connectOk registerReply).2.ftpServerRunning = p.ftpServerRunning := by
  unfold Initialize
  by_cases ok : socket.isSome && connectOk
  · have open_ := socketDescriptor_ne socket (Bool.and_eq_true _ _ ▸ ok).1
    simp [notInit, ok, open_]
  · simp [notInit, ok]

@[simp] theorem Initialize_initialized (p : EtaHENPlugin) (socket : Option ℕ) (connectOk : Bool)
    (registerReply : Option String) :
    (p.Initialize socket connectOk registerReply).2.initialized = true := by
  unfold Initialize
  split_ifs with init
  · exact init
  · by_cases ok : socket.isSome && connectOk <;> simp [ok]

theorem Initialize_of_initialized {p : EtaHENPlugin} (init : p.initialized = true)
    (socket : Option ℕ) (connectOk : Bool) (registerReply : Option String) :
    p.Initialize socket connectOk registerReply = (true, p) := by
  simp [Initialize, init]

theorem shutdown_of_not_initialized {p : EtaHENPlugin} (notInit : p.initialized = false) :
    p.shutdown stops = p := by
  simp [shutdown, notInit]

/-- **`Shutdown` on an initialized plugin** disconnects and closes the socket, but clears
`registered_` and `ftp_server_running_` only if it was still connected. -/
theorem shutdown_of_initialized {p : EtaHENPlugin} (init : p.initialized = true) :
    (p.shutdown stops).connected = false ∧ (p.shutdown stops).ipcSocket = -1 ∧
      (p.shutdown stops).registered = (p.registered && !p.connected) ∧
      (p.shutdown stops).ftpServerRunning = (p.ftpServerRunning && !p.connected) ∧
      (p.shutdown stops).initialized = false := by
  unfold shutdown
  by_cases registered : p.registered <;> by_cases connected : p.connected <;>
    simp [init, registered, connected]

/-- A second `Shutdown`, the destructor's, does nothing. -/
theorem shutdown_shutdown (p : EtaHENPlugin) :
    (p.shutdown stops).shutdown stops = p.shutdown stops := by
  cases init : p.initialized
  · rw [shutdown_of_not_initialized stops init, shutdown_of_not_initialized stops init]
  · exact shutdown_of_not_initialized stops (shutdown_of_initialized stops init).2.2.2.2

/-! ### The link invariants -/

/-- A plugin that is not connected has no socket. -/
def SocketClosedWhenDisconnected (p : EtaHENPlugin) : Prop :=
  p.connected = false → p.ipcSocket = -1

/-- The invariants of the link: connected exactly with a socket, and registered or serving
FTP only while connected. -/
def Coherent (p : EtaHENPlugin) : Prop :=
  (p.connected = true ↔ p.ipcSocket ≠ -1) ∧ (p.registered = true → p.connected = true) ∧
    (p.ftpServerRunning = true → p.connected = true)

instance (p : EtaHENPlugin) : Decidable (Coherent p) := inferInstanceAs (Decidable (_ ∧ _ ∧ _))

theorem socketClosedWhenDisconnected_step {p : EtaHENPlugin}
    (closed : SocketClosedWhenDisconnected p) (op : PluginOp) :
    SocketClosedWhenDisconnected (p.step stops op) := by
  unfold SocketClosedWhenDisconnected at *
  cases op with
  | Initialize socket connectOk registerReply =>
    cases init : p.initialized
    · obtain ⟨connected, ipcSocket, -⟩ := Initialize_of_not_initialized init socket connectOk registerReply
      simp only [step, connected, ipcSocket]
      split <;> simp_all
    · simpa [step, Initialize_of_initialized init] using closed
  | connectToEtaHEN socket connectOk =>
    simp only [step, connectToEtaHEN_connected, connectToEtaHEN_ipcSocket]
    split <;> simp_all
  | disconnectFromEtaHEN => simp_all [step]
  | shutdown =>
    cases init : p.initialized
    · simpa [step, shutdown_of_not_initialized stops init] using closed
    · simp [step, shutdown_of_initialized stops init]
  | registerWithEtaHEN | unregisterFromEtaHEN | startFTPServer | stopFTPServer =>
    simpa [step] using closed
  | requestJailbreak | enableDataAccess | loadELF | getEtaHENVersion | update => exact closed

/-- **On every run, a plugin that is not connected has no socket.** -/
theorem Reachable.socketClosedWhenDisconnected {p : EtaHENPlugin} (reach : Reachable stops p) :
    SocketClosedWhenDisconnected p := by
  induction reach with
  | new => intro _; rfl
  | step op _ closed => exact socketClosedWhenDisconnected_step stops closed op

end EtaHENPlugin

/-- The operations that break `Coherent`: a `DisconnectFromEtaHEN` that leaves a
registration or an FTP server behind, and a `ConnectToEtaHEN`, called directly or by
`Initialize`, on a plugin that is already connected. -/
def PluginOp.disturbs (p : EtaHENPlugin) : PluginOp → Bool
  | .Initialize .. => !p.initialized && p.connected
  | .connectToEtaHEN .. => p.connected
  | .disconnectFromEtaHEN => p.registered || p.ftpServerRunning
  | _ => false

namespace EtaHENPlugin

variable (stops : ServiceStops)

/-- The plugin states reachable from the constructor by operations that do not disturb the
link. -/
inductive ReachableUndisturbed : EtaHENPlugin → Prop
  | new : ReachableUndisturbed new
  | step {p : EtaHENPlugin} (op : PluginOp) (quiet : op.disturbs p = false) :
      ReachableUndisturbed p → ReachableUndisturbed (p.step stops op)

theorem ReachableUndisturbed.reachable {p : EtaHENPlugin} (reach : ReachableUndisturbed stops p) :
    Reachable stops p := by
  induction reach with
  | new => exact .new
  | step op _ _ reach => exact .step op reach

/-- A coherent plugin that is not connected has no socket, no registration and no FTP
server. -/
theorem Coherent.of_not_connected {p : EtaHENPlugin} (coherent : Coherent p)
    (notConnected : p.connected = false) :
    p.ipcSocket = -1 ∧ p.registered = false ∧ p.ftpServerRunning = false := by
  obtain ⟨linked, registered, ftp⟩ := coherent
  refine ⟨?_, Bool.eq_false_iff.2 fun reg => ?_, Bool.eq_false_iff.2 fun serving => ?_⟩
  · simpa [notConnected] using mt linked.2
  · simp [registered reg] at notConnected
  · simp [ftp serving] at notConnected

theorem Coherent.linkDown_shutdown {p : EtaHENPlugin} (coherent : Coherent p)
    (init : p.initialized = true) :
    (p.shutdown stops).ipcSocket = -1 ∧ (p.shutdown stops).connected = false ∧
      (p.shutdown stops).registered = false ∧ (p.shutdown stops).ftpServerRunning = false := by
  obtain ⟨connected, ipcSocket, registered, ftp, -⟩ := shutdown_of_initialized stops init
  cases linked : p.connected
  · obtain ⟨-, notRegistered, notServing⟩ := coherent.of_not_connected linked
    simp [connected, ipcSocket, registered, ftp, notRegistered, notServing]
  · simp [connected, ipcSocket, registered, ftp, linked]

theorem coherent_step {p : EtaHENPlugin} (coherent : Coherent p) (op : PluginOp)
    (quiet : op.disturbs p = false) : Coherent (p.step stops op) := by
  cases op with
  | Initialize socket connectOk registerReply =>
    cases init : p.initialized
    · have notConnected : p.connected = false := by simpa [PluginOp.disturbs, init] using quiet
      obtain ⟨-, notRegistered, notServing⟩ := coherent.of_not_connected notConnected
      obtain ⟨connected, ipcSocket, registered, ftp⟩ :=
        Initialize_of_not_initialized init socket connectOk registerReply
      simp only [Coherent, step, connected, ipcSocket, registered, ftp, notConnected,
        notRegistered, notServing]
      by_cases ok : socket.isSome && connectOk
      · simp [ok, socketDescriptor_ne socket (Bool.and_eq_true _ _ ▸ ok).1]
      · simp [ok]
    · simpa [step, Initialize_of_initialized init] using coherent
  | connectToEtaHEN socket connectOk =>
    have notConnected : p.connected = false := by simpa [PluginOp.disturbs] using quiet
    obtain ⟨-, notRegistered, notServing⟩ := coherent.of_not_connected notConnected
    simp only [Coherent, step, connectToEtaHEN_connected, connectToEtaHEN_ipcSocket,
      connectToEtaHEN_registered, connectToEtaHEN_ftpServerRunning, notConnected,
      notRegistered, notServing]
    by_cases ok : socket.isSome && connectOk
    · simp [ok, socketDescriptor_ne socket (Bool.and_eq_true _ _ ▸ ok).1]
    · simp [ok]
  | disconnectFromEtaHEN =>
    simp only [PluginOp.disturbs, Bool.or_eq_false_iff] at quiet
    cases linked : p.connected
    · simp [Coherent, step, linked, coherent.of_not_connected linked, quiet]
    · simp [Coherent, step, linked, quiet]
  | shutdown =>
    cases init : p.initialized
    · simpa [step, shutdown_of_not_initialized stops init] using coherent
    · obtain ⟨ipcSocket, connected, registered, ftp⟩ := coherent.linkDown_shutdown stops init
      simp [Coherent, step, ipcSocket, connected, registered, ftp]
  | registerWithEtaHEN pluginName version reply =>
    obtain ⟨linked, registered, ftp⟩ := coherent
    refine ⟨by simpa [step] using linked, fun reg => ?_, by simpa [step] using ftp⟩
    simp only [step, registerWithEtaHEN_registered, Bool.or_eq_true, Bool.and_eq_true] at reg
    rcases reg with reg | ⟨⟨connected, -⟩, -⟩
    · simpa [step] using registered reg
    · simpa [step] using connected
  | unregisterFromEtaHEN =>
    obtain ⟨linked, registered, ftp⟩ := coherent
    refine ⟨by simpa [step] using linked, fun reg => ?_, by simpa [step] using ftp⟩
    simp only [step, unregisterFromEtaHEN_registered, Bool.and_eq_true] at reg
    simpa [step] using registered reg.1
  | startFTPServer port reply =>
    obtain ⟨linked, registered, ftp⟩ := coherent
    refine ⟨by simpa [step] using linked, by simpa [step] using registered, fun serving => ?_⟩
    simp only [step, startFTPServer_ftpServerRunning, Bool.or_eq_true, Bool.and_eq_true] at serving
    rcases serving with serving | ⟨⟨connected, -⟩, -⟩
    · simpa [step] using ftp serving
    · simpa [step] using connected
  | stopFTPServer =>
    obtain ⟨linked, registered, ftp⟩ := coherent
    refine ⟨by simpa [step] using linked, by simpa [step] using registered, fun serving => ?_⟩
    simp only [step, stopFTPServer_ftpServerRunning, Bool.and_eq_true] at serving
    simpa [step] using ftp serving.1
  | requestJailbreak | enableDataAccess | loadELF | getEtaHENVersion | update => exact coherent

/-- **On runs that never disconnect a registered or serving plugin and never reconnect a
connected one, the link stays coherent**: connected exactly with a socket, registered and
serving FTP only while connected. -/
theorem ReachableUndisturbed.coherent {p : EtaHENPlugin} (reach : ReachableUndisturbed stops p) :
    Coherent p := by
  induction reach with
  | new => exact ⟨by decide, by decide, by decide⟩
  | step op quiet _ coherent => exact coherent_step stops coherent op quiet

/-- A plugin initialized with a working daemon stays coherent. -/
theorem coherent_after_initialize :
    (PluginOp.Initialize (some 3) true (some "OK")).disturbs new = false ∧
      Coherent (new.step .stopped (.Initialize (some 3) true (some "OK"))) :=
  ⟨rfl, ReachableUndisturbed.coherent .stopped (.step _ rfl .new)⟩

/-! ### What does not hold on every run -/

/-- **The link invariants fail.**  After `Initialize` with a working daemon and
`StartFTPServer`, `DisconnectFromEtaHEN` leaves the plugin registered and serving FTP while
disconnected, and `Shutdown` then leaves both flags set.  A second `ConnectToEtaHEN` whose
`socket` fails leaves the plugin connected with no socket.  And `Shutdown` of a plugin that
only called `ConnectToEtaHEN` leaves its socket open and connected. -/
theorem plugin_breaks_link_invariants :
    let initialized := new.step .stopped (.Initialize (some 3) true (some "OK"))
    let dropped := (initialized.step .stopped (.startFTPServer 1337 (some "OK"))).step .stopped
      .disconnectFromEtaHEN
    let reconnected := initialized.step .stopped (.connectToEtaHEN none true)
    let connectedOnly := new.step .stopped (.connectToEtaHEN (some 3) true)
    (dropped.connected = false ∧ dropped.registered = true ∧ dropped.ftpServerRunning = true) ∧
      ((dropped.step .stopped .shutdown).registered = true ∧
        (dropped.step .stopped .shutdown).ftpServerRunning = true) ∧
      (reconnected.connected = true ∧ reconnected.ipcSocket = -1) ∧
      ((connectedOnly.step .stopped .shutdown).connected = true ∧
        (connectedOnly.step .stopped .shutdown).ipcSocket = 3) := by
  decide

end EtaHENPlugin

end EdenPS5.EtaHEN
