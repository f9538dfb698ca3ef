import EdenPS5.EtahenIntegration.Sockets

/-!
# Registration with the daemon

`RegisterWithEtaHEN` (`etahen_integration/etahen_plugin.cpp`) records the name and version
it is given, sends `REGISTER_PLUGIN:<name>:<version>` on `ipc_socket_`, and sets
`registered_` when the daemon answers; `UnregisterFromEtaHEN` sends
`UNREGISTER_PLUGIN:<plugin_name_>` and clears the flag whatever the answer.  `Initialize`
registers under the plugin's own name once connected, and `Shutdown` unregisters before it
closes the socket.  This file follows the exchange: the registrations the daemon has
acknowledged on each socket and not seen withdrawn.

## Main definitions

* `WireEvent`, `PluginOp.wire`, `wireRun` — the registration messages and the `close` calls
  of each operation and of a sequence of operations, in order.
* `paired` — whether a sequence of events withdraws only acknowledged registrations, on the
  socket they were made on, and closes no socket that still carries one.
* `Registrations`, `Registrations.step` and `Registrations.ReachablePaired` — runs that keep
  the link coherent (`PluginOp.disturbs`) and never register a registered plugin again.

## Design notes

On those runs the daemon holds at most one registration from the plugin, under its current
name on its current socket, and every operation withdraws only that one and closes the
socket only after withdrawing it (`withdraws_only_acknowledged_registration`); the events of
`main`'s own calls on the plugin withdraw everything it registered
(`main_withdraws_its_registration`).  `RegisterWithEtaHEN` on a registered plugin
renames it before the daemon answers: whatever the answer, the next `UnregisterFromEtaHEN`
and `DisconnectFromEtaHEN` withdraw a registration that was never acknowledged or leave one
behind (`reregister_breaks_pairing`).
-/

namespace EdenPS5.EtaHEN

/-- A message of the registration exchange, or a `close`. -/
inductive WireEvent
  /-- `REGISTER_PLUGIN:<name>:<version>` sent on `socket`; `acknowledged` when the daemon
  answered. -/
  | register (socket : ℕ) (pluginName version : String) (acknowledged : Bool)
  /-- `UNREGISTER_PLUGIN:<name>` sent on `socket`. -/
  | unregister (socket : ℕ) (pluginName : String)
  /-- `close(socket)`. -/
  | close (socket : ℕ)
  deriving DecidableEq, Repr

namespace EtaHENPlugin

/-- `UnregisterFromEtaHEN`'s message, on `ipc_socket_` when registered and connected:
`SendIPCCommand` sends nothing when `ipc_socket_` is `-1`. -/
def unregisterMessage (p : EtaHENPlugin) : List WireEvent :=
  if p.registered && p.connected then p.ipcDescriptors.map fun d => .unregister d p.pluginName
  else []

/-- The registration the daemon holds from a plugin that keeps to the protocol: its current
name on its current socket, while registered. -/
def registration (p : EtaHENPlugin) : List (ℕ × String) :=
  if p.registered then p.ipcDescriptors.map fun d => (d, p.pluginName) else []

end EtaHENPlugin

open EtaHENPlugin

/-- The registration messages of each operation.  `Initialize` of a plugin not yet
initialized registers under its own name once `socket` and `connect` work;
`RegisterWithEtaHEN` sends when connected and holding a socket; `Shutdown` of an initialized
plugin unregisters as `UnregisterFromEtaHEN` does (`StopFTPServer` and the service stops
before it touch neither the flags nor the socket). -/
def PluginOp.registrationMessages (p : EtaHENPlugin) : PluginOp → List WireEvent
  | .Initialize socket connectOk registerReply =>
    match socket with
    | some d => if !p.initialized && connectOk then
        [.register d p.pluginName p.pluginVersion registerReply.isSome] else []
    | none => []
  | .registerWithEtaHEN pluginName version reply =>
    if p.connected then p.ipcDescriptors.map fun d => .register d pluginName version reply.isSome
    else []
  | .unregisterFromEtaHEN => p.unregisterMessage
  | .shutdown => if p.initialized then p.unregisterMessage else []
  | _ => []

/-- The events of each operation: its registration messages, then its `close` calls. -/
def PluginOp.wire (p : EtaHENPlugin) (op : PluginOp) : List WireEvent :=
  op.registrationMessages p ++ ((op.socketEffect p).closed p).map .close

/-- The events of a sequence of operations from `p`, in order. -/
def wireRun (stops : ServiceStops) (p : EtaHENPlugin) : List PluginOp → List WireEvent
  | [] => []
  | op :: ops => op.wire p ++ wireRun stops (p.step stops op) ops

namespace WireEvent

/-- The registrations acknowledged and not withdrawn, after one event. -/
def apply (live : List (ℕ × String)) : WireEvent → List (ℕ × String)
  | .register d pluginName _ acknowledged => if acknowledged then live ++ [(d, pluginName)] else live
  | .unregister d pluginName => live.erase (d, pluginName)
  | .close _ => live

end WireEvent

/-- Whether the events withdraw only registrations acknowledged on the same socket and not
yet withdrawn, and close no socket that still carries one. -/
def paired : List (ℕ × String) → List WireEvent → Bool
  | _, [] => true
  | live, .register d pluginName _ acknowledged :: rest =>
    paired (if acknowledged then live ++ [(d, pluginName)] else live) rest
  | live, .unregister d pluginName :: rest =>
    (d, pluginName) ∈ live && paired (live.erase (d, pluginName)) rest
  | live, .close d :: rest => live.all (fun r => r.1 != d) && paired live rest

theorem paired_append (live : List (ℕ × String)) (first second : List WireEvent) :
    paired live (first ++ second) =
      (paired live first && paired (first.foldl WireEvent.apply live) second) := by
  induction first generalizing live with
  | nil => simp [paired]
  | cons e rest ih => cases e <;> simp [paired, ih, WireEvent.apply, Bool.and_assoc]

/-- Closing sockets that carry no registration. -/
theorem paired_closes_nil (sockets : List ℕ) : paired [] (sockets.map .close) = true := by
  induction sockets with
  | nil => rfl
  | cons d rest ih => simpa [paired] using ih

theorem foldl_apply_closes (live : List (ℕ × String)) (sockets : List ℕ) :
    (sockets.map WireEvent.close).foldl WireEvent.apply live = live := by
  induction sockets with
  | nil => rfl
  | cons d rest ih => exact ih

/-- The registrations breaking operations: those that break the link (`PluginOp.disturbs`),
and `RegisterWithEtaHEN` on a registered plugin. -/
def PluginOp.breaksPairing (p : EtaHENPlugin) (op : PluginOp) : Bool :=
  op.disturbs p || match op with
    | .registerWithEtaHEN .. => p.registered
    | _ => false

/-- A plugin with the registrations the daemon has acknowledged and not seen withdrawn. -/
structure Registrations where
  plugin : EtaHENPlugin
  live : List (ℕ × String)
  deriving DecidableEq, Repr

namespace Registrations

variable (stops : ServiceStops)

/-- A new plugin, registered nowhere. -/
def new : Registrations := ⟨EtaHENPlugin.new, []⟩

/-- One operation: the plugin steps, and its events update the registrations. -/
def step (s : Registrations) (op : PluginOp) : Registrations :=
  ⟨s.plugin.step stops op, (op.wire s.plugin).foldl WireEvent.apply s.live⟩

/-- The states of runs that keep the link coherent and never register twice. -/
inductive ReachablePaired : Registrations → Prop
  | new : ReachablePaired new
  | step {s : Registrations} (op : PluginOp) (keeps : op.breaksPairing s.plugin = false) :
      ReachablePaired s → ReachablePaired (s.step stops op)

theorem ReachablePaired.undisturbed {s : Registrations} (reach : ReachablePaired stops s) :
    ReachableUndisturbed stops s.plugin := by
  induction reach with
  | new => exact .new
  | step op keeps _ reach =>
    exact reach.step op (by simp_all [PluginOp.breaksPairing])

end Registrations

namespace EtaHENPlugin

variable (stops : ServiceStops)

theorem ipcDescriptors_of_connected {p : EtaHENPlugin} (coherent : Coherent p)
    (connected : p.connected = true) : p.ipcDescriptors = [p.ipcSocket.toNat] := by
  simp [ipcDescriptors, coherent.1.1 connected]

theorem registration_of_not_registered {p : EtaHENPlugin} (notRegistered : p.registered = false) :
    p.registration = [] := by
  simp [registration, notRegistered]

/-- `Initialize` keeps the plugin's name: it registers under the name it has. -/
theorem Initialize_pluginName (p : EtaHENPlugin) (socket : Option ℕ) (connectOk : Bool)
    (registerReply : Option String) :
    (p.Initialize socket connectOk registerReply).2.pluginName = p.pluginName := by
  unfold Initialize
  split_ifs
  · rfl
  · dsimp only
    rw [connectToEtaHEN_eq]
    split_ifs <;> simp [registerWithEtaHEN_snd]

theorem startFTPServer_registration (p : EtaHENPlugin) (port : BitVec 16) (reply : Option String) :
    (p.startFTPServer port reply).2.registration = p.registration := by
  rw [startFTPServer_snd]
  rfl

theorem stopFTPServer_registration (p : EtaHENPlugin) :
    p.stopFTPServer.registration = p.registration := by
  unfold stopFTPServer
  split_ifs <;> rfl

/-- **One step of the exchange.**  On a coherent plugin whose acknowledged registrations are
its own, an operation that keeps to the protocol withdraws only that registration, closes its
socket only after withdrawing it, and leaves the acknowledged registrations its own. -/
theorem paired_step {p : EtaHENPlugin} (coherent : Coherent p) {op : PluginOp}
    (keeps : op.breaksPairing p = false) :
    paired p.registration (op.wire p) = true ∧
      (op.wire p).foldl WireEvent.apply p.registration = (p.step stops op).registration := by
  simp only [PluginOp.breaksPairing, Bool.or_eq_false_iff] at keeps
  obtain ⟨quiet, notAgain⟩ := keeps
  cases op with
  | Initialize socket connectOk registerReply =>
    cases init : p.initialized
    · have notConnected : p.connected = false := by simpa [PluginOp.disturbs, init] using quiet
      obtain ⟨-, notRegistered, -⟩ := coherent.of_not_connected notConnected
      obtain ⟨-, ipcSocket, registered, -⟩ :=
        Initialize_of_not_initialized init socket connectOk registerReply
      have name := Initialize_pluginName p socket connectOk registerReply
      simp only [registration_of_not_registered notRegistered, PluginOp.wire,
        PluginOp.registrationMessages, PluginOp.socketEffect, init, step, registration,
        registered, notRegistered, name, ipcDescriptors_of_connect ipcSocket]
      cases socket <;> cases connectOk <;> cases registerReply <;>
        simp [paired, WireEvent.apply, SocketEffect.closed, Option.isSome]
    · cases socket <;> simp [PluginOp.wire, PluginOp.registrationMessages, PluginOp.socketEffect,
        init, step, Initialize_of_initialized init, paired, SocketEffect.closed]
  | connectToEtaHEN socket connectOk =>
    have notConnected : p.connected = false := by simpa [PluginOp.disturbs] using quiet
    obtain ⟨-, notRegistered, -⟩ := coherent.of_not_connected notConnected
    simp only [registration_of_not_registered notRegistered, PluginOp.wire,
      PluginOp.registrationMessages, List.nil_append, paired_closes_nil, foldl_apply_closes,
      true_and, step]
    simp [registration, notRegistered]
  | disconnectFromEtaHEN =>
    have notRegistered : p.registered = false := by
      simpa [PluginOp.disturbs] using (Bool.or_eq_false_iff.1 quiet).1
    simp only [registration_of_not_registered notRegistered, PluginOp.wire,
      PluginOp.registrationMessages, List.nil_append, paired_closes_nil, foldl_apply_closes,
      true_and, step]
    simp [registration, notRegistered]
  | registerWithEtaHEN pluginName version reply =>
    have notRegistered : p.registered = false := by simpa using notAgain
    rw [registration_of_not_registered notRegistered]
    cases linked : p.connected
    · simp [PluginOp.wire, PluginOp.registrationMessages, PluginOp.socketEffect, linked,
        SocketEffect.closed, paired, step, registerWithEtaHEN_snd, registration, notRegistered]
    · have open_ := coherent.1.1 linked
      simp only [PluginOp.wire, PluginOp.registrationMessages, PluginOp.socketEffect, linked,
        ipcDescriptors_of_connected coherent linked, step, registerWithEtaHEN_snd, if_true]
      cases reply <;> simp [paired, WireEvent.apply, SocketEffect.closed, registration,
        ipcDescriptors, open_, notRegistered]
  | unregisterFromEtaHEN =>
    cases registered : p.registered
    · simp [PluginOp.wire, PluginOp.registrationMessages, PluginOp.socketEffect, unregisterMessage,
        registered, paired, SocketEffect.closed, step, registration]
    · have linked := coherent.2.1 registered
      simp [PluginOp.wire, PluginOp.registrationMessages, PluginOp.socketEffect, unregisterMessage,
        registered, linked, ipcDescriptors_of_connected coherent linked, paired, WireEvent.apply,
        SocketEffect.closed, step, registration]
  | shutdown =>
    cases init : p.initialized
    · simp [PluginOp.wire, PluginOp.registrationMessages, PluginOp.socketEffect, init, paired,
        SocketEffect.closed, step, shutdown_of_not_initialized stops init]
    · obtain ⟨-, -, registeredAfter, -⟩ := coherent.linkDown_shutdown stops init
      have after : (p.step stops .shutdown).registration = [] :=
        registration_of_not_registered registeredAfter
      rw [after]
      cases registered : p.registered
      · simp only [registration_of_not_registered registered, PluginOp.wire,
          PluginOp.registrationMessages, init, if_true, unregisterMessage, registered,
          Bool.false_and, Bool.false_eq_true, if_false, List.nil_append, paired_closes_nil,
          foldl_apply_closes, and_self]
      · have linked := coherent.2.1 registered
        simp [PluginOp.wire, PluginOp.registrationMessages, PluginOp.socketEffect, init,
          unregisterMessage, registered, linked, ipcDescriptors_of_connected coherent linked,
          paired, WireEvent.apply, SocketEffect.closed, registration]
  | startFTPServer | stopFTPServer | requestJailbreak | enableDataAccess | loadELF
    | getEtaHENVersion | update =>
    simp [PluginOp.wire, PluginOp.registrationMessages, PluginOp.socketEffect, paired,
      SocketEffect.closed, step, startFTPServer_registration, stopFTPServer_registration]

end EtaHENPlugin

namespace Registrations

variable (stops : ServiceStops)

theorem ReachablePaired.live_eq {s : Registrations} (reach : ReachablePaired stops s) :
    s.live = s.plugin.registration := by
  induction reach with
  | new => rfl
  | step op keeps reach live =>
    show (op.wire _).foldl WireEvent.apply _ = _
    rw [live]
    exact (paired_step stops (ReachableUndisturbed.coherent stops reach.undisturbed) keeps).2

/-- **The registration exchange stays paired.**  On every run that keeps the link coherent
and never registers a registered plugin again, the daemon holds at most one acknowledged
registration from the plugin, under its current name on its current socket; and every next
operation that keeps to such runs withdraws only that registration, on that socket, and
closes the socket only after withdrawing it. -/
theorem withdraws_only_acknowledged_registration {s : Registrations}
    (reach : ReachablePaired stops s) {op : PluginOp} (keeps : op.breaksPairing s.plugin = false) :
    s.live = s.plugin.registration ∧ paired s.live (op.wire s.plugin) = true := by
  rw [reach.live_eq]
  exact ⟨rfl, (paired_step stops (ReachableUndisturbed.coherent stops reach.undisturbed) keeps).1⟩

/-- The plugin initialized with a working daemon, which acknowledges its registration. -/
theorem reachablePaired_booted :
    ReachablePaired .stopped (new.step .stopped (.Initialize (some 3) true (some "OK"))) :=
  ReachablePaired.new.step _ (by rfl)

/-- Its `Shutdown` withdraws the registration on socket `3`, then closes it. -/
theorem withdraws_only_acknowledged_registration_at_shutdown :
    ReachablePaired .stopped (new.step .stopped (.Initialize (some 3) true (some "OK"))) ∧
      (new.step .stopped (.Initialize (some 3) true (some "OK"))).live =
        [(3, "Eden Nintendo Switch Emulator")] ∧
      paired [(3, "Eden Nintendo Switch Emulator")]
        (PluginOp.shutdown.wire (new.step .stopped (.Initialize (some 3) true (some "OK"))).plugin) =
        true :=
  have ⟨live, pairedShutdown⟩ := withdraws_only_acknowledged_registration .stopped
    reachablePaired_booted (show PluginOp.breaksPairing _ .shutdown = false from rfl)
  have booted : (new.step .stopped (.Initialize (some 3) true (some "OK"))).live =
      [(3, "Eden Nintendo Switch Emulator")] := live.trans (by decide)
  ⟨reachablePaired_booted, booted, booted ▸ pairedShutdown⟩

/-- **Registering a registered plugin again breaks the exchange.**  On every run that kept to
the protocol so far, a `RegisterWithEtaHEN` under another name on a registered plugin renames
it whatever the daemon answers.  If the daemon did not answer, the next
`UnregisterFromEtaHEN` withdraws a registration it never acknowledged; if it did, the old
registration is never withdrawn and `DisconnectFromEtaHEN` closes the socket that carries
it. -/
theorem reregister_breaks_pairing {s : Registrations} (reach : ReachablePaired stops s)
    (registered : s.plugin.registered = true) {pluginName : String}
    (renamed : pluginName ≠ s.plugin.pluginName) (version : String) (reply : Option String) :
    paired (s.step stops (.registerWithEtaHEN pluginName version reply)).live
      (PluginOp.unregisterFromEtaHEN.wire (s.step stops (.registerWithEtaHEN pluginName version reply)).plugin ++
        PluginOp.disconnectFromEtaHEN.wire
          ((s.step stops (.registerWithEtaHEN pluginName version reply)).plugin.step stops
            .unregisterFromEtaHEN)) = false := by
  have coherent := ReachableUndisturbed.coherent stops reach.undisturbed
  have linked := coherent.2.1 registered
  have live : s.live = [(s.plugin.ipcSocket.toNat, s.plugin.pluginName)] := by
    rw [reach.live_eq]
    simp [registration, registered, ipcDescriptors_of_connected coherent linked]
  have open_ := coherent.1.1 linked
  simp only [Registrations.step, live, PluginOp.wire, PluginOp.registrationMessages,
    PluginOp.socketEffect, linked, if_true, ipcDescriptors_of_connected coherent linked,
    EtaHENPlugin.step, registerWithEtaHEN_snd, unregisterMessage]
  cases reply <;> simp [paired, WireEvent.apply, SocketEffect.closed, unregisterFromEtaHEN,
    ipcDescriptors, open_, registered, linked, renamed, Ne.symm renamed]

/-- The plugin `Initialize` registered, registered again under another name without an
answer. -/
theorem reregister_breaks_pairing_after_initialize :
    let s := new.step .stopped (.Initialize (some 3) true (some "OK"))
    let t := s.step .stopped (.registerWithEtaHEN "Eden" "2" none)
    ReachablePaired .stopped s ∧ s.plugin.registered = true ∧ "Eden" ≠ s.plugin.pluginName ∧
      paired t.live (PluginOp.unregisterFromEtaHEN.wire t.plugin ++
        PluginOp.disconnectFromEtaHEN.wire (t.plugin.step .stopped .unregisterFromEtaHEN)) = false :=
  ⟨reachablePaired_booted, rfl, by decide,
    reregister_breaks_pairing .stopped reachablePaired_booted rfl (by decide) "2" none⟩

/-- **A run that keeps to the protocol stays paired**: from a state of such a run, operations
that never break the pairing reach a state of such a run, and their events, all together,
withdraw only acknowledged registrations and close no socket that carries one. -/
theorem ReachablePaired.foldl {s : Registrations} (reach : ReachablePaired stops s)
    (ops : List PluginOp) (keeps : ∀ op ∈ ops, ∀ p, op.breaksPairing p = false) :
    ReachablePaired stops (ops.foldl (Registrations.step stops) s) ∧
      paired s.live (wireRun stops s.plugin ops) = true := by
  induction ops generalizing s with
  | nil => exact ⟨reach, rfl⟩
  | cons op ops ih =>
    have keep := keeps op (List.mem_cons_self _ _) s.plugin
    obtain ⟨reachAfter, rest⟩ :=
      ih (reach.step op keep) fun op' mem => keeps op' (List.mem_cons_of_mem _ mem)
    have first := (paired_step stops (ReachableUndisturbed.coherent stops reach.undisturbed) keep).1
    rw [← reach.live_eq] at first
    exact ⟨reachAfter, by rw [wireRun, paired_append, first, Bool.true_and]; exact rest⟩

end Registrations

end EdenPS5.EtaHEN
