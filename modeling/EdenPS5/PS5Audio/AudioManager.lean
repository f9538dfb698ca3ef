import Mathlib.Data.List.Nodup
import Mathlib.Tactic.SplitIfs

/-!
# The audio manager

`PS5AudioManager` (`ps5_audio/ps5_audio_manager.cpp`) owns its output and input devices and
its streams through `unique_ptr`s, and hands out raw pointers: the two default devices, and
the streams it creates.  Each stream keeps a pointer to the device it plays on.  This file
models both builds (`Build`), with the result of each stream's `Initialize` as an argument.

## Main definitions

* `PS5AudioDevice`, `PS5AudioStream` — the objects, by their constructors' arguments and
  their address.  `new` places each object at a fresh address, `nextAddress`, which is
  never reused: unlike the heap, the model gives a destroyed object's address to no later
  one, so a stale pointer handed back to `DestroyStream` names no live stream here.
* `PS5AudioManager` and one definition per member function; `createStream` is the body that
  `CreateOutputStream` and `CreateInputStream` share.
* `AudioInvariant` — no stream without initialization, every stream on an owned device, and
  each default device null or owned.

## Design notes

Devices are replaced only by `EnumerateAudioDevices` (from `Initialize`, on a manager that
is not initialized) and dropped only by `CleanupAudioDevices` (from `Shutdown`, after the
streams are cleared).  So the streams are empty whenever the devices change, which is what
keeps every stream on a live device (`Reachable.audioInvariant`).
-/

namespace EdenPS5.PS5Audio

/-- The two configurations the sources compile in: `PS5_BUILD` or the development host. -/
inductive Build
  | ps5
  | development
  deriving DecidableEq, Repr

/-- `PS5AudioDevice::Type`. -/
inductive DeviceType
  | output
  | input
  deriving DecidableEq, Repr

/-- `PS5AudioStream::Type`. -/
inductive StreamType
  | output
  | input
  deriving DecidableEq, Repr

/-- A `PS5AudioDevice`: its address and its constructor's arguments. -/
structure PS5AudioDevice where
  address : ℕ
  type : DeviceType
  id : ℕ
  name : String
  isDefault : Bool
  deriving DecidableEq, Repr

/-- A `PS5AudioStream`: its address, its constructor's arguments, and the address of its
device. -/
structure PS5AudioStream where
  address : ℕ
  type : StreamType
  device : ℕ
  sampleRate : BitVec 32
  channels : BitVec 32
  bufferSize : BitVec 32
  deriving DecidableEq, Repr

/-- The state of a `PS5AudioManager`.  A pointer is an `Option ℕ`, `none` for `nullptr`.
`nextAddress` is where `new` places the next object. -/
structure PS5AudioManager where
  outputDevices : List PS5AudioDevice
  inputDevices : List PS5AudioDevice
  streams : List PS5AudioStream
  defaultOutputDevice : Option ℕ
  defaultInputDevice : Option ℕ
  initialized : Bool
  masterVolume : Float
  isMuted : Bool
  is3dAudioEnabled : Bool
  is3dAudioAvailable : Bool
  nextAddress : ℕ

namespace PS5AudioManager

/-- `PS5AudioManager()`. -/
def new : PS5AudioManager where
  outputDevices := []
  inputDevices := []
  streams := []
  defaultOutputDevice := none
  defaultInputDevice := none
  initialized := false
  masterVolume := 1.0
  isMuted := false
  is3dAudioEnabled := false
  is3dAudioAvailable := false
  nextAddress := 0

/-- `std::make_unique<PS5AudioDevice>(type, id, name, is_default)`. -/
def newDevice (m : PS5AudioManager) (type : DeviceType) (id : ℕ) (name : String)
    (isDefault : Bool) : PS5AudioDevice × PS5AudioManager :=
  (⟨m.nextAddress, type, id, name, isDefault⟩, { m with nextAddress := m.nextAddress + 1 })

/-- `EnumerateAudioDevices`: the device lists are cleared and refilled, the first device of
each kind becoming the default; it succeeds when there is an output device. -/
def enumerateAudioDevices (build : Build) (m : PS5AudioManager) : Bool × PS5AudioManager :=
  let m := { m with outputDevices := [], inputDevices := [] }
  let m := match build with
    | .ps5 =>
      let (mainOutput, m) := m.newDevice .output 0 "Main Output (HDMI)" true
      let m := { m with
        defaultOutputDevice := some mainOutput.address
        outputDevices := m.outputDevices ++ [mainOutput] }
      let (headphoneOutput, m) := m.newDevice .output 1 "Headphones" false
      let m := { m with outputDevices := m.outputDevices ++ [headphoneOutput] }
      let (micInput, m) := m.newDevice .input 0 "Microphone" true
      { m with
        defaultInputDevice := some micInput.address
        inputDevices := m.inputDevices ++ [micInput] }
    | .development =>
      let (mockOutput, m) := m.newDevice .output 0 "Mock Output" true
      let m := { m with
        defaultOutputDevice := some mockOutput.address
        outputDevices := m.outputDevices ++ [mockOutput] }
      let (mockInput, m) := m.newDevice .input 0 "Mock Input" true
      { m with
        defaultInputDevice := some mockInput.address
        inputDevices := m.inputDevices ++ [mockInput] }
  (!m.outputDevices.isEmpty, m)

/-- `CleanupAudioDevices`. -/
def cleanupAudioDevices (m : PS5AudioManager) : PS5AudioManager :=
  { m with defaultOutputDevice := none, defaultInputDevice := none, outputDevices := [],
           inputDevices := [] }

/-- **`PS5AudioManager::Initialize`**: `InitializePS5AudioSystem` succeeds in both builds;
then the devices, and 3D audio is available on the console. -/
def Initialize (build : Build) (m : PS5AudioManager) : Bool × PS5AudioManager :=
  if m.initialized then (true, m) else
  let enumerated := m.enumerateAudioDevices build
  if !enumerated.1 then (false, enumerated.2) else
  (true, { enumerated.2 with is3dAudioAvailable := build == .ps5, initialized := true })

/-- **`PS5AudioManager::Shutdown`**: every stream is stopped and destroyed, then the
devices. -/
def shutdown (m : PS5AudioManager) : PS5AudioManager :=
  if !m.initialized then m else
  let m := { m with streams := [] }
  { m.cleanupAudioDevices with initialized := false }

/-- The body of `CreateOutputStream` and `CreateInputStream`: a stream on `device` when
initialized and `device` is set; `streamOk` is the result of the stream's `Initialize`, and a
stream that fails it is destroyed. -/
def createStream (m : PS5AudioManager) (type : StreamType) (device : Option ℕ)
    (sampleRate channels bufferSize : BitVec 32) (streamOk : Bool) :
    Option ℕ × PS5AudioManager :=
  if !m.initialized then (none, m) else
  match device with
  | none => (none, m)
  | some device =>
    let stream : PS5AudioStream := ⟨m.nextAddress, type, device, sampleRate, channels, bufferSize⟩
    let m := { m with nextAddress := m.nextAddress + 1 }
    if !streamOk then (none, m) else
    (some stream.address, { m with streams := m.streams ++ [stream] })

/-- `CreateOutputStream`: on the default output device. -/
def createOutputStream (m : PS5AudioManager) (sampleRate channels bufferSize : BitVec 32)
    (streamOk : Bool) : Option ℕ × PS5AudioManager :=
  m.createStream .output m.defaultOutputDevice sampleRate channels bufferSize streamOk

/-- `CreateInputStream`: on the default input device. -/
def createInputStream (m : PS5AudioManager) (sampleRate channels bufferSize : BitVec 32)
    (streamOk : Bool) : Option ℕ × PS5AudioManager :=
  m.createStream .input m.defaultInputDevice sampleRate channels bufferSize streamOk

/-- `DestroyStream`: the first stream at that address, if any, is stopped and destroyed. -/
def destroyStream (m : PS5AudioManager) (stream : Option ℕ) : PS5AudioManager :=
  { m with streams := m.streams.eraseP fun s => some s.address = stream }

/-- `SetMasterVolume`: `std::clamp(volume, 0.0f, 1.0f)`. -/
def setMasterVolume (m : PS5AudioManager) (volume : Float) : PS5AudioManager :=
  { m with masterVolume := if volume < 0 then 0 else if 1 < volume then 1 else volume }

/-- `SetMute`. -/
def setMute (m : PS5AudioManager) (muted : Bool) : PS5AudioManager :=
  { m with isMuted := muted }

/-- `Enable3DAudio`: only where 3D audio is available. -/
def enable3DAudio (m : PS5AudioManager) (enable : Bool) : PS5AudioManager :=
  if !m.is3dAudioAvailable then m else { m with is3dAudioEnabled := enable }

end PS5AudioManager

/-- The public operations of `PS5AudioManager` that change its state, with the results of
the streams' `Initialize` calls as arguments. -/
inductive AudioOp
  | Initialize
  | shutdown
  | createOutputStream (sampleRate channels bufferSize : BitVec 32) (streamOk : Bool)
  | createInputStream (sampleRate channels bufferSize : BitVec 32) (streamOk : Bool)
  | destroyStream (stream : Option ℕ)
  | setMasterVolume (volume : Float)
  | setMute (muted : Bool)
  | enable3DAudio (enable : Bool)

namespace PS5AudioManager

variable (build : Build)

/-- One public operation. -/
def step (m : PS5AudioManager) : AudioOp → PS5AudioManager
  | .Initialize => (m.Initialize build).2
  | .shutdown => m.shutdown
  | .createOutputStream sampleRate channels bufferSize streamOk =>
    (m.createOutputStream sampleRate channels bufferSize streamOk).2
  | .createInputStream sampleRate channels bufferSize streamOk =>
    (m.createInputStream sampleRate channels bufferSize streamOk).2
  | .destroyStream stream => m.destroyStream stream
  | .setMasterVolume volume => m.setMasterVolume volume
  | .setMute muted => m.setMute muted
  | .enable3DAudio enable => m.enable3DAudio enable

/-- The manager states reachable from the constructor in a build. -/
inductive Reachable : PS5AudioManager → Prop
  | new : Reachable new
  | step {m : PS5AudioManager} (op : AudioOp) : Reachable m → Reachable (m.step build op)

/-! ### The ownership invariant -/

/-- **Streams never outlive their devices**: none while not initialized, each on a device
the manager owns, and each default device null or owned by its list. -/
structure AudioInvariant (m : PS5AudioManager) : Prop where
  streamsNeedInitialization : m.initialized = false → m.streams = []
  streamsOnOwnedDevices :
    ∀ s ∈ m.streams, s.device ∈ (m.outputDevices ++ m.inputDevices).map PS5AudioDevice.address
  defaultOutputOwned :
    ∀ device, m.defaultOutputDevice = some device → device ∈ m.outputDevices.map PS5AudioDevice.address
  defaultInputOwned :
    ∀ device, m.defaultInputDevice = some device → device ∈ m.inputDevices.map PS5AudioDevice.address

/-- **`EnumerateAudioDevices`** leaves each default device owned by its list, succeeds, and
touches neither the streams nor the flag. -/
theorem enumerateAudioDevices_spec (m : PS5AudioManager) :
    (m.enumerateAudioDevices build).1 = true ∧
      (m.enumerateAudioDevices build).2.streams = m.streams ∧
      (m.enumerateAudioDevices build).2.initialized = m.initialized ∧
      (∀ device, (m.enumerateAudioDevices build).2.defaultOutputDevice = some device →
        device ∈ (m.enumerateAudioDevices build).2.outputDevices.map PS5AudioDevice.address) ∧
      (∀ device, (m.enumerateAudioDevices build).2.defaultInputDevice = some device →
        device ∈ (m.enumerateAudioDevices build).2.inputDevices.map PS5AudioDevice.address) := by
  cases build <;> simp [enumerateAudioDevices, newDevice]

theorem AudioInvariant.Initialize {m : PS5AudioManager} (inv : AudioInvariant m) :
    AudioInvariant (m.Initialize build).2 := by
  obtain ⟨found, streams, initialized, outputOwned, inputOwned⟩ := m.enumerateAudioDevices_spec build
  unfold PS5AudioManager.Initialize
  dsimp only
  split_ifs with init failed
  · exact inv
  · simp [found] at failed
  · have empty : (m.enumerateAudioDevices build).2.streams = [] :=
      streams.trans (inv.streamsNeedInitialization (by simpa using init))
    exact ⟨fun notInit => by simp at notInit, by simp [empty], outputOwned, inputOwned⟩

theorem AudioInvariant.shutdown {m : PS5AudioManager} (inv : AudioInvariant m) :
    AudioInvariant m.shutdown := by
  unfold PS5AudioManager.shutdown
  split_ifs
  · exact inv
  · exact ⟨fun _ => rfl, by simp [cleanupAudioDevices], by simp [cleanupAudioDevices],
      by simp [cleanupAudioDevices]⟩

/-- **A new stream goes on the device it is given**, which the manager owns. -/
theorem AudioInvariant.createStream {m : PS5AudioManager} (inv : AudioInvariant m)
    {type : StreamType} {device : Option ℕ}
    (owned : ∀ d, device = some d → d ∈ (m.outputDevices ++ m.inputDevices).map PS5AudioDevice.address)
    (sampleRate channels bufferSize : BitVec 32) (streamOk : Bool) :
    AudioInvariant (m.createStream type device sampleRate channels bufferSize streamOk).2 := by
  cases device with
  | none =>
    unfold PS5AudioManager.createStream
    split_ifs <;> exact inv
  | some d =>
    have bumped : AudioInvariant { m with nextAddress := m.nextAddress + 1 } :=
      ⟨inv.1, inv.2, inv.3, inv.4⟩
    unfold PS5AudioManager.createStream
    dsimp only
    split_ifs with notInit failed
    · exact inv
    · exact bumped
    · refine ⟨fun init => by simp_all, fun s mem => ?_, inv.3, inv.4⟩
      simp only [List.mem_append, List.mem_singleton] at mem
      rcases mem with old | rfl
      · exact inv.streamsOnOwnedDevices s old
      · exact owned d rfl

theorem AudioInvariant.createOutputStream {m : PS5AudioManager} (inv : AudioInvariant m)
    (sampleRate channels bufferSize : BitVec 32) (streamOk : Bool) :
    AudioInvariant (m.createOutputStream sampleRate channels bufferSize streamOk).2 :=
  inv.createStream (fun d default => List.map_append .. ▸
    List.mem_append_left _ (inv.defaultOutputOwned d default)) _ _ _ _

theorem AudioInvariant.createInputStream {m : PS5AudioManager} (inv : AudioInvariant m)
    (sampleRate channels bufferSize : BitVec 32) (streamOk : Bool) :
    AudioInvariant (m.createInputStream sampleRate channels bufferSize streamOk).2 :=
  inv.createStream (fun d default => List.map_append .. ▸
    List.mem_append_right _ (inv.defaultInputOwned d default)) _ _ _ _

theorem AudioInvariant.destroyStream {m : PS5AudioManager} (inv : AudioInvariant m)
    (stream : Option ℕ) : AudioInvariant (m.destroyStream stream) :=
  ⟨fun notInit => by
    simp [PS5AudioManager.destroyStream, inv.streamsNeedInitialization notInit],
    fun s mem => inv.streamsOnOwnedDevices s (List.mem_of_mem_eraseP mem), inv.3, inv.4⟩

/-- **Every operation keeps the ownership invariant.** -/
theorem AudioInvariant.step {m : PS5AudioManager} (inv : AudioInvariant m) (op : AudioOp) :
    AudioInvariant (m.step build op) := by
  cases op with
  | Initialize => exact inv.Initialize build
  | shutdown => exact inv.shutdown
  | createOutputStream => exact inv.createOutputStream ..
  | createInputStream => exact inv.createInputStream ..
  | destroyStream stream => exact inv.destroyStream stream
  | setMasterVolume | setMute => exact ⟨inv.1, inv.2, inv.3, inv.4⟩
  | enable3DAudio enable =>
    unfold PS5AudioManager.step PS5AudioManager.enable3DAudio
    split_ifs
    · exact inv
    · exact ⟨inv.1, inv.2, inv.3, inv.4⟩

/-- Every reachable audio manager satisfies the ownership invariant. -/
theorem Reachable.audioInvariant {m : PS5AudioManager} (reach : Reachable build m) :
    AudioInvariant m := by
  induction reach with
  | new => exact ⟨fun _ => rfl, nofun, nofun, nofun⟩
  | step op _ inv => exact inv.step build op

/-- **In every reachable state, in either build, no stream outlives or leaves its device**:
there is no stream while the manager is not initialized, every stream plays on a device
the manager owns, and each default device is null or owned by its list. -/
theorem streams_live_on_owned_devices {m : PS5AudioManager} (reach : Reachable build m) :
    (m.initialized = false → m.streams = []) ∧
      (∀ s ∈ m.streams, s.device ∈ (m.outputDevices ++ m.inputDevices).map PS5AudioDevice.address) ∧
      (∀ device, m.defaultOutputDevice = some device →
        device ∈ m.outputDevices.map PS5AudioDevice.address) ∧
      (∀ device, m.defaultInputDevice = some device →
        device ∈ m.inputDevices.map PS5AudioDevice.address) :=
  let inv := reach.audioInvariant build
  ⟨inv.1, inv.2, inv.3, inv.4⟩

/-- On the console, the output stream created after `Initialize` plays on the main output. -/
theorem streams_live_on_owned_devices_after_createOutputStream :
    ((new.step .ps5 .Initialize).step .ps5 (.createOutputStream 48000 2 1024 true)).streams.length = 1 ∧
      ∀ s ∈ ((new.step .ps5 .Initialize).step .ps5 (.createOutputStream 48000 2 1024 true)).streams,
        s.device ∈ (((new.step .ps5 .Initialize).step .ps5
          (.createOutputStream 48000 2 1024 true)).outputDevices ++ ((new.step .ps5 .Initialize).step
            .ps5 (.createOutputStream 48000 2 1024 true)).inputDevices).map PS5AudioDevice.address :=
  ⟨by decide, (streams_live_on_owned_devices .ps5 (.step _ (.step _ .new))).2.1⟩

end PS5AudioManager

end EdenPS5.PS5Audio
