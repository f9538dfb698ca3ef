import EdenPS5.PS5Graphics.Present

/-!
# The renderer's GPU memory over whole runs

`PS5Renderer::AllocateGPUMemory` (`ps5_graphics/ps5_renderer.cpp`) forwards to the renderer's
`GNMWrapper`, whose bump allocator never frees.  `Initialize` of a renderer that is not
initialized replaces the wrapper by a new one, `std::make_unique<GNMWrapper>()`, and
`CreateFramebuffers` then takes the six colour and depth regions from it.  This file carries,
next to the renderer, the allocations its current wrapper has made, and lifts the results on
the wrapper's runs (`BumpAllocator.lean`) to every run of the renderer.

## Main definitions

* `RendererOp.wrapperAllocations` — the allocations one operation makes through the
  renderer's wrapper, and whether it first replaces the wrapper.
* `RendererMemory` — a renderer with the allocations of its current wrapper;
  `RendererMemory.grants`, what those allocations handed out.

## Main results

* `RendererMemory.Reachable.tracks` — on every run the renderer's wrapper stands at the
  offset its recorded allocations leave it at, and an initialized renderer's frame buffers
  are the first six of them.  Each `AllocateGPUMemory` returns the grant it records
  (`RendererMemory.grants_step_allocateGPUMemory`).
* `RendererMemory.wrapper_grants_disjoint_below_four_gib` — below 4 GiB no address is handed
  out twice by a wrapper, and none overlaps a live frame buffer.
* `PS5Renderer.allocateGPUMemory_wraps_onto_framebuffer` — once the offset reaches a multiple
  of 4 GiB, the next allocation returns the colour buffer of frame buffer 0, which the
  renderer still holds and presents.
-/

namespace EdenPS5.PS5Graphics

namespace GNMWrapper

/-- A run split in two: the grants of the first part, then those of the second from where
the first left the wrapper. -/
theorem memRun_append (w : GNMWrapper) (first second : List MemOp) :
    w.memRun (first ++ second) =
      ((w.memRun first).1 ++ ((w.memRun first).2.memRun second).1,
        ((w.memRun first).2.memRun second).2) := by
  induction first generalizing w with
  | nil => rfl
  | cons op rest ih =>
    cases request : op.request with
    | none => simp only [List.cons_append, memRun_cons_of_request_none _ _ request, ih]
    | some r =>
      obtain ⟨size, alignment⟩ := r
      simp only [List.cons_append, memRun_cons_of_request_some _ _ request, ih]

/-- One `AllocateGPUMemory` after a run. -/
theorem memRun_append_allocateGPUMemory (w : GNMWrapper) (ops : List MemOp) (size : BitVec 64)
    (alignment : BitVec 32) :
    w.memRun (ops ++ [.allocateGPUMemory size alignment]) =
      ((w.memRun ops).1 ++
          [⟨((w.memRun ops).2.allocateGPUMemory size alignment).1.toNat, size.toNat,
            alignment.toNat⟩],
        ((w.memRun ops).2.allocateGPUMemory size alignment).2) := by
  rw [memRun_append]
  rfl

/-- `n` page-aligned allocations of `size` bytes leave the wrapper `allocations` names. -/
theorem memRun_replicate_snd (w : GNMWrapper) (size : BitVec 64) (n : ℕ) :
    (w.memRun (List.replicate n (.allocateGPUMemory size 4096))).2 = w.allocations size n := by
  induction n generalizing w with
  | zero => rfl
  | succ n ih =>
    rw [List.replicate_succ,
      @memRun_cons_of_request_some w (.allocateGPUMemory size 4096) _ size 4096 rfl,
      allocations_succ]
    exact ih _

@[simp] theorem shutdown_gpuMemoryOffset (w : GNMWrapper) :
    w.shutdown.impl.gpuMemoryOffset = w.impl.gpuMemoryOffset :=
  congrArg Prod.snd w.shutdown_impl_gpuMemory

end GNMWrapper

namespace PS5Renderer

/-- The offset of the renderer's wrapper, if it holds one. -/
def wrapperOffset (r : PS5Renderer) : Option (BitVec 64) :=
  r.gnmWrapper.map fun w => w.impl.gpuMemoryOffset

@[simp] theorem freeGPUMemory_gnmWrapper (r : PS5Renderer) (address : BitVec 64) :
    (r.freeGPUMemory address).gnmWrapper = r.gnmWrapper := by
  simp [freeGPUMemory, GNMWrapper.freeGPUMemory]

theorem destroyFramebuffer_gnmWrapper (r : PS5Renderer) (i : Fin 3) :
    (r.destroyFramebuffer i).gnmWrapper = r.gnmWrapper := by
  unfold destroyFramebuffer
  dsimp only
  split_ifs <;> simp [setFrameBuffer]

/-- `Shutdown` shuts the wrapper down and leaves its allocator where it was. -/
@[simp] theorem shutdown_wrapperOffset (r : PS5Renderer) :
    r.shutdown.wrapperOffset = r.wrapperOffset := by
  unfold shutdown
  split_ifs
  · rfl
  · simp [wrapperOffset, destroyFramebuffers, destroyFramebuffer_gnmWrapper, Option.map_map,
      Function.comp_def]

/-- An `Initialize` whose subsystems do not all initialise leaves the new wrapper as its own
`Initialize` made it. -/
theorem Initialize_gnmWrapper_of_failed {r : PS5Renderer} (notInit : r.initialized = false)
    {commandBufferOk textureManagerOk shaderCompilerOk : Bool}
    (failed : (commandBufferOk && textureManagerOk && shaderCompilerOk) = false) :
    (r.Initialize commandBufferOk textureManagerOk shaderCompilerOk).2.gnmWrapper =
      some initializedWrapper := by
  rw [Initialize, if_neg (by simp [notInit])]
  cases commandBufferOk <;> cases textureManagerOk <;> cases shaderCompilerOk <;>
    first | rfl | cases failed

/-- `Initialize` of an uninitialized renderer leaves the new wrapper after the six
frame-buffer allocations when the three subsystems initialise, and untouched otherwise. -/
theorem Initialize_wrapperOffset {r : PS5Renderer} (notInit : r.initialized = false)
    (commandBufferOk textureManagerOk shaderCompilerOk : Bool) :
    (r.Initialize commandBufferOk textureManagerOk shaderCompilerOk).2.wrapperOffset =
      some (initializedWrapper.memRun
        (if commandBufferOk && textureManagerOk && shaderCompilerOk then
          List.replicate 6 (.allocateGPUMemory (GNMWrapper.textureSize r.displayWidth
            r.displayHeight) 4096)
        else [])).2.impl.gpuMemoryOffset := by
  cases all : (commandBufferOk && textureManagerOk && shaderCompilerOk)
  · simp only [wrapperOffset, Initialize_gnmWrapper_of_failed notInit all]
    rfl
  · simp only [Bool.and_eq_true] at all
    obtain ⟨⟨rfl, rfl⟩, rfl⟩ := all
    simp only [Initialize_true_true_true notInit, wrapperOffset, GNMWrapper.memRun_replicate_snd,
      if_true]
    rfl

end PS5Renderer

/-- The allocations one operation makes through the renderer's wrapper, and whether it first
replaces the wrapper by a new one.  `Initialize` of an uninitialized renderer makes a new
wrapper and, once the three subsystems initialise, takes the six frame-buffer regions from
it; `AllocateGPUMemory` allocates through the wrapper when there is one.  No other operation
allocates, and `FreeGPUMemory` is a no-op. -/
def RendererOp.wrapperAllocations (r : PS5Renderer) : RendererOp → Bool × List MemOp
  | .Initialize commandBufferOk textureManagerOk shaderCompilerOk =>
    if r.initialized then (false, [])
    else (true, if commandBufferOk && textureManagerOk && shaderCompilerOk then
      List.replicate 6 (.allocateGPUMemory (GNMWrapper.textureSize r.displayWidth
        r.displayHeight) 4096)
      else [])
  | .allocateGPUMemory size alignment =>
    (false, if r.gnmWrapper.isSome then [.allocateGPUMemory size alignment] else [])
  | _ => (false, [])

/-- A renderer with the allocations its current wrapper has made, in order. -/
structure RendererMemory where
  renderer : PS5Renderer
  allocations : List MemOp

namespace RendererMemory

open PS5Renderer

/-- The constructor: no wrapper, nothing allocated. -/
def new (frameBuffers : Fin 3 → FrameBuffer) : RendererMemory :=
  ⟨PS5Renderer.new frameBuffers, []⟩

/-- One operation: the renderer steps, and its allocations are recorded, from scratch when it
makes a new wrapper. -/
def step (s : RendererMemory) (op : RendererOp) : RendererMemory :=
  ⟨s.renderer.step op,
    (if (op.wrapperAllocations s.renderer).1 then [] else s.allocations) ++
      (op.wrapperAllocations s.renderer).2⟩

/-- The states reachable from the constructor. -/
inductive Reachable : RendererMemory → Prop
  | new (frameBuffers : Fin 3 → FrameBuffer) : Reachable (new frameBuffers)
  | step {s : RendererMemory} (op : RendererOp) : Reachable s → Reachable (s.step op)

/-- What the current wrapper has handed out: the grants of its allocations, from the state
`Initialize` makes it in. -/
def grants (s : RendererMemory) : List Grant :=
  (initializedWrapper.memRun s.allocations).1

/-- Where those allocations leave the wrapper's offset. -/
def endOffset (s : RendererMemory) : BitVec 64 :=
  (initializedWrapper.memRun s.allocations).2.impl.gpuMemoryOffset

/-- The allocations describe the renderer: its wrapper stands where they leave the offset,
and an initialized renderer holds the frame buffers of the first six. -/
structure Tracks (s : RendererMemory) : Prop where
  atOffset : ∀ d ∈ s.renderer.wrapperOffset, d = s.endOffset
  framebuffersFirst : s.renderer.initialized = true → ∃ width height later,
    s.renderer.frameBuffers = createdFramebuffers width height ∧
      s.allocations =
        List.replicate 6 (.allocateGPUMemory (GNMWrapper.textureSize width height) 4096) ++ later

theorem Reachable.renderer {s : RendererMemory} (reach : s.Reachable) : s.renderer.Reachable := by
  induction reach with
  | new frameBuffers => exact .new frameBuffers
  | step op _ reach => exact reach.step op

/-- Every run of the renderer is the renderer of a run of this layer. -/
theorem exists_of_reachable {r : PS5Renderer} (reach : r.Reachable) :
    ∃ s : RendererMemory, s.Reachable ∧ s.renderer = r := by
  induction reach with
  | new frameBuffers => exact ⟨_, .new frameBuffers, rfl⟩
  | step op _ ih =>
    obtain ⟨s, reach, rfl⟩ := ih
    exact ⟨_, reach.step op, rfl⟩

/-- A state with the same allocations, flag, frame buffers and wrapper offset is tracked
too. -/
theorem Tracks.of_same {s s' : RendererMemory} (tracks : s.Tracks)
    (allocations : s'.allocations = s.allocations)
    (init : s'.renderer.initialized = s.renderer.initialized)
    (frameBuffers : s'.renderer.frameBuffers = s.renderer.frameBuffers)
    (offset : s'.renderer.wrapperOffset = s.renderer.wrapperOffset) : s'.Tracks where
  atOffset d mem := by
    rw [endOffset, allocations]
    exact tracks.atOffset d (offset ▸ mem)
  framebuffersFirst success := by
    rw [allocations, frameBuffers]
    exact tracks.framebuffersFirst (init ▸ success)

/-- The operations that allocate nothing and make no wrapper. -/
theorem step_allocations_of_keeps {s : RendererMemory} {op : RendererOp}
    (keeps : op.wrapperAllocations s.renderer = (false, [])) :
    (s.step op).allocations = s.allocations := by
  simp [step, keeps]

theorem Tracks.Initialize {s : RendererMemory} (tracks : s.Tracks)
    (commandBufferOk textureManagerOk shaderCompilerOk : Bool) :
    (s.step (.Initialize commandBufferOk textureManagerOk shaderCompilerOk)).Tracks := by
  cases init : s.renderer.initialized
  · refine ⟨fun d mem => ?_, fun success => ?_⟩
    · simp only [step, PS5Renderer.step, Initialize_wrapperOffset init] at mem
      cases mem
      simp [endOffset, step, RendererOp.wrapperAllocations, init]
    · simp only [step, PS5Renderer.step, Initialize_initialized init, Bool.and_eq_true] at success
      obtain ⟨⟨rfl, rfl⟩, rfl⟩ := success
      refine ⟨s.renderer.displayWidth, s.renderer.displayHeight, [], ?_, ?_⟩
      · simp only [step, PS5Renderer.step, Initialize_true_true_true init]
      · simp [step, RendererOp.wrapperAllocations, init]
  · have same := Initialize_of_initialized init commandBufferOk textureManagerOk shaderCompilerOk
    exact tracks.of_same (step_allocations_of_keeps (by simp [RendererOp.wrapperAllocations, init]))
      (by simp [step, PS5Renderer.step, same]) (by simp [step, PS5Renderer.step, same])
      (by simp [step, PS5Renderer.step, same])

theorem Tracks.allocateGPUMemory {s : RendererMemory} (tracks : s.Tracks) (size : BitVec 64)
    (alignment : BitVec 32) : (s.step (.allocateGPUMemory size alignment)).Tracks := by
  cases wrapper : s.renderer.gnmWrapper with
  | none =>
    have same : (s.renderer.allocateGPUMemory size alignment).2 = s.renderer := by
      simp [PS5Renderer.allocateGPUMemory, wrapper]
    exact tracks.of_same
      (step_allocations_of_keeps (by simp [RendererOp.wrapperAllocations, wrapper]))
      (by simp [step, PS5Renderer.step, same]) (by simp [step, PS5Renderer.step, same])
      (by simp [step, PS5Renderer.step, same])
  | some w =>
    have offset : w.impl.gpuMemoryOffset = s.endOffset :=
      tracks.atOffset _ (by simp [wrapperOffset, wrapper])
    refine ⟨fun d mem => ?_, fun success => ?_⟩
    · simp only [step, PS5Renderer.step, PS5Renderer.allocateGPUMemory, wrapper, wrapperOffset,
        Option.map_some', Option.mem_def, Option.some.injEq] at mem
      subst mem
      simp only [endOffset, step, RendererOp.wrapperAllocations, wrapper, Option.isSome_some,
        if_true, Bool.false_eq_true, if_false, GNMWrapper.memRun_append_allocateGPUMemory,
        GNMWrapper.allocateGPUMemory_snd_impl]
      rw [offset]
      rfl
    · have kept : (s.step (.allocateGPUMemory size alignment)).renderer.initialized =
          s.renderer.initialized ∧
          (s.step (.allocateGPUMemory size alignment)).renderer.frameBuffers =
            s.renderer.frameBuffers := by
        simp [step, PS5Renderer.step, PS5Renderer.allocateGPUMemory, wrapper]
      obtain ⟨width, height, later, frameBuffers, allocations⟩ :=
        tracks.framebuffersFirst (kept.1 ▸ success)
      refine ⟨width, height, later ++ [.allocateGPUMemory size alignment],
        kept.2.trans frameBuffers, ?_⟩
      simp [step, RendererOp.wrapperAllocations, wrapper, allocations]

theorem Tracks.shutdown {s : RendererMemory} (tracks : s.Tracks) : (s.step .shutdown).Tracks where
  atOffset d mem := by
    rw [endOffset, show (s.step .shutdown).allocations = s.allocations from
      step_allocations_of_keeps rfl]
    exact tracks.atOffset d (by simpa [RendererMemory.step, PS5Renderer.step] using mem)
  framebuffersFirst success := by simp [RendererMemory.step, PS5Renderer.step] at success

/-- **One operation keeps the allocations tracked.** -/
theorem Tracks.step {s : RendererMemory} (tracks : s.Tracks) (op : RendererOp) :
    (s.step op).Tracks := by
  cases op with
  | Initialize commandBufferOk textureManagerOk shaderCompilerOk =>
    exact tracks.Initialize commandBufferOk textureManagerOk shaderCompilerOk
  | shutdown => exact tracks.shutdown
  | allocateGPUMemory size alignment => exact tracks.allocateGPUMemory size alignment
  | setDisplayMode | beginFrame | endFrame | present | createTexture | destroyTexture
    | submitCommandBuffer => exact tracks.of_same (step_allocations_of_keeps rfl) rfl rfl rfl
  | freeGPUMemory address =>
    exact tracks.of_same (step_allocations_of_keeps rfl) rfl rfl
      (by simp [RendererMemory.step, PS5Renderer.step, wrapperOffset])

/-- **On every run the allocations are tracked.** -/
theorem Reachable.tracks {s : RendererMemory} (reach : s.Reachable) : s.Tracks := by
  induction reach with
  | new frameBuffers => exact ⟨fun d mem => (by cases mem), fun init => (by cases init)⟩
  | step op _ tracks => exact tracks.step op

/-- **Each `AllocateGPUMemory` returns the grant it records**: the address the renderer
hands back, with the size and the alignment asked for. -/
theorem grants_step_allocateGPUMemory {s : RendererMemory} (tracks : s.Tracks)
    (wrapper : s.renderer.gnmWrapper.isSome) (size : BitVec 64) (alignment : BitVec 32) :
    (s.step (.allocateGPUMemory size alignment)).grants =
      s.grants ++ [⟨(s.renderer.allocateGPUMemory size alignment).1.toNat, size.toNat,
        alignment.toNat⟩] := by
  obtain ⟨w, held⟩ := Option.isSome_iff_exists.1 wrapper
  have offset : w.impl.gpuMemoryOffset = s.endOffset :=
    tracks.atOffset _ (by simp [wrapperOffset, held])
  simp only [grants, step, RendererOp.wrapperAllocations, held, Option.isSome_some, if_true,
    Bool.false_eq_true, if_false, GNMWrapper.memRun_append_allocateGPUMemory,
    PS5Renderer.allocateGPUMemory, GNMWrapper.allocateGPUMemory_fst, offset, endOffset]
  rw [w.impl.gpuMemoryBase_eq, (initializedWrapper.memRun s.allocations).2.impl.gpuMemoryBase_eq]

/-- **Below 4 GiB a renderer's wrapper never hands out memory twice.**  On every run of the
renderer's public operations, the grants of its current wrapper (the six frame-buffer regions
of the `Initialize` that made it, then every `AllocateGPUMemory`, each returning the grant it
records) are aligned and pairwise disjoint whenever their alignments are powers of two and
their sizes and alignments add up to at most 4 GiB; and an initialized renderer's frame
buffers are the first six of them, so no later allocation overlaps a live frame buffer. -/
theorem wrapper_grants_disjoint_below_four_gib {s : RendererMemory} (reach : s.Reachable)
    (pow : ∀ op ∈ s.allocations, ∀ r, op.request = some r → ∃ k, r.2.toNat = 2 ^ k)
    (fits : MemOp.totalFootprint s.allocations ≤ 2 ^ 32) :
    BumpSafe s.grants ∧
      (s.renderer.initialized = true → ∃ width height later,
        s.renderer.frameBuffers = createdFramebuffers width height ∧
          s.grants = framebufferGrants width height ++ later) ∧
      (∀ size alignment, s.renderer.gnmWrapper.isSome →
        (s.step (.allocateGPUMemory size alignment)).grants =
          s.grants ++ [⟨(s.renderer.allocateGPUMemory size alignment).1.toNat, size.toNat,
            alignment.toNat⟩]) := by
  have tracks := reach.tracks
  refine ⟨GNMWrapper.memRun_bumpSafe_of_offset_zero _ rfl _ pow fits, fun init => ?_,
    fun size alignment wrapper => grants_step_allocateGPUMemory tracks wrapper size alignment⟩
  obtain ⟨width, height, later, frameBuffers, allocations⟩ := tracks.framebuffersFirst init
  refine ⟨width, height, ((initializedWrapper.memRun (List.replicate 6
    (.allocateGPUMemory (GNMWrapper.textureSize width height) 4096))).2.memRun later).1,
    frameBuffers, ?_⟩
  rw [grants, allocations, GNMWrapper.memRun_append, framebufferGrants_eq_memRun]

/-- At 1080p, `Initialize` and one 4 KiB allocation at 256-byte alignment. -/
theorem wrapper_grants_disjoint_after_initialize :
    let s := ((new fun _ => ⟨0, 0, 0, 0⟩).step (.Initialize true true true)).step
      (.allocateGPUMemory 4096 256)
    s.Reachable ∧ (∀ op ∈ s.allocations, ∀ r, op.request = some r → ∃ k, r.2.toNat = 2 ^ k) ∧
      MemOp.totalFootprint s.allocations ≤ 2 ^ 32 ∧ BumpSafe s.grants := by
  intro s
  have reach : s.Reachable := ((Reachable.new _).step _).step _
  have allocations : s.allocations =
      List.replicate 6 (.allocateGPUMemory (GNMWrapper.textureSize 1920 1080) 4096) ++
        [.allocateGPUMemory 4096 256] := by decide
  have pow : ∀ op ∈ s.allocations, ∀ r, op.request = some r → ∃ k, r.2.toNat = 2 ^ k := by
    intro op mem r request
    rw [allocations] at mem
    simp only [List.mem_append, List.mem_replicate, List.mem_singleton] at mem
    rcases mem with ⟨-, rfl⟩ | rfl <;> simp only [MemOp.request, Option.some.injEq] at request <;>
      subst request
    exacts [⟨12, rfl⟩, ⟨8, rfl⟩]
  have fits : MemOp.totalFootprint s.allocations ≤ 2 ^ 32 := by rw [allocations]; decide
  exact ⟨reach, pow, fits, (wrapper_grants_disjoint_below_four_gib reach pow fits).1⟩

end RendererMemory

namespace PS5Renderer

/-- **Past 4 GiB `AllocateGPUMemory` hands out a live frame buffer.**  On every run, once the
offset of an initialized renderer's wrapper is a multiple of `2 ^ 32`, the next allocation at
any power-of-two alignment returns the colour buffer of frame buffer 0, which the renderer
still holds and presents: the mask of `aligned_offset` keeps only the low 32 bits of the
offset. -/
theorem allocateGPUMemory_wraps_onto_framebuffer {r : PS5Renderer} (reach : r.Reachable)
    (init : r.initialized = true)
    (wrapped : r.wrapperOffset.map (fun d => d.toNat % 2 ^ 32) = some 0)
    (size : BitVec 64) {alignment : BitVec 32} {k : ℕ} (pow : alignment.toNat = 2 ^ k) :
    (r.allocateGPUMemory size alignment).1 = (r.frameBuffers 0).colorBufferAddr ∧
      (r.frameBuffers 0).colorBufferAddr ≠ 0 ∧
      (∃ width height, r.frameBuffers = createdFramebuffers width height) ∧
      (r.allocateGPUMemory size alignment).2.frameBuffers = r.frameBuffers ∧
      ((r.allocateGPUMemory size alignment).2.currentIndex = 0 →
        (r.allocateGPUMemory size alignment).2.presentCall =
          some ((r.frameBuffers 0).colorBufferAddr, r.displayWidth, r.displayHeight)) := by
  obtain ⟨-, width, height, frameBuffers⟩ := reach.holdsCreatedFramebuffers init
  obtain ⟨w, wrapper, offset⟩ :
      ∃ w, r.gnmWrapper = some w ∧ w.impl.gpuMemoryOffset.toNat % 2 ^ 32 = 0 := by
    cases held : r.gnmWrapper with
    | none => simp [wrapperOffset, held] at wrapped
    | some w => exact ⟨w, rfl, by simpa [wrapperOffset, held] using wrapped⟩
  have after : (r.allocateGPUMemory size alignment).2 =
      { r with gnmWrapper := some (w.allocateGPUMemory size alignment).2 } := by
    rw [allocateGPUMemory, wrapper]
  have address : (r.allocateGPUMemory size alignment).1 =
      (createdFramebuffers width height 0).colorBufferAddr := by
    have colour : (createdFramebuffers width height 0).colorBufferAddr.toNat = 2 ^ 32 :=
      (GNMWrapper.toNat_allocateGPUMemory_fst initializedWrapper
        (GNMWrapper.textureSize width height) 4096).trans (by decide)
    have one : 1 ≤ 2 ^ k := Nat.one_le_two_pow
    have small : 2 ^ k < 2 ^ 32 := pow ▸ alignment.isLt
    have kle : k ≤ 32 := ((Nat.pow_lt_pow_iff_right (by decide)).1 small).le
    obtain ⟨m, multiple⟩ := (Nat.pow_dvd_pow 2 kle).trans (Nat.dvd_of_mod_eq_zero offset)
    have bound := w.impl.gpuMemoryOffset.isLt
    rw [multiple] at offset bound
    have low : (2 ^ k * m + 2 ^ k - 1) % 2 ^ k = 2 ^ k - 1 := by
      rw [show 2 ^ k * m + 2 ^ k - 1 = 2 ^ k - 1 + 2 ^ k * m by omega, Nat.add_mul_mod_self_left,
        Nat.mod_eq_of_lt (by omega)]
    rw [allocateGPUMemory, wrapper]
    apply BitVec.eq_of_toNat_eq
    rw [colour, GNMWrapper.toNat_allocateGPUMemory_fst, Impl.toNat_alignedOffset _ pow, multiple,
      Nat.mod_eq_of_lt (by omega : 2 ^ k * m + 2 ^ k - 1 < 2 ^ 64), low]
    omega
  refine ⟨frameBuffers ▸ address, frameBuffers ▸ createdFramebuffers_colorBufferAddr_ne_zero _ _ _,
    ⟨width, height, frameBuffers⟩, by rw [after], fun zero => ?_⟩
  rw [after] at zero ⊢
  change r.currentIndex = 0 at zero
  show some ((r.frameBuffers r.currentIndex).colorBufferAddr, r.displayWidth, r.displayHeight) = _
  rw [zero]

/-- At 1080p: `Initialize`, then one allocation of the rest of the first 4 GiB; the next
page-aligned allocation returns frame buffer 0's colour buffer. -/
theorem allocateGPUMemory_wraps_onto_framebuffer_at_1080p :
    let r := ((new fun _ => ⟨0, 0, 0, 0⟩).step (.Initialize true true true)).step
      (.allocateGPUMemory 4245200896 1)
    r.Reachable ∧ r.initialized = true ∧
      r.wrapperOffset.map (fun d => d.toNat % 2 ^ 32) = some 0 ∧
      (r.allocateGPUMemory 4096 4096).1 = (r.frameBuffers 0).colorBufferAddr := by
  intro r
  have reach : r.Reachable := ((Reachable.new _).step _).step _
  have init : r.initialized = true := by decide
  have wrapped : r.wrapperOffset.map (fun d => d.toNat % 2 ^ 32) = some 0 := by decide
  exact ⟨reach, init, wrapped,
    (allocateGPUMemory_wraps_onto_framebuffer reach init wrapped 4096
      (show (4096 : BitVec 32).toNat = 2 ^ 12 from rfl)).1⟩

end PS5Renderer

end EdenPS5.PS5Graphics
