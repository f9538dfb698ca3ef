import EdenPS5.PS5Graphics.FrameRotation
import Mathlib.Tactic.FinCases

/-!
# What `Present` shows

`Present` hands `GNMWrapper::Present` the colour address of frame buffer
`current_frame_buffer_` and the *current* display dimensions, whenever the renderer holds a
wrapper.  This file settles what those arguments are.

* `createFramebuffers_of_wrapper` — on a renderer holding a wrapper, `CreateFramebuffers`
  never fails: each of its six allocations returns an address in `[2 ^ 32, 2 ^ 33)`, never
  the `0` it tests for.  A successful `Initialize` always starts from a new wrapper, so the
  frame buffers it leaves are a function of the display size alone, `createdFramebuffers`.
* `Reachable.holdsCreatedFramebuffers` — an initialized renderer holds exactly the frame
  buffers its last successful `Initialize` allocated; only `Shutdown` releases them, and it
  also clears `initialized_`.
* `ReachableAtFixedMode.framebuffersMatchDisplay` — as long as no operation changes the
  display size of an initialized renderer, those frame buffers have the current display
  dimensions.  `SetDisplayMode` records new dimensions and reallocates nothing, so after it
  `Present` passes dimensions the buffer was not allocated for; and `Present` checks the
  wrapper, not `initialized_`, so after `Shutdown` or a failed `Initialize` it passes a
  released or never-allocated address
  (`present_after_setDisplayMode_shutdown_or_failed_initialize`).
* `framebufferGrants_bumpSafe` — the six regions are page-aligned and disjoint while they
  fit in 4 GiB.  Their size is the `uint32_t` product `display_width_ * display_height_ * 4`:
  at 32768×32768 it wraps to `0` and all six buffers land on one address
  (`framebuffers_and_texture_at_32768_reserve_nothing`).
-/

namespace EdenPS5.PS5Graphics

namespace GNMWrapper

/-- The wrapper after `n` page-aligned allocations of `size` bytes. -/
def allocations (w : GNMWrapper) (size : BitVec 64) (n : ℕ) : GNMWrapper :=
  (fun w => (w.allocateGPUMemory size 4096).2)^[n] w

/-- The address the next such allocation returns, after the first `n`. -/
def allocationAddress (w : GNMWrapper) (size : BitVec 64) (n : ℕ) : BitVec 64 :=
  ((w.allocations size n).allocateGPUMemory size 4096).1

@[simp] theorem allocations_zero (w : GNMWrapper) (size : BitVec 64) :
    w.allocations size 0 = w := rfl

theorem allocations_succ (w : GNMWrapper) (size : BitVec 64) (n : ℕ) :
    w.allocations size (n + 1) = (w.allocateGPUMemory size 4096).2.allocations size n :=
  Function.iterate_succ_apply _ _ _

@[simp] theorem allocations_allocations (w : GNMWrapper) (size : BitVec 64) (m n : ℕ) :
    (w.allocations size m).allocations size n = w.allocations size (n + m) :=
  (Function.iterate_add_apply _ _ _ _).symm

@[simp] theorem allocationAddress_allocations (w : GNMWrapper) (size : BitVec 64) (m n : ℕ) :
    (w.allocations size m).allocationAddress size n = w.allocationAddress size (n + m) := by
  simp only [allocationAddress, allocations_allocations]

/-- No allocation returns `0`: every address is at least the base `0x100000000`. -/
theorem allocationAddress_ne_zero (w : GNMWrapper) (size : BitVec 64) (n : ℕ) :
    w.allocationAddress size n ≠ 0 := by
  intro zero
  have := toNat_allocateGPUMemory_fst (w.allocations size n) size 4096
  rw [← allocationAddress, zero] at this
  simp at this
  omega

/-- The grants of `n` page-aligned allocations of `size` bytes are those addresses. -/
theorem memRun_replicate (w : GNMWrapper) (size : BitVec 64) (n : ℕ) :
    (w.memRun (List.replicate n (.allocateGPUMemory size 4096))).1 =
      (List.range n).map fun k => ⟨(w.allocationAddress size k).toNat, size.toNat, 4096⟩ := by
  induction n generalizing w with
  | zero => rfl
  | succ n ih =>
    rw [List.replicate_succ,
      @memRun_cons_of_request_some w (.allocateGPUMemory size 4096) _ size 4096 rfl, ih,
      List.range_succ_eq_map,
      List.map_cons, List.map_map]
    congr 2

end GNMWrapper

namespace PS5Renderer

/-- `display_width_ * display_height_ * 4`, the size of every colour and depth buffer. -/
theorem createFramebuffer_size (r : PS5Renderer) :
    (r.displayWidth * r.displayHeight * 4).setWidth 64 =
      GNMWrapper.textureSize r.displayWidth r.displayHeight := rfl

/-- **One pass of `CreateFramebuffers`.**  With a wrapper, both allocations succeed and
frame buffer `i` gets them and the display size; without one, the first allocation
returns `0` and the pass fails having written it. -/
theorem createFramebuffer_eq (r : PS5Renderer) (i : Fin 3) :
    r.createFramebuffer i =
      match r.gnmWrapper with
      | some w =>
        (true, { r with
          gnmWrapper := some (w.allocations (GNMWrapper.textureSize r.displayWidth r.displayHeight) 2)
          frameBuffers := Function.update r.frameBuffers i
            ⟨w.allocationAddress (GNMWrapper.textureSize r.displayWidth r.displayHeight) 0,
             w.allocationAddress (GNMWrapper.textureSize r.displayWidth r.displayHeight) 1,
             r.displayWidth, r.displayHeight⟩ })
      | none => (false, r.setFrameBuffer i { r.frameBuffers i with colorBufferAddr := 0 }) := by
  unfold createFramebuffer
  cases wrapper : r.gnmWrapper with
  | none => simp [allocateGPUMemory, wrapper]
  | some w =>
    have color := w.allocationAddress_ne_zero (GNMWrapper.textureSize r.displayWidth r.displayHeight) 0
    have depth := w.allocationAddress_ne_zero (GNMWrapper.textureSize r.displayWidth r.displayHeight) 1
    simp only [GNMWrapper.allocationAddress, GNMWrapper.allocations, Function.iterate_zero, id,
      Function.iterate_one, GNMWrapper.textureSize] at color depth
    simp only [allocateGPUMemory, wrapper, setFrameBuffer, if_neg color, if_neg depth,
      Function.update_same, Function.update_idem]
    rfl

/-- **`CreateFramebuffers` on a renderer holding a wrapper**: six allocations, colour and
depth for each frame buffer in turn, and success. -/
theorem createFramebuffers_of_wrapper (r : PS5Renderer) {w : GNMWrapper}
    (wrapper : r.gnmWrapper = some w) :
    r.createFramebuffers =
      (true, { r with
        gnmWrapper := some (w.allocations (GNMWrapper.textureSize r.displayWidth r.displayHeight) 6)
        frameBuffers := fun i =>
          ⟨w.allocationAddress (GNMWrapper.textureSize r.displayWidth r.displayHeight) (2 * i),
           w.allocationAddress (GNMWrapper.textureSize r.displayWidth r.displayHeight) (2 * i + 1),
           r.displayWidth, r.displayHeight⟩ }) := by
  simp only [createFramebuffers, createFramebuffersFrom, createFramebuffer_eq, wrapper,
    GNMWrapper.allocations_allocations, GNMWrapper.allocationAddress_allocations]
  congr 3
  funext i
  fin_cases i <;> rfl

/-- The wrapper a successful `Initialize` creates. -/
def initializedWrapper : GNMWrapper := ({} : GNMWrapper).Initialize.2

/-- **The frame buffers a successful `Initialize` allocates** at display size
`width × height`: the colour and depth addresses of `CreateFramebuffers`' six allocations on
the new wrapper, and that size. -/
def createdFramebuffers (width height : BitVec 32) : Fin 3 → FrameBuffer := fun i =>
  ⟨initializedWrapper.allocationAddress (GNMWrapper.textureSize width height) (2 * i),
   initializedWrapper.allocationAddress (GNMWrapper.textureSize width height) (2 * i + 1),
   width, height⟩

@[simp] theorem createdFramebuffers_width (width height : BitVec 32) (i : Fin 3) :
    (createdFramebuffers width height i).width = width := rfl

@[simp] theorem createdFramebuffers_height (width height : BitVec 32) (i : Fin 3) :
    (createdFramebuffers width height i).height = height := rfl

/-- The created frame buffers are live: `DestroyFramebuffers` is what writes `0`. -/
theorem createdFramebuffers_colorBufferAddr_ne_zero (width height : BitVec 32) (i : Fin 3) :
    (createdFramebuffers width height i).colorBufferAddr ≠ 0 :=
  GNMWrapper.allocationAddress_ne_zero _ _ _

theorem Initialize_of_initialized {r : PS5Renderer} (init : r.initialized = true)
    (commandBufferOk textureManagerOk shaderCompilerOk : Bool) :
    r.Initialize commandBufferOk textureManagerOk shaderCompilerOk = (true, r) := by
  simp [Initialize, init]

/-- **A successful `Initialize`**: a new wrapper after the six frame-buffer allocations, the
three subsystems, and the frame buffers of `createdFramebuffers` at the current display
size. -/
theorem Initialize_true_true_true {r : PS5Renderer} (notInit : r.initialized = false) :
    r.Initialize true true true =
      (true, { r with
        gnmWrapper :=
          some (initializedWrapper.allocations (GNMWrapper.textureSize r.displayWidth r.displayHeight) 6)
        commandBuffer := true, textureManager := true, shaderCompiler := true
        frameBuffers := createdFramebuffers r.displayWidth r.displayHeight
        initialized := true }) := by
  simp only [Initialize, notInit, GNMWrapper.Initialize_new, initializeGNM_eq, Bool.not_true,
    Bool.false_eq_true, if_false]
  have created := createFramebuffers_of_wrapper { r with
    gnmWrapper := some initializedWrapper, commandBuffer := true, textureManager := true,
    shaderCompiler := true } rfl
  simp only [initializedWrapper, GNMWrapper.Initialize_new, notInit] at created
  simp only [created]
  rfl

/-- `Initialize` on an uninitialized renderer succeeds exactly when the three subsystems do:
the wrapper's own `Initialize` and the frame buffers never fail. -/
theorem Initialize_initialized {r : PS5Renderer} (notInit : r.initialized = false)
    (commandBufferOk textureManagerOk shaderCompilerOk : Bool) :
    (r.Initialize commandBufferOk textureManagerOk shaderCompilerOk).2.initialized =
      (commandBufferOk && textureManagerOk && shaderCompilerOk) := by
  cases commandBufferOk <;> cases textureManagerOk <;> cases shaderCompilerOk <;>
    first
      | simp only [Initialize_true_true_true notInit]; rfl
      | simp only [Initialize, notInit, GNMWrapper.Initialize_new]; simp

/-- The renderer `Shutdown` leaves is never initialized. -/
@[simp] theorem shutdown_initialized (r : PS5Renderer) : r.shutdown.initialized = false := by
  unfold shutdown
  split_ifs with notInit
  · simpa using notInit
  · rfl

/-- `Present` calls `GNMWrapper::Present` exactly when the renderer holds a wrapper, with the
current frame buffer's colour address and the display size. -/
theorem presentCall_of_isSome {r : PS5Renderer} (wrapper : r.gnmWrapper.isSome) :
    r.presentCall =
      some ((r.frameBuffers r.currentIndex).colorBufferAddr, r.displayWidth, r.displayHeight) := by
  obtain ⟨w, some⟩ := Option.isSome_iff_exists.1 wrapper
  simp [presentCall, some]

/-! ### What `Present` reads -/

/-- The initialization flag, whether there is a wrapper, the frame buffers and the display
size: what `Present` reads besides the index, and what a successful `Initialize` writes. -/
def presentView (r : PS5Renderer) : Bool × Bool × (Fin 3 → FrameBuffer) × BitVec 32 × BitVec 32 :=
  (r.initialized, r.gnmWrapper.isSome, r.frameBuffers, r.displayWidth, r.displayHeight)

end PS5Renderer

/-- `Initialize`, `Shutdown` and `SetDisplayMode`: the operations that write the frame
buffers, the flag or the display size. -/
def RendererOp.reconfigures : RendererOp → Bool
  | .Initialize .. | .shutdown | .setDisplayMode .. => true
  | _ => false

namespace PS5Renderer

/-- **Every other operation leaves what `Present` reads unchanged.** -/
theorem step_presentView (r : PS5Renderer) {op : RendererOp} (other : op.reconfigures = false) :
    (r.step op).presentView = r.presentView := by
  cases op with
  | Initialize | shutdown | setDisplayMode => simp [RendererOp.reconfigures] at other
  | allocateGPUMemory size alignment =>
    simp only [step, allocateGPUMemory]
    split
    · next wrapper => simp [presentView, wrapper]
    · rfl
  | freeGPUMemory address => simp [step, freeGPUMemory, presentView]
  | _ => rfl

/-- **An initialized renderer holds the frame buffers of a successful `Initialize`**, at
some display size, and a wrapper. -/
def HoldsCreatedFramebuffers (r : PS5Renderer) : Prop :=
  r.initialized = true →
    r.gnmWrapper.isSome ∧ ∃ width height, r.frameBuffers = createdFramebuffers width height

/-- **An initialized renderer holds the frame buffers a successful `Initialize` allocated at
the current display size**, and a wrapper. -/
def FramebuffersMatchDisplay (r : PS5Renderer) : Prop :=
  r.initialized = true →
    r.gnmWrapper.isSome ∧ r.frameBuffers = createdFramebuffers r.displayWidth r.displayHeight

theorem HoldsCreatedFramebuffers.of_presentView_eq {r r' : PS5Renderer}
    (same : r'.presentView = r.presentView) (holds : HoldsCreatedFramebuffers r) :
    HoldsCreatedFramebuffers r' := by
  simp only [presentView, Prod.mk.injEq] at same
  obtain ⟨init, wrapper, frameBuffers, -, -⟩ := same
  simpa only [HoldsCreatedFramebuffers, init, wrapper, frameBuffers] using holds

theorem FramebuffersMatchDisplay.of_presentView_eq {r r' : PS5Renderer}
    (same : r'.presentView = r.presentView) (holds : FramebuffersMatchDisplay r) :
    FramebuffersMatchDisplay r' := by
  simp only [presentView, Prod.mk.injEq] at same
  obtain ⟨init, wrapper, frameBuffers, width, height⟩ := same
  simpa only [FramebuffersMatchDisplay, init, wrapper, frameBuffers, width, height] using holds

theorem FramebuffersMatchDisplay.holdsCreatedFramebuffers {r : PS5Renderer}
    (holds : FramebuffersMatchDisplay r) : HoldsCreatedFramebuffers r := fun init =>
  ⟨(holds init).1, _, _, (holds init).2⟩

/-- After `Initialize` on an uninitialized renderer, whatever the subsystems return, the
frame buffers match the display size if it succeeded. -/
theorem Initialize_framebuffersMatchDisplay {r : PS5Renderer} (notInit : r.initialized = false)
    (commandBufferOk textureManagerOk shaderCompilerOk : Bool) :
    FramebuffersMatchDisplay (r.Initialize commandBufferOk textureManagerOk shaderCompilerOk).2 := by
  intro success
  rw [Initialize_initialized notInit] at success
  simp only [Bool.and_eq_true] at success
  obtain ⟨⟨rfl, rfl⟩, rfl⟩ := success
  rw [Initialize_true_true_true notInit]
  exact ⟨rfl, rfl⟩

theorem holdsCreatedFramebuffers_step {r : PS5Renderer} (holds : HoldsCreatedFramebuffers r)
    (op : RendererOp) : HoldsCreatedFramebuffers (r.step op) := by
  cases reconfigures : op.reconfigures
  · exact holds.of_presentView_eq (r.step_presentView reconfigures)
  cases op with
  | Initialize commandBufferOk textureManagerOk shaderCompilerOk =>
    cases init : r.initialized
    · exact (Initialize_framebuffersMatchDisplay init _ _ _).holdsCreatedFramebuffers
    · rwa [step, Initialize_of_initialized init]
  | shutdown => simp [HoldsCreatedFramebuffers, step]
  | setDisplayMode => exact holds
  | _ => simp [RendererOp.reconfigures] at reconfigures

/-- **In every reachable state an initialized renderer holds the frame buffers of its last
successful `Initialize`**: only `Shutdown` releases them, and it clears the flag. -/
theorem Reachable.holdsCreatedFramebuffers {r : PS5Renderer} (reach : Reachable r) :
    HoldsCreatedFramebuffers r := by
  induction reach with
  | new frameBuffers => intro init; cases init
  | step op _ holds => exact holdsCreatedFramebuffers_step holds op

/-! ### A fixed display mode -/

/-- The states reachable from the constructor by operations none of which changes the
display size of an initialized renderer. -/
inductive ReachableAtFixedMode : PS5Renderer → Prop
  | new (frameBuffers : Fin 3 → FrameBuffer) : ReachableAtFixedMode (new frameBuffers)
  | step {r : PS5Renderer} (op : RendererOp)
      (keepsMode : r.initialized = true →
        (r.step op).displayWidth = r.displayWidth ∧ (r.step op).displayHeight = r.displayHeight) :
      ReachableAtFixedMode r → ReachableAtFixedMode (r.step op)

theorem ReachableAtFixedMode.reachable {r : PS5Renderer} (reach : ReachableAtFixedMode r) :
    Reachable r := by
  induction reach with
  | new frameBuffers => exact .new frameBuffers
  | step op _ _ reach => exact .step op reach

theorem framebuffersMatchDisplay_step {r : PS5Renderer} (holds : FramebuffersMatchDisplay r)
    (op : RendererOp)
    (keepsMode : r.initialized = true →
      (r.step op).displayWidth = r.displayWidth ∧ (r.step op).displayHeight = r.displayHeight) :
    FramebuffersMatchDisplay (r.step op) := by
  cases reconfigures : op.reconfigures
  · exact holds.of_presentView_eq (r.step_presentView reconfigures)
  cases init : r.initialized
  · cases op with
    | Initialize => exact Initialize_framebuffersMatchDisplay init _ _ _
    | shutdown | setDisplayMode => simp [FramebuffersMatchDisplay, step, setDisplayMode, init]
    | _ => simp [RendererOp.reconfigures] at reconfigures
  · cases op with
    | Initialize => rwa [step, Initialize_of_initialized init]
    | shutdown => simp [FramebuffersMatchDisplay, step]
    | setDisplayMode =>
      obtain ⟨width, height⟩ := keepsMode init
      exact holds.of_presentView_eq
        (by simp only [presentView, Prod.mk.injEq, width, height]; exact ⟨rfl, rfl, rfl, trivial⟩)
    | _ => simp [RendererOp.reconfigures] at reconfigures

theorem ReachableAtFixedMode.framebuffersMatchDisplay {r : PS5Renderer}
    (reach : ReachableAtFixedMode r) : FramebuffersMatchDisplay r := by
  induction reach with
  | new frameBuffers => intro init; cases init
  | step op keepsMode _ holds => exact framebuffersMatchDisplay_step holds op keepsMode

/-- **Whenever an initialized renderer presents, it presents a live frame buffer that
`CreateFramebuffers` allocated**, whatever the operations before: the frame buffers are those
of a successful `Initialize` at some size `width × height`, and `Present` passes the current
one's colour address and the display size.  If no operation changed the display size of the
initialized renderer, `width × height` is that size. -/
theorem present_passes_created_framebuffer {r : PS5Renderer} (reach : Reachable r)
    (init : r.initialized = true) :
    ∃ width height, r.frameBuffers = createdFramebuffers width height ∧
      (r.frameBuffers r.currentIndex).colorBufferAddr ≠ 0 ∧
      r.presentCall =
        some ((r.frameBuffers r.currentIndex).colorBufferAddr, r.displayWidth, r.displayHeight) ∧
      (ReachableAtFixedMode r → width = r.displayWidth ∧ height = r.displayHeight) := by
  obtain ⟨wrapper, width, height, frameBuffers⟩ := reach.holdsCreatedFramebuffers init
  refine ⟨width, height, frameBuffers, ?_, presentCall_of_isSome wrapper, fun fixed => ?_⟩
  · rw [frameBuffers]
    exact createdFramebuffers_colorBufferAddr_ne_zero _ _ _
  · have atDisplay := (fixed.framebuffersMatchDisplay init).2
    rw [frameBuffers] at atDisplay
    exact ⟨congrArg (·.width) (congrFun atDisplay 0), congrArg (·.height) (congrFun atDisplay 0)⟩

/-- After a successful `Initialize` at the constructor's mode, `Present` passes frame buffer
0 at 1920×1080. -/
theorem present_passes_created_framebuffer_after_initialize :
    ((new fun _ => ⟨0, 0, 0, 0⟩).step (.Initialize true true true)).initialized = true ∧
      ((new fun _ => ⟨0, 0, 0, 0⟩).step (.Initialize true true true)).presentCall =
        some (0x100000000, 1920, 1080) := by
  refine ⟨by decide, ?_⟩
  obtain ⟨_, _, _, _, present, _⟩ :=
    present_passes_created_framebuffer (.step (.Initialize true true true) (.new fun _ => ⟨0, 0, 0, 0⟩))
      (by decide)
  rw [present]
  decide

/-- **`Present` can pass what `CreateFramebuffers` did not allocate.**  After a successful
`Initialize`, `SetDisplayMode(1280, 720, 60)` makes `Present` pass 1280×720 for a buffer
allocated at 1920×1080; after `Shutdown` it passes the released address `0`; and after an
`Initialize` that fails at the command buffer it passes the constructor's frame buffer. -/
theorem present_after_setDisplayMode_shutdown_or_failed_initialize :
    let initialized := (new fun _ => ⟨0, 0, 0, 0⟩).step (.Initialize true true true)
    ((initialized.step (.setDisplayMode 1280 720 60)).presentCall = some (0x100000000, 1280, 720) ∧
      ∀ i, ((initialized.step (.setDisplayMode 1280 720 60)).frameBuffers i).width = 1920) ∧
    (initialized.step .shutdown).presentCall = some (0, 1920, 1080) ∧
    ((new fun _ => ⟨0, 0, 0, 0⟩).step (.Initialize false true true)).presentCall =
      some (0, 1920, 1080) := by
  decide

/-! ### The frame buffers' regions -/

/-- The colour and depth regions of the frame buffers `createdFramebuffers` describes, in the
order `CreateFramebuffers` allocates them. -/
def framebufferGrants (width height : BitVec 32) : List Grant :=
  [0, 1, 2].flatMap fun i : Fin 3 =>
    [⟨(createdFramebuffers width height i).colorBufferAddr.toNat,
        (GNMWrapper.textureSize width height).toNat, 4096⟩,
      ⟨(createdFramebuffers width height i).depthBufferAddr.toNat,
        (GNMWrapper.textureSize width height).toNat, 4096⟩]

/-- They are the grants of six page-aligned allocations on the new wrapper. -/
theorem framebufferGrants_eq_memRun (width height : BitVec 32) :
    framebufferGrants width height =
      (initializedWrapper.memRun
        (List.replicate 6 (.allocateGPUMemory (GNMWrapper.textureSize width height) 4096))).1 := by
  rw [GNMWrapper.memRun_replicate]
  rfl

/-- **The six frame-buffer regions are page-aligned and disjoint** whenever six buffers of
the wrapped size, each with a page of padding, fit in 4 GiB. -/
theorem framebufferGrants_bumpSafe (width height : BitVec 32)
    (fits : 6 * ((GNMWrapper.textureSize width height).toNat + 4096) ≤ 2 ^ 32) :
    BumpSafe (framebufferGrants width height) := by
  rw [framebufferGrants_eq_memRun]
  refine GNMWrapper.memRun_bumpSafe_of_offset_zero _ rfl _ (fun op mem r request => ?_) ?_
  · obtain ⟨-, rfl⟩ := List.mem_replicate.1 mem
    simp only [MemOp.request, Option.some.injEq] at request
    subst request
    exact ⟨12, rfl⟩
  · simp only [List.replicate, MemOp.totalFootprint, MemOp.footprint, MemOp.request]
    simp only [BitVec.ofNat_eq_ofNat, BitVec.toNat_ofNat, Nat.reduceMod, Nat.reducePow]
    omega

/-- At 1080p the frame buffers are disjoint. -/
theorem framebufferGrants_bumpSafe_1080p :
    6 * ((GNMWrapper.textureSize 1920 1080).toNat + 4096) ≤ 2 ^ 32 ∧
      BumpSafe (framebufferGrants 1920 1080) :=
  ⟨by decide, framebufferGrants_bumpSafe 1920 1080 (by decide)⟩

/-- **At 32768×32768 the buffers reserve nothing.**  `32768 * 32768 * 4 = 2 ^ 32` wraps to `0`
in `uint32_t`: `CreateTexture` asks `AllocateGPUMemory` for `0` bytes, and a renderer set to
that mode before `Initialize` gets all six colour and depth buffers at one address. -/
theorem framebuffers_and_texture_at_32768_reserve_nothing :
    GNMWrapper.textureSize 32768 32768 = 0 ∧
      (MemOp.createTexture 32768 32768 0 0).request = some (0, 4096) ∧
      let r := ((new fun _ => ⟨0, 0, 0, 0⟩).step (.setDisplayMode 32768 32768 60)).step
        (.Initialize true true true)
      r.initialized = true ∧
        ∀ i, (r.frameBuffers i).colorBufferAddr = 0x100000000 ∧
          (r.frameBuffers i).depthBufferAddr = 0x100000000 := by
  decide

end PS5Renderer

end EdenPS5.PS5Graphics
