import EdenPS5.PS5Graphics.BumpAllocator

/-!
# The renderer

`PS5Renderer` (`ps5_graphics/ps5_renderer.cpp`) owns a `GNMWrapper`, three frame buffers for
triple buffering, and the frame counters.  Its command buffer, texture manager and shader
compiler are classes whose sources are not part of the port: they are modelled by whether
the renderer holds one, and the results of their `Initialize` calls are inputs of
`PS5Renderer.Initialize`.

## Main definitions

* `FrameBuffer`, `PS5Renderer` — the state.  `frame_buffers_` is not in the constructor's
  initialiser list, so `PS5Renderer.new` takes its initial contents as an argument.  The
  index `current_frame_buffer_` carries its bound `< MAX_FRAME_BUFFERS` as a field, which
  `BeginFrame` re-establishes (`current_frame_ % 3`).
* `createFramebuffer` / `createFramebuffers` — the loop of `CreateFramebuffers`, with its
  early exit when an allocation returns `0`.
* `Initialize`, `shutdown`, `setDisplayMode`, `beginFrame`, and `presentCall`, the arguments
  `Present` hands to `GNMWrapper::Present`.
* `RendererOp`, `step`, `Reachable` — the public operations and the states they reach from
  the constructor.
-/

namespace EdenPS5.PS5Graphics

/-- `PS5Renderer::FrameBuffer`. -/
structure FrameBuffer where
  colorBufferAddr : BitVec 64
  depthBufferAddr : BitVec 64
  width : BitVec 32
  height : BitVec 32
  deriving DecidableEq, Repr

/-- The state of a `PS5Renderer`.  `commandBuffer`, `textureManager` and `shaderCompiler`
say whether the corresponding `unique_ptr` is set. -/
structure PS5Renderer where
  gnmWrapper : Option GNMWrapper
  commandBuffer : Bool
  textureManager : Bool
  shaderCompiler : Bool
  initialized : Bool
  displayWidth : BitVec 32
  displayHeight : BitVec 32
  currentFrame : BitVec 32
  frameBuffers : Fin 3 → FrameBuffer
  currentFrameBuffer : BitVec 64
  currentFrameBuffer_lt : currentFrameBuffer.toNat < 3

namespace PS5Renderer

/-- `PS5Renderer()`: 1920×1080, frame 0, buffer 0, nothing created yet. -/
def new (frameBuffers : Fin 3 → FrameBuffer) : PS5Renderer where
  gnmWrapper := none
  commandBuffer := false
  textureManager := false
  shaderCompiler := false
  initialized := false
  displayWidth := 1920
  displayHeight := 1080
  currentFrame := 0
  frameBuffers := frameBuffers
  currentFrameBuffer := 0
  currentFrameBuffer_lt := by decide

/-- `frame_buffers_[current_frame_buffer_]`, in bounds by the field `currentFrameBuffer_lt`. -/
def currentIndex (r : PS5Renderer) : Fin 3 := ⟨r.currentFrameBuffer.toNat, r.currentFrameBuffer_lt⟩

/-- `fb = frame_buffers_[i]` written back. -/
def setFrameBuffer (r : PS5Renderer) (i : Fin 3) (fb : FrameBuffer) : PS5Renderer :=
  { r with frameBuffers := Function.update r.frameBuffers i fb }

/-- `PS5Renderer::AllocateGPUMemory`: through the wrapper if there is one, `0` otherwise. -/
def allocateGPUMemory (r : PS5Renderer) (size : BitVec 64) (alignment : BitVec 32) :
    BitVec 64 × PS5Renderer :=
  match r.gnmWrapper with
  | some w =>
    let (address, w) := w.allocateGPUMemory size alignment
    (address, { r with gnmWrapper := some w })
  | none => (0, r)

/-- `PS5Renderer::FreeGPUMemory`: through the wrapper, where it is a no-op. -/
def freeGPUMemory (r : PS5Renderer) (address : BitVec 64) : PS5Renderer :=
  { r with gnmWrapper := r.gnmWrapper.map (·.freeGPUMemory address) }

/-- `SetDisplayMode`: the new dimensions are recorded, nothing is reallocated. -/
def setDisplayMode (r : PS5Renderer) (width height _refreshRate : BitVec 32) :
    Bool × PS5Renderer :=
  (true, { r with displayWidth := width, displayHeight := height })

/-- `InitializeGNM`, console build: `SetDisplayMode` with the current dimensions at 60 Hz. -/
def initializeGNM (r : PS5Renderer) : Bool × PS5Renderer :=
  r.setDisplayMode r.displayWidth r.displayHeight 60

/-- One pass of the loop of `CreateFramebuffers`, for frame buffer `i`: colour, then depth,
each `display_width_ * display_height_ * 4` bytes (a `uint32_t` product, widened to
`size_t`) at page alignment, then the dimensions.  An allocation of `0` stops the loop
with the address already written. -/
def createFramebuffer (r : PS5Renderer) (i : Fin 3) : Bool × PS5Renderer :=
  let colorBufferSize := (r.displayWidth * r.displayHeight * 4).setWidth 64
  let depthBufferSize := (r.displayWidth * r.displayHeight * 4).setWidth 64
  let (color, r) := r.allocateGPUMemory colorBufferSize 4096
  let r := r.setFrameBuffer i { r.frameBuffers i with colorBufferAddr := color }
  if color = 0 then (false, r) else
  let (depth, r) := r.allocateGPUMemory depthBufferSize 4096
  let r := r.setFrameBuffer i { r.frameBuffers i with depthBufferAddr := depth }
  if depth = 0 then (false, r) else
  (true, r.setFrameBuffer i
    { r.frameBuffers i with width := r.displayWidth, height := r.displayHeight })

/-- The loop of `CreateFramebuffers` over the indices still to do. -/
def createFramebuffersFrom : List (Fin 3) → PS5Renderer → Bool × PS5Renderer
  | [], r => (true, r)
  | i :: rest, r =>
    match r.createFramebuffer i with
    | (true, r) => createFramebuffersFrom rest r
    | (false, r) => (false, r)

/-- **`CreateFramebuffers`**: frame buffers 0, 1 and 2 in turn. -/
def createFramebuffers (r : PS5Renderer) : Bool × PS5Renderer :=
  createFramebuffersFrom [0, 1, 2] r

/-- One pass of the loop of `DestroyFramebuffers`: each non-zero address is freed and
zeroed. -/
def destroyFramebuffer (r : PS5Renderer) (i : Fin 3) : PS5Renderer :=
  let fb := r.frameBuffers i
  let r := if fb.colorBufferAddr ≠ 0 then
    (r.freeGPUMemory fb.colorBufferAddr).setFrameBuffer i { fb with colorBufferAddr := 0 } else r
  let fb := r.frameBuffers i
  if fb.depthBufferAddr ≠ 0 then
    (r.freeGPUMemory fb.depthBufferAddr).setFrameBuffer i { fb with depthBufferAddr := 0 } else r

/-- **`DestroyFramebuffers`**. -/
def destroyFramebuffers (r : PS5Renderer) : PS5Renderer :=
  ((r.destroyFramebuffer 0).destroyFramebuffer 1).destroyFramebuffer 2

/-- **`PS5Renderer::Initialize`**: idempotent; otherwise a new `GNMWrapper`, the three
subsystems, the graphics context and the frame buffers, stopping at the first failure with
what was created so far kept. -/
def Initialize (r : PS5Renderer) (commandBufferOk textureManagerOk shaderCompilerOk : Bool) :
    Bool × PS5Renderer :=
  if r.initialized then (true, r) else
  let (gnmOk, w) := ({} : GNMWrapper).Initialize
  let r := { r with gnmWrapper := some w }
  if !gnmOk then (false, r) else
  let r := { r with commandBuffer := true }
  if !commandBufferOk then (false, r) else
  let r := { r with textureManager := true }
  if !textureManagerOk then (false, r) else
  let r := { r with shaderCompiler := true }
  if !shaderCompilerOk then (false, r) else
  let (gnmContextOk, r) := r.initializeGNM
  if !gnmContextOk then (false, r) else
  let (framebuffersOk, r) := r.createFramebuffers
  if !framebuffersOk then (false, r) else
  (true, { r with initialized := true })

/-- **`PS5Renderer::Shutdown`**: the frame buffers are released and the wrapper shut down,
but the `unique_ptr`s stay set. -/
def shutdown (r : PS5Renderer) : PS5Renderer :=
  if !r.initialized then r else
  let r := r.destroyFramebuffers
  { r with gnmWrapper := r.gnmWrapper.map GNMWrapper.shutdown, initialized := false }

/-- **`BeginFrame`**: `current_frame_++` in 32 bits, then
`current_frame_buffer_ = current_frame_ % MAX_FRAME_BUFFERS` in `size_t`. -/
def beginFrame (r : PS5Renderer) : PS5Renderer :=
  let currentFrame := r.currentFrame + 1
  { r with
    currentFrame := currentFrame
    currentFrameBuffer := currentFrame.setWidth 64 % 3
    currentFrameBuffer_lt := by
      rw [BitVec.toNat_umod]
      exact Nat.mod_lt _ (by decide) }

/-- The arguments of the `GNMWrapper::Present` call that `Present` makes, if the renderer
holds a wrapper: the current frame buffer's colour address and the display dimensions. -/
def presentCall (r : PS5Renderer) : Option (BitVec 64 × BitVec 32 × BitVec 32) :=
  r.gnmWrapper.map fun _ =>
    ((r.frameBuffers r.currentIndex).colorBufferAddr, r.displayWidth, r.displayHeight)

end PS5Renderer

/-- The public operations of `PS5Renderer` that reach its state, with the results of the
calls into classes outside the port as arguments. -/
inductive RendererOp
  | Initialize (commandBufferOk textureManagerOk shaderCompilerOk : Bool)
  | shutdown
  | setDisplayMode (width height refreshRate : BitVec 32)
  | beginFrame
  | endFrame
  | present
  | allocateGPUMemory (size : BitVec 64) (alignment : BitVec 32)
  | freeGPUMemory (address : BitVec 64)
  | createTexture (width height format : BitVec 32)
  | destroyTexture (textureId : BitVec 32)
  | submitCommandBuffer
  deriving DecidableEq, Repr

namespace PS5Renderer

/-- One public operation.  `EndFrame`, `Present`, `SubmitCommandBuffer` and the texture
calls go to the command buffer, the texture manager or `GNMWrapper::Present`, none of which
changes the renderer's state. -/
def step (r : PS5Renderer) : RendererOp → PS5Renderer
  | .Initialize commandBufferOk textureManagerOk shaderCompilerOk =>
    (r.Initialize commandBufferOk textureManagerOk shaderCompilerOk).2
  | .shutdown => r.shutdown
  | .setDisplayMode width height refreshRate => (r.setDisplayMode width height refreshRate).2
  | .beginFrame => r.beginFrame
  | .allocateGPUMemory size alignment => (r.allocateGPUMemory size alignment).2
  | .freeGPUMemory address => r.freeGPUMemory address
  | .endFrame | .present | .createTexture .. | .destroyTexture _ | .submitCommandBuffer => r

/-- The renderer states reachable from the constructor by public operations. -/
inductive Reachable : PS5Renderer → Prop
  | new (frameBuffers : Fin 3 → FrameBuffer) : Reachable (new frameBuffers)
  | step {r : PS5Renderer} (op : RendererOp) : Reachable r → Reachable (r.step op)

/-! ### What each operation touches -/

/-- Everything but the wrapper and the frame buffers: the fields that the memory and
frame-buffer helpers never write. -/
def control (r : PS5Renderer) :
    Bool × Bool × Bool × Bool × BitVec 32 × BitVec 32 × BitVec 32 × BitVec 64 :=
  (r.commandBuffer, r.textureManager, r.shaderCompiler, r.initialized, r.displayWidth,
    r.displayHeight, r.currentFrame, r.currentFrameBuffer)

@[simp] theorem allocateGPUMemory_control (r : PS5Renderer) (size : BitVec 64)
    (alignment : BitVec 32) : (r.allocateGPUMemory size alignment).2.control = r.control := by
  unfold allocateGPUMemory
  split <;> rfl

@[simp] theorem setFrameBuffer_control (r : PS5Renderer) (i : Fin 3) (fb : FrameBuffer) :
    (r.setFrameBuffer i fb).control = r.control := rfl

@[simp] theorem freeGPUMemory_control (r : PS5Renderer) (address : BitVec 64) :
    (r.freeGPUMemory address).control = r.control := rfl

theorem createFramebuffer_control (r : PS5Renderer) (i : Fin 3) :
    (r.createFramebuffer i).2.control = r.control := by
  unfold createFramebuffer
  dsimp only
  split_ifs <;> simp

@[simp] theorem createFramebuffersFrom_control (indices : List (Fin 3)) (r : PS5Renderer) :
    (createFramebuffersFrom indices r).2.control = r.control := by
  induction indices generalizing r with
  | nil => rfl
  | cons i rest ih =>
    have pass := r.createFramebuffer_control i
    unfold createFramebuffersFrom
    split <;> simp_all

@[simp] theorem createFramebuffers_control (r : PS5Renderer) :
    r.createFramebuffers.2.control = r.control :=
  createFramebuffersFrom_control _ r

theorem destroyFramebuffer_control (r : PS5Renderer) (i : Fin 3) :
    (r.destroyFramebuffer i).control = r.control := by
  unfold destroyFramebuffer
  dsimp only
  split_ifs <;> rfl

@[simp] theorem destroyFramebuffers_control (r : PS5Renderer) :
    r.destroyFramebuffers.control = r.control := by
  simp only [destroyFramebuffers, destroyFramebuffer_control]

/-- The display dimensions and the frame counters: only `SetDisplayMode` and `BeginFrame`
write them. -/
def display (r : PS5Renderer) : BitVec 32 × BitVec 32 × BitVec 32 × BitVec 64 :=
  (r.displayWidth, r.displayHeight, r.currentFrame, r.currentFrameBuffer)

theorem display_eq_of_control_eq {r r' : PS5Renderer} (same : r'.control = r.control) :
    r'.display = r.display := by
  simp only [control, Prod.mk.injEq] at same
  simp only [display, same]

@[simp] theorem createFramebuffers_display (r : PS5Renderer) :
    r.createFramebuffers.2.display = r.display :=
  display_eq_of_control_eq r.createFramebuffers_control

@[simp] theorem display_with_initialized (r : PS5Renderer) (initialized : Bool) :
    { r with initialized := initialized }.display = r.display := rfl

/-- `InitializeGNM` sets the mode the renderer already has. -/
@[simp] theorem initializeGNM_eq (r : PS5Renderer) : r.initializeGNM = (true, r) := rfl

@[simp] theorem Initialize_display (r : PS5Renderer)
    (commandBufferOk textureManagerOk shaderCompilerOk : Bool) :
    (r.Initialize commandBufferOk textureManagerOk shaderCompilerOk).2.display = r.display := by
  unfold Initialize
  simp only [GNMWrapper.Initialize_new, initializeGNM_eq, Bool.not_true]
  split_ifs <;> simp only [createFramebuffers_display, display_with_initialized] <;> rfl

@[simp] theorem destroyFramebuffers_display (r : PS5Renderer) :
    r.destroyFramebuffers.display = r.display :=
  display_eq_of_control_eq r.destroyFramebuffers_control

@[simp] theorem display_with_gnmWrapper_initialized (r : PS5Renderer) (w : Option GNMWrapper)
    (initialized : Bool) :
    { r with gnmWrapper := w, initialized := initialized }.display = r.display := rfl

@[simp] theorem shutdown_display (r : PS5Renderer) : r.shutdown.display = r.display := by
  unfold shutdown
  split_ifs <;> simp only [display_with_gnmWrapper_initialized, destroyFramebuffers_display]

end PS5Renderer

end EdenPS5.PS5Graphics
