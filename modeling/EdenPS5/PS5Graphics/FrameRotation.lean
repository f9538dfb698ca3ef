import EdenPS5.PS5Graphics.Renderer

/-!
# Triple-buffer rotation

`BeginFrame` increments the 32-bit `current_frame_` and selects frame buffer
`current_frame_ % MAX_FRAME_BUFFERS`.  The index is below 3 by construction (it is a field
of `PS5Renderer` with its bound), and in every reachable state it is the counter modulo 3
(`Reachable.frameIndexed`).  So each `BeginFrame` moves to the next buffer
(`beginFrame_rotates`) — except at the counter's wrap.  `2 ^ 32 - 1` is a multiple of 3,
so the frame that takes the counter to `0xFFFFFFFF` selects buffer 0, and the next one, at
counter 0, selects buffer 0 again (`beginFrame_reuses_buffer_at_counter_wrap`).
-/

namespace EdenPS5.PS5Graphics

namespace PS5Renderer

@[simp] theorem new_currentFrame (frameBuffers : Fin 3 → FrameBuffer) :
    (new frameBuffers).currentFrame = 0 := rfl

@[simp] theorem beginFrame_currentFrame (r : PS5Renderer) :
    r.beginFrame.currentFrame = r.currentFrame + 1 := rfl

@[simp] theorem beginFrame_currentFrameBuffer (r : PS5Renderer) :
    r.beginFrame.currentFrameBuffer = (r.currentFrame + 1).setWidth 64 % 3 := rfl

/-- The index `BeginFrame` selects, as a number. -/
theorem toNat_beginFrame_currentFrameBuffer (r : PS5Renderer) :
    r.beginFrame.currentFrameBuffer.toNat = (r.currentFrame.toNat + 1) % 2 ^ 32 % 3 := by
  simp only [beginFrame_currentFrameBuffer, BitVec.toNat_umod, BitVec.toNat_setWidth,
    BitVec.toNat_add, BitVec.ofNat_eq_ofNat, BitVec.toNat_ofNat, Nat.reduceMod, Nat.reducePow]
  omega

/-- The counter after `n` frames. -/
theorem iterate_beginFrame_currentFrame (r : PS5Renderer) (n : ℕ) :
    (beginFrame^[n] r).currentFrame = r.currentFrame + BitVec.ofNat 32 n := by
  induction n with
  | zero => simp
  | succ n ih =>
    rw [Function.iterate_succ_apply', beginFrame_currentFrame, ih, BitVec.add_assoc]
    congr 1
    apply BitVec.eq_of_toNat_eq
    simp [BitVec.toNat_add]

/-- No operation but `BeginFrame` moves the counter or the index. -/
theorem step_counters (r : PS5Renderer) {op : RendererOp} (other : op ≠ .beginFrame) :
    (r.step op).currentFrame = r.currentFrame ∧
      (r.step op).currentFrameBuffer = r.currentFrameBuffer := by
  have fromDisplay : ∀ {r' : PS5Renderer}, r'.display = r.display →
      r'.currentFrame = r.currentFrame ∧ r'.currentFrameBuffer = r.currentFrameBuffer := by
    intro r' same
    simp only [display, Prod.mk.injEq] at same
    exact ⟨same.2.2.1, same.2.2.2⟩
  cases op with
  | Initialize => exact fromDisplay (Initialize_display ..)
  | shutdown => exact fromDisplay r.shutdown_display
  | beginFrame => exact absurd rfl other
  | allocateGPUMemory size alignment =>
    exact fromDisplay (display_eq_of_control_eq (allocateGPUMemory_control ..))
  | _ => exact ⟨rfl, rfl⟩

/-- The index is the counter modulo 3. -/
def FrameIndexed (r : PS5Renderer) : Prop :=
  r.currentFrameBuffer.toNat = r.currentFrame.toNat % 3

theorem frameIndexed_new (frameBuffers : Fin 3 → FrameBuffer) :
    FrameIndexed (new frameBuffers) := rfl

theorem frameIndexed_step {r : PS5Renderer} (indexed : FrameIndexed r) (op : RendererOp) :
    FrameIndexed (r.step op) := by
  by_cases begin : op = .beginFrame
  · subst begin
    simp only [FrameIndexed, step, toNat_beginFrame_currentFrameBuffer, beginFrame_currentFrame,
      BitVec.toNat_add]
    rfl
  · obtain ⟨frame, index⟩ := r.step_counters begin
    rw [FrameIndexed, frame, index]
    exact indexed

/-- **In every reachable state the index is the counter modulo 3.** -/
theorem Reachable.frameIndexed {r : PS5Renderer} (reach : Reachable r) : FrameIndexed r := by
  induction reach with
  | new frameBuffers => exact frameIndexed_new frameBuffers
  | step op _ indexed => exact frameIndexed_step indexed op

/-- **`BeginFrame` rotates to the next buffer** from every reachable state whose counter is
not about to wrap: the index is the counter modulo 3, and the new index is the old one plus
one, modulo 3, and below 3. -/
theorem beginFrame_rotates {r : PS5Renderer} (reach : Reachable r)
    (noWrap : r.currentFrame ≠ 0xFFFFFFFF) :
    r.currentFrameBuffer.toNat = r.currentFrame.toNat % 3 ∧
      r.beginFrame.currentFrameBuffer.toNat = (r.currentFrameBuffer.toNat + 1) % 3 ∧
      r.beginFrame.currentFrameBuffer.toNat < 3 := by
  have indexed : r.currentFrameBuffer.toNat = r.currentFrame.toNat % 3 := reach.frameIndexed
  have below : r.currentFrame.toNat + 1 < 2 ^ 32 := by
    have : r.currentFrame.toNat ≠ 0xFFFFFFFF := fun same => noWrap (BitVec.eq_of_toNat_eq same)
    have := r.currentFrame.isLt
    omega
  rw [toNat_beginFrame_currentFrameBuffer, Nat.mod_eq_of_lt below]
  omega

/-- The first frame of a new renderer moves from buffer 0 to buffer 1. -/
theorem beginFrame_rotates_new :
    (new fun _ => ⟨0, 0, 0, 0⟩).currentFrame ≠ 0xFFFFFFFF ∧
      (new fun _ => ⟨0, 0, 0, 0⟩).beginFrame.currentFrameBuffer.toNat =
        ((new fun _ => ⟨0, 0, 0, 0⟩).currentFrameBuffer.toNat + 1) % 3 :=
  ⟨by decide, (beginFrame_rotates (.new _) (by decide)).2.1⟩

/-- **At the counter's wrap the rotation repeats a buffer.**  From a new renderer, the
`2 ^ 32 - 1`-th `BeginFrame` selects buffer 0 (`0xFFFFFFFF` is a multiple of 3), and the
next one, at counter 0, selects buffer 0 again. -/
theorem beginFrame_reuses_buffer_at_counter_wrap (frameBuffers : Fin 3 → FrameBuffer) :
    (beginFrame^[2 ^ 32 - 1] (new frameBuffers)).currentFrameBuffer = 0 ∧
      (beginFrame^[2 ^ 32] (new frameBuffers)).currentFrameBuffer = 0 := by
  have last : ∀ n, (beginFrame^[n + 1] (new frameBuffers)).currentFrameBuffer =
      (BitVec.ofNat 32 (n + 1)).setWidth 64 % 3 := by
    intro n
    rw [Function.iterate_succ_apply', beginFrame_currentFrameBuffer,
      iterate_beginFrame_currentFrame, new_currentFrame]
    congr 2
    apply BitVec.eq_of_toNat_eq
    simp only [BitVec.toNat_add, BitVec.ofNat_eq_ofNat, BitVec.toNat_ofNat]
    omega
  constructor
  · rw [show 2 ^ 32 - 1 = (2 ^ 32 - 2) + 1 from rfl, last]
    decide
  · rw [show 2 ^ 32 = (2 ^ 32 - 1) + 1 from rfl, last]
    decide

end PS5Renderer

end EdenPS5.PS5Graphics
