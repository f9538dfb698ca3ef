import Mathlib.Data.BitVec

/-!
# The GNM wrapper and its development allocator

`GNMWrapper` (`ps5_graphics/gnm_wrapper.cpp`) is the renderer's handle on the console's
graphics API.  Every SDK call in it is a placeholder, in the console build and in the
development build alike, so what is left to model is its state: three SDK handles, the
`initialized_` flag, and the one piece of real computation, the bump allocator of
`GNMWrapper::Impl`.

## Main definitions

* `Impl` — the private state, with the allocator's base `0x100000000` (an invariant of the
  structure: nothing assigns it) and offset.
* `Impl.alignedOffset` / `Impl.allocateMemory` — `Impl::AllocateMemory`, word for word.
* `GNMWrapper` and its operations: `Initialize`, `shutdown`, `allocateGPUMemory`,
  `freeGPUMemory`, `createBuffer`, `createTexture` and their destroy counterparts.

## Machine words

`size_t` and `uint64_t` are `BitVec 64`, `uint32_t` is `BitVec 32`, and every
conversion the C++ performs is written out.  Two of them matter:

* in `(gpu_memory_offset + alignment - 1) & ~(alignment - 1)` the complement is taken
  of a `uint32_t` and only then zero-extended, so the mask keeps the low 32 bits
  (`toNat_alignedOffset`): the aligned offset is always below `2 ^ 32`;
* in `CreateTexture`, `width * height * 4` is a `uint32_t` product that is widened to
  `size_t` after it has wrapped (`toNat_textureSize`).
-/

namespace EdenPS5.PS5Graphics

open BitVec

/-- The private state of a `GNMWrapper`: the SDK handles and the development allocator.
The defaults are the member initialisers of `GNMWrapper::Impl`; `gpu_memory_base` is never
assigned after its initialiser, which the last field records. -/
structure Impl where
  deviceHandle : BitVec 64 := 0
  contextHandle : BitVec 64 := 0
  commandQueueHandle : BitVec 64 := 0
  gpuMemoryBase : BitVec 64 := 0x100000000
  gpuMemoryOffset : BitVec 64 := 0
  gpuMemoryBase_eq : gpuMemoryBase = 0x100000000 := by rfl
  deriving DecidableEq, Repr

namespace Impl

/-- `aligned_offset` in `Impl::AllocateMemory`:
`(gpu_memory_offset + alignment - 1) & ~(alignment - 1)`, where `alignment - 1` and its
complement are `uint32_t` and the mask is zero-extended for the `&`. -/
def alignedOffset (offset : BitVec 64) (alignment : BitVec 32) : BitVec 64 :=
  (offset + alignment.setWidth 64 - 1) &&& (~~~(alignment - 1)).setWidth 64

/-- **`Impl::AllocateMemory`**: align the offset, hand out `gpu_memory_base` plus the
aligned offset, and move the offset past the `size` bytes just handed out. -/
def allocateMemory (impl : Impl) (size : BitVec 64) (alignment : BitVec 32) :
    BitVec 64 × Impl :=
  let aligned := alignedOffset impl.gpuMemoryOffset alignment
  (impl.gpuMemoryBase + aligned, { impl with gpuMemoryOffset := aligned + size })

@[simp] theorem allocateMemory_fst (impl : Impl) (size : BitVec 64) (alignment : BitVec 32) :
    (impl.allocateMemory size alignment).1 =
      impl.gpuMemoryBase + alignedOffset impl.gpuMemoryOffset alignment := rfl

@[simp] theorem allocateMemory_snd (impl : Impl) (size : BitVec 64) (alignment : BitVec 32) :
    (impl.allocateMemory size alignment).2 =
      { impl with gpuMemoryOffset := alignedOffset impl.gpuMemoryOffset alignment + size } :=
  rfl

/-! ### The alignment mask -/

/-- Zero-extending a 32-bit mask clears the high half of whatever it is applied to. -/
theorem and_setWidth_not (x : BitVec 64) (m : BitVec 32) :
    x &&& (~~~m).setWidth 64 = (x.setWidth 32 &&& ~~~m).setWidth 64 := by
  ext i
  by_cases low : (i : ℕ) < 32 <;> simp [low]

/-- Clearing and keeping the bits of a mask split a word into two disjoint parts. -/
theorem toNat_and_not_add_toNat_and (y m : BitVec 32) :
    (y &&& ~~~m).toNat + (y &&& m).toNat = y.toNat := by
  have disjoint : (y &&& ~~~m) &&& (y &&& m) = 0#32 := by
    ext i
    simp only [getLsbD_and, getLsbD_not, getLsbD_zero]
    cases y.getLsbD i <;> cases m.getLsbD i <;> simp
  have join : (y &&& ~~~m) ||| (y &&& m) = y := by
    ext i
    simp only [getLsbD_or, getLsbD_and, getLsbD_not]
    cases y.getLsbD i <;> cases m.getLsbD i <;> simp
  rw [← toNat_add_of_and_eq_zero disjoint, add_eq_or_of_and_eq_zero _ _ disjoint, join]

/-- **What the mask computes.**  For an alignment `2 ^ k`, `x & ~(alignment - 1)` rounds
the low 32 bits of `x` down to a multiple of `2 ^ k` and drops the high 32 bits. -/
theorem toNat_and_alignMask (x : BitVec 64) {alignment : BitVec 32} {k : ℕ}
    (pow : alignment.toNat = 2 ^ k) :
    (x &&& (~~~(alignment - 1)).setWidth 64).toNat = x.toNat % 2 ^ 32 - x.toNat % 2 ^ k := by
  have small : 2 ^ k < 2 ^ 32 := pow ▸ alignment.isLt
  have kle : k ≤ 32 := ((Nat.pow_lt_pow_iff_right (by decide)).1 small).le
  have pred : (alignment - 1).toNat = 2 ^ k - 1 := by
    have : 1 ≤ 2 ^ k := Nat.one_le_two_pow
    simp only [toNat_sub, pow, ofNat_eq_ofNat, toNat_ofNat]
    omega
  have low : (x.setWidth 32 &&& (alignment - 1)).toNat = x.toNat % 2 ^ k := by
    rw [toNat_and, pred, Nat.and_pow_two_sub_one_eq_mod, toNat_setWidth,
      Nat.mod_mod_of_dvd _ (Nat.pow_dvd_pow 2 kle)]
  have split := toNat_and_not_add_toNat_and (x.setWidth 32) (alignment - 1)
  rw [and_setWidth_not, toNat_setWidth, Nat.mod_eq_of_lt (by omega)]
  simp only [toNat_setWidth] at split
  omega

/-- The raw sum `gpu_memory_offset + alignment - 1`, as a number. -/
theorem toNat_offset_add_alignment_sub_one (offset : BitVec 64) {alignment : BitVec 32} {k : ℕ}
    (pow : alignment.toNat = 2 ^ k) :
    (offset + alignment.setWidth 64 - 1).toNat = (offset.toNat + 2 ^ k - 1) % 2 ^ 64 := by
  have : 1 ≤ 2 ^ k := Nat.one_le_two_pow
  have : 2 ^ k < 2 ^ 32 := pow ▸ alignment.isLt
  simp only [toNat_sub, toNat_add, toNat_setWidth, pow, ofNat_eq_ofNat, toNat_ofNat]
  rw [Nat.mod_eq_of_lt (by omega : 2 ^ k < 2 ^ 64)]
  omega

/-- **`aligned_offset`, as a number.**  The sum is taken modulo `2 ^ 64`, the mask then
keeps its low 32 bits rounded down to the alignment. -/
theorem toNat_alignedOffset (offset : BitVec 64) {alignment : BitVec 32} {k : ℕ}
    (pow : alignment.toNat = 2 ^ k) :
    (alignedOffset offset alignment).toNat =
      (offset.toNat + 2 ^ k - 1) % 2 ^ 64 % 2 ^ 32 - (offset.toNat + 2 ^ k - 1) % 2 ^ 64 % 2 ^ k := by
  rw [alignedOffset, toNat_and_alignMask _ pow, toNat_offset_add_alignment_sub_one _ pow]

/-- The aligned offset is a multiple of the alignment. -/
theorem alignedOffset_dvd (offset : BitVec 64) {alignment : BitVec 32} {k : ℕ}
    (pow : alignment.toNat = 2 ^ k) : 2 ^ k ∣ (alignedOffset offset alignment).toNat := by
  have kle : k ≤ 32 := by
    have : 2 ^ k < 2 ^ 32 := pow ▸ alignment.isLt
    exact ((Nat.pow_lt_pow_iff_right (by decide)).1 this).le
  rw [toNat_alignedOffset _ pow, ← Nat.mod_mod_of_dvd _ (Nat.pow_dvd_pow 2 kle)]
  exact Nat.dvd_sub_mod _

theorem toNat_gpuMemoryBase (impl : Impl) : impl.gpuMemoryBase.toNat = 2 ^ 32 := by
  rw [impl.gpuMemoryBase_eq]
  rfl

/-- Whatever the offset, the aligned offset is below `2 ^ 32`: the mask has no high bits. -/
theorem alignedOffset_lt (offset : BitVec 64) (alignment : BitVec 32) :
    (alignedOffset offset alignment).toNat < 2 ^ 32 := by
  rw [alignedOffset, toNat_and, toNat_setWidth]
  exact lt_of_le_of_lt Nat.and_le_right (lt_of_le_of_lt (Nat.mod_le _ _) (~~~(alignment - 1)).isLt)

/-- **Below `2 ^ 32` the mask is the textbook round-up.**  When
`gpu_memory_offset + alignment - 1` fits in 32 bits, the aligned offset is the least
multiple of the alignment at or above the offset. -/
theorem toNat_alignedOffset_of_lt (offset : BitVec 64) {alignment : BitVec 32} {k : ℕ}
    (pow : alignment.toNat = 2 ^ k) (fits : offset.toNat + 2 ^ k - 1 < 2 ^ 32) :
    (alignedOffset offset alignment).toNat =
      (offset.toNat + 2 ^ k - 1) - (offset.toNat + 2 ^ k - 1) % 2 ^ k := by
  rw [toNat_alignedOffset _ pow, Nat.mod_eq_of_lt (by omega : offset.toNat + 2 ^ k - 1 < 2 ^ 64),
    Nat.mod_eq_of_lt fits]

end Impl

/-- A `GNMWrapper`: its private `Impl` and `initialized_`.  `GNMWrapper()` is `{}`. -/
structure GNMWrapper where
  impl : Impl := {}
  initialized : Bool := false
  deriving DecidableEq, Repr

namespace GNMWrapper

/-- `InitializeDevice`: the placeholder handles are set to `1`, and (console build) checked
to be non-zero. -/
def initializeDevice (w : GNMWrapper) : Bool × GNMWrapper :=
  let impl := { w.impl with deviceHandle := 1, contextHandle := 1 }
  (impl.deviceHandle != 0 && impl.contextHandle != 0, { w with impl })

/-- `ShutdownDevice`: both handles end at `0`. -/
def shutdownDevice (w : GNMWrapper) : GNMWrapper :=
  { w with impl := { w.impl with contextHandle := 0, deviceHandle := 0 } }

/-- `CreateCommandQueue`: the placeholder queue handle `1`, checked to be non-zero. -/
def createCommandQueue (w : GNMWrapper) : Bool × GNMWrapper :=
  let impl := { w.impl with commandQueueHandle := 1 }
  (impl.commandQueueHandle != 0, { w with impl })

/-- `DestroyCommandQueue`. -/
def destroyCommandQueue (w : GNMWrapper) : GNMWrapper :=
  { w with impl := { w.impl with commandQueueHandle := 0 } }

/-- **`GNMWrapper::Initialize`**: idempotent; device, then command queue, then the flag. -/
def Initialize (w : GNMWrapper) : Bool × GNMWrapper :=
  if w.initialized then (true, w) else
  match w.initializeDevice with
  | (false, w) => (false, w)
  | (true, w) =>
    match w.createCommandQueue with
    | (false, w) => (false, w)
    | (true, w) => (true, { w with initialized := true })

/-- **`GNMWrapper::Shutdown`**: `WaitForIdle` (a log line), the queue, the device, the flag. -/
def shutdown (w : GNMWrapper) : GNMWrapper :=
  if !w.initialized then w else { w.destroyCommandQueue.shutdownDevice with initialized := false }

/-- `AllocateGPUMemory`: in both builds, the development allocator. -/
def allocateGPUMemory (w : GNMWrapper) (size : BitVec 64) (alignment : BitVec 32) :
    BitVec 64 × GNMWrapper :=
  let (address, impl) := w.impl.allocateMemory size alignment
  (address, { w with impl })

/-- `FreeGPUMemory`: the development allocator never frees. -/
def freeGPUMemory (w : GNMWrapper) (_address : BitVec 64) : GNMWrapper := w

/-- `Present`: a log line, and `true`. -/
def present (_w : GNMWrapper) (_colorBufferAddr : BitVec 64) (_width _height : BitVec 32) :
    Bool := true

/-- `CreateBuffer`: 256-byte alignment, whatever the usage flags. -/
def createBuffer (w : GNMWrapper) (size : BitVec 64) (_usageFlags : BitVec 32) :
    BitVec 64 × GNMWrapper :=
  w.allocateGPUMemory size 256

/-- `DestroyBuffer`. -/
def destroyBuffer (w : GNMWrapper) (bufferHandle : BitVec 64) : GNMWrapper :=
  w.freeGPUMemory bufferHandle

/-- `texture_size` in `CreateTexture`: the `uint32_t` product `width * height * 4`,
widened to `size_t` only afterwards. -/
def textureSize (width height : BitVec 32) : BitVec 64 :=
  (width * height * 4).setWidth 64

/-- `CreateTexture`: `texture_size` bytes at page (4096-byte) alignment. -/
def createTexture (w : GNMWrapper) (width height _format _usageFlags : BitVec 32) :
    BitVec 64 × GNMWrapper :=
  w.allocateGPUMemory (textureSize width height) 4096

/-- `DestroyTexture`. -/
def destroyTexture (w : GNMWrapper) (textureHandle : BitVec 64) : GNMWrapper :=
  w.freeGPUMemory textureHandle

@[simp] theorem allocateGPUMemory_fst (w : GNMWrapper) (size : BitVec 64) (alignment : BitVec 32) :
    (w.allocateGPUMemory size alignment).1 =
      w.impl.gpuMemoryBase + Impl.alignedOffset w.impl.gpuMemoryOffset alignment := rfl

@[simp] theorem allocateGPUMemory_snd_impl (w : GNMWrapper) (size : BitVec 64)
    (alignment : BitVec 32) :
    (w.allocateGPUMemory size alignment).2.impl =
      { w.impl with gpuMemoryOffset := Impl.alignedOffset w.impl.gpuMemoryOffset alignment + size } :=
  rfl

@[simp] theorem allocateGPUMemory_snd_initialized (w : GNMWrapper) (size : BitVec 64)
    (alignment : BitVec 32) : (w.allocateGPUMemory size alignment).2.initialized = w.initialized :=
  rfl

/-- A new wrapper initialises: handles `1`, allocator untouched. -/
theorem Initialize_new :
    ({} : GNMWrapper).Initialize =
      (true, { impl := { deviceHandle := 1, contextHandle := 1, commandQueueHandle := 1 },
               initialized := true }) := rfl

/-- `Initialize` and `Shutdown` touch the handles and the flag, never the allocator. -/
@[simp] theorem Initialize_snd_impl_gpuMemory (w : GNMWrapper) :
    (w.Initialize.2.impl.gpuMemoryBase, w.Initialize.2.impl.gpuMemoryOffset) =
      (w.impl.gpuMemoryBase, w.impl.gpuMemoryOffset) := by
  unfold Initialize
  split <;> rfl

@[simp] theorem shutdown_impl_gpuMemory (w : GNMWrapper) :
    (w.shutdown.impl.gpuMemoryBase, w.shutdown.impl.gpuMemoryOffset) =
      (w.impl.gpuMemoryBase, w.impl.gpuMemoryOffset) := by
  unfold shutdown
  split <;> rfl

/-- The size `CreateTexture` asks for is the pixel count times four, modulo `2 ^ 32`. -/
theorem toNat_textureSize (width height : BitVec 32) :
    (textureSize width height).toNat = width.toNat * height.toNat * 4 % 2 ^ 32 := by
  have small := (width * height * 4).isLt
  rw [textureSize, toNat_setWidth, Nat.mod_eq_of_lt (by omega), toNat_mul, toNat_mul,
    Nat.mod_mul_mod]
  rfl

end GNMWrapper

end EdenPS5.PS5Graphics
