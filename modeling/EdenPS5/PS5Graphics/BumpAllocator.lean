import EdenPS5.PS5Graphics.GNMWrapper
import Mathlib.Data.List.Pairwise

/-!
# The bump allocator behind `AllocateGPUMemory`

Every GPU allocation of the port goes through `Impl::AllocateMemory`: `AllocateGPUMemory`
directly, `CreateBuffer` at 256-byte alignment, `CreateTexture` at 4096, and the renderer's
frame buffers through `PS5Renderer::AllocateGPUMemory`.  The frees are no-ops.  This file
states what that allocator is for and where the code achieves it.

## Two levels

* `BumpAllocator` — the allocator the code is meant to be, on unbounded numbers: round the
  offset up to the alignment, hand out base plus that, move past the size.  Every run of it
  is `BumpSafe` (`BumpAllocator.run_bumpSafe`): aligned grants, each starting at or after
  the end of every earlier one.
* `GNMWrapper.memRun` — the wrapper's own memory operations (`MemOp`), on machine words.

`memRun_eq_run` is the simulation: while the sizes and alignments asked for add up to less
than `2 ^ 32`, the wrapper hands out exactly the bump allocator's grants.  The bound is
load-bearing.  The mask of `alignedOffset` keeps only the low 32 bits, so once the offset
reaches `2 ^ 32` the next grant lands back at the bottom of the arena, on top of the first
one (`createBuffer_grants_overlap_past_four_gib`).  Alignment alone survives every run
(`GNMWrapper.memRun_grant_aligned`): the base `0x100000000` is a multiple of every 32-bit power of
two.
-/

namespace EdenPS5.PS5Graphics

/-- What one allocation handed out: its address, the size asked for, and the alignment. -/
structure Grant where
  address : ℕ
  size : ℕ
  alignment : ℕ
  deriving DecidableEq, Repr

/-- **Bump-allocator safety** of the grants of a run, in the order they were made: every
address is a multiple of its alignment, and every grant starts at or after the end of
every earlier one, so the regions `[address, address + size)` are pairwise disjoint. -/
def BumpSafe (grants : List Grant) : Prop :=
  (∀ g ∈ grants, g.alignment ∣ g.address) ∧
    grants.Pairwise fun earlier later => earlier.address + earlier.size ≤ later.address

instance (grants : List Grant) : Decidable (BumpSafe grants) :=
  inferInstanceAs (Decidable (_ ∧ _))

/-- Every grant is aligned and inside the arena `[0x100000000, 0x200000000)`. -/
def AlignedInArena (grants : List Grant) : Prop :=
  ∀ g ∈ grants, g.alignment ∣ g.address ∧ 2 ^ 32 ≤ g.address ∧ g.address < 2 ^ 33

/-! ## The allocator the code is meant to be -/

/-- A bump allocator on unbounded numbers. -/
structure BumpAllocator where
  base : ℕ
  offset : ℕ
  deriving DecidableEq, Repr

namespace BumpAllocator

/-- `offset` rounded up to a multiple of `alignment`. -/
def alignUp (offset alignment : ℕ) : ℕ :=
  offset + alignment - 1 - (offset + alignment - 1) % alignment

theorem le_alignUp (offset : ℕ) {alignment : ℕ} (pos : 0 < alignment) :
    offset ≤ alignUp offset alignment := by
  have := Nat.mod_lt (offset + alignment - 1) pos
  unfold alignUp
  omega

theorem alignUp_lt (offset : ℕ) {alignment : ℕ} (pos : 0 < alignment) :
    alignUp offset alignment < offset + alignment := by
  unfold alignUp
  omega

theorem dvd_alignUp (offset alignment : ℕ) : alignment ∣ alignUp offset alignment :=
  Nat.dvd_sub_mod _

/-- One allocation: the grant at the rounded-up offset, and the offset moved past it. -/
def allocate (b : BumpAllocator) (size alignment : ℕ) : Grant × BumpAllocator :=
  let aligned := alignUp b.offset alignment
  (⟨b.base + aligned, size, alignment⟩, { b with offset := aligned + size })

@[simp] theorem allocate_fst (b : BumpAllocator) (size alignment : ℕ) :
    (b.allocate size alignment).1 = ⟨b.base + alignUp b.offset alignment, size, alignment⟩ := rfl

@[simp] theorem allocate_snd (b : BumpAllocator) (size alignment : ℕ) :
    (b.allocate size alignment).2 = ⟨b.base, alignUp b.offset alignment + size⟩ := rfl

/-- A run of allocation requests `(size, alignment)`: the grants, in order. -/
def run (b : BumpAllocator) : List (ℕ × ℕ) → List Grant × BumpAllocator
  | [] => ([], b)
  | (size, alignment) :: rest =>
    let (grant, b) := b.allocate size alignment
    let (grants, b) := b.run rest
    (grant :: grants, b)

@[simp] theorem run_nil (b : BumpAllocator) : b.run [] = ([], b) := rfl

@[simp] theorem run_cons (b : BumpAllocator) (size alignment : ℕ) (rest : List (ℕ × ℕ)) :
    b.run ((size, alignment) :: rest) =
      ((b.allocate size alignment).1 :: ((b.allocate size alignment).2.run rest).1,
        ((b.allocate size alignment).2.run rest).2) := rfl

/-- A run never moves the base, and every grant starts at or after the offset the run
started from. -/
theorem run_grants_ge (b : BumpAllocator) (requests : List (ℕ × ℕ))
    (pos : ∀ r ∈ requests, 0 < r.2) :
    (b.run requests).2.base = b.base ∧
      ∀ g ∈ (b.run requests).1, b.base + b.offset ≤ g.address := by
  induction requests generalizing b with
  | nil => simp
  | cons request rest ih =>
    obtain ⟨size, alignment⟩ := request
    have later := ih (b.allocate size alignment).2 fun r mem => pos r (List.mem_cons_of_mem _ mem)
    have rounded : b.offset ≤ alignUp b.offset alignment :=
      le_alignUp _ (pos _ (List.mem_cons_self _ _))
    refine ⟨later.1, ?_⟩
    simp only [run_cons, List.mem_cons, forall_eq_or_imp]
    refine ⟨by simp [allocate]; omega, fun g mem => ?_⟩
    have := later.2 g mem
    simp only [allocate] at this
    omega

/-- **Every run of the bump allocator is safe**, for alignments that divide the base. -/
theorem run_bumpSafe (b : BumpAllocator) (requests : List (ℕ × ℕ))
    (pos : ∀ r ∈ requests, 0 < r.2) (dvd : ∀ r ∈ requests, r.2 ∣ b.base) :
    BumpSafe (b.run requests).1 := by
  induction requests generalizing b with
  | nil => simp [BumpSafe]
  | cons request rest ih =>
    obtain ⟨size, alignment⟩ := request
    have posRest := fun r mem => pos r (List.mem_cons_of_mem _ mem)
    have later := run_grants_ge (b.allocate size alignment).2 rest posRest
    obtain ⟨aligned, disjoint⟩ := ih (b.allocate size alignment).2 posRest
      fun r mem => dvd r (List.mem_cons_of_mem _ mem)
    simp only [BumpSafe, run_cons, List.mem_cons, forall_eq_or_imp, List.pairwise_cons]
    refine ⟨⟨?_, aligned⟩, fun g mem => ?_, disjoint⟩
    · exact Nat.dvd_add (dvd _ (List.mem_cons_self _ _)) (dvd_alignUp _ _)
    · have := later.2 g mem
      simp only [allocate] at this ⊢
      omega

end BumpAllocator

/-! ## The wrapper's memory operations -/

/-- The public memory operations of `GNMWrapper`. -/
inductive MemOp
  | allocateGPUMemory (size : BitVec 64) (alignment : BitVec 32)
  | freeGPUMemory (address : BitVec 64)
  | createBuffer (size : BitVec 64) (usageFlags : BitVec 32)
  | destroyBuffer (bufferHandle : BitVec 64)
  | createTexture (width height format usageFlags : BitVec 32)
  | destroyTexture (textureHandle : BitVec 64)
  deriving DecidableEq, Repr

namespace MemOp

/-- The `(size, alignment)` an operation passes to `AllocateGPUMemory`, if it allocates. -/
def request : MemOp → Option (BitVec 64 × BitVec 32)
  | allocateGPUMemory size alignment => some (size, alignment)
  | createBuffer size _ => some (size, 256)
  | createTexture width height _ _ => some (GNMWrapper.textureSize width height, 4096)
  | _ => none

/-- The most an operation can move the offset: its size plus its alignment. -/
def footprint (op : MemOp) : ℕ :=
  match op.request with
  | some (size, alignment) => size.toNat + alignment.toNat
  | none => 0

/-- The most a run of operations can move the offset. -/
def totalFootprint : List MemOp → ℕ
  | [] => 0
  | op :: rest => op.footprint + totalFootprint rest

/-- The operation's request, on numbers. -/
def requestNat (op : MemOp) : Option (ℕ × ℕ) :=
  op.request.map fun r => (r.1.toNat, r.2.toNat)

end MemOp

namespace GNMWrapper

/-- One memory operation, dispatched to the wrapper's method of the same name: the address
it returns, if it allocates. -/
def memStep (w : GNMWrapper) : MemOp → Option (BitVec 64) × GNMWrapper
  | .allocateGPUMemory size alignment =>
    let (address, w) := w.allocateGPUMemory size alignment
    (some address, w)
  | .freeGPUMemory address => (none, w.freeGPUMemory address)
  | .createBuffer size usageFlags =>
    let (address, w) := w.createBuffer size usageFlags
    (some address, w)
  | .destroyBuffer bufferHandle => (none, w.destroyBuffer bufferHandle)
  | .createTexture width height format usageFlags =>
    let (address, w) := w.createTexture width height format usageFlags
    (some address, w)
  | .destroyTexture textureHandle => (none, w.destroyTexture textureHandle)

/-- **Every memory operation is its request to `AllocateGPUMemory`, or nothing.** -/
theorem memStep_eq (w : GNMWrapper) (op : MemOp) :
    w.memStep op =
      match op.request with
      | some (size, alignment) =>
        (some (w.allocateGPUMemory size alignment).1, (w.allocateGPUMemory size alignment).2)
      | none => (none, w) := by
  cases op <;> rfl

/-- The grants of a run of memory operations, in order, and the wrapper it leaves. -/
def memRun (w : GNMWrapper) : List MemOp → List Grant × GNMWrapper
  | [] => ([], w)
  | op :: rest =>
    match op.request with
    | none => w.memRun rest
    | some (size, alignment) =>
      let (address, w) := w.allocateGPUMemory size alignment
      let (grants, w) := w.memRun rest
      (⟨address.toNat, size.toNat, alignment.toNat⟩ :: grants, w)

theorem memRun_cons_of_request_none (w : GNMWrapper) {op : MemOp} (rest : List MemOp)
    (none : op.request = none) : w.memRun (op :: rest) = w.memRun rest := by
  simp [memRun, none]

theorem memRun_cons_of_request_some (w : GNMWrapper) {op : MemOp} (rest : List MemOp)
    {size : BitVec 64} {alignment : BitVec 32} (some : op.request = some (size, alignment)) :
    w.memRun (op :: rest) =
      (⟨(w.allocateGPUMemory size alignment).1.toNat, size.toNat, alignment.toNat⟩ ::
          ((w.allocateGPUMemory size alignment).2.memRun rest).1,
        ((w.allocateGPUMemory size alignment).2.memRun rest).2) := by
  simp [memRun, some]

/-! ### What every allocation returns -/

/-- An allocation returns the arena base `0x100000000` plus the aligned offset, with no
wrap-around: the aligned offset is below `2 ^ 32`. -/
theorem toNat_allocateGPUMemory_fst (w : GNMWrapper) (size : BitVec 64) (alignment : BitVec 32) :
    (w.allocateGPUMemory size alignment).1.toNat =
      2 ^ 32 + (Impl.alignedOffset w.impl.gpuMemoryOffset alignment).toNat := by
  have := Impl.alignedOffset_lt w.impl.gpuMemoryOffset alignment
  rw [allocateGPUMemory_fst, BitVec.toNat_add, Impl.toNat_gpuMemoryBase, Nat.mod_eq_of_lt (by omega)]

/-- **Every grant is aligned and inside `[2 ^ 32, 2 ^ 33)`**, whatever the run: the base is a
multiple of every 32-bit power of two, and the aligned offset is a multiple of the alignment
below `2 ^ 32`.  In particular no allocation ever returns `0`. -/
theorem memRun_grant_aligned (w : GNMWrapper) (ops : List MemOp)
    (pow : ∀ op ∈ ops, ∀ r, op.request = some r → ∃ k, r.2.toNat = 2 ^ k) :
    AlignedInArena (w.memRun ops).1 := by
  unfold AlignedInArena
  induction ops generalizing w with
  | nil => simp [memRun]
  | cons op rest ih =>
    have powRest := fun op' mem => pow op' (List.mem_cons_of_mem _ mem)
    cases request : op.request with
    | none =>
      rw [memRun_cons_of_request_none _ _ request]
      exact ih w powRest
    | some r =>
      obtain ⟨size, alignment⟩ := r
      obtain ⟨k, pow2⟩ := pow op (List.mem_cons_self _ _) _ request
      rw [memRun_cons_of_request_some _ _ request]
      simp only [List.mem_cons, forall_eq_or_imp]
      refine ⟨?_, ih _ powRest⟩
      have dvdOffset := Impl.alignedOffset_dvd w.impl.gpuMemoryOffset pow2
      have lt := Impl.alignedOffset_lt w.impl.gpuMemoryOffset alignment
      have kle : k ≤ 32 := ((Nat.pow_lt_pow_iff_right (by decide)).1 (pow2 ▸ alignment.isLt)).le
      rw [toNat_allocateGPUMemory_fst, pow2]
      exact ⟨Nat.dvd_add (Nat.pow_dvd_pow 2 kle) dvdOffset, by omega, by omega⟩

/-! ### The simulation -/

/-- The bump allocator sits at the wrapper's base `0x100000000` and has its offset. -/
structure Simulates (w : GNMWrapper) (b : BumpAllocator) : Prop where
  base : b.base = 2 ^ 32
  offset : w.impl.gpuMemoryOffset.toNat = b.offset

/-- **One allocation simulates the bump allocator** while the offset, the size and the
alignment fit in 32 bits together: the same address, and the offsets still agree. -/
theorem allocateGPUMemory_simulates {w : GNMWrapper} {b : BumpAllocator} (sim : Simulates w b)
    {size : BitVec 64} {alignment : BitVec 32} {k : ℕ}
    (pow : alignment.toNat = 2 ^ k) (fits : b.offset + size.toNat + 2 ^ k ≤ 2 ^ 32) :
    (w.allocateGPUMemory size alignment).1.toNat = (b.allocate size.toNat (2 ^ k)).1.address ∧
      Simulates (w.allocateGPUMemory size alignment).2 (b.allocate size.toNat (2 ^ k)).2 := by
  have one : 1 ≤ 2 ^ k := Nat.one_le_two_pow
  have aligned : (Impl.alignedOffset w.impl.gpuMemoryOffset alignment).toNat =
      BumpAllocator.alignUp b.offset (2 ^ k) := by
    rw [Impl.toNat_alignedOffset_of_lt _ pow (by rw [sim.offset]; omega), sim.offset]
    rfl
  have bound := BumpAllocator.alignUp_lt b.offset (Nat.two_pow_pos k)
  refine ⟨?_, sim.base, ?_⟩
  · rw [toNat_allocateGPUMemory_fst, aligned, ← sim.base]
    rfl
  · simp only [allocateGPUMemory_snd_impl, BitVec.toNat_add, aligned]
    rw [Nat.mod_eq_of_lt (by omega)]
    rfl

/-- **A run simulates the bump allocator** while everything it asks for fits in `2 ^ 32`
bytes: the wrapper hands out exactly the bump allocator's grants. -/
theorem memRun_eq_run (w : GNMWrapper) (b : BumpAllocator) (ops : List MemOp)
    (sim : Simulates w b)
    (pow : ∀ op ∈ ops, ∀ r, op.request = some r → ∃ k, r.2.toNat = 2 ^ k)
    (fits : b.offset + MemOp.totalFootprint ops ≤ 2 ^ 32) :
    (w.memRun ops).1 = (b.run (ops.filterMap MemOp.requestNat)).1 := by
  induction ops generalizing w b with
  | nil => rfl
  | cons op rest ih =>
    have powRest := fun op' mem => pow op' (List.mem_cons_of_mem _ mem)
    cases request : op.request with
    | none =>
      have footprint : op.footprint = 0 := by simp [MemOp.footprint, request]
      rw [memRun_cons_of_request_none _ _ request,
        List.filterMap_cons_none (by simp [MemOp.requestNat, request])]
      exact ih w b sim powRest (by simpa [MemOp.totalFootprint, footprint] using fits)
    | some r =>
      obtain ⟨size, alignment⟩ := r
      obtain ⟨k, pow2⟩ : ∃ k, alignment.toNat = 2 ^ k := pow op (List.mem_cons_self _ _) _ request
      have footprint : op.footprint = size.toNat + 2 ^ k := by
        simp [MemOp.footprint, request, pow2]
      have requestNat : op.requestNat = some (size.toNat, 2 ^ k) := by
        simp [MemOp.requestNat, request, pow2]
      simp only [MemOp.totalFootprint, footprint] at fits
      obtain ⟨address, sim'⟩ := allocateGPUMemory_simulates sim pow2
        (show b.offset + size.toNat + 2 ^ k ≤ 2 ^ 32 by omega)
      have := BumpAllocator.alignUp_lt b.offset (Nat.two_pow_pos k)
      have restFits : (b.allocate size.toNat (2 ^ k)).2.offset + MemOp.totalFootprint rest ≤
          2 ^ 32 := by
        simp only [BumpAllocator.allocate_snd]
        omega
      rw [memRun_cons_of_request_some _ _ request, List.filterMap_cons_some requestNat,
        BumpAllocator.run_cons, address, pow2, ih _ _ sim' powRest restFits]
      rfl

/-- On a fresh wrapper, a texture and a misaligned-size buffer still get aligned addresses. -/
theorem memRun_grant_aligned_texture_then_buffer :
    AlignedInArena (({} : GNMWrapper).memRun [.createTexture 3 5 0 0, .createBuffer 7 0]).1 :=
  memRun_grant_aligned {} _
    (by
      intro op mem r request
      simp only [List.mem_cons, List.mem_singleton, List.not_mem_nil, or_false] at mem
      rcases mem with rfl | rfl <;> simp only [MemOp.request, Option.some.injEq] at request <;>
        subst request
      exacts [⟨12, rfl⟩, ⟨8, rfl⟩])

end GNMWrapper

/-- A wrapper whose offset is still `0` is a safe bump allocator below 4 GiB. -/
theorem GNMWrapper.memRun_bumpSafe_of_offset_zero (w : GNMWrapper)
    (zero : w.impl.gpuMemoryOffset = 0) (ops : List MemOp)
    (pow : ∀ op ∈ ops, ∀ r, op.request = some r → ∃ k, r.2.toNat = 2 ^ k)
    (fits : MemOp.totalFootprint ops ≤ 2 ^ 32) :
    BumpSafe (w.memRun ops).1 := by
  rw [GNMWrapper.memRun_eq_run w ⟨2 ^ 32, 0⟩ ops ⟨rfl, by rw [zero]; rfl⟩ pow
    (by simpa using fits)]
  refine BumpAllocator.run_bumpSafe _ _ (fun r mem => ?_) (fun r mem => ?_) <;>
  · obtain ⟨op, opMem, request⟩ := List.mem_filterMap.1 mem
    simp only [MemOp.requestNat, Option.map_eq_some'] at request
    obtain ⟨⟨size, alignment⟩, some, rfl⟩ := request
    obtain ⟨k, pow2⟩ := pow op opMem _ some
    have kle : k ≤ 32 := ((Nat.pow_lt_pow_iff_right (by decide)).1 (pow2 ▸ alignment.isLt)).le
    simp only [pow2]
    first
      | exact Nat.two_pow_pos k
      | exact Nat.pow_dvd_pow 2 kle

/-- **Below 4 GiB the wrapper is a safe bump allocator.**  From a fresh `GNMWrapper`, for any
memory operations whose alignments are powers of two and whose sizes plus alignments add
up to at most `2 ^ 32`, every grant is aligned and starts at or after the end of every
earlier one. -/
theorem memRun_bumpSafe_of_footprint_le (ops : List MemOp)
    (pow : ∀ op ∈ ops, ∀ r, op.request = some r → ∃ k, r.2.toNat = 2 ^ k)
    (fits : MemOp.totalFootprint ops ≤ 2 ^ 32) :
    BumpSafe (({} : GNMWrapper).memRun ops).1 :=
  GNMWrapper.memRun_bumpSafe_of_offset_zero {} rfl ops pow fits

/-- A buffer and a texture from a fresh wrapper are placed one after the other. -/
theorem memRun_bumpSafe_buffer_then_texture :
    BumpSafe (({} : GNMWrapper).memRun [.createBuffer 100 0, .createTexture 8 8 0 0]).1 :=
  memRun_bumpSafe_of_footprint_le _
    (by
      intro op mem r request
      simp only [List.mem_cons, List.mem_singleton, List.not_mem_nil, or_false] at mem
      rcases mem with rfl | rfl <;> simp only [MemOp.request, Option.some.injEq] at request <;>
        subst request
      exacts [⟨8, rfl⟩, ⟨12, rfl⟩])
    (by decide)

/-- **Past 4 GiB the allocator hands the arena out again.**  A fresh wrapper, a buffer of
exactly `2 ^ 32` bytes, then a one-byte buffer: the second is placed at the first one's
address, inside its region. -/
theorem createBuffer_grants_overlap_past_four_gib :
    (({} : GNMWrapper).memRun [.createBuffer 0x100000000 0, .createBuffer 1 0]).1 =
        [⟨0x100000000, 0x100000000, 256⟩, ⟨0x100000000, 1, 256⟩] ∧
      ¬ BumpSafe (({} : GNMWrapper).memRun [.createBuffer 0x100000000 0, .createBuffer 1 0]).1 := by
  decide

end EdenPS5.PS5Graphics
