import EdenPS5.MainPS5.Main
import Mathlib.Data.List.Nodup

/-!
# The application's objects and the pointers between them

`InitializeSubsystems` (`main_ps5/ps5_application.cpp`) makes the renderer and the audio and
input managers with `std::make_unique`, then the frontend and the core,
`EdenCoreIntegration`, each constructed with raw pointers to those three
(`renderer_.get()`, `audio_manager_.get()`, `input_manager_.get()`).  Assigning to a
`unique_ptr` destroys the object it held, and `ShutdownSubsystems` resets the five in the
reverse order.  `PS5Application` models each `unique_ptr` by whether it is set; this file
follows the objects themselves, and which objects point to which.

## Main definitions

* `Subsystem` — the five `unique_ptr` members; `AppObject` — an object, numbered in the
  order the application made it, with the objects it was given pointers to.
* `Objects`, with `makeUnique` and `reset`, and `Objects.initializeSubsystems`,
  `Objects.shutdownSubsystems` and `Objects.destroyMembers`, the end of `~PS5Application`,
  written with them.
* `System` — the application with its objects; `System.step`, `System.Reachable`, and
  `System.mainSystem`, the objects of `main`'s own calls to the end of the process.
* `Objects.NoDangling` — no object is destroyed while an object that points to it is alive.

## Design notes

`System.Reachable.holds` connects the layer to the application model: on every run each
flag of `PS5Application` says exactly whether its `unique_ptr` holds an object.  On every
run each object is held by one `unique_ptr` and destroyed at most once, and every object made
is held or destroyed (`WellFormed`).

`Initialize` that fails leaves what it made in place, with `initialized_` clear, and
`Shutdown` then returns at once.  An `Initialize` after one that failed at the frontend or
the core runs `InitializeSubsystems` again: its first line replaces the renderer that the
old frontend still points to (`retry_after_failed_initialize_dangles`).  Runs without such a
retry never leave a pointer dangling (`no_dangling_pointers_without_retry`).  `main` calls
`Initialize` once, and when `g_ps5_app` is destroyed its members go in the reverse of their
declaration order, which is the order of `ShutdownSubsystems`: whatever the subsystems
answer, every object the application made is destroyed once, and none before an object that
points to it (`main_destroys_objects_in_order`).
-/

namespace EdenPS5

/-- The `unique_ptr` members of `PS5Application`. -/
inductive Subsystem
  | renderer
  | audioManager
  | inputManager
  | frontend
  | edenCore
  deriving DecidableEq, Repr

namespace Subsystem

/-- The members in the order `PS5Application` declares them. -/
def declared : List Subsystem := [.renderer, .audioManager, .inputManager, .frontend, .edenCore]

/-- The renderer and the two managers, whose pointers the frontend and the core are given. -/
def managers : List Subsystem := [.renderer, .audioManager, .inputManager]

/-- The frontend and the core, which point to the managers. -/
def isClient : Subsystem → Bool
  | .frontend | .edenCore => true
  | _ => false

/-- No manager is a frontend or a core. -/
theorem ne_of_mem_managers {m k : Subsystem} (isManager : m ∈ managers)
    (client : k.isClient = true) : m ≠ k := by
  rintro rfl
  cases m <;> simp_all [managers, isClient]

end Subsystem

/-- An object the application made: its number in the order of the `make_unique` calls, and
the objects it was given raw pointers to. -/
structure AppObject where
  id : ℕ
  pointsTo : List ℕ
  deriving DecidableEq, Repr

/-- The objects the application's `unique_ptr`s hold, how many it has made, and the objects
destroyed so far, in the order they were destroyed. -/
structure Objects where
  held : Subsystem → Option AppObject
  made : ℕ
  destroyed : List AppObject

namespace Objects

/-- `PS5Application()`: every `unique_ptr` empty. -/
def new : Objects := ⟨fun _ => none, 0, []⟩

/-- `k = std::make_unique<T>(pointers)`: a new object, then the one `k` held, if any,
destroyed. -/
def makeUnique (o : Objects) (k : Subsystem) (pointsTo : List ℕ) : Objects where
  held := Function.update o.held k (some ⟨o.made, pointsTo⟩)
  made := o.made + 1
  destroyed := o.destroyed ++ (o.held k).toList

/-- `k.reset()`. -/
def reset (o : Objects) (k : Subsystem) : Objects :=
  { o with held := Function.update o.held k none, destroyed := o.destroyed ++ (o.held k).toList }

/-- `renderer_.get()`, `audio_manager_.get()` and `input_manager_.get()`: what a frontend or
a core is given. -/
def managers (o : Objects) : List ℕ :=
  Subsystem.managers.filterMap fun k => (o.held k).map AppObject.id

/-- `InitializeSubsystems`: the renderer, the audio manager, the input manager, then the
frontend and the core with pointers to the three, each made before its `Initialize`, stopping
at the first that fails. -/
def initializeSubsystems (o : Objects) (results : SubsystemResults) : Objects :=
  let o := o.makeUnique .renderer []
  if !results.renderer then o else
  let o := o.makeUnique .audioManager []
  if !results.audioManager then o else
  let o := o.makeUnique .inputManager []
  if !results.inputManager then o else
  let o := o.makeUnique .frontend o.managers
  if !results.frontend then o else
  o.makeUnique .edenCore o.managers

/-- `ShutdownSubsystems`: the core, the frontend, the input manager, the audio manager and
the renderer, each shut down and reset. -/
def shutdownSubsystems (o : Objects) : Objects :=
  ((((o.reset .edenCore).reset .frontend).reset .inputManager).reset .audioManager).reset .renderer

/-- The end of `~PS5Application`, after its body: the members are destroyed in the reverse of
their declaration order. -/
def destroyMembers (o : Objects) : Objects := Subsystem.declared.reverse.foldl reset o

/-- The members are destroyed in the order `ShutdownSubsystems` resets them. -/
theorem destroyMembers_eq_shutdownSubsystems (o : Objects) :
    o.destroyMembers = o.shutdownSubsystems := rfl

/-- The objects after one public operation of the application `a`: only `Initialize` past
its command line and `Shutdown` of an initialized application touch them. -/
def step (a : PS5Application) (o : Objects) : AppOp → Objects
  | .Initialize argv results =>
    if a.initialized || !(a.processCommandLine argv.tail).1 then o
    else o.initializeSubsystems results
  | .shutdown => if a.initialized then o.shutdownSubsystems else o
  | _ => o

@[simp] theorem makeUnique_held (o : Objects) (k : Subsystem) (pointsTo : List ℕ)
    (k' : Subsystem) :
    (o.makeUnique k pointsTo).held k' = if k' = k then some ⟨o.made, pointsTo⟩ else o.held k' :=
  Function.update_apply _ _ _ _

@[simp] theorem makeUnique_made (o : Objects) (k : Subsystem) (pointsTo : List ℕ) :
    (o.makeUnique k pointsTo).made = o.made + 1 := rfl

@[simp] theorem makeUnique_destroyed (o : Objects) (k : Subsystem) (pointsTo : List ℕ) :
    (o.makeUnique k pointsTo).destroyed = o.destroyed ++ (o.held k).toList := rfl

@[simp] theorem reset_held (o : Objects) (k k' : Subsystem) :
    (o.reset k).held k' = if k' = k then none else o.held k' :=
  Function.update_apply _ _ _ _

@[simp] theorem reset_made (o : Objects) (k : Subsystem) : (o.reset k).made = o.made := rfl

@[simp] theorem reset_destroyed (o : Objects) (k : Subsystem) :
    (o.reset k).destroyed = o.destroyed ++ (o.held k).toList := rfl

theorem mem_managers {o : Objects} {i : ℕ} :
    i ∈ o.managers ↔ ∃ k ∈ Subsystem.managers, ∃ x, o.held k = some x ∧ x.id = i := by
  simp [managers]

/-- Making or resetting the frontend or the core leaves the managers as they are. -/
theorem managers_of_client {o o' : Objects} {k : Subsystem} (client : k.isClient = true)
    (others : ∀ k', k' ≠ k → o'.held k' = o.held k') : o'.managers = o.managers :=
  List.filterMap_congr fun m isManager => by
    rw [others m (Subsystem.ne_of_mem_managers isManager client)]

/-! ### Each object held once and destroyed once -/

/-- What `unique_ptr` guarantees: every object held is held by one pointer and numbered
below `made`, every object destroyed was made, is no longer held, and was destroyed once,
and every object made is held or destroyed. -/
structure WellFormed (o : Objects) : Prop where
  held_lt : ∀ k x, o.held k = some x → x.id < o.made
  destroyed_lt : ∀ x ∈ o.destroyed, x.id < o.made
  held_inj : ∀ k k' x x', o.held k = some x → o.held k' = some x' → x.id = x'.id → k = k'
  held_not_destroyed : ∀ k x, o.held k = some x → ∀ y ∈ o.destroyed, y.id ≠ x.id
  destroyed_nodup : (o.destroyed.map AppObject.id).Nodup
  made_accounted : ∀ i < o.made,
    (∃ k x, o.held k = some x ∧ x.id = i) ∨ i ∈ o.destroyed.map AppObject.id

theorem wellFormed_new : new.WellFormed :=
  ⟨by simp [new], by simp [new], by simp [new], by simp [new], by simp [new], by simp [new]⟩

/-- When `k` lets go of its object, every object made is still held elsewhere or
destroyed. -/
theorem WellFormed.accounted_destroy {o : Objects} (wf : o.WellFormed) (k : Subsystem) {i : ℕ}
    (made : i < o.made) :
    (∃ k' x, k' ≠ k ∧ o.held k' = some x ∧ x.id = i) ∨
      i ∈ (o.destroyed ++ (o.held k).toList).map AppObject.id := by
  rcases wf.made_accounted i made with ⟨k', x, held, rfl⟩ | destroyed
  · by_cases same : k' = k
    · subst same
      exact .inr (by simp [held])
    · exact .inl ⟨k', x, same, held, rfl⟩
  · exact .inr (by simp only [List.map_append, List.mem_append, destroyed, true_or])

/-- The object `k` held, appended to the destroyed ones, keeps them destroyed once and apart
from the objects still held elsewhere. -/
theorem WellFormed.destroy {o : Objects} (wf : o.WellFormed) (k : Subsystem) :
    ((o.destroyed ++ (o.held k).toList).map AppObject.id).Nodup ∧
      ∀ k' x, k' ≠ k → o.held k' = some x →
        ∀ y ∈ o.destroyed ++ (o.held k).toList, y.id ≠ x.id := by
  refine ⟨?_, fun k' x ne held y destroyed => ?_⟩
  · rw [List.map_append, List.nodup_append]
    refine ⟨wf.destroyed_nodup, ?_, ?_⟩
    · cases o.held k <;> simp
    · intro i before after
      cases old : o.held k with
      | none => simp [old] at after
      | some y =>
        simp only [old, Option.toList_some, List.map_cons, List.map_nil,
          List.mem_singleton] at after
        obtain ⟨z, destroyed, rfl⟩ := List.mem_map.1 before
        exact wf.held_not_destroyed k y old z destroyed after
  · rcases List.mem_append.1 destroyed with destroyed | old
    · exact wf.held_not_destroyed k' x held y destroyed
    · cases oldHeld : o.held k with
      | none => simp [oldHeld] at old
      | some z =>
        simp only [oldHeld, Option.toList_some, List.mem_singleton] at old
        subst old
        exact fun same => ne (wf.held_inj k' k x y held oldHeld same.symm)

theorem WellFormed.makeUnique {o : Objects} (wf : o.WellFormed) (k : Subsystem)
    (pointsTo : List ℕ) : (o.makeUnique k pointsTo).WellFormed := by
  obtain ⟨nodup, apart⟩ := wf.destroy k
  have oldLt : ∀ y ∈ o.destroyed ++ (o.held k).toList, y.id < o.made := by
    intro y destroyed
    rcases List.mem_append.1 destroyed with destroyed | old
    · exact wf.destroyed_lt y destroyed
    · exact wf.held_lt k y (by simpa using old)
  refine ⟨fun k' x held => ?_, fun y destroyed => ?_, fun k₁ k₂ x₁ x₂ held₁ held₂ same => ?_,
    fun k' x held y destroyed => ?_, nodup, fun i made => ?_⟩
  · simp only [makeUnique_held] at held
    split_ifs at held
    · cases held
      simp
    · have := wf.held_lt k' x held
      simp only [makeUnique_made]
      omega
  · have := oldLt y destroyed
    simp only [makeUnique_made]
    omega
  · simp only [makeUnique_held] at held₁ held₂
    split_ifs at held₁ held₂ with is₁ is₂ is₂
    · exact is₁.trans is₂.symm
    · cases held₁
      exact absurd same (Nat.ne_of_gt (wf.held_lt k₂ x₂ held₂))
    · cases held₂
      exact absurd same (Nat.ne_of_lt (wf.held_lt k₁ x₁ held₁))
    · exact wf.held_inj k₁ k₂ x₁ x₂ held₁ held₂ same
  · simp only [makeUnique_held] at held
    split_ifs at held with is
    · cases held
      exact Nat.ne_of_lt (oldLt y destroyed)
    · exact apart k' x is held y destroyed
  · rcases Nat.lt_succ_iff_lt_or_eq.1 made with old | rfl
    · rcases wf.accounted_destroy k old with ⟨k', x, ne, held, rfl⟩ | destroyed
      · exact .inl ⟨k', x, by simp [ne, held], rfl⟩
      · exact .inr destroyed
    · exact .inl ⟨k, ⟨o.made, pointsTo⟩, by simp, rfl⟩

theorem WellFormed.reset {o : Objects} (wf : o.WellFormed) (k : Subsystem) :
    (o.reset k).WellFormed := by
  obtain ⟨nodup, apart⟩ := wf.destroy k
  refine ⟨fun k' x held => ?_, fun y destroyed => ?_, fun k₁ k₂ x₁ x₂ held₁ held₂ same => ?_,
    fun k' x held y destroyed => ?_, nodup, fun i made => ?_⟩
  · simp only [reset_held] at held
    split_ifs at held
    exact wf.held_lt k' x held
  · rcases List.mem_append.1 destroyed with destroyed | old
    · exact wf.destroyed_lt y destroyed
    · exact wf.held_lt k y (by simpa using old)
  · simp only [reset_held] at held₁ held₂
    split_ifs at held₁ held₂
    exact wf.held_inj k₁ k₂ x₁ x₂ held₁ held₂ same
  · simp only [reset_held] at held
    split_ifs at held with is
    exact apart k' x is held y destroyed
  · rcases wf.accounted_destroy k made with ⟨k', x, ne, held, rfl⟩ | destroyed
    · exact .inl ⟨k', x, by simp [ne, held], rfl⟩
    · exact .inr destroyed

theorem WellFormed.initializeSubsystems {o : Objects} (wf : o.WellFormed)
    (results : SubsystemResults) : (o.initializeSubsystems results).WellFormed := by
  have withRenderer := wf.makeUnique .renderer []
  have withAudio := withRenderer.makeUnique .audioManager []
  have withInput := withAudio.makeUnique .inputManager []
  unfold Objects.initializeSubsystems
  dsimp only
  split_ifs
  exacts [withRenderer, withAudio, withInput, withInput.makeUnique _ _,
    (withInput.makeUnique _ _).makeUnique _ _]

theorem WellFormed.shutdownSubsystems {o : Objects} (wf : o.WellFormed) :
    o.shutdownSubsystems.WellFormed :=
  ((((wf.reset _).reset _).reset _).reset _).reset _

theorem WellFormed.step {o : Objects} (wf : o.WellFormed) (a : PS5Application) (op : AppOp) :
    (o.step a op).WellFormed := by
  cases op with
  | Initialize argv results =>
    simp only [Objects.step]
    split_ifs
    exacts [wf, wf.initializeSubsystems results]
  | shutdown =>
    simp only [Objects.step]
    split_ifs
    exacts [wf.shutdownSubsystems, wf]
  | _ => exact wf

/-! ### Pointers -/

/-- No object is destroyed while an object that points to it is alive: every object
destroyed before another is not pointed to by it, and no object still held points to a
destroyed one. -/
def NoDangling (o : Objects) : Prop :=
  o.destroyed.Pairwise (fun earlier later => earlier.id ∉ later.pointsTo) ∧
    ∀ k x, o.held k = some x → ∀ i ∈ x.pointsTo, i ∉ o.destroyed.map AppObject.id

/-- An object still held that points to a destroyed one. -/
theorem not_noDangling_of_held {o : Objects} (k : Subsystem) {x y : AppObject}
    (held : o.held k = some x) (gone : y ∈ o.destroyed) (pointed : y.id ∈ x.pointsTo) :
    ¬ o.NoDangling :=
  fun noDangling => noDangling.2 k x held y.id pointed (List.mem_map_of_mem _ gone)

/-- An object destroyed after one it points to. -/
theorem not_noDangling_of_order {o : Objects} {x y : AppObject} (before after : List AppObject)
    (order : o.destroyed = before ++ x :: after) (gone : y ∈ before) (pointed : y.id ∈ x.pointsTo) :
    ¬ o.NoDangling := fun noDangling => by
  have inOrder := noDangling.1
  rw [order, List.pairwise_append] at inOrder
  exact inOrder.2.2 y gone x (List.mem_cons_self _ _) pointed

/-- The pointers as `InitializeSubsystems` hands them out: the frontend and the core point to
the managers held now, which are all held, and the managers point to nothing. -/
structure PointersHeld (o : Objects) : Prop where
  pointsTo : ∀ k x, o.held k = some x → x.pointsTo = if k.isClient then o.managers else []
  managers_held : ∀ c m, c.isClient = true → m ∈ Subsystem.managers → (o.held c).isSome →
    (o.held m).isSome

/-- The order of destruction so far never destroyed an object before one that points to
it. -/
def DestroyedInOrder (o : Objects) : Prop :=
  o.destroyed.Pairwise fun earlier later => earlier.id ∉ later.pointsTo

/-- Whether no frontend or core is held. -/
def NoClients (o : Objects) : Prop := ∀ c, c.isClient = true → o.held c = none

theorem PointersHeld.noDangling {o : Objects} (wf : o.WellFormed) (pointers : o.PointersHeld)
    (inOrder : o.DestroyedInOrder) : o.NoDangling := by
  refine ⟨inOrder, fun k x held i pointed destroyed => ?_⟩
  rw [pointers.pointsTo k x held] at pointed
  split_ifs at pointed
  · obtain ⟨m, -, y, heldM, rfl⟩ := mem_managers.1 pointed
    obtain ⟨z, destroyed, same⟩ := List.mem_map.1 destroyed
    exact wf.held_not_destroyed m y heldM z destroyed same
  · simp at pointed

/-- Destroying what `k` holds keeps the order, when everything held points to held objects. -/
theorem DestroyedInOrder.destroy {o : Objects} (wf : o.WellFormed) (pointers : o.PointersHeld)
    (inOrder : o.DestroyedInOrder) (k : Subsystem) :
    (o.destroyed ++ (o.held k).toList).Pairwise
      fun earlier later => earlier.id ∉ later.pointsTo := by
  refine List.pairwise_append.2 ⟨inOrder, by cases o.held k <;> simp, fun y destroyed x old => ?_⟩
  have noDangling := pointers.noDangling wf inOrder
  exact fun pointed => noDangling.2 k x (by simpa using old) y.id pointed
    (List.mem_map_of_mem _ destroyed)

theorem PointersHeld.makeUnique_client {o : Objects} (pointers : o.PointersHeld) (k : Subsystem)
    (client : k.isClient = true) (managersHeld : ∀ m ∈ Subsystem.managers, (o.held m).isSome) :
    (o.makeUnique k o.managers).PointersHeld := by
  have same : (o.makeUnique k o.managers).managers = o.managers :=
    managers_of_client client fun k' ne => by simp [ne]
  refine ⟨fun k' x held => ?_, fun c m _ isManager _ => ?_⟩
  · rw [same]
    simp only [makeUnique_held] at held
    split_ifs at held with is
    · cases held
      simp [is, client]
    · exact pointers.pointsTo k' x held
  · simpa [Subsystem.ne_of_mem_managers isManager client] using managersHeld m isManager

theorem PointersHeld.makeUnique_manager {o : Objects} (pointers : o.PointersHeld)
    (noClients : o.NoClients) (k : Subsystem) (manager : k.isClient = false) :
    (o.makeUnique k []).PointersHeld ∧ (o.makeUnique k []).NoClients := by
  have clientNe : ∀ c, c.isClient = true → c ≠ k := fun c client same => by simp_all
  refine ⟨⟨fun k' x held => ?_, fun c m client _ isSome => ?_⟩, fun c client => ?_⟩
  · simp only [makeUnique_held] at held
    split_ifs at held with is
    · cases held
      simp [is, manager]
    · rw [pointers.pointsTo k' x held]
      cases client : k'.isClient
      · rfl
      · simp [noClients k' client] at held
  · simp [clientNe c client, noClients c client] at isSome
  · simp [clientNe c client, noClients c client]

theorem PointersHeld.reset_client {o : Objects} (pointers : o.PointersHeld) (k : Subsystem)
    (client : k.isClient = true) : (o.reset k).PointersHeld := by
  have same : (o.reset k).managers = o.managers :=
    managers_of_client client fun k' ne => by simp [ne]
  refine ⟨fun k' x held => ?_, fun c m client' isManager isSome => ?_⟩
  · rw [same]
    simp only [reset_held] at held
    split_ifs at held
    exact pointers.pointsTo k' x held
  · have held : c ≠ k := by rintro rfl; simp at isSome
    simpa [Subsystem.ne_of_mem_managers isManager client] using
      pointers.managers_held c m client' isManager (by simpa [held] using isSome)

theorem PointersHeld.reset_manager {o : Objects} (pointers : o.PointersHeld)
    (noClients : o.NoClients) (k : Subsystem) : (o.reset k).PointersHeld ∧ (o.reset k).NoClients := by
  have resetNone : ∀ c, c.isClient = true → (o.reset k).held c = none := fun c client => by
    simp only [reset_held]
    split_ifs
    · rfl
    · exact noClients c client
  refine ⟨⟨fun k' x held => ?_, fun c m client _ isSome => ?_⟩, resetNone⟩
  · cases client : k'.isClient
    · simp only [reset_held] at held
      split_ifs at held
      simpa [client] using pointers.pointsTo k' x held
    · rw [resetNone k' client] at held
      cases held
  · simp only [resetNone c client, Option.isSome_none, Bool.false_eq_true] at isSome

/-- Everything this file keeps on runs without a retried `Initialize`. -/
structure Sound (o : Objects) : Prop where
  wf : o.WellFormed
  pointers : o.PointersHeld
  inOrder : o.DestroyedInOrder

theorem Sound.makeUnique_manager {o : Objects} (sound : o.Sound) (noClients : o.NoClients)
    (k : Subsystem) (manager : k.isClient = false) :
    (o.makeUnique k []).Sound ∧ (o.makeUnique k []).NoClients :=
  have ⟨pointers, noClients'⟩ := sound.pointers.makeUnique_manager noClients k manager
  ⟨⟨sound.wf.makeUnique k [], pointers, sound.inOrder.destroy sound.wf sound.pointers k⟩,
    noClients'⟩

theorem Sound.makeUnique_client {o : Objects} (sound : o.Sound) (k : Subsystem)
    (client : k.isClient = true) (managersHeld : ∀ m ∈ Subsystem.managers, (o.held m).isSome) :
    (o.makeUnique k o.managers).Sound :=
  ⟨sound.wf.makeUnique k _, sound.pointers.makeUnique_client k client managersHeld,
    sound.inOrder.destroy sound.wf sound.pointers k⟩

theorem Sound.reset_client {o : Objects} (sound : o.Sound) (k : Subsystem)
    (client : k.isClient = true) : (o.reset k).Sound :=
  ⟨sound.wf.reset k, sound.pointers.reset_client k client,
    sound.inOrder.destroy sound.wf sound.pointers k⟩

theorem Sound.reset_manager {o : Objects} (sound : o.Sound) (noClients : o.NoClients)
    (k : Subsystem) : (o.reset k).Sound ∧ (o.reset k).NoClients :=
  have ⟨pointers, noClients'⟩ := sound.pointers.reset_manager noClients k
  ⟨⟨sound.wf.reset k, pointers, sound.inOrder.destroy sound.wf sound.pointers k⟩, noClients'⟩

/-- `InitializeSubsystems` on objects with no frontend and no core hands out pointers only to
the managers it has just made. -/
theorem Sound.initializeSubsystems {o : Objects} (sound : o.Sound) (noClients : o.NoClients)
    (results : SubsystemResults) : (o.initializeSubsystems results).Sound := by
  obtain ⟨withRenderer, noClients₁⟩ := sound.makeUnique_manager noClients .renderer rfl
  obtain ⟨withAudio, noClients₂⟩ := withRenderer.makeUnique_manager noClients₁ .audioManager rfl
  obtain ⟨withInput, -⟩ := withAudio.makeUnique_manager noClients₂ .inputManager rfl
  have managersHeld : ∀ m ∈ Subsystem.managers,
      (((o.makeUnique .renderer []).makeUnique .audioManager []).makeUnique .inputManager []
        |>.held m).isSome := by
    simp [Subsystem.managers]
  have withFrontend := withInput.makeUnique_client .frontend rfl managersHeld
  have withCore := withFrontend.makeUnique_client .edenCore rfl fun m isManager => by
    simpa [Subsystem.ne_of_mem_managers isManager (show Subsystem.frontend.isClient from rfl)]
      using managersHeld m isManager
  unfold Objects.initializeSubsystems
  dsimp only
  split_ifs
  · exact withRenderer
  · exact withAudio
  · exact withInput
  · exact withFrontend
  · exact withCore

/-- `ShutdownSubsystems` destroys the core and the frontend before the managers they point
to. -/
theorem Sound.shutdownSubsystems {o : Objects} (sound : o.Sound) : o.shutdownSubsystems.Sound := by
  have withoutCore := sound.reset_client .edenCore rfl
  have withoutFrontend := withoutCore.reset_client .frontend rfl
  have noClients : (((o.reset .edenCore).reset .frontend)).NoClients := fun c client => by
    cases c <;> simp_all [Subsystem.isClient]
  obtain ⟨withoutInput, noClients₁⟩ := withoutFrontend.reset_manager noClients .inputManager
  obtain ⟨withoutAudio, noClients₂⟩ := withoutInput.reset_manager noClients₁ .audioManager
  exact (withoutAudio.reset_manager noClients₂ .renderer).1

end Objects

namespace PS5Application

/-- Whether the `unique_ptr` of a subsystem is set. -/
def holds (a : PS5Application) : Subsystem → Bool
  | .renderer => a.renderer
  | .audioManager => a.audioManager
  | .inputManager => a.inputManager
  | .frontend => a.frontend
  | .edenCore => a.edenCore

@[simp] theorem callCore_holds (a : PS5Application) (call : CoreCall) :
    (a.callCore call).holds = a.holds := rfl

@[simp] theorem callCoreIfSet_holds (a : PS5Application) (call : CoreCall) :
    (a.callCoreIfSet call).holds = a.holds := by
  unfold callCoreIfSet
  split <;> rfl

@[simp] theorem stopEmulation_holds (a : PS5Application) : a.stopEmulation.holds = a.holds := by
  unfold stopEmulation
  split_ifs
  · rfl
  · exact callCoreIfSet_holds a _

@[simp] theorem loadGame_holds (a : PS5Application) (gamePath : String) (loadOk : Bool) :
    (a.loadGame gamePath loadOk).2.holds = a.holds := by
  unfold loadGame
  split_ifs <;> rfl

@[simp] theorem unloadGame_holds (a : PS5Application) : a.unloadGame.holds = a.holds := by
  unfold unloadGame
  dsimp only
  split_ifs
  · rfl
  · exact (callCoreIfSet_holds _ _).trans (stopEmulation_holds a)
  · exact callCoreIfSet_holds a _

@[simp] theorem startEmulation_holds (a : PS5Application) (startOk : Bool) :
    (a.startEmulation startOk).holds = a.holds := by
  unfold startEmulation
  split_ifs <;> rfl

@[simp] theorem run_holds (a : PS5Application) (loadOk startOk : Bool) :
    (a.run loadOk startOk).2.holds = a.holds := by
  unfold run
  dsimp only
  split_ifs <;> simp only [startEmulation_holds, loadGame_holds]

@[simp] theorem mainLoopFrame_holds (a : PS5Application) : a.mainLoopFrame.holds = a.holds := by
  unfold mainLoopFrame
  dsimp only
  split_ifs <;> rfl

@[simp] theorem pauseEmulation_holds (a : PS5Application) :
    a.pauseEmulation.holds = a.holds := by
  unfold pauseEmulation
  split_ifs <;> rfl

@[simp] theorem resumeEmulation_holds (a : PS5Application) :
    a.resumeEmulation.holds = a.holds := by
  unfold resumeEmulation
  split_ifs <;> rfl

@[simp] theorem saveState_holds (a : PS5Application) (slotName : String) :
    (a.saveState slotName).holds = a.holds := by
  unfold saveState
  split_ifs <;> simp

@[simp] theorem loadState_holds (a : PS5Application) (slotName : String) :
    (a.loadState slotName).holds = a.holds := by
  unfold loadState
  split_ifs <;> simp

@[simp] theorem requestShutdown_holds (a : PS5Application) :
    a.requestShutdown.holds = a.holds := rfl

theorem processCommandLine_holds (a : PS5Application) (args : List String) :
    (a.processCommandLine args).2.holds = a.holds := by
  obtain ⟨gamePath, configPath, parsed⟩ := a.processCommandLine_snd args
  rw [parsed]
  rfl

/-- `InitializeSubsystems` sets the flags where the objects' `initializeSubsystems` makes
the objects. -/
theorem holds_initializeSubsystems {a : PS5Application} {o : Objects}
    (flags : ∀ k, (o.held k).isSome = a.holds k) (results : SubsystemResults) (k : Subsystem) :
    ((o.initializeSubsystems results).held k).isSome = (a.initializeSubsystems results).2.holds k := by
  unfold Objects.initializeSubsystems initializeSubsystems
  dsimp only
  split_ifs <;> cases k <;> simp [flags, holds, callCore]

/-- `Shutdown` of an initialized application clears every flag. -/
theorem shutdown_holds {a : PS5Application} (init : a.initialized = true) (k : Subsystem) :
    a.shutdown.holds k = false := by
  unfold shutdown shutdownSubsystems
  simp only [init, Bool.not_true, Bool.false_eq_true, if_false]
  cases k <;> simp only [holds]
  split_ifs <;> simp_all

end PS5Application

/-- The application together with its objects. -/
structure System where
  app : PS5Application
  objects : Objects

namespace System

/-- A new application, holding nothing. -/
def new : System := ⟨PS5Application.new, Objects.new⟩

/-- One public operation of the application. -/
def step (s : System) (op : AppOp) : System := ⟨s.app.step op, s.objects.step s.app op⟩

/-- The states reachable from the constructor. -/
inductive Reachable : System → Prop
  | new : Reachable new
  | step {s : System} (op : AppOp) : Reachable s → Reachable (s.step op)

/-- An `Initialize` that runs `InitializeSubsystems` again over a frontend or a core made by
an earlier one that failed: the application is not initialized and holds either. -/
def retries (s : System) : AppOp → Bool
  | .Initialize .. => !s.app.initialized && (s.app.frontend || s.app.edenCore)
  | _ => false

/-- The states reachable without a retried `Initialize`. -/
inductive ReachableWithoutRetry : System → Prop
  | new : ReachableWithoutRetry new
  | step {s : System} (op : AppOp) (once : s.retries op = false) :
      ReachableWithoutRetry s → ReachableWithoutRetry (s.step op)

theorem ReachableWithoutRetry.reachable {s : System} (reach : s.ReachableWithoutRetry) :
    s.Reachable := by
  induction reach with
  | new => exact .new
  | step op _ _ reach => exact reach.step op

@[simp] theorem shutdownSubsystems_held (o : Objects) (k : Subsystem) :
    o.shutdownSubsystems.held k = none := by
  cases k <;> simp [Objects.shutdownSubsystems]

/-- One operation keeps the flags and the objects in step. -/
theorem holds_step {s : System} (flags : ∀ k, (s.objects.held k).isSome = s.app.holds k)
    (op : AppOp) (k : Subsystem) :
    ((s.step op).objects.held k).isSome = (s.step op).app.holds k := by
  cases op with
  | Initialize argv results =>
    simp only [step, Objects.step, PS5Application.step, PS5Application.Initialize]
    by_cases init : s.app.initialized
    · simp [init, flags k]
    by_cases parsed : (s.app.processCommandLine argv.tail).1
    · have ready := PS5Application.holds_initializeSubsystems (a := (s.app.processCommandLine argv.tail).2)
        (fun k => (flags k).trans (congrFun (s.app.processCommandLine_holds _) k).symm) results k
      simp only [init, parsed, Bool.false_or, Bool.not_true, Bool.false_eq_true, if_false]
      split_ifs
      · exact ready
      · cases k <;> exact ready
    · simp [init, parsed, flags k, PS5Application.processCommandLine_holds]
  | shutdown =>
    simp only [step, Objects.step, PS5Application.step]
    split_ifs with init
    · simp [PS5Application.shutdown_holds init]
    · simp [PS5Application.shutdown, init, flags k]
  | _ => simpa [step, Objects.step, PS5Application.step] using flags k

/-- **The flags of `PS5Application` are the `unique_ptr`s**: on every run each flag says
exactly whether its pointer holds an object, and the objects are held once and destroyed at
most once. -/
theorem Reachable.holds {s : System} (reach : s.Reachable) :
    (∀ k, (s.objects.held k).isSome = s.app.holds k) ∧ s.objects.WellFormed := by
  induction reach with
  | new => exact ⟨fun k => by cases k <;> rfl, Objects.wellFormed_new⟩
  | step op _ inv => exact ⟨holds_step inv.1 op, inv.2.step _ op⟩

theorem sound_step {s : System} (flags : ∀ k, (s.objects.held k).isSome = s.app.holds k)
    (sound : s.objects.Sound) {op : AppOp} (once : s.retries op = false) :
    (s.step op).objects.Sound := by
  cases op with
  | Initialize argv results =>
    simp only [System.step, Objects.step]
    split_ifs with skip
    · exact sound
    · have fresh : s.app.frontend = false ∧ s.app.edenCore = false := by
        simpa [retries, show s.app.initialized = false by simp_all] using once
      refine sound.initializeSubsystems (fun c client => Option.not_isSome_iff_eq_none.1 ?_) results
      rw [flags c]
      cases c <;> simp_all [PS5Application.holds, Subsystem.isClient]
  | shutdown =>
    simp only [System.step, Objects.step]
    split_ifs
    · exact sound.shutdownSubsystems
    · exact sound
  | _ => exact sound

theorem ReachableWithoutRetry.sound {s : System} (reach : s.ReachableWithoutRetry) :
    s.objects.Sound := by
  induction reach with
  | new => exact ⟨Objects.wellFormed_new,
      ⟨by simp [System.new, Objects.new], by simp [System.new, Objects.new]⟩, List.Pairwise.nil⟩
  | step op once reach sound => exact sound_step (Reachable.holds reach.reachable).1 sound once

/-- **Without a retried `Initialize`, no pointer dangles**: on every run that never calls
`Initialize` again over a frontend or a core left by a failed one, no object is destroyed
while an object that points to it is alive, whether that one was destroyed later or is still
held, and no object is destroyed twice. -/
theorem no_dangling_pointers_without_retry {s : System} (reach : s.ReachableWithoutRetry) :
    s.objects.NoDangling ∧ (s.objects.destroyed.map AppObject.id).Nodup :=
  have sound := reach.sound
  ⟨sound.pointers.noDangling sound.wf sound.inOrder, sound.wf.destroyed_nodup⟩

/-- The application initialized with every subsystem working and shut down. -/
theorem no_dangling_pointers_after_initialize_and_shutdown :
    ((new.step (.Initialize ["eden"] ⟨true, true, true, true, true⟩)).step .shutdown).ReachableWithoutRetry ∧
      ((new.step (.Initialize ["eden"] ⟨true, true, true, true, true⟩)).step .shutdown).objects.NoDangling :=
  have reach := (ReachableWithoutRetry.new.step (.Initialize ["eden"] ⟨true, true, true, true, true⟩)
    (by rfl)).step .shutdown (by rfl)
  ⟨reach, (no_dangling_pointers_without_retry reach).1⟩

/-- **An `Initialize` retried after one that failed at the frontend or the core leaves a
pointer dangling.**  On every run without an earlier retry, when the application is not
initialized but holds a frontend, an `Initialize` whose command line parses replaces the
renderer the frontend was given before anything else: whatever the subsystems answer, the
old frontend is then either still held with a pointer to the destroyed renderer, or
destroyed after it. -/
theorem retry_after_failed_initialize_dangles {s : System} (reach : s.ReachableWithoutRetry)
    (notInit : s.app.initialized = false) (frontend : s.app.frontend = true)
    {argv : List String} (parsed : (s.app.processCommandLine argv.tail).1 = true)
    (results : SubsystemResults) : ¬ (s.step (.Initialize argv results)).objects.NoDangling := by
  have sound := reach.sound
  obtain ⟨x, heldFrontend⟩ := Option.isSome_iff_exists.1
    (((Reachable.holds reach.reachable).1 .frontend).trans frontend)
  obtain ⟨r, heldRenderer⟩ := Option.isSome_iff_exists.1 <| sound.pointers.managers_held
    .frontend .renderer rfl (by simp [Subsystem.managers]) (by simp [heldFrontend])
  have pointed : r.id ∈ x.pointsTo := by
    rw [sound.pointers.pointsTo .frontend x heldFrontend]
    exact Objects.mem_managers.2 ⟨.renderer, by simp [Subsystem.managers], r, heldRenderer, rfl⟩
  simp only [System.step, Objects.step, notInit, parsed, Bool.not_true, Bool.or_false,
    Bool.false_eq_true, if_false]
  unfold Objects.initializeSubsystems
  dsimp only
  set three := ((s.objects.makeUnique .renderer []).makeUnique .audioManager []).makeUnique
    .inputManager []
  have threeFrontend : three.held .frontend = some x := by simp [three, heldFrontend]
  have threeGone : r ∈ three.destroyed := by simp [three, heldRenderer]
  split_ifs
  · exact Objects.not_noDangling_of_held .frontend (by simpa using heldFrontend)
      (by simp [heldRenderer]) pointed
  · exact Objects.not_noDangling_of_held .frontend (by simpa using heldFrontend)
      (by simp [heldRenderer]) pointed
  · exact Objects.not_noDangling_of_held .frontend threeFrontend threeGone pointed
  · exact Objects.not_noDangling_of_order three.destroyed [] (by simp [threeFrontend]) threeGone
      pointed
  · exact Objects.not_noDangling_of_order three.destroyed (three.held .edenCore).toList
      (by simp [threeFrontend]) threeGone pointed

/-- `Initialize` fails at the core, and is called again. -/
theorem retry_after_failed_initialize_dangles_at_core :
    (new.step (.Initialize ["eden"] ⟨true, true, true, true, false⟩)).ReachableWithoutRetry ∧
      ¬ ((new.step (.Initialize ["eden"] ⟨true, true, true, true, false⟩)).step
        (.Initialize ["eden"] ⟨true, true, true, true, true⟩)).objects.NoDangling :=
  have reach := ReachableWithoutRetry.new.step (.Initialize ["eden"] ⟨true, true, true, true, false⟩)
    (by rfl)
  ⟨reach, retry_after_failed_initialize_dangles reach (by rfl) (by rfl) (by rfl) _⟩

/-! ### The run of `main` -/

/-- The application after a run of the system is the run of the application. -/
theorem foldl_step_app (ops : List AppOp) (s : System) :
    (ops.foldl step s).app = ops.foldl PS5Application.step s.app := by
  induction ops generalizing s with
  | nil => rfl
  | cons op ops ih => exact ih (s.step op)

theorem ReachableWithoutRetry.foldl {s : System} (reach : s.ReachableWithoutRetry)
    {ops : List AppOp} (once : ∀ op ∈ ops, ∀ t : System, t.retries op = false) :
    (ops.foldl System.step s).ReachableWithoutRetry := by
  induction ops generalizing s with
  | nil => exact reach
  | cons op ops ih =>
    exact ih (reach.step op (once op (List.mem_cons_self _ _) s)) fun op' mem =>
      once op' (List.mem_cons_of_mem _ mem)

/-- `main` calls `Initialize` once, first. -/
theorem reachableWithoutRetry_mainAppOps (argv : List String) (o : MainOutcomes) :
    ((mainAppOps argv o).foldl step new).ReachableWithoutRetry := by
  refine (ReachableWithoutRetry.step (.Initialize argv o.subsystems)
    (show new.retries _ = false from rfl) .new).foldl fun op mem t => ?_
  split_ifs at mem <;> cases op <;> first | rfl | simp [List.mem_replicate] at mem

/-- The application `main` drives, with its objects, to the end of the process: the run of
`main`'s calls on `g_ps5_app`, then the destruction of the members. -/
def mainSystem (argv : List String) (o : MainOutcomes) : System :=
  let s := (mainAppOps argv o).foldl step new
  ⟨s.app, s.objects.destroyMembers⟩

/-- **`main` destroys every object the application made, in order**: whatever the
subsystems, the core and the signal answer, on `main`'s own calls, `Initialize` once and the
destructor last, every object the application made has been destroyed exactly once when the
process ends, and none while an object that points to it was alive. -/
theorem main_destroys_objects_in_order (stops : EtaHEN.ServiceStops) (argv : List String)
    (o : MainOutcomes) :
    (main stops argv o).2.app = some (mainSystem argv o).app ∧
      (mainSystem argv o).objects.NoDangling ∧
      ((mainSystem argv o).objects.destroyed.map AppObject.id).Perm
        (List.range (mainSystem argv o).objects.made) := by
  have objects : (mainSystem argv o).objects =
      ((mainAppOps argv o).foldl step new).objects.shutdownSubsystems := rfl
  have sound := (reachableWithoutRetry_mainAppOps argv o).sound.shutdownSubsystems
  rw [← objects] at sound
  have wf := sound.wf
  refine ⟨(main_objects stops argv o).2.trans (congrArg some (foldl_step_app (mainAppOps argv o) new).symm),
    sound.pointers.noDangling wf sound.inOrder,
    (List.perm_ext_iff_of_nodup wf.destroyed_nodup (List.nodup_range _)).2 fun i => ?_⟩
  rw [List.mem_range]
  constructor
  · intro destroyed
    obtain ⟨x, mem, rfl⟩ := List.mem_map.1 destroyed
    exact wf.destroyed_lt x mem
  · intro made
    rcases wf.made_accounted i made with ⟨k, x, held, -⟩ | destroyed
    · simp [objects] at held
    · exact destroyed

end System

end EdenPS5
