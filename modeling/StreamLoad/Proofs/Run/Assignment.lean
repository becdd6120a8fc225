import StreamLoad.Proofs.Settings.Validation
import StreamLoad.Run.Load

/-!
# The workers of a run

Every worker has as its first id its index times the stride. A run whose
settings hold assigns all of them; one that assigns any has room for all.
-/

namespace StreamLoad

section Traversal

variable {Value Result Failure : Type}

/-- A traversal succeeds exactly when every element does. -/
theorem mapM_eq_ok_iff
    {function : Value -> Except Failure Result}
    {values : List Value}
    {results : List Result} :
    values.mapM function = .ok results ↔
      values.map function = results.map .ok := by
  induction values generalizing results with
  | nil => cases results <;> simp [pure, Except.pure]
  | cons value values hypothesis =>
      rw [List.mapM_cons, List.map_cons]
      cases function value with
      | error failure => cases results <;> simp [bind, Except.bind]
      | ok result =>
          cases traversed : values.mapM function with
          | error failure =>
              cases results <;>
                simp [bind, Except.bind, ← hypothesis, traversed]
          | ok others =>
              cases results <;>
                simp [bind, Except.bind, pure, Except.pure, ← hypothesis,
                  traversed]

/-- A traversal fails as one of its elements does. -/
theorem exists_of_mapM_eq_error
    {function : Value -> Except Failure Result}
    {values : List Value}
    {failure : Failure}
    (failed : values.mapM function = .error failure) :
    ∃ value ∈ values, function value = .error failure := by
  induction values with
  | nil => cases failed
  | cons value values hypothesis =>
      rw [List.mapM_cons] at failed
      cases first : function value with
      | error other =>
          rw [first] at failed
          cases failed
          exact ⟨value, List.mem_cons_self, first⟩
      | ok result =>
          rw [first] at failed
          cases traversed : values.mapM function with
          | error other =>
              simp only [bind, Except.bind, traversed] at failed
              cases failed
              obtain ⟨later, member, fails⟩ := hypothesis traversed
              exact ⟨later, List.mem_cons_of_mem _ member, fails⟩
          | ok others =>
              simp only [bind, Except.bind, traversed] at failed
              cases failed

theorem mapM_eq_some_iff
    {function : Value -> Option Result}
    {values : List Value}
    {results : List Result} :
    values.mapM function = some results ↔
      values.map function = results.map some := by
  induction values generalizing results with
  | nil => cases results <;> simp
  | cons value values hypothesis =>
      rw [List.mapM_cons, List.map_cons]
      cases function value with
      | none => cases results <;> simp
      | some result =>
          cases traversed : values.mapM function with
          | none => cases results <;> simp [← hypothesis, traversed]
          | some others => cases results <;> simp [← hypothesis, traversed]

theorem map_eq_map_some_filterMap
    {function : Value -> Option Result}
    {values : List Value}
    (all : ∀ value ∈ values, (function value).isSome) :
    values.map function = (values.filterMap function).map some := by
  induction values with
  | nil => rfl
  | cons value values hypothesis =>
      obtain ⟨first, others⟩ := List.forall_mem_cons.mp all
      obtain ⟨result, found⟩ := Option.isSome_iff_exists.mp first
      rw [List.map_cons, hypothesis others, List.filterMap_cons_some found,
        List.map_cons, found]

theorem getElem?_of_map_eq_map_some
    {function : Value -> Option Result}
    {values : List Value}
    {results : List Result}
    (traversed : values.map function = results.map some)
    (index : Nat) : results[index]? = values[index]?.bind function := by
  have entry := congrArg (fun list => list[index]?) traversed
  simp only [List.getElem?_map] at entry
  cases value : values[index]? <;> cases result : results[index]? <;>
    simp_all

end Traversal

namespace Settings

/-- The first id of a worker, if it fits into a word. -/
def firstId (settings : Settings) (worker : Nat) : UInt64 :=
  UInt64.ofNat (worker * settings.idStride.toNat)

/-- The workers with their first ids. -/
def assigned (settings : Settings) : List (UInt64 × UInt64) :=
  (List.range settings.workers.toNat).map fun worker =>
    (UInt64.ofNat worker, settings.firstId worker)

theorem idPrefix_eq_ok_iff
    {settings : Settings}
    {worker : Nat}
    {idPrefix : UInt64}
    (inside : worker < settings.workers.toNat) :
    settings.idPrefix (UInt64.ofNat worker) = .ok idPrefix ↔
      worker * settings.idStride.toNat < 2 ^ 64 ∧
        idPrefix = settings.firstId worker := by
  have small : worker < 2 ^ 64 :=
    Nat.lt_trans inside settings.workers.toNat_lt
  rw [Settings.idPrefix, checkedMul_eq_ok_iff,
    UInt64.toNat_ofNat_of_lt' small]
  unfold firstId
  constructor
  · intro product
    rw [product]
    exact ⟨idPrefix.toNat_lt, UInt64.ofNat_toNat.symm⟩
  · rintro ⟨within, rfl⟩
    exact (UInt64.toNat_ofNat_of_lt' within).symm

/-- A run with room for all first ids assigns its workers. -/
theorem assignments_of_room
    {settings : Settings}
    (room : ∀ worker < settings.workers.toNat,
      worker * settings.idStride.toNat < 2 ^ 64) :
    settings.assignments = .ok settings.assigned := by
  rw [assignments, mapM_eq_ok_iff, workerIndices, assigned, List.map_map,
    List.map_map]
  apply List.map_congr_left
  intro worker member
  have inside := List.mem_range.mp member
  have found : settings.idPrefix (UInt64.ofNat worker) =
      .ok (settings.firstId worker) :=
    (idPrefix_eq_ok_iff inside).mpr ⟨room worker inside, rfl⟩
  simp only [Function.comp_apply, found]
  rfl

/-- A run that assigns its workers has room for all first ids. -/
theorem room_of_assignments
    {settings : Settings}
    {list : List (UInt64 × UInt64)}
    (assigns : settings.assignments = .ok list) :
    ∀ worker < settings.workers.toNat,
      worker * settings.idStride.toNat < 2 ^ 64 := by
  intro worker inside
  rw [assignments, mapM_eq_ok_iff, workerIndices, List.map_map] at assigns
  cases found : settings.idPrefix (UInt64.ofNat worker) with
  | ok idPrefix => exact ((idPrefix_eq_ok_iff inside).mp found).1
  | error fault =>
      have entry := congrArg (fun list => list[worker]?) assigns
      simp only [List.getElem?_map, List.getElem?_range inside, Option.map_some,
        Function.comp_apply, found, bind, Except.bind] at entry
      cases assignment : list[worker]? <;> simp [assignment] at entry

/-- A run assigns to each worker its index times the stride, or none. -/
theorem eq_assigned_of_assignments
    {settings : Settings}
    {list : List (UInt64 × UInt64)}
    (assigns : settings.assignments = .ok list) :
    list = settings.assigned := by
  rw [assignments_of_room (room_of_assignments assigns)] at assigns
  cases assigns
  rfl

/-- The only fault of a first id is that it does not fit into a word. -/
theorem eq_mulOverflow_of_idPrefix
    {settings : Settings}
    {worker : UInt64}
    {fault : Fault}
    (beyond : settings.idPrefix worker = .error fault) :
    fault = .mulOverflow := by
  unfold Settings.idPrefix checkedMul at beyond
  split at beyond
  next => cases beyond
  next => cases beyond; rfl

/-- A worker without a first id keeps the run from assigning any. -/
theorem assignments_eq_error
    {settings : Settings}
    {worker : Nat}
    {fault : Fault}
    (inside : worker < settings.workers.toNat)
    (beyond : settings.idPrefix (UInt64.ofNat worker) = .error fault) :
    settings.assignments = .error fault := by
  cases assigns : settings.assignments with
  | error other =>
      obtain ⟨index, _, fails⟩ := exists_of_mapM_eq_error assigns
      cases found : settings.idPrefix index with
      | ok idPrefix =>
          rw [found] at fails
          cases fails
      | error third =>
          rw [found] at fails
          cases fails
          rw [eq_mulOverflow_of_idPrefix beyond,
            eq_mulOverflow_of_idPrefix found]
  | ok list =>
      have room := room_of_assignments assigns worker inside
      have found : settings.idPrefix (UInt64.ofNat worker) =
          .ok (settings.firstId worker) :=
        (idPrefix_eq_ok_iff inside).mpr ⟨room, rfl⟩
      rw [beyond] at found
      cases found

theorem assignments_of_sound
    {settings : Settings}
    (sound : settings.Sound) :
    settings.assignments = .ok settings.assigned := by
  apply assignments_of_room
  intro worker inside
  have room := sound.room inside
  have positive := sound.maxStreams
  omega

variable {Source : Type} [WordSource Source]

/-- What becomes of the worker of some index, whose first id fits into a
word. -/
def workerRecord
    (settings : Settings)
    (watched : Event -> Bool)
    (network : Network)
    (sourceOf : UInt64 -> Source)
    (worker : Nat) : WorkerRecord :=
  settings.runWorker (watched .clientRunning) network (UInt64.ofNat worker)
    (settings.firstId worker) (sourceOf (UInt64.ofNat worker))

/-- What becomes of all workers, in order. -/
def workerRecords
    (settings : Settings)
    (watched : Event -> Bool)
    (network : Network)
    (sourceOf : UInt64 -> Source) : List WorkerRecord :=
  (List.range settings.workers.toNat).map
    (settings.workerRecord watched network sourceOf)

theorem runWorkers_assigned
    (settings : Settings)
    (watched : Event -> Bool)
    (network : Network)
    (sourceOf : UInt64 -> Source) :
    settings.runWorkers watched network sourceOf settings.assigned =
      settings.workerRecords watched network sourceOf := by
  rw [runWorkers, assigned, List.map_map]
  rfl

/-- A run that assigns its workers runs each of them. -/
theorem workers_run
    {settings : Settings}
    {list : List (UInt64 × UInt64)}
    (assigns : settings.assignments = .ok list)
    (watched : Event -> Bool)
    (network : Network)
    (sourceOf : UInt64 -> Source) :
    (settings.run watched network sourceOf).workers =
      settings.workerRecords watched network sourceOf := by
  have known := eq_assigned_of_assignments assigns
  unfold run
  rw [assigns, known]
  dsimp only
  rw [runWorkers_assigned]
  split <;> rfl

/-- A run whose workers all end collects their ends and goes on to the
shutdown. -/
theorem run_of_arrivals
    {settings : Settings}
    {list : List (UInt64 × UInt64)}
    {watched : Event -> Bool}
    {network : Network}
    {sourceOf : UInt64 -> Source}
    {arrivals : List Report.Arrival}
    (assigns : settings.assignments = .ok list)
    (arrive : (settings.workerRecords watched network sourceOf).map
      WorkerRecord.arrival? = arrivals.map some) :
    settings.run watched network sourceOf =
      { workers := settings.workerRecords watched network sourceOf
        terminator := settings.terminator? network sourceOf
        ending := (Report.collect arrivals).runEnd watched
          (settings.terminator? network sourceOf) } := by
  have known := eq_assigned_of_assignments assigns
  unfold run
  rw [assigns, known]
  dsimp only
  rw [runWorkers_assigned, mapM_eq_some_iff.mpr arrive]

end Settings
end StreamLoad
