import Mathlib.Algebra.Order.BigOperators.Group.List
import Mathlib.Algebra.Order.Ring.Nat
import StreamLoad.Proofs.Run.Worker
import StreamLoad.Proofs.Settings.IdSpace

/-!
# Workers that stay in range

The check of settings keeps the ranges of the draws from being empty and every
stream id within a word. It bounds neither the sum of the lengths that a plan
may have nor the sizes of a plan and a page in memory. Where settings keep to
these bounds too, no worker is ever cut off by a fault. Where they do not, a
worker can be cut off before it connects.
-/

namespace StreamLoad

variable {Source : Type}

theorem PageSize.exists_ofBytes
    {bytes : UInt64}
    (positive : 0 < bytes.toNat)
    (allocatable : bytes.toNat < 2 ^ 63) :
    ∃ pageSize, ofBytes bytes = .ok pageSize := by
  have small : bytes.toNat < wordBound / 2 := allocatable
  rw [ofBytes, dif_pos positive, dif_pos small]
  exact ⟨_, rfl⟩

theorem drawUpTo_ne_fault
    [WordSource Source]
    {bound : UInt64}
    (nonzero : bound ≠ 0)
    (source : Source)
    (fault : Fault) : (drawUpTo bound source).1 ≠ .error (.fault fault) := by
  rw [drawUpTo, if_neg nonzero]
  cases (numbersUpTo bound).draw source <;> simp

namespace Plan

variable [WordSource Source]

theorem drawLengths_ne_fault
    {maxStreamLength : UInt64}
    (nonzero : maxStreamLength ≠ 0)
    (count : Nat)
    (drawn : List UInt64)
    (source : Source)
    (fault : Fault) :
    (drawLengths maxStreamLength count drawn source).1 ≠
      .error (.fault fault) := by
  induction count generalizing drawn source with
  | zero => simp [drawLengths]
  | succ count hypothesis =>
      have first := drawUpTo_ne_fault nonzero source fault
      rw [drawLengths]
      split
      next found => simpa [found] using first
      next length rest found => exact hypothesis (length :: drawn) rest

/-- A plan is drawn without a fault from ranges that are not empty, if the
count fits into memory. -/
theorem draw_ne_fault
    {limits : Limits}
    (streams : limits.maxStreams ≠ 0)
    (length : limits.maxStreamLength ≠ 0)
    (small : limits.maxStreams.toNat < capacity)
    (source : Source)
    (fault : Fault) : (draw limits source).1 ≠ .error (.fault fault) := by
  have counted := drawUpTo_ne_fault streams source fault
  unfold draw
  split
  next found => simpa [found] using counted
  next count rest found =>
    have fits : count.toNat < capacity :=
      Nat.lt_of_le_of_lt (drawUpTo_bounds found).2 small
    have measured := drawLengths_ne_fault length count.toNat [] rest fault
    rw [if_pos fits]
    split
    next failed => simpa [failed] using measured
    next => simp

/-- The letters of a plan are at most as many as its limits allow. -/
theorem Within.letterCount_le
    {plan : Plan}
    {limits : Limits}
    (within : plan.Within limits) :
    plan.letterCount ≤
      limits.maxStreams.toNat * limits.maxStreamLength.toNat := by
  have each : ∀ count ∈ plan.lengths.map UInt64.toNat,
      count ≤ limits.maxStreamLength.toNat := by
    intro count member
    obtain ⟨length, planned, rfl⟩ := List.mem_map.mp member
    exact (within.lengths length planned).2
  have bound := List.sum_le_card_nsmul _ _ each
  rw [List.length_map, Nat.nsmul_eq_mul] at bound
  exact bound.trans (Nat.mul_le_mul_right _ within.size)

theorem exists_totalBytes
    {plan : Plan}
    (small : plan.letterCount < 2 ^ 64) :
    ∃ total, plan.totalBytes = .ok total := by
  refine ⟨.ofNat plan.letterCount, checkedSum_eq_ok_iff.mpr ?_⟩
  exact (UInt64.toNat_ofNat_of_lt' small).symm

end Plan

namespace Session

/-- A run with room for its ids and for the sum of its lengths meets no
fault. -/
theorem run_ne_fault
    [WordSource Source]
    {session : Session Source}
    (ids : session.idPrefix.toNat + session.plan.size ≤ 2 ^ 64)
    (total : session.bytesSent.toNat + session.plan.letterCount < 2 ^ 64)
    (fault : Fault) : session.run.1 ≠ .error (.halted (.fault fault)) := by
  have small : session.plan.size ≤ 2 ^ 64 :=
    Nat.le_trans (Nat.le_add_left _ _) ids
  cases run_conducted small with
  | whole progress after yielded writing result =>
      rw [result]
      intro failed
      cases ackStop_of_conclude failed
  | halted halt bytes after begun cause writing result =>
      rcases cause with ⟨rfl, _⟩ | idBound | sumBound
      · simp [result]
      · exact absurd ids (Nat.not_le.mpr idBound)
      · exact absurd total (Nat.not_lt.mpr sumBound)
  | cut bytes error after begun writing result => simp [result]
  | interrupted bytes after begun unsettled writing result => simp [result]

end Session

theorem WorkerEnd.ofSession_ne_aborted
    {outcome : Except (Stop SessionError) SessionSummary}
    {fault : Fault}
    (unbroken : outcome ≠ .error (.halted (.fault fault))) :
    ofSession outcome ≠ .aborted fault := by
  rcases outcome with ((failure | (cause | _)) | summary)
  · nofun
  · rintro ⟨⟩
    exact unbroken rfl
  · nofun
  · nofun

namespace Settings

/-- Settings whose plans can be held in memory and summed up in a word, and
whose pages can be held in memory. The check of settings does not ask for
this. -/
structure Bounded (settings : Settings) : Prop where
  count : settings.limits.maxStreams.toNat < Plan.capacity
  total : settings.limits.maxStreams.toNat *
    settings.limits.maxStreamLength.toNat < 2 ^ 64
  page : settings.pageSize.toNat < 2 ^ 63

instance (settings : Settings) : Decidable settings.Bounded :=
  decidable_of_iff
    (settings.limits.maxStreams.toNat < Plan.capacity ∧
      settings.limits.maxStreams.toNat *
        settings.limits.maxStreamLength.toNat < 2 ^ 64 ∧
      settings.pageSize.toNat < 2 ^ 63)
    ⟨fun bounds => ⟨bounds.1, bounds.2.1, bounds.2.2⟩,
      fun bounded => ⟨bounded.count, bounded.total, bounded.page⟩⟩

/-- Nothing that a worker works out leaves its range: the ranges of its draws
are not empty, a plan that is drawn can be summed up, a page can be held, every
stream of its plan has an id, and so no fault ends it, whatever source it draws
from and whatever it meets. -/
structure WorkersInRange (settings : Settings) : Prop where
  ranges : settings.limits.maxStreams ≠ 0 ∧
    settings.limits.maxStreamLength ≠ 0
  page : ∃ pageSize, PageSize.ofBytes settings.pageSize = .ok pageSize
  drawn : ∀ {Source : Type} [WordSource Source] (source : Source)
      (fault : Fault),
    (Plan.draw settings.limits source).1 ≠ .error (.fault fault)
  total : ∀ {Source : Type} [WordSource Source] (source later : Source)
    (plan : Plan), Plan.draw settings.limits source = (.ok plan, later) ->
      ∃ bytes, plan.totalBytes = .ok bytes
  ids : ∀ {Source : Type} [WordSource Source] (source later : Source)
    (plan : Plan) (worker index : UInt64),
    Plan.draw settings.limits source = (.ok plan, later) ->
      worker < settings.workers -> index.toNat < plan.size ->
        ∃ id, settings.idOf worker index = .ok id
  survives : ∀ {Source : Type} [WordSource Source] (source : Source)
    (announced : Bool) (network : Network) (worker idPrefix : UInt64)
    (fault : Fault), worker < settings.workers ->
      settings.idPrefix worker = .ok idPrefix ->
        (settings.runWorker announced network worker idPrefix source).ending ≠
          .aborted fault

theorem ne_zero_of_one_le {word : UInt64} (positive : 1 ≤ word.toNat) :
    word ≠ 0 := by
  rintro rfl
  exact absurd positive (by decide)

theorem announce_of_total
    {plan : Plan}
    {bytes : UInt64}
    (total : plan.totalBytes = .ok bytes)
    (announced : Bool) : announce announced plan = .ok () := by
  unfold announce
  rw [total]
  cases announced <;> rfl

section Worker

variable [WordSource Source]
variable {settings : Settings}

/-- A plan within the limits of bounded settings can be summed up. -/
theorem Bounded.letterCount_lt
    {source later : Source}
    {plan : Plan}
    (bounded : settings.Bounded)
    (drawn : Plan.draw settings.limits source = (.ok plan, later)) :
    plan.letterCount < 2 ^ 64 :=
  Nat.lt_of_le_of_lt (Plan.within_of_draw drawn).1.letterCount_le
    bounded.total

/-- No fault ends a worker of sound and bounded settings. -/
theorem ending_runWorker_ne_aborted
    {worker idPrefix : UInt64}
    (sound : settings.Sound)
    (bounded : settings.Bounded)
    (inside : worker < settings.workers)
    (assigned : settings.idPrefix worker = .ok idPrefix)
    (announced : Bool)
    (network : Network)
    (source : Source)
    (fault : Fault) :
    (settings.runWorker announced network worker idPrefix source).ending ≠
      .aborted fault := by
  have streams := ne_zero_of_one_le sound.maxStreams
  have length := ne_zero_of_one_le sound.maxStreamLength
  have planned :=
    Plan.draw_ne_fault streams length bounded.count source
  unfold runWorker
  dsimp only
  split
  next cause later drawn =>
    exact absurd (congrArg Prod.fst drawn) (planned cause)
  next => nofun
  next plan later drawn =>
    have within := (Plan.within_of_draw drawn).1
    have small := bounded.letterCount_lt drawn
    obtain ⟨bytes, total⟩ := Plan.exists_totalBytes small
    rw [announce_of_total total]
    dsimp only
    split
    next => nofun
    next counterpart met =>
      split
      next cause failed =>
        obtain ⟨pageSize, page⟩ :=
          PageSize.exists_ofBytes sound.pageSize bounded.page
        unfold Session.start sessionOptions at failed
        dsimp only at failed
        rw [page] at failed
        cases failed
      next session started =>
        have fresh := Session.startedWith_of_start started
        have room := sound.room (UInt64.lt_iff_toNat_lt.mp inside)
        rw [checkedMul_eq_ok_iff.mp assigned] at room
        apply WorkerEnd.ofSession_ne_aborted
        apply Session.run_ne_fault
        · rw [fresh.idPrefix, fresh.plan]
          have bound := within.size
          omega
        · rw [fresh.bytesSent, fresh.plan]
          simpa using small

end Worker

/-- Settings that pass the check keep their workers in range if they are
bounded as well. -/
theorem workersInRange_of_bounded
    {line : CommandLine}
    {file : SettingsFile}
    {settings : Settings}
    (resolved : resolve line file = .ok settings)
    (bounded : settings.Bounded) : settings.WorkersInRange := by
  have sound := sound_of_resolve resolved
  have streams := ne_zero_of_one_le sound.maxStreams
  have length := ne_zero_of_one_le sound.maxStreamLength
  refine ⟨⟨streams, length⟩, ?_, ?_, ?_, ?_, ?_⟩
  · exact PageSize.exists_ofBytes sound.pageSize bounded.page
  · intro Source _ source fault
    exact Plan.draw_ne_fault streams length bounded.count source fault
  · intro Source _ source later plan drawn
    exact Plan.exists_totalBytes (bounded.letterCount_lt drawn)
  · intro Source _ source later plan worker index drawn inside planned
    have within := (Plan.within_of_draw drawn).1
    exact sound.exists_idOf ⟨UInt64.lt_iff_toNat_lt.mp inside,
      Nat.lt_of_lt_of_le planned within.size⟩
  · intro Source _ source announced network worker idPrefix fault inside
      assigned
    exact ending_runWorker_ne_aborted sound bounded inside assigned announced
      network source fault

/-- A file at the bounds: the ids of three workers and the lengths of three
streams only just fit into a word, and a page only just into memory. -/
def widestFile : SettingsFile :=
  { SettingsFile.empty with
    workers := some 3
    idStride := some 0x7ffffffffffffffe
    maxStreams := some 3
    maxStreamLength := some 0x5555555555555555
    pageSize := some 0x7fffffffffffffff }

/-- The settings at the bounds. -/
def widest : Settings :=
  { standard with
    workers := 3
    idStride := 0x7ffffffffffffffe
    limits := { maxStreams := 3, maxStreamLength := 0x5555555555555555 }
    pageSize := 0x7fffffffffffffff }

theorem workersInRange_widest :
    resolve .empty widestFile = .ok widest ∧
      widest.Bounded ∧ widest.WorkersInRange := by
  have resolved : resolve .empty widestFile = .ok widest := by rfl
  have bounded : widest.Bounded := by decide
  exact ⟨resolved, bounded, workersInRange_of_bounded resolved bounded⟩

/-- A file that lets three streams be longer together than a word can tell. -/
def oversizedFile : SettingsFile :=
  { SettingsFile.empty with
    workers := some 1
    maxStreams := some 3
    maxStreamLength := some 0x7fffffffffffffff
    seed := some 35 }

/-- The settings of one worker whose streams may be too long together. -/
def oversized : Settings :=
  { standard with
    workers := 1
    limits := { maxStreams := 3, maxStreamLength := 0x7fffffffffffffff }
    seed := some 35 }

theorem draw_oversized :
    Plan.draw oversized.limits (KeyStream.seeded 35) =
      (.ok ⟨[6133938474450894283, 7358255739252649109, 5109629237678588954]⟩,
        WordSource.skip 8 (KeyStream.seeded 35)) := by
  refine Plan.draw_of_accepted ?_ ?_ ?_
  all_goals decide +kernel

/-- Settings that pass the check may have a worker cut off by the sum of the
lengths of its plan, before it connects. -/
theorem aborted_oversized :
    resolve .empty oversizedFile = .ok oversized ∧
      oversized.idPrefix 0 = .ok 0 ∧
      (oversized.runWorker true Peer.refusing.network 0 0
        (KeyStream.seeded 35)).ending = .aborted .addOverflow ∧
      ¬oversized.WorkersInRange := by
  have aborted : (oversized.runWorker true Peer.refusing.network 0 0
      (KeyStream.seeded 35)).ending = .aborted .addOverflow := by
    unfold runWorker
    rw [draw_oversized]
    rfl
  refine ⟨rfl, rfl, aborted, ?_⟩
  intro inRange
  exact inRange.survives (KeyStream.seeded 35) true Peer.refusing.network 0 0
    .addOverflow (by decide) rfl aborted

end Settings
end StreamLoad
