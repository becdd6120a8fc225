import StreamLoad.Proofs.Settings.Validation

/-!
# The check is exact for the ids

Merged settings are checked rule by rule, and the first rule that they break is
told. The check never goes below zero. Settings that pass it give every stream
of every worker an id of its own that fits into a word. Settings with two
workers or more and no zero count fail it only if two streams would share an id
or some id would not fit.
-/

namespace StreamLoad

/-- The difference of two words; below zero there is none. -/
def difference? (left right : UInt64) : Option UInt64 :=
  if right ≤ left then some (left - right) else none

theorem difference?_one {word : UInt64} (nonzero : word ≠ 0) :
    difference? word 1 = some (word - 1) := by
  have positive : 0 < word.toNat :=
    Nat.pos_of_ne_zero (mt Settings.eq_zero_iff_toNat.mpr nonzero)
  have order : (1 : UInt64) ≤ word := UInt64.le_iff_toNat_le.mpr positive
  rw [difference?, if_pos order]

namespace Settings

/-- The last id, worked out with both subtractions guarded. -/
def guardedLastId? (settings : Settings) : Option (Except Fault UInt64) :=
  match difference? settings.workers 1 with
  | none => none
  | some lastWorker =>
      match checkedMul lastWorker settings.idStride with
      | .error fault => some (.error fault)
      | .ok lastPrefix =>
          (difference? settings.limits.maxStreams 1).map
            (checkedAdd lastPrefix)

/-- The check with both subtractions guarded. It has no answer if one of them
goes below zero. -/
def guardedViolation? (settings : Settings) : Option (Option Violation) :=
  if settings.workers = 0 then
    some (some .noWorkers)
  else if settings.limits.maxStreams = 0 then
    some (some .noStreams)
  else if settings.limits.maxStreamLength = 0 then
    some (some .noStreamLength)
  else if settings.pageSize = 0 then
    some (some .noPageSize)
  else if settings.idStride < settings.limits.maxStreams then
    some (some (.narrowStride settings.idStride settings.limits.maxStreams))
  else
    match settings.guardedLastId? with
    | none => none
    | some (.ok _) => some none
    | some (.error _) => some (some .idSpaceExceeded)

theorem guardedLastId?_eq
    {settings : Settings}
    (workers : settings.workers ≠ 0)
    (maxStreams : settings.limits.maxStreams ≠ 0) :
    settings.guardedLastId? = some settings.lastId := by
  unfold guardedLastId? lastId
  rw [difference?_one workers, difference?_one maxStreams]
  cases product : checkedMul (settings.workers - 1) settings.idStride <;>
    simp [product]

/-- The check does not go below zero. -/
theorem guardedViolation?_eq (settings : Settings) :
    settings.guardedViolation? = some settings.violation? := by
  unfold guardedViolation? violation?
  by_cases workers : settings.workers = 0
  case pos => simp [workers]
  by_cases streams : settings.limits.maxStreams = 0
  case pos => simp [workers, streams]
  rw [guardedLastId?_eq workers streams]
  cases settings.lastId <;> simp only [apply_ite some]

/-- The id of a stream of a worker, as a session of the worker works it
out. -/
def idOf (settings : Settings) (worker index : UInt64) :
    Except Fault UInt64 :=
  match settings.idPrefix worker with
  | .error fault => .error fault
  | .ok firstId => checkedAdd firstId index

/-- The number that the id of a stream of a worker stands for. -/
def idNumber (settings : Settings) (worker index : Nat) : Nat :=
  worker * settings.idStride.toNat + index

/-- There is such a worker, and its plan may have such a stream. -/
def HasStream (settings : Settings) (worker index : Nat) : Prop :=
  worker < settings.workers.toNat ∧ index < settings.limits.maxStreams.toNat

/-- A session that begins with the first id of a worker gives its streams the
ids of the worker. -/
theorem streamId_eq_idOf
    {Source : Type}
    {settings : Settings}
    {worker : UInt64}
    {session : Session Source}
    (assigned : settings.idPrefix worker = .ok session.idPrefix)
    (index : UInt64) :
    session.streamId index = settings.idOf worker index := by
  rw [idOf, assigned]
  rfl

theorem idOf_eq_ok_iff
    {settings : Settings}
    {worker index id : UInt64} :
    settings.idOf worker index = .ok id ↔
      settings.idNumber worker.toNat index.toNat = id.toNat := by
  unfold idOf idPrefix idNumber
  cases product : checkedMul worker settings.idStride with
  | ok firstId =>
      rw [checkedMul_eq_ok_iff.mp product]
      exact checkedAdd_eq_ok_iff
  | error fault =>
      simp only [reduceCtorEq, false_iff]
      intro equal
      have bound := id.toNat_lt
      have within :
          worker.toNat * settings.idStride.toNat < wordBound := by
        rw [wordBound_eq]
        omega
      rw [checkedMul, if_pos within] at product
      cases product

/-- Two streams of a run would share an id. -/
def Collides (settings : Settings) : Prop :=
  ∃ worker index other second,
    settings.HasStream worker index ∧ settings.HasStream other second ∧
      (worker, index) ≠ (other, second) ∧
      settings.idNumber worker index = settings.idNumber other second

/-- A stream of a run would have an id that does not fit into a word. -/
def Exceeds (settings : Settings) : Prop :=
  ∃ worker index,
    settings.HasStream worker index ∧
      2 ^ 64 ≤ settings.idNumber worker index

namespace Sound

theorem exists_idOf
    {settings : Settings}
    (sound : settings.Sound)
    {worker index : UInt64}
    (inside : settings.HasStream worker.toNat index.toNat) :
    ∃ id, settings.idOf worker index = .ok id := by
  have room := sound.room inside.1
  have bound := inside.2
  have small : settings.idNumber worker.toNat index.toNat < 2 ^ 64 := by
    unfold idNumber
    omega
  refine ⟨.ofNat (settings.idNumber worker.toNat index.toNat), ?_⟩
  rw [idOf_eq_ok_iff]
  exact (UInt64.toNat_ofNat_of_lt' small).symm

theorem idOf_inj
    {settings : Settings}
    (sound : settings.Sound)
    {worker index other second : UInt64}
    (inside : settings.HasStream worker.toNat index.toNat)
    (otherInside : settings.HasStream other.toNat second.toNat)
    (same : settings.idOf worker index = settings.idOf other second) :
    worker = other ∧ index = second := by
  obtain ⟨id, found⟩ := sound.exists_idOf inside
  have number := idOf_eq_ok_iff.mp found
  have otherNumber := idOf_eq_ok_iff.mp (same.symm.trans found)
  obtain ⟨workers, indices⟩ := sound.ids_inj inside.2 otherInside.2
    (number.trans otherNumber.symm)
  exact ⟨UInt64.toNat_inj.mp workers, UInt64.toNat_inj.mp indices⟩

end Sound

/-- With two workers a stride below the greatest stream count lets the first
worker reach the first id of the second. -/
theorem collides_of_narrow
    {settings : Settings}
    (workers : 2 ≤ settings.workers.toNat)
    (narrow : settings.idStride.toNat < settings.limits.maxStreams.toNat) :
    settings.Collides := by
  refine ⟨0, settings.idStride.toNat, 1, 0, ⟨by omega, narrow⟩,
    ⟨by omega, by omega⟩, by simp, ?_⟩
  simp [idNumber]

/-- Without room for the last id of the last worker this id does not fit. -/
theorem exceeds_of_beyond
    {settings : Settings}
    (workers : 1 ≤ settings.workers.toNat)
    (maxStreams : 1 ≤ settings.limits.maxStreams.toNat)
    (beyond : 2 ^ 64 ≤ (settings.workers.toNat - 1) *
      settings.idStride.toNat + (settings.limits.maxStreams.toNat - 1)) :
    settings.Exceeds :=
  ⟨settings.workers.toNat - 1, settings.limits.maxStreams.toNat - 1,
    ⟨by omega, by omega⟩, beyond⟩

/-- Settings without a zero count that are not sound give two streams one id
or some stream an id that does not fit. -/
theorem collides_or_exceeds_of_not_sound
    {settings : Settings}
    (workers : 2 ≤ settings.workers.toNat)
    (maxStreams : 1 ≤ settings.limits.maxStreams.toNat)
    (maxStreamLength : 1 ≤ settings.limits.maxStreamLength.toNat)
    (pageSize : 1 ≤ settings.pageSize.toNat)
    (unsound : ¬settings.Sound) :
    settings.Collides ∨ settings.Exceeds := by
  rcases Nat.lt_or_ge settings.idStride.toNat
      settings.limits.maxStreams.toNat with narrow | stride
  · exact .inl (collides_of_narrow workers narrow)
  · have one : 1 ≤ settings.workers.toNat := Nat.le_of_succ_le workers
    refine .inr (exceeds_of_beyond one maxStreams (Nat.le_of_not_lt ?_))
    intro ids
    exact unsound
      ⟨one, maxStreams, maxStreamLength, pageSize, stride, ids⟩

/-- What the check of settings guarantees, by what it answers for them: it
stays above zero, accepts exactly the sound settings, tells of the first rule
that is broken otherwise, gives every stream an id of its own, and refuses no
settings with two workers and no zero count that would do so. -/
structure ExactlyChecked
    (settings : Settings)
    (answer : Except SettingsError Settings) : Prop where
  guarded : settings.guardedViolation? = some settings.violation?
  first : answer =
    match settings.firstBroken? with
    | some rule => .error (.invalid rule.violation.message)
    | none => .ok settings
  accepted : answer = .ok settings ↔ settings.Sound
  fits : answer = .ok settings ->
    ∀ worker index, settings.HasStream worker.toNat index.toNat ->
      ∃ firstId id, settings.idPrefix worker = .ok firstId ∧
        checkedAdd firstId index = .ok id
  apart : answer = .ok settings ->
    ∀ worker index other second,
      settings.HasStream worker.toNat index.toNat ->
      settings.HasStream other.toNat second.toNat ->
      settings.idOf worker index = settings.idOf other second ->
        worker = other ∧ index = second
  complete : 2 ≤ settings.workers.toNat ->
    1 ≤ settings.limits.maxStreams.toNat ->
    1 ≤ settings.limits.maxStreamLength.toNat ->
    1 ≤ settings.pageSize.toNat ->
    answer ≠ .ok settings ->
      settings.Collides ∨ settings.Exceeds

theorem resolve_eq (line : CommandLine) (file : SettingsFile) :
    resolve line file =
      match (merge line file).firstBroken? with
      | some rule => .error (.invalid rule.violation.message)
      | none => .ok (merge line file) := by
  unfold resolve
  dsimp only
  rw [violation?_eq]
  cases (merge line file).firstBroken? <;> rfl

theorem resolve_eq_ok_iff {line : CommandLine} {file : SettingsFile} :
    resolve line file = .ok (merge line file) ↔ (merge line file).Sound := by
  rw [resolve_eq, sound_iff_firstBroken?_eq_none]
  cases (merge line file).firstBroken? <;> simp

/-- Whatever the command line and the file say, the check of what they come to
is exact. -/
theorem exactlyChecked_resolve (line : CommandLine) (file : SettingsFile) :
    (merge line file).ExactlyChecked (resolve line file) where
  guarded := guardedViolation?_eq _
  first := resolve_eq line file
  accepted := resolve_eq_ok_iff
  fits := by
    intro passed worker index inside
    obtain ⟨id, found⟩ := (resolve_eq_ok_iff.mp passed).exists_idOf inside
    unfold idOf at found
    split at found
    next => cases found
    next firstId assigned => exact ⟨firstId, id, assigned, found⟩
  apart := by
    intro passed worker index other second inside otherInside same
    exact (resolve_eq_ok_iff.mp passed).idOf_inj inside otherInside same
  complete := by
    intro workers maxStreams maxStreamLength pageSize refused
    exact collides_or_exceeds_of_not_sound workers maxStreams
      maxStreamLength pageSize (mt resolve_eq_ok_iff.mpr refused)

/-- The last of the ten ids of the third worker may be the greatest word, and
no more. -/
example :
    { standard with workers := 3, idStride := 0x7ffffffffffffffb }.violation? =
        none ∧
      { standard with workers := 3, idStride := 0x7ffffffffffffffc }.violation? =
        some .idSpaceExceeded := by decide

end Settings
end StreamLoad
