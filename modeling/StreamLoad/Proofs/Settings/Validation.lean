import StreamLoad.Proofs.Fault
import StreamLoad.Settings.Basic

/-!
# Settings that hold

The check of settings is exact: it passes settings if and only if no count in
them is zero, the ids of a worker fit into its stride, and the last id of the
last worker fits into a word.
-/

namespace StreamLoad
namespace Settings

/-- Settings that keep every rule. -/
structure Sound (settings : Settings) : Prop where
  workers : 1 ≤ settings.workers.toNat
  maxStreams : 1 ≤ settings.limits.maxStreams.toNat
  maxStreamLength : 1 ≤ settings.limits.maxStreamLength.toNat
  pageSize : 1 ≤ settings.pageSize.toNat
  stride : settings.limits.maxStreams.toNat ≤ settings.idStride.toNat
  ids : (settings.workers.toNat - 1) * settings.idStride.toNat +
    (settings.limits.maxStreams.toNat - 1) < 2 ^ 64

theorem eq_zero_iff_toNat {word : UInt64} : word = 0 ↔ word.toNat = 0 := by
  rw [← UInt64.toNat_inj]
  rfl

theorem toNat_sub_one {word : UInt64} (positive : 1 ≤ word.toNat) :
    (word - 1).toNat = word.toNat - 1 := by
  have order : (1 : UInt64) ≤ word := UInt64.le_iff_toNat_le.mpr positive
  exact UInt64.toNat_sub_of_le word 1 order

/-- The last id is found if and only if it fits into a word. -/
theorem isOk_lastId_iff
    {settings : Settings}
    (workers : 1 ≤ settings.workers.toNat)
    (maxStreams : 1 ≤ settings.limits.maxStreams.toNat) :
    (∃ id, settings.lastId = .ok id) ↔
      (settings.workers.toNat - 1) * settings.idStride.toNat +
        (settings.limits.maxStreams.toNat - 1) < 2 ^ 64 := by
  rw [← toNat_sub_one workers, ← toNat_sub_one maxStreams]
  unfold lastId checkedMul
  rw [wordBound_eq]
  split
  next fault beyond =>
    split at beyond
    next => cases beyond
    next large =>
      simp only [reduceCtorEq, exists_false, false_iff]
      omega
  next lastPrefix product =>
    split at product
    next within =>
      cases product
      unfold checkedAdd
      rw [UInt64.toNat_mul, Nat.mod_eq_of_lt within]
      split
      next room => exact iff_of_true ⟨_, rfl⟩ room
      next crowded =>
        refine iff_of_false ?_ crowded
        rintro ⟨id, ⟨⟩⟩
    next => cases product

/-- A rule of settings: what is told when it is broken, and whether it is
kept. -/
structure Rule where
  violation : Violation
  kept : Bool

/-- The rules of settings, in the order in which they are checked. -/
def rules (settings : Settings) : List Rule :=
  [{ violation := .noWorkers
     kept := decide (1 ≤ settings.workers.toNat) },
    { violation := .noStreams
      kept := decide (1 ≤ settings.limits.maxStreams.toNat) },
    { violation := .noStreamLength
      kept := decide (1 ≤ settings.limits.maxStreamLength.toNat) },
    { violation := .noPageSize
      kept := decide (1 ≤ settings.pageSize.toNat) },
    { violation :=
        .narrowStride settings.idStride settings.limits.maxStreams
      kept := decide
        (settings.limits.maxStreams.toNat ≤ settings.idStride.toNat) },
    { violation := .idSpaceExceeded
      kept := decide
        ((settings.workers.toNat - 1) * settings.idStride.toNat +
          (settings.limits.maxStreams.toNat - 1) < 2 ^ 64) }]

/-- The first rule that settings break. -/
def firstBroken? (settings : Settings) : Option Rule :=
  settings.rules.find? fun rule => !rule.kept

theorem eq_zero_iff_not_one_le {word : UInt64} :
    word = 0 ↔ ¬1 ≤ word.toNat := by
  rw [eq_zero_iff_toNat]
  omega

/-- The check tells of the first rule that is broken. -/
theorem violation?_eq (settings : Settings) :
    settings.violation? = settings.firstBroken?.map Rule.violation := by
  unfold violation? firstBroken? rules
  simp only [eq_zero_iff_not_one_le, UInt64.lt_iff_toNat_lt]
  by_cases workers : 1 ≤ settings.workers.toNat
  case neg => simp [workers]
  by_cases streams : 1 ≤ settings.limits.maxStreams.toNat
  case neg => simp [workers, streams]
  by_cases length : 1 ≤ settings.limits.maxStreamLength.toNat
  case neg => simp [workers, streams, length]
  by_cases page : 1 ≤ settings.pageSize.toNat
  case neg => simp [workers, streams, length, page]
  by_cases stride :
    settings.limits.maxStreams.toNat ≤ settings.idStride.toNat
  case neg => simp [workers, streams, length, page, stride]
  have exact := isOk_lastId_iff workers streams
  cases found : settings.lastId with
  | ok id =>
      have ids := exact.mp ⟨id, found⟩
      simp [workers, streams, length, page, stride, Nat.not_lt.mpr stride,
        Nat.not_le.mpr ids, -Nat.reducePow]
  | error fault =>
      have beyond := Nat.le_of_not_lt (mt exact.mpr (by simp [found]))
      simp [workers, streams, length, page, stride, Nat.not_lt.mpr stride,
        beyond, -Nat.reducePow]

/-- Settings are sound when all of their rules are kept. -/
theorem sound_iff_firstBroken?_eq_none {settings : Settings} :
    settings.Sound ↔ settings.firstBroken? = none := by
  unfold firstBroken? rules
  simp only [List.find?_eq_none, List.forall_mem_cons, Bool.not_eq_true',
    Bool.not_eq_false, decide_eq_true_eq]
  constructor
  · intro sound
    exact ⟨sound.workers, sound.maxStreams, sound.maxStreamLength,
      sound.pageSize, sound.stride, sound.ids, by simp⟩
  · rintro ⟨workers, streams, length, page, stride, ids, _⟩
    exact ⟨workers, streams, length, page, stride, ids⟩

/-- The check passes exactly the settings that keep every rule. -/
theorem violation?_eq_none_iff {settings : Settings} :
    settings.violation? = none ↔ settings.Sound := by
  rw [violation?_eq, Option.map_eq_none_iff, sound_iff_firstBroken?_eq_none]

theorem sound_of_resolve
    {line : CommandLine}
    {file : SettingsFile}
    {settings : Settings}
    (resolved : resolve line file = .ok settings) : settings.Sound := by
  unfold resolve at resolved
  dsimp only at resolved
  split at resolved
  next => cases resolved
  next passed =>
    cases resolved
    exact violation?_eq_none_iff.mp passed

namespace Sound

/-- The ids of a worker, counted up from its first one, fit into a word. -/
theorem room
    {settings : Settings}
    (sound : settings.Sound)
    {worker : Nat}
    (inside : worker < settings.workers.toNat) :
    worker * settings.idStride.toNat + settings.limits.maxStreams.toNat ≤
      2 ^ 64 := by
  have order : worker * settings.idStride.toNat ≤
      (settings.workers.toNat - 1) * settings.idStride.toNat :=
    Nat.mul_le_mul_right _ (Nat.le_sub_one_of_lt inside)
  have last := sound.ids
  omega

/-- The ids of two workers differ, and so do two ids of one worker. -/
theorem ids_inj
    {settings : Settings}
    (sound : settings.Sound)
    {worker other stream second : Nat}
    (inside : stream < settings.limits.maxStreams.toNat)
    (secondInside : second < settings.limits.maxStreams.toNat)
    (same : worker * settings.idStride.toNat + stream =
      other * settings.idStride.toNat + second) :
    worker = other ∧ stream = second := by
  have narrow : stream < settings.idStride.toNat :=
    Nat.lt_of_lt_of_le inside sound.stride
  have secondNarrow : second < settings.idStride.toNat :=
    Nat.lt_of_lt_of_le secondInside sound.stride
  have positive : 0 < settings.idStride.toNat := by omega
  have quotient := congrArg (· / settings.idStride.toNat) same
  simp only [Nat.mul_comm _ settings.idStride.toNat,
    Nat.mul_add_div positive, Nat.div_eq_of_lt narrow,
    Nat.div_eq_of_lt secondNarrow, Nat.add_zero] at quotient
  subst quotient
  exact ⟨rfl, Nat.add_left_cancel same⟩

end Sound
end Settings
end StreamLoad
