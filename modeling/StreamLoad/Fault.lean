/-!
# Faults and other ways not to return

A fault is a broken limit that ends the task in which it arises: a sum or a
product beyond 64 bits, an index outside a plan, a page of no bytes, a size that
no memory holds, a draw from an empty range, or a cut inside a character. A task
may also go on for ever. Operations with
errors of their own add these two to them, which is what `Stop` does.
-/

namespace StreamLoad

/-- A broken limit that ends the task in which it arises. -/
inductive Fault
  | addOverflow
  | mulOverflow
  | indexOutOfBounds (count index : Nat)
  | zeroPageSize
  | capacityOverflow
  | emptyRange
  | brokenCharacter
  deriving DecidableEq, Repr

namespace Fault

/-- The wording of a fault. -/
def message : Fault -> String
  | .addOverflow => "attempt to add with overflow"
  | .mulOverflow => "attempt to multiply with overflow"
  | .indexOutOfBounds count index =>
      "index out of bounds: the len is " ++ toString count ++
        " but the index is " ++ toString index
  | .zeroPageSize => "page size must be non-zero"
  | .capacityOverflow => "capacity overflow"
  | .emptyRange => "cannot sample empty range"
  | .brokenCharacter => "byte index is not a char boundary"

end Fault

/-- A task that gives no result has met a fault or never ends. -/
inductive Halt
  | fault (cause : Fault)
  | endless
  deriving DecidableEq, Repr

/-- An operation that gives no result has failed with an error of its own, or
its task has halted. -/
inductive Stop (Failure : Type)
  | failed (failure : Failure)
  | halted (halt : Halt)
  deriving DecidableEq, Repr

namespace Stop

/-- Restate the operation's own error and keep a halt. -/
def map
    {Failure Restated : Type}
    (restate : Failure -> Restated) : Stop Failure -> Stop Restated
  | .failed failure => .failed (restate failure)
  | .halted halt => .halted halt

@[simp] theorem map_failed
    {Failure Restated : Type}
    (restate : Failure -> Restated)
    (failure : Failure) :
    (failed failure).map restate = failed (restate failure) := rfl

@[simp] theorem map_halted
    {Failure Restated : Type}
    (restate : Failure -> Restated)
    (halt : Halt) :
    (halted halt).map restate = halted halt := rfl

end Stop

/-- The number of values of a 64-bit word. -/
def wordBound : Nat := UInt64.size

/-- The sum of two words, which is a fault from `2 ^ 64` on. -/
def checkedAdd (left right : UInt64) : Except Fault UInt64 :=
  if left.toNat + right.toNat < wordBound then
    .ok (left + right)
  else
    .error .addOverflow

/-- The product of two words, which is a fault from `2 ^ 64` on. -/
def checkedMul (left right : UInt64) : Except Fault UInt64 :=
  if left.toNat * right.toNat < wordBound then
    .ok (left * right)
  else
    .error .mulOverflow

/-- The sum of two counts, which is a fault from `2 ^ 64` on. -/
def checkedCount (left right : Nat) : Except Fault Nat :=
  if left + right < wordBound then
    .ok (left + right)
  else
    .error .addOverflow

/-- The sum of a list of words, taken from the left. -/
def checkedSum (words : List UInt64) : Except Fault UInt64 :=
  words.foldlM checkedAdd 0

theorem checkedAdd_eq_ok_iff {left right total : UInt64} :
    checkedAdd left right = .ok total ↔
      left.toNat + right.toNat = total.toNat := by
  unfold checkedAdd wordBound UInt64.size
  have totalBound := total.toNat_lt
  split
  next within =>
    simp only [Except.ok.injEq]
    constructor
    · rintro rfl
      rw [UInt64.toNat_add, Nat.mod_eq_of_lt within]
    · intro equal
      apply UInt64.toNat_inj.mp
      rw [UInt64.toNat_add, Nat.mod_eq_of_lt within, equal]
  next beyond =>
    simp only [reduceCtorEq, false_iff]
    omega

theorem checkedMul_eq_ok_iff {left right total : UInt64} :
    checkedMul left right = .ok total ↔
      left.toNat * right.toNat = total.toNat := by
  unfold checkedMul wordBound UInt64.size
  have totalBound := total.toNat_lt
  split
  next within =>
    simp only [Except.ok.injEq]
    constructor
    · rintro rfl
      rw [UInt64.toNat_mul, Nat.mod_eq_of_lt within]
    · intro equal
      apply UInt64.toNat_inj.mp
      rw [UInt64.toNat_mul, Nat.mod_eq_of_lt within, equal]
  next beyond =>
    simp only [reduceCtorEq, false_iff]
    omega

theorem checkedCount_eq_ok_iff {left right total : Nat} :
    checkedCount left right = .ok total ↔
      left + right = total ∧ total < wordBound := by
  unfold checkedCount
  split
  next within =>
    simp only [Except.ok.injEq]
    omega
  next beyond =>
    simp only [reduceCtorEq, false_iff]
    omega

end StreamLoad
