import StreamLoad.Random.Draw

/-!
# Stream plans

A plan lists the lengths of the streams that a session sends. A drawn plan has
a random count up to one limit, drawn first, and then a random length up to
the other limit for each stream, in order. A count of lengths that could never
be held in memory is a fault before any length is drawn.
-/

namespace StreamLoad

/-- The greatest stream count and the greatest stream length of a plan. -/
structure Limits where
  maxStreams : UInt64
  maxStreamLength : UInt64
  deriving DecidableEq, Repr

/-- The lengths of the streams of a session, in order. -/
structure Plan where
  lengths : List UInt64
  deriving DecidableEq, Repr

namespace Plan

/-- The plan without streams. -/
def empty : Plan := ⟨[]⟩

/-- The number of lengths from which on a plan cannot be held in memory: each
takes eight bytes, and all of them fewer than `2 ^ 63`. -/
def capacity : Nat := wordBound / 2 / 8

/-- The number of streams. -/
def size (plan : Plan) : Nat := plan.lengths.length

/-- The length of a stream; an index outside the plan is a fault. -/
def lengthAt (plan : Plan) (index : UInt64) : Except Fault UInt64 :=
  match plan.lengths[index.toNat]? with
  | some length => .ok length
  | none => .error (.indexOutOfBounds plan.size index.toNat)

/-- The sum of the lengths. -/
def totalBytes (plan : Plan) : Except Fault UInt64 :=
  checkedSum plan.lengths

variable {Source : Type} [WordSource Source]

/-- Draw the lengths of a number of streams, one after the other. The lengths
drawn before come in reverse. -/
def drawLengths (maxStreamLength : UInt64) :
    Nat -> List UInt64 -> Source -> Except Halt (List UInt64) × Source
  | 0, drawn, source => (.ok drawn.reverse, source)
  | count + 1, drawn, source =>
      match drawUpTo maxStreamLength source with
      | (.error halt, rest) => (.error halt, rest)
      | (.ok length, rest) =>
          drawLengths maxStreamLength count (length :: drawn) rest

/-- Draw the stream count, then each length. -/
def draw (limits : Limits) (source : Source) : Except Halt Plan × Source :=
  match drawUpTo limits.maxStreams source with
  | (.error halt, rest) => (.error halt, rest)
  | (.ok count, rest) =>
      if count.toNat < capacity then
        match drawLengths limits.maxStreamLength count.toNat [] rest with
        | (.error halt, final) => (.error halt, final)
        | (.ok lengths, final) => (.ok ⟨lengths⟩, final)
      else
        (.error (.fault .capacityOverflow), rest)

end Plan
end StreamLoad
