import StreamLoad.Transport.Stream

/-!
# What waiting takes

Waiting for a byte takes items from those that come back and nothing else of
the stream changes but the number of reads. A byte ends the wait, so no wait
takes more than one.
-/

namespace StreamLoad

/-- The byte of an item, if it is one. -/
def ReadItem.byte? : ReadItem -> Option UInt8
  | .byte value => some value
  | _ => none

/-- The byte that has ended a wait, if one has. -/
def Arrival.byte? : Arrival -> Option UInt8
  | .byte value => some value
  | _ => none

namespace Stream

/-- Between two moments of a stream nothing has happened but a wait that ended
in some way: items have been taken, among them no byte but the one that ended
the wait. -/
structure Waited (before after : Stream) (arrival : Arrival) : Prop where
  script : after.script = before.script
  attempts : after.attempts = before.attempts
  accepted : after.accepted = before.accepted
  closeCount : after.closeCount = before.closeCount
  taken : ∃ items,
    before.incoming = items ++ after.incoming ∧
      items.filterMap ReadItem.byte? = arrival.byte?.toList

theorem Waited.sent
    {before after : Stream}
    {arrival : Arrival}
    (waited : before.Waited after arrival) : after.sent = before.sent := by
  rw [Stream.sent, waited.accepted, Stream.sent]

/-- A wait takes items up to the one that ends it, which is the only one that
may be a byte. -/
theorem exists_taken_awaitFrom
    (limit : Option Duration)
    (elapsed : Duration)
    (incoming : List ReadItem) :
    ∃ items,
      incoming = items ++ (awaitFrom limit elapsed incoming).2.1 ∧
        items.filterMap ReadItem.byte? =
          (awaitFrom limit elapsed incoming).1.byte?.toList := by
  fun_induction awaitFrom limit elapsed incoming with
  | case1 elapsed => exact ⟨[], rfl, rfl⟩
  | case2 elapsed value rest => exact ⟨[.byte value], rfl, rfl⟩
  | case3 elapsed rest => exact ⟨[.closed], rfl, rfl⟩
  | case4 elapsed cause rest interrupted later hypothesis =>
      obtain ⟨items, split, bytes⟩ := hypothesis
      exact ⟨.error cause :: items, congrArg _ split, bytes⟩
  | case5 elapsed cause rest lasting => exact ⟨[.error cause], rfl, rfl⟩
  | case6 elapsed milliseconds rest total unlimited hypothesis =>
      subst unlimited
      obtain ⟨items, split, bytes⟩ := hypothesis
      exact ⟨.delay milliseconds :: items, congrArg _ split, bytes⟩
  | case7 elapsed milliseconds rest total bound limited within hypothesis =>
      subst limited
      obtain ⟨items, split, bytes⟩ := hypothesis
      exact ⟨.delay milliseconds :: items, congrArg _ split, bytes⟩
  | case8 elapsed milliseconds rest total bound limited beyond =>
      exact ⟨[.delay milliseconds], rfl, rfl⟩
  | case9 elapsed rest => exact ⟨[], rfl, rfl⟩
  | case10 elapsed rest bound limited => exact ⟨[], rfl, rfl⟩

theorem waited_awaitByte (stream : Stream) (limit : Option Duration) :
    stream.Waited (stream.awaitByte limit).2 (stream.awaitByte limit).1 :=
  { script := rfl
    attempts := rfl
    accepted := rfl
    closeCount := rfl
    taken := exists_taken_awaitFrom limit .zero stream.incoming }

end Stream
end StreamLoad
