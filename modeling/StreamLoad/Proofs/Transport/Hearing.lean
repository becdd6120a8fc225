import StreamLoad.Transport.Stream

/-!
# What a wait hears

Some items only take their time: delays, and reads that are interrupted. The
first item that is none of these is what a wait hears, and it decides how the
wait ends, unless the limit is reached before. A delay of exactly the limit is
still within it.
-/

namespace StreamLoad

namespace ReadItem

/-- The item does not end a wait: some time passes, or a read is
interrupted. -/
def passes : ReadItem -> Bool
  | .byte _ => false
  | .closed => false
  | .error cause => cause.kind = .interrupted
  | .delay _ => true
  | .pending => false

/-- The time that passes with an item. -/
def time : ReadItem -> Duration
  | .delay milliseconds => .ofMilliseconds milliseconds
  | _ => .zero

/-- How an item ends a wait that has the time for it. -/
inductive Ends : ReadItem -> Arrival -> Prop
  | byte (value : UInt8) : Ends (.byte value) (.byte value)
  | closed : Ends .closed .closed
  | failed
      {cause : TransportError}
      (lasting : cause.kind ≠ .interrupted) :
      Ends (.error cause) (.failed cause)
  | never : Ends .pending .never

/-- An item ends every wait that has the time for it in the same way. -/
theorem Ends.unique
    {item : ReadItem}
    {first second : Arrival}
    (ends : item.Ends first)
    (endsToo : item.Ends second) : second = first := by
  cases ends <;> cases endsToo <;> rfl

end ReadItem

namespace Stream

/-- The first item that ends a wait. Behind the last item the other side has
closed. -/
def firstHeard (incoming : List ReadItem) : ReadItem :=
  (incoming.dropWhile ReadItem.passes).headD .closed

/-- The time that passes before the first item that ends a wait. -/
def delayBefore (incoming : List ReadItem) : Duration :=
  ((incoming.takeWhile ReadItem.passes).map ReadItem.time).foldr
    Duration.add .zero

section Passing

variable {item : ReadItem}
variable {rest : List ReadItem}

theorem firstHeard_of_passes (passes : item.passes) :
    firstHeard (item :: rest) = firstHeard rest := by
  rw [firstHeard, List.dropWhile_cons_of_pos passes, firstHeard]

theorem delayBefore_of_passes (passes : item.passes) :
    delayBefore (item :: rest) = item.time.add (delayBefore rest) := by
  rw [delayBefore, List.takeWhile_cons_of_pos passes]
  rfl

theorem firstHeard_of_lasting (lasting : ¬item.passes) :
    firstHeard (item :: rest) = item := by
  rw [firstHeard, List.dropWhile_cons_of_neg lasting]
  rfl

theorem delayBefore_of_lasting (lasting : ¬item.passes) :
    delayBefore (item :: rest) = .zero := by
  rw [delayBefore, List.takeWhile_cons_of_neg lasting]
  rfl

end Passing

/-- What a wait hears does not pass. -/
theorem not_passes_firstHeard (incoming : List ReadItem) :
    ¬(firstHeard incoming).passes := by
  induction incoming with
  | nil => exact Bool.false_ne_true
  | cons item rest hypothesis =>
      by_cases passes : item.passes
      · rw [firstHeard_of_passes passes]
        exact hypothesis
      · rw [firstHeard_of_lasting passes]
        exact passes

/-- How a wait ends some time after it has begun: at its limit, or by the first
item that can end it. -/
inductive WaitEnds
    (limit : Option Duration)
    (elapsed : Duration)
    (incoming : List ReadItem) : Arrival -> Prop
  | expired
      {bound : Duration}
      (limited : limit = some bound)
      (expires : firstHeard incoming = .pending ∨
        ¬(elapsed.add (delayBefore incoming)).Within bound) :
      WaitEnds limit elapsed incoming .expired
  | heard
      {arrival : Arrival}
      (within : ∀ bound, limit = some bound ->
        firstHeard incoming ≠ .pending ∧
          (elapsed.add (delayBefore incoming)).Within bound)
      (ends : (firstHeard incoming).Ends arrival) :
      WaitEnds limit elapsed incoming arrival

namespace WaitEnds

variable {limit : Option Duration}
variable {elapsed : Duration}
variable {item : ReadItem}
variable {rest : List ReadItem}
variable {arrival : Arrival}

/-- An item that ends a wait within its limit ends it at once. -/
theorem of_lasting
    (lasting : ¬item.passes)
    (comes : item ≠ .pending)
    (within : ∀ bound, limit = some bound -> elapsed.Within bound)
    (ends : item.Ends arrival) :
    WaitEnds limit elapsed (item :: rest) arrival := by
  refine .heard ?_ ?_
  · intro bound limited
    rw [firstHeard_of_lasting lasting, delayBefore_of_lasting lasting]
    exact ⟨comes, within bound limited⟩
  · rw [firstHeard_of_lasting lasting]
    exact ends

/-- An item that passes takes its time from the wait. -/
theorem of_passes
    (passes : item.passes)
    (later : WaitEnds limit (elapsed.add item.time) rest arrival) :
    WaitEnds limit elapsed (item :: rest) arrival := by
  have total : (elapsed.add item.time).add (delayBefore rest) =
      elapsed.add (delayBefore (item :: rest)) := by
    rw [delayBefore_of_passes passes]
    exact congrArg Duration.mk (Nat.add_assoc _ _ _)
  cases later with
  | expired limited expires =>
      rw [total, ← firstHeard_of_passes passes] at expires
      exact .expired limited expires
  | heard within ends =>
      rw [total, ← firstHeard_of_passes passes] at within
      rw [← firstHeard_of_passes passes] at ends
      exact .heard within ends

end WaitEnds

/-- A wait that is within its limit ends at the limit or by the first item that
can end it. -/
theorem waitEnds_awaitFrom
    {limit : Option Duration}
    {elapsed : Duration}
    (incoming : List ReadItem)
    (within : ∀ bound, limit = some bound -> elapsed.Within bound) :
    WaitEnds limit elapsed incoming (awaitFrom limit elapsed incoming).1 := by
  fun_induction awaitFrom limit elapsed incoming with
  | case1 elapsed =>
      refine .heard ?_ .closed
      intro bound limited
      exact ⟨nofun, within bound limited⟩
  | case2 elapsed value rest =>
      exact .of_lasting Bool.false_ne_true nofun within (.byte value)
  | case3 elapsed rest =>
      exact .of_lasting Bool.false_ne_true nofun within .closed
  | case4 elapsed cause rest interrupted later hypothesis =>
      exact .of_passes (decide_eq_true interrupted) (hypothesis within)
  | case5 elapsed cause rest lasting =>
      have stays : ¬(ReadItem.error cause).passes = true := by
        simpa [ReadItem.passes] using lasting
      exact .of_lasting stays nofun within (.failed lasting)
  | case6 elapsed milliseconds rest total unlimited hypothesis =>
      subst unlimited
      exact .of_passes rfl (hypothesis nofun)
  | case7 elapsed milliseconds rest total bound limited soon hypothesis =>
      subst limited
      refine .of_passes rfl (hypothesis ?_)
      intro other same
      cases same
      exact soon
  | case8 elapsed milliseconds rest total bound limited late =>
      subst limited
      refine .expired rfl (.inr ?_)
      rw [delayBefore_of_passes rfl]
      -- More delays can only come on top of the one that was too long.
      intro soon
      have shorter : total.nanoseconds ≤ bound.nanoseconds :=
        Nat.le_trans (Nat.add_le_add_left (Nat.le_add_right _ _) _) soon
      exact late shorter
  | case9 elapsed rest unlimited =>
      subst unlimited
      exact .heard nofun .never
  | case10 elapsed rest bound limited =>
      subst limited
      exact .expired rfl (.inl rfl)

/-- The wait for a byte has a limit that is reached: the first item that could
end the wait never comes, or comes too late. -/
def Expires (limit : Option Duration) (incoming : List ReadItem) : Prop :=
  ∃ bound,
    limit = some bound ∧
      (firstHeard incoming = .pending ∨
        ¬(delayBefore incoming).Within bound)

/-- The wait for a byte ends at its limit or by the first item that can end
it. -/
theorem awaitByte_cases (stream : Stream) (limit : Option Duration) :
    (Expires limit stream.incoming ∧
        (stream.awaitByte limit).1 = .expired) ∨
      (¬Expires limit stream.incoming ∧
        (firstHeard stream.incoming).Ends (stream.awaitByte limit).1) := by
  have begun : Duration.zero.add (delayBefore stream.incoming) =
      delayBefore stream.incoming :=
    congrArg Duration.mk (Nat.zero_add _)
  have ended : WaitEnds limit .zero stream.incoming
      (stream.awaitByte limit).1 :=
    waitEnds_awaitFrom stream.incoming fun _ _ => Nat.zero_le _
  generalize (stream.awaitByte limit).1 = arrival at ended ⊢
  cases ended with
  | expired limited expires =>
      rw [begun] at expires
      exact .inl ⟨⟨_, limited, expires⟩, rfl⟩
  | heard within ends =>
      rw [begun] at within
      refine .inr ⟨?_, ends⟩
      rintro ⟨bound, limited, never | late⟩
      · exact (within bound limited).1 never
      · exact late (within bound limited).2

end Stream
end StreamLoad
