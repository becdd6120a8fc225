import StreamLoad.Proofs.Fault
import StreamLoad.Proofs.Session.Dictation

/-!
# The transcript of a session

The random source, the first id and the plan fix one text, the transcript: for
each stream its header and the letters of its body, and the hangup header at
the end. However the stream takes the writes, a run sends the transcript from
its beginning and stops only at its end or with the first fatal attempt.
-/

namespace StreamLoad

/-- Behind the first of the elements from an index on are those from the next
index on. -/
theorem drop_succ_of_drop_eq_cons
    {Item : Type}
    {item : Item}
    {items rest : List Item}
    {index : Nat}
    (suffix : items.drop index = item :: rest) :
    items.drop (index + 1) = rest := by
  rw [← List.drop_drop, suffix, List.drop_one, List.tail_cons]

namespace Plan

variable {Source : Type} [WordSource Source]

/-- What is written for streams of some lengths, the first of which has some
index: for each its header and as many letters as the header says, drawn
consecutively, and behind them the hangup header. The transcript breaks off
in front of a letter that is never drawn. -/
def transcriptFrom (idPrefix : UInt64) :
    Nat -> List UInt64 -> Source -> List UInt8
  | _, [], _ => Header.hangup.encode
  | index, length :: lengths, source =>
      (Header.data (idPrefix + UInt64.ofNat index) length).encode ++
        match letters length.toNat source with
        | none => yielded length.toNat source
        | some (body, rest) =>
            body ++ transcriptFrom idPrefix (index + 1) lengths rest

theorem transcriptFrom_of_letters
    {length : UInt64}
    {source rest : Source}
    {body : List UInt8}
    (drawn : letters length.toNat source = some (body, rest))
    (idPrefix : UInt64)
    (index : Nat)
    (lengths : List UInt64) :
    transcriptFrom idPrefix index (length :: lengths) source =
      (Header.data (idPrefix + UInt64.ofNat index) length).encode ++ body ++
        transcriptFrom idPrefix (index + 1) lengths rest := by
  rw [transcriptFrom, drawn, List.append_assoc]

theorem transcriptFrom_of_no_letters
    {length : UInt64}
    {source : Source}
    (endless : letters length.toNat source = none)
    (idPrefix : UInt64)
    (index : Nat)
    (lengths : List UInt64) :
    transcriptFrom idPrefix index (length :: lengths) source =
      (Header.data (idPrefix + UInt64.ofNat index) length).encode ++
        yielded length.toNat source := by
  rw [transcriptFrom, endless]

/-- What is written for the streams of a plan. -/
def transcript
    (plan : Plan)
    (idPrefix : UInt64)
    (source : Source) : List UInt8 :=
  transcriptFrom idPrefix 0 plan.lengths source

/-- The number of letters of all bodies. -/
def letterCount (plan : Plan) : Nat :=
  (plan.lengths.map UInt64.toNat).sum

/-- The source yields every letter of the plan. -/
def YieldedBy (plan : Plan) (source : Source) : Prop :=
  (letters plan.letterCount source).isSome

end Plan

namespace Progress

variable {Source : Type}

theorem record_eq_ok
    {progress later : Progress Source}
    {length : UInt64}
    (recorded : progress.record length = .ok later) :
    later.source = progress.source ∧
      later.streamsSent = progress.streamsSent + 1 ∧
      later.bytesSent.toNat = progress.bytesSent.toNat + length.toNat := by
  unfold record at recorded
  split at recorded
  next => cases recorded
  next added =>
    cases recorded
    exact ⟨rfl, rfl, (checkedAdd_eq_ok_iff.mp added).symm⟩

theorem record_eq_error
    {progress : Progress Source}
    {length : UInt64}
    {halt : Halt}
    (recorded : progress.record length = .error halt) :
    2 ^ 64 ≤ progress.bytesSent.toNat + length.toNat := by
  unfold record checkedAdd at recorded
  rw [wordBound_eq] at recorded
  split at recorded
  next added =>
    split at added
    next => cases added
    next beyond => exact Nat.le_of_not_lt beyond
  next => cases recorded

end Progress

namespace Session

variable {Source : Type}

theorem getElem?_of_drop
    {lengths rest : List UInt64}
    {index : Nat}
    {length : UInt64}
    (suffix : lengths.drop index = length :: rest) :
    lengths[index]? = some length := by
  have first := congrArg (fun list : List UInt64 => list[0]?) suffix
  simpa using first

theorem streamHeader_of_drop
    {session : Session Source}
    {index : Nat}
    {length : UInt64}
    {lengths : List UInt64}
    (small : session.plan.size ≤ 2 ^ 64)
    (suffix : session.plan.lengths.drop index = length :: lengths) :
    session.streamHeader (UInt64.ofNat index) =
      if session.idPrefix.toNat + index < 2 ^ 64 then
        .ok (.data (session.idPrefix + UInt64.ofNat index) length)
      else
        .error .addOverflow := by
  have found := getElem?_of_drop suffix
  have inside : index < session.plan.size :=
    (List.getElem?_eq_some_iff.mp found).1
  have exact : (UInt64.ofNat index).toNat = index :=
    UInt64.toNat_ofNat_of_lt' (Nat.lt_of_lt_of_le inside small)
  unfold streamHeader streamId checkedAdd Plan.lengthAt
  rw [wordBound_eq, exact, found]
  by_cases within : session.idPrefix.toNat + index < 2 ^ 64
  · rw [if_pos within, if_pos within]
  · rw [if_neg within, if_neg within]

theorem streamHeader_eq_ok
    {session : Session Source}
    {index : Nat}
    {length : UInt64}
    {lengths : List UInt64}
    {header : Header}
    (small : session.plan.size ≤ 2 ^ 64)
    (suffix : session.plan.lengths.drop index = length :: lengths)
    (found : session.streamHeader (UInt64.ofNat index) = .ok header) :
    header = .data (session.idPrefix + UInt64.ofNat index) length := by
  rw [streamHeader_of_drop small suffix] at found
  split at found
  · cases found
    rfl
  · cases found

theorem streamHeader_eq_error
    {session : Session Source}
    {index : Nat}
    {length : UInt64}
    {lengths : List UInt64}
    {fault : Fault}
    (small : session.plan.size ≤ 2 ^ 64)
    (suffix : session.plan.lengths.drop index = length :: lengths)
    (found : session.streamHeader (UInt64.ofNat index) = .error fault) :
    2 ^ 64 ≤ session.idPrefix.toNat + index := by
  rw [streamHeader_of_drop small suffix] at found
  split at found
  next => cases found
  next beyond => exact Nat.le_of_not_lt beyond

variable [WordSource Source]

theorem dictateStream_of_fault
    {session : Session Source}
    {index : UInt64}
    {fault : Fault}
    (header : session.streamHeader index = .error fault)
    (progress : Progress Source) :
    session.dictateStream index progress =
      .silent (.error (.fault fault)) := by
  unfold dictateStream
  rw [header]

/-- A stream whose letters are all drawn is dictated whole. -/
theorem dictateStream_of_letters
    {session : Session Source}
    {index : UInt64}
    {header : Header}
    {progress : Progress Source}
    {body : List UInt8}
    {rest : Source}
    (found : session.streamHeader index = .ok header)
    (drawn : letters header.length.toNat progress.source =
      some (body, rest)) :
    (session.dictateStream index progress).bytes = header.encode ++ body ∧
      (session.dictateStream index progress).ending =
        { progress with source := rest }.record header.length := by
  have total := session.pageSize.sum_pages header.length
  rw [← total] at drawn
  obtain ⟨bytes, ending⟩ := Payload.dictate_of_letters 0 drawn
  obtain ⟨allBytes, finalEnding⟩ := Dictation.andThen_of_ok ending
    fun body => .silent
      ({ progress with source := body.2 }.record header.length)
  unfold dictateStream
  rw [found]
  dsimp only
  rw [Dictation.bytes_text_andThen, Dictation.ending_text_andThen, allBytes,
    finalEnding, bytes]
  simp

/-- A letter that is never drawn breaks the dictation of its stream off. -/
theorem dictateStream_of_no_letters
    {session : Session Source}
    {index : UInt64}
    {header : Header}
    {progress : Progress Source}
    (found : session.streamHeader index = .ok header)
    (endless : letters header.length.toNat progress.source = none) :
    (session.dictateStream index progress).bytes <+:
        header.encode ++ yielded header.length.toNat progress.source ∧
      (session.dictateStream index progress).ending = .error .endless := by
  have total := session.pageSize.sum_pages header.length
  rw [← total] at endless
  obtain ⟨bytes, ending⟩ := Payload.dictate_of_no_letters 0 endless
  obtain ⟨allBytes, finalEnding⟩ := Dictation.andThen_of_error ending
    fun body => .silent
      ({ progress with source := body.2 }.record header.length)
  unfold dictateStream
  rw [found]
  dsimp only
  rw [Dictation.bytes_text_andThen, Dictation.ending_text_andThen, allBytes,
    finalEnding, ← total]
  exact ⟨(List.prefix_append_right_inj header.encode).mpr bytes, rfl⟩

/-- How the dictation of streams ends. It goes on behind the last of them,
with every letter drawn, every stream counted and the transcript dictated up
to the hangup. Or it halts with a beginning of the transcript dictated: at a
letter that is never drawn, or at an id or a sum that is too large. -/
inductive StreamsDictated
    (session : Session Source)
    (lengths : List UInt64)
    (index : Nat)
    (progress : Progress Source)
    (dictation : Dictation (Progress Source)) : Prop
  | done
      (later : Progress Source)
      (body : List UInt8)
      (ending : dictation.ending = .ok later)
      (drawn : letters (lengths.map UInt64.toNat).sum progress.source =
        some (body, later.source))
      (counted : later.streamsSent = progress.streamsSent + lengths.length)
      (summed : later.bytesSent.toNat =
        progress.bytesSent.toNat + (lengths.map UInt64.toNat).sum)
      (whole : Plan.transcriptFrom session.idPrefix index lengths
        progress.source = dictation.bytes ++ Header.hangup.encode)
  | halted
      (halt : Halt)
      (ending : dictation.ending = .error halt)
      (begun : dictation.bytes <+:
        Plan.transcriptFrom session.idPrefix index lengths progress.source)
      (cause : (halt = .endless ∧
          letters (lengths.map UInt64.toNat).sum progress.source = none) ∨
        2 ^ 64 < session.idPrefix.toNat + index + lengths.length ∨
        2 ^ 64 ≤
          progress.bytesSent.toNat + (lengths.map UInt64.toNat).sum)

/-- A stream that is dictated and counted, and the streams behind it. -/
theorem StreamsDictated.cons
    {session : Session Source}
    {length : UInt64}
    {lengths : List UInt64}
    {index : Nat}
    {progress middle : Progress Source}
    {first : Dictation (Progress Source)}
    {next : Progress Source -> Dictation (Progress Source)}
    {body : List UInt8}
    (bytes : first.bytes =
      (Header.data (session.idPrefix + UInt64.ofNat index) length).encode ++
        body)
    (ending : first.ending = .ok middle)
    (drawn : letters length.toNat progress.source =
      some (body, middle.source))
    (streams : middle.streamsSent = progress.streamsSent + 1)
    (sum : middle.bytesSent.toNat =
      progress.bytesSent.toNat + length.toNat)
    (rest : session.StreamsDictated lengths (index + 1) middle
      (next middle)) :
    session.StreamsDictated (length :: lengths) index progress
      (first.andThen next) := by
  obtain ⟨allBytes, finalEnding⟩ := Dictation.andThen_of_ok ending next
  cases rest with
  | done later more laterEnding laterDrawn counted summed whole =>
      refine .done later (body ++ more) (finalEnding.trans laterEnding)
        ?_ ?_ ?_ ?_
      · rw [List.map_cons, List.sum_cons, letters_add, drawn]
        simp only [laterDrawn, Option.map_some]
      · rw [counted, streams, List.length_cons]
        omega
      · rw [summed, sum, List.map_cons, List.sum_cons]
        omega
      · rw [Plan.transcriptFrom_of_letters drawn, whole, allBytes, bytes]
        simp only [List.append_assoc]
  | halted halt laterEnding begun cause =>
      refine .halted halt (finalEnding.trans laterEnding) ?_ ?_
      · rw [allBytes, bytes, Plan.transcriptFrom_of_letters drawn]
        exact (List.prefix_append_right_inj _).mpr begun
      · rw [List.map_cons, List.sum_cons, letters_add, drawn, List.length_cons]
        rcases cause with ⟨rfl, endless⟩ | idBound | sumBound
        · exact .inl ⟨rfl, by simp [endless]⟩
        · exact .inr (.inl (by omega))
        · exact .inr (.inr (by omega))

/-- A stream that is not dictated to its end, or not counted. -/
theorem StreamsDictated.cons_of_error
    {session : Session Source}
    {length : UInt64}
    {lengths : List UInt64}
    {index : Nat}
    {progress : Progress Source}
    {first : Dictation (Progress Source)}
    {halt : Halt}
    (begun : first.bytes <+: Plan.transcriptFrom session.idPrefix index
      (length :: lengths) progress.source)
    (ending : first.ending = .error halt)
    (cause : (halt = .endless ∧
        letters length.toNat progress.source = none) ∨
      2 ^ 64 ≤ session.idPrefix.toNat + index ∨
      2 ^ 64 ≤ progress.bytesSent.toNat + length.toNat)
    (next : Progress Source -> Dictation (Progress Source)) :
    session.StreamsDictated (length :: lengths) index progress
      (first.andThen next) := by
  obtain ⟨allBytes, finalEnding⟩ := Dictation.andThen_of_error ending next
  refine .halted halt finalEnding (allBytes ▸ begun) ?_
  rw [List.map_cons, List.sum_cons, List.length_cons]
  rcases cause with ⟨rfl, endless⟩ | idBound | sumBound
  · exact .inl ⟨rfl, by rw [letters_add, endless]⟩
  · exact .inr (.inl (by omega))
  · exact .inr (.inr (by omega))

theorem streamsDictated_dictateFrom
    {session : Session Source}
    (small : session.plan.size ≤ 2 ^ 64)
    {lengths : List UInt64}
    {index : Nat}
    (progress : Progress Source)
    (suffix : session.plan.lengths.drop index = lengths) :
    session.StreamsDictated lengths index progress
      (session.dictateFrom lengths.length index progress) := by
  induction lengths generalizing index progress with
  | nil => exact .done progress [] rfl rfl rfl rfl rfl
  | cons length lengths hypothesis =>
      have laterSuffix := drop_succ_of_drop_eq_cons suffix
      rw [List.length_cons, dictateFrom]
      cases found : session.streamHeader (UInt64.ofNat index) with
      | error fault =>
          rw [dictateStream_of_fault found progress]
          have beyond := streamHeader_eq_error small suffix found
          refine .cons_of_error ?_ rfl (.inr (.inl beyond)) _
          exact List.nil_prefix
      | ok header =>
          obtain rfl := streamHeader_eq_ok small suffix found
          cases drawn : letters length.toNat progress.source with
          | none =>
              obtain ⟨bytes, ending⟩ :=
                dictateStream_of_no_letters found drawn
              refine .cons_of_error ?_ ending (.inl ⟨rfl, drawn⟩) _
              rw [Plan.transcriptFrom_of_no_letters drawn]
              exact bytes
          | some result =>
              obtain ⟨body, rest⟩ := result
              obtain ⟨bytes, ending⟩ := dictateStream_of_letters found drawn
              cases recorded : Progress.record
                  { progress with source := rest } length with
              | error halt =>
                  have beyond := Progress.record_eq_error recorded
                  dsimp only at beyond
                  refine .cons_of_error ?_ (ending.trans recorded)
                    (.inr (.inr beyond)) _
                  rw [bytes, Plan.transcriptFrom_of_letters drawn]
                  exact List.prefix_append _ _
              | ok middle =>
                  obtain ⟨source, streams, sum⟩ :=
                    Progress.record_eq_ok recorded
                  obtain rfl : middle.source = rest := source
                  exact .cons bytes (ending.trans recorded) drawn streams sum
                    (hypothesis middle laterSuffix)

/-- The dictation of a session is its transcript when it ends well, and in any
case a beginning of the transcript. -/
theorem streamsDictated_plan
    {session : Session Source}
    (small : session.plan.size ≤ 2 ^ 64) :
    session.StreamsDictated session.plan.lengths 0 session.progress
      (session.dictateFrom session.plan.size 0 session.progress) :=
  streamsDictated_dictateFrom small session.progress rfl

end Session
end StreamLoad
