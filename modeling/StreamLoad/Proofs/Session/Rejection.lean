import StreamLoad.Proofs.Session.Parting

/-!
# Streams that are rejected

A stream is rejected when its id takes more than 64 bits, or when none is
planned at its index; the id is looked at first. A rejected stream leaves the
session as it was, and so does asking for an id. Put in among other requests,
wherever and however often, these change no answer and nothing on the stream
but their own, and no data header ever carries an id that has wrapped around.
-/

namespace StreamLoad

/-- The items at the marked places. -/
def kept {Item : Type} : List Bool -> List Item -> List Item
  | true :: marks, item :: items => item :: kept marks items
  | false :: marks, _ :: items => kept marks items
  | _, _ => []

theorem kept_nil {Item : Type} (marks : List Bool) :
    kept marks ([] : List Item) = [] := by
  rcases marks with _ | ⟨_ | _, marks⟩ <;> rfl

namespace Session

variable {Source : Type}

/-- The stream at an index cannot be sent: its id takes more than 64 bits, or
none is planned there. -/
def Rejects (session : Session Source) (index : UInt64) : Prop :=
  2 ^ 64 ≤ session.idPrefix.toNat + index.toNat ∨
    session.plan.size ≤ index.toNat

/-- The fault by which a stream is rejected. The id is looked at first. -/
def rejection (session : Session Source) (index : UInt64) : Fault :=
  if 2 ^ 64 ≤ session.idPrefix.toNat + index.toNat then
    .addOverflow
  else
    .indexOutOfBounds session.plan.size index.toNat

/-- The request asks for an id, or for a stream that is rejected. -/
def Traceless (session : Session Source) : Request -> Prop
  | .streamId _ => True
  | .sendStream index => session.Rejects index
  | .run => False
  | .hangup => False
  | .shutdown => False

theorem streamHeader_of_rejects
    {session : Session Source}
    {index : UInt64}
    (rejects : session.Rejects index) :
    session.streamHeader index = .error (session.rejection index) := by
  unfold streamHeader streamId checkedAdd rejection
  rw [wordBound_eq]
  by_cases beyond : 2 ^ 64 ≤ session.idPrefix.toNat + index.toNat
  · rw [if_neg (Nat.not_lt.mpr beyond), if_pos beyond]
  · have outside := rejects.resolve_left beyond
    rw [if_pos (Nat.lt_of_not_le beyond), if_neg beyond]
    unfold Plan.lengthAt
    dsimp only
    rw [List.getElem?_eq_none outside]

/-- A stream has a header exactly when its id has room and it is planned. The
header carries that id and the planned length. -/
theorem streamHeader_eq_ok_iff
    {session : Session Source}
    {index : UInt64}
    {header : Header} :
    session.streamHeader index = .ok header ↔
      session.idPrefix.toNat + index.toNat < 2 ^ 64 ∧
        ∃ length,
          session.plan.lengths[index.toNat]? = some length ∧
            header = .data (session.idPrefix + index) length := by
  unfold streamHeader streamId checkedAdd Plan.lengthAt
  rw [wordBound_eq]
  by_cases room : session.idPrefix.toNat + index.toNat < 2 ^ 64
  · rw [if_pos room]
    cases session.plan.lengths[index.toNat]? with
    | none => simp only [reduceCtorEq, false_and, exists_false, and_false]
    | some length =>
        simp only [room, true_and, Except.ok.injEq, Option.some.injEq,
          exists_eq_left']
        exact eq_comm
  · rw [if_neg room]
    simp only [room, false_and, reduceCtorEq]

/-- A stream that is not rejected is planned, and its id has room. -/
theorem exists_header_of_not_rejects
    {session : Session Source}
    {index : UInt64}
    (accepts : ¬session.Rejects index) :
    ∃ length,
      session.plan.lengths[index.toNat]? = some length ∧
        session.idPrefix.toNat + index.toNat < 2 ^ 64 ∧
        session.streamHeader index =
          .ok (.data (session.idPrefix + index) length) := by
  have room : session.idPrefix.toNat + index.toNat < 2 ^ 64 :=
    Nat.lt_of_not_le fun beyond => accepts (.inl beyond)
  have inside : index.toNat < session.plan.lengths.length :=
    Nat.lt_of_not_le fun outside => accepts (.inr outside)
  have planned := List.getElem?_eq_getElem inside
  exact ⟨_, planned, room,
    streamHeader_eq_ok_iff.mpr ⟨room, _, planned, rfl⟩⟩

/-- The id in a data header is the first id and the index, added up without
wrapping around. -/
theorem exists_id_of_mem_headersOf
    {session : Session Source}
    {request : Request}
    {header : Header}
    (member : header ∈ session.headersOf request)
    (isData : header.command = .data) :
    ∃ index < session.plan.size,
      header.id.toNat = session.idPrefix.toNat + index := by
  have single : ∀ index, header ∈ session.streamHeaders index ->
      ∃ index < session.plan.size,
        header.id.toNat = session.idPrefix.toNat + index := by
    intro index announced
    have found : session.streamHeader index = .ok header := by
      unfold streamHeaders at announced
      cases result : session.streamHeader index with
      | error fault => simp [result, Except.toOption] at announced
      | ok other =>
          simp only [result, Except.toOption, Option.toList_some,
            List.mem_singleton] at announced
          rw [announced]
    obtain ⟨room, length, planned, rfl⟩ := streamHeader_eq_ok_iff.mp found
    refine ⟨index.toNat, (List.getElem?_eq_some_iff.mp planned).1, ?_⟩
    change (session.idPrefix + index).toNat = _
    rw [UInt64.toNat_add, Nat.mod_eq_of_lt room]
  cases request with
  | streamId index => cases member
  | sendStream index => exact single index member
  | run =>
      rcases List.mem_append.mp member with stream | hangup
      · obtain ⟨index, _, announced⟩ := List.mem_flatMap.mp stream
        exact single _ announced
      · obtain rfl := List.mem_singleton.mp hangup
        cases isData
  | hangup =>
      obtain rfl := List.mem_singleton.mp member
      cases isData
  | shutdown =>
      obtain rfl := List.mem_singleton.mp member
      cases isData

namespace SameStreams

theorem refl (session : Session Source) : session.SameStreams session :=
  ⟨rfl, rfl⟩

theorem trans
    {before middle after : Session Source}
    (first : before.SameStreams middle)
    (second : middle.SameStreams after) : before.SameStreams after :=
  ⟨second.idPrefix.trans first.idPrefix, second.plan.trans first.plan⟩

theorem traceless_iff
    {before after : Session Source}
    (same : before.SameStreams after)
    (request : Request) :
    after.Traceless request ↔ before.Traceless request := by
  cases request <;>
    simp only [Traceless, Rejects, same.idPrefix, same.plan]

end SameStreams

variable [WordSource Source]

/-- A rejected stream is a fault, and leaves the session as it was. -/
theorem askActive_of_rejects
    {session : Session Source}
    {index : UInt64}
    (rejects : session.Rejects index) :
    Conversation.askActive session (.sendStream index) =
      (.stopped (.halted (.fault (session.rejection index))),
        .active session) := by
  unfold Conversation.askActive sendStream
  dsimp only
  rw [streamHeader_of_rejects rejects]
  rfl

theorem unchanged_of_traceless
    {session : Session Source}
    {request : Request}
    (traceless : session.Traceless request) :
    (Conversation.askActive session request).2 = .active session := by
  cases request with
  | streamId index =>
      unfold Conversation.askActive
      dsimp only
      cases session.streamId index <;> rfl
  | sendStream index => rw [askActive_of_rejects traceless]
  | run => exact traceless.elim
  | hangup => exact traceless.elim
  | shutdown => exact traceless.elim

end Session

namespace Conversation

variable {Source : Type} [WordSource Source]

/-- An open session of a conversation has the streams of the session with which
it began. -/
def Holds (session : Session Source) : Conversation Source -> Prop
  | .active now => session.SameStreams now
  | .ended _ => True

theorem Holds.ask
    {session : Session Source}
    {conversation : Conversation Source}
    (holds : conversation.Holds session)
    (request : Request) : (conversation.ask request).2.Holds session := by
  cases conversation with
  | ended stream => trivial
  | active now =>
      by_cases final : request.IsFinal
      · obtain ⟨_, ended, _⟩ := exists_ended_of_final now final
        rw [Conversation.ask, ended]
        trivial
      · obtain ⟨_, active, continues, _⟩ := exists_active_of_not_final now final
        rw [Conversation.ask, active]
        exact Session.SameStreams.trans holds continues.sameStreams

theorem Holds.unchanged_of_traceless
    {session : Session Source}
    {conversation : Conversation Source}
    {request : Request}
    (holds : conversation.Holds session)
    (traceless : session.Traceless request) :
    (conversation.ask request).2 = conversation := by
  cases conversation with
  | ended stream => rfl
  | active now =>
      exact Session.unchanged_of_traceless
        ((Session.SameStreams.traceless_iff holds request).mpr traceless)

/-- Requests that leave no trace can be left out, and those that are kept have
the history that they have on their own. -/
theorem Holds.kept_askAll
    {session : Session Source}
    {conversation : Conversation Source}
    {marks : List Bool}
    {requests : List Request}
    (holds : conversation.Holds session)
    (traceless : ∀ request ∈ kept (marks.map not) requests,
      session.Traceless request) :
    kept marks (askAll requests conversation) =
      askAll (kept marks requests) conversation := by
  induction requests generalizing marks conversation with
  | nil => rw [askAll, kept_nil, kept_nil, askAll]
  | cons request requests hypothesis =>
      rw [askAll]
      rcases marks with _ | ⟨_ | _, marks⟩
      · rfl
      · obtain ⟨first, others⟩ := List.forall_mem_cons.mp traceless
        have later := hypothesis holds others
        rw [holds.unchanged_of_traceless first]
        exact later
      · have later := hypothesis (holds.ask request) traceless
        exact congrArg (conversation.ask request :: ·) later

/-- A request that finds a session open is put to this session, and its streams
are still those of the session with which the conversation began. -/
theorem Holds.asked_of_opened
    {session opened : Session Source}
    {conversation : Conversation Source}
    {requests : List Request}
    {position : Nat}
    {request : Request}
    (holds : conversation.Holds session)
    (asked : requests[position]? = some request)
    (found : (conversation ::
        (askAll requests conversation).map Prod.snd)[position]? =
      some (.active opened)) :
    session.SameStreams opened ∧
      (askAll requests conversation)[position]? =
        some (askActive opened request) := by
  induction requests generalizing conversation position with
  | nil => cases asked
  | cons first requests hypothesis =>
      cases position with
      | zero =>
          cases asked
          cases found
          exact ⟨holds, rfl⟩
      | succ position => exact hypothesis (holds.ask first) asked found

end Conversation

namespace Session

variable {Source : Type} [WordSource Source]

/-- Requests that leave no trace leave none. Put in among others, marked as not
to be kept, they change none of the replies to the others and nothing of what
these leave behind, on the stream and in the session. A rejected stream is a
fault before anything is drawn or written, for its id before its place in the
plan. So whatever is requested, all that goes out is a beginning of frames
whose data headers have ids that have not wrapped around. -/
structure LeavesNoTrace (session : Session Source) : Prop where
  inserted : ∀ (marks : List Bool) (requests : List Request),
    (∀ request ∈ kept (marks.map not) requests, session.Traceless request) ->
      kept marks (Conversation.askAll requests (.active session)) =
        Conversation.askAll (kept marks requests) (.active session)
  rejected : ∀ index, session.Rejects index ->
    Conversation.askActive session (.sendStream index) =
      (.stopped (.halted (.fault (session.rejection index))),
        .active session)
  written : ∀ (requests : List Request) (position : Nat) (request : Request)
      (opened : Session Source) (reply : Reply)
      (after : Conversation Source),
    requests[position]? = some request ->
      (session.conversations requests)[position]? = some (.active opened) ->
        (Conversation.askAll requests (.active session))[position]? =
            some (reply, after) ->
          opened.stream.WroteFrames after.stream (session.headersOf request)
            reply.IsDone
  unwrapped : ∀ request, ∀ header ∈ session.headersOf request,
    header.command = .data ->
      ∃ index < session.plan.size,
        header.id.toNat = session.idPrefix.toNat + index

/-- In every session, whatever is requested and however its stream takes it,
rejected streams leave no trace. -/
theorem leavesNoTrace_of_rejected (session : Session Source) :
    session.LeavesNoTrace := by
  have beginning : (Conversation.active session).Holds session :=
    SameStreams.refl session
  refine ⟨?_, ?_, ?_, ?_⟩
  · intro marks requests traceless
    exact beginning.kept_askAll traceless
  · intro index rejects
    exact askActive_of_rejects rejects
  · intro requests position request opened reply after asked active found
    obtain ⟨same, outcome⟩ := beginning.asked_of_opened asked active
    have wrote := Conversation.wroteFrames_askActive opened request
    rw [same.headersOf_eq, Option.some.inj (outcome.symm.trans found)] at wrote
    exact wrote.imp .inl
  · intro request header member isData
    exact exists_id_of_mem_headersOf member isData

end Session
end StreamLoad
