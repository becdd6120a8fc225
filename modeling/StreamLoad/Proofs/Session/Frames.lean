import StreamLoad.Proofs.Frame.Receiver
import StreamLoad.Proofs.Plan
import StreamLoad.Proofs.Session.Transcript

/-!
# The frames of a transcript

A transcript whose letters are all drawn is a data frame for each stream and a
hangup behind them. Any transcript is at least a beginning of such frames, so
whatever part of it goes out, no shutdown is in it.
-/

namespace StreamLoad

/-- A data frame with some id, a length from one to a limit, and as many
letters as its header says. -/
structure Frame.IsStream
    (frame : Frame)
    (id : Nat)
    (maxLength : UInt64) : Prop where
  command : frame.header.command = .data
  kind : frame.header.kind = 0
  id : frame.header.id.toNat = id
  startOffset : frame.header.startOffset = 0
  nonempty : 1 ≤ frame.header.length.toNat
  bounded : frame.header.length.toNat ≤ maxLength.toNat
  body : frame.body.length = frame.header.length.toNat
  letters : ∀ letter ∈ frame.body, IsLetter letter

namespace Plan

variable {Source : Type} [WordSource Source]

/-- The frames of streams of some lengths, the first of which has some index.
They break off in front of the frame of a letter that is never drawn. -/
def framesFrom (idPrefix : UInt64) :
    Nat -> List UInt64 -> Source -> List Frame
  | _, [], _ => []
  | index, length :: lengths, source =>
      match letters length.toNat source with
      | none => []
      | some (body, rest) =>
          { header := .data (idPrefix + UInt64.ofNat index) length, body } ::
            framesFrom idPrefix (index + 1) lengths rest

/-- The frames of the streams of a plan. -/
def frames
    (plan : Plan)
    (idPrefix : UInt64)
    (source : Source) : List Frame :=
  framesFrom idPrefix 0 plan.lengths source

theorem framesFrom_of_letters
    {length : UInt64}
    {source rest : Source}
    {body : List UInt8}
    (drawn : letters length.toNat source = some (body, rest))
    (idPrefix : UInt64)
    (index : Nat)
    (lengths : List UInt64) :
    framesFrom idPrefix index (length :: lengths) source =
      { header := .data (idPrefix + UInt64.ofNat index) length, body } ::
        framesFrom idPrefix (index + 1) lengths rest := by
  rw [framesFrom, drawn]

/-- A transcript whose letters are all drawn consists of its frames and the
hangup. -/
theorem transcriptFrom_eq_encodeAll
    {lengths : List UInt64}
    {source : Source}
    (yielded : (letters (lengths.map UInt64.toNat).sum source).isSome)
    (idPrefix : UInt64)
    (index : Nat) :
    (framesFrom idPrefix index lengths source).length = lengths.length ∧
      transcriptFrom idPrefix index lengths source =
        Frame.encodeAll
          (framesFrom idPrefix index lengths source ++ [.bare .hangup]) := by
  induction lengths generalizing index source with
  | nil =>
      refine ⟨rfl, ?_⟩
      simp [transcriptFrom, framesFrom, Frame.encodeAll]
  | cons length lengths hypothesis =>
      obtain ⟨⟨allBodies, final⟩, drawn⟩ := Option.isSome_iff_exists.mp yielded
      rw [List.map_cons, List.sum_cons] at drawn
      obtain ⟨body, rest, bodies, first, later, _⟩ :=
        exists_of_letters_add drawn
      obtain ⟨count, bytes⟩ :=
        hypothesis (Option.isSome_of_mem later) (index + 1)
      rw [framesFrom_of_letters first, transcriptFrom_of_letters first, bytes,
        List.cons_append, Frame.encodeAll_cons]
      exact ⟨congrArg Nat.succ count, rfl⟩

theorem getElem?_framesFrom
    {idPrefix : UInt64}
    {index offset : Nat}
    {lengths : List UInt64}
    {source : Source}
    {frame : Frame}
    (found :
      (framesFrom idPrefix index lengths source)[offset]? = some frame) :
    ∃ length,
      lengths[offset]? = some length ∧
        frame.header =
          .data (idPrefix + UInt64.ofNat (index + offset)) length ∧
        frame.body.length = length.toNat ∧
        ∀ letter ∈ frame.body, IsLetter letter := by
  induction lengths generalizing index offset source with
  | nil => cases found
  | cons length lengths hypothesis =>
      cases drawn : letters length.toNat source with
      | none => simp [framesFrom, drawn] at found
      | some result =>
          obtain ⟨body, rest⟩ := result
          rw [framesFrom_of_letters drawn] at found
          cases offset with
          | zero =>
              cases found
              exact ⟨length, rfl, rfl, length_of_letters drawn,
                isLetter_of_letters drawn⟩
          | succ offset =>
              rw [List.getElem?_cons_succ] at found
              have later := hypothesis found
              rw [show index + (offset + 1) = index + 1 + offset by omega]
              exact later

/-- The frames of all streams have one id after the other. -/
theorem map_id_framesFrom
    {idPrefix : UInt64}
    {index : Nat}
    {lengths : List UInt64}
    {source : Source}
    (whole : (framesFrom idPrefix index lengths source).length =
      lengths.length) :
    (framesFrom idPrefix index lengths source).map
        (fun frame => frame.header.id) =
      (List.range lengths.length).map
        fun offset => idPrefix + UInt64.ofNat (index + offset) := by
  apply List.ext_getElem
  · simp [whole]
  · intro offset inside _
    rw [List.length_map] at inside
    obtain ⟨length, -, header, -⟩ :=
      getElem?_framesFrom (List.getElem?_eq_getElem inside)
    simp [header, Header.data]

/-- The frames of a plan within limits have consecutive ids, when there is
room for the ids. -/
theorem isStream_of_frames
    {plan : Plan}
    {limits : Limits}
    {idPrefix : UInt64}
    {source : Source}
    {offset : Nat}
    {frame : Frame}
    (within : plan.Within limits)
    (room : idPrefix.toNat + plan.size ≤ 2 ^ 64)
    (found : (plan.frames idPrefix source)[offset]? = some frame) :
    frame.IsStream (idPrefix.toNat + offset) limits.maxStreamLength := by
  obtain ⟨length, planned, header, body, letters⟩ := getElem?_framesFrom found
  obtain ⟨nonempty, bounded⟩ :=
    within.lengths length (List.mem_of_getElem? planned)
  have inside : offset < plan.size :=
    (List.getElem?_eq_some_iff.mp planned).1
  obtain ⟨_, _⟩ := frame
  subst header
  refine ⟨rfl, rfl, ?_, rfl, nonempty, bounded, body, letters⟩
  simp only [Header.data, UInt64.toNat_add, UInt64.toNat_ofNat', Nat.zero_add]
  omega

theorem wellFormed_of_mem_frames
    {plan : Plan}
    {idPrefix : UInt64}
    {source : Source} :
    ∀ frame ∈ plan.frames idPrefix source ++ [.bare .hangup],
      frame.WellFormed := by
  intro frame member
  rcases List.mem_append.mp member with stream | hangup
  · obtain ⟨offset, found⟩ := List.mem_iff_getElem?.mp stream
    obtain ⟨length, _, header, body, _⟩ := getElem?_framesFrom found
    obtain ⟨_, _⟩ := frame
    subst header
    exact body
  · obtain rfl := List.mem_singleton.mp hangup
    rfl

/-- What is received of a whole transcript. -/
theorem receive_transcript
    {plan : Plan}
    {idPrefix : UInt64}
    {source : Source}
    (yielded : plan.YieldedBy source) :
    receive (plan.transcript idPrefix source) =
      { frames := plan.frames idPrefix source ++ [.bare .hangup]
        ending := .complete } := by
  have bytes := (transcriptFrom_eq_encodeAll yielded idPrefix 0).2
  rw [transcript, bytes]
  exact receive_encodeAll wellFormed_of_mem_frames

/-- Any transcript is at least a beginning of frames without a shutdown. -/
theorem exists_frames_of_transcriptFrom
    (idPrefix : UInt64)
    (index : Nat)
    (lengths : List UInt64)
    (source : Source) :
    ∃ frames,
      (∀ frame ∈ frames,
        frame.WellFormed ∧ frame.header.command ≠ .shutdown) ∧
      transcriptFrom idPrefix index lengths source <+:
        Frame.encodeAll frames := by
  induction lengths generalizing index source with
  | nil =>
      refine ⟨[.bare .hangup], ?_, ?_⟩
      · intro frame member
        obtain rfl := List.mem_singleton.mp member
        refine ⟨rfl, ?_⟩
        rintro ⟨⟩
      · rw [transcriptFrom, Frame.encodeAll_cons, Frame.encode_bare]
        exact List.prefix_append _ _
  | cons length lengths hypothesis =>
      cases drawn : letters length.toNat source with
      | some result =>
          obtain ⟨body, rest⟩ := result
          obtain ⟨frames, quiet, begun⟩ := hypothesis (index + 1) rest
          refine ⟨{ header := .data (idPrefix + UInt64.ofNat index) length
                    body } :: frames, ?_, ?_⟩
          · refine List.forall_mem_cons.mpr
              ⟨⟨length_of_letters drawn, ?_⟩, quiet⟩
            rintro ⟨⟩
          · rw [transcriptFrom_of_letters drawn, Frame.encodeAll_cons]
            exact (List.prefix_append_right_inj _).mpr begun
      | none =>
          -- The body that broke off is filled up to the announced length.
          have announced : (Header.data (idPrefix + UInt64.ofNat index)
              length).bodyLength = length.toNat := rfl
          have short := length_yielded_le length.toNat source
          rw [← announced] at short
          obtain ⟨body, wellFormed, begun⟩ := Frame.exists_of_part short
          refine ⟨[{ header := .data (idPrefix + UInt64.ofNat index) length
                     body }], ?_, ?_⟩
          · intro frame member
            obtain rfl := List.mem_singleton.mp member
            exact ⟨wellFormed, by rintro ⟨⟩⟩
          · rw [transcriptFrom_of_no_letters drawn, Frame.encodeAll_cons]
            exact begun.trans (List.prefix_append _ _)

end Plan
end StreamLoad
