import StreamLoad.Frame.Receiver

/-!
# What a receiver reads

Frames with exact bodies are read back one by one from their bytes. When the
bytes break off, the frames in front of the break are read, and the reading
ends with what is there of the frame behind them.
-/

namespace StreamLoad

namespace Frame

/-- The bytes of frames, one behind the other. -/
def encodeAll (frames : List Frame) : List UInt8 :=
  frames.flatMap encode

theorem encodeAll_cons (frame : Frame) (frames : List Frame) :
    encodeAll (frame :: frames) = frame.encode ++ encodeAll frames := rfl

theorem encodeAll_append (first second : List Frame) :
    encodeAll (first ++ second) = encodeAll first ++ encodeAll second :=
  List.flatMap_append

/-- A frame that consists of a header. -/
def bare (header : Header) : Frame :=
  { header, body := [] }

@[simp] theorem encode_bare (header : Header) :
    (bare header).encode = header.encode :=
  List.append_nil _

/-- A header with too few bytes behind it begins a frame. -/
theorem exists_of_part
    {header : Header}
    {part : List UInt8}
    (short : part.length ≤ header.bodyLength) :
    ∃ body,
      WellFormed { header, body } ∧
        header.encode ++ part <+: encode { header, body } := by
  refine ⟨part ++ List.replicate (header.bodyLength - part.length) 0, ?_, ?_⟩
  · change List.length (_ ++ _) = header.bodyLength
    rw [List.length_append, List.length_replicate]
    omega
  · rw [encode, ← List.append_assoc]
    exact List.prefix_append _ _

end Frame

@[simp] theorem receive_nil :
    receive [] = { frames := [], ending := .complete } := by
  rw [receive]
  rfl

/-- What is received of bytes that begin with a header. -/
theorem receive_header_append (header : Header) (rest : List UInt8) :
    receive (header.encode ++ rest) =
      if rest.length < header.bodyLength then
        { frames := [], ending := .insideBody header rest }
      else
        (receive (rest.drop header.bodyLength)).prepend
          { header, body := rest.take header.bodyLength } := by
  have behind : (header.encode ++ rest).drop Header.size = rest :=
    List.drop_left' (Header.length_encode header)
  rw [receive]
  split
  next empty =>
    have short := congrArg List.length (List.isEmpty_iff.mp empty)
    rw [List.length_append, Header.length_encode] at short
    simp [Header.size] at short
  next =>
    split
    next failed =>
      rw [Header.decode_encode_append] at failed
      cases failed
    next found decoded =>
      rw [Header.decode_encode_append] at decoded
      cases decoded
      simp only [behind]

/-- A frame in front of other bytes is received first. -/
theorem receive_encode_append
    {frame : Frame}
    (wellFormed : frame.WellFormed)
    (rest : List UInt8) :
    receive (frame.encode ++ rest) = (receive rest).prepend frame := by
  have enough : ¬(frame.body ++ rest).length < frame.header.bodyLength := by
    rw [List.length_append, wellFormed]
    omega
  rw [Frame.encode, List.append_assoc, receive_header_append, if_neg enough,
    List.drop_left' wellFormed, List.take_left' wellFormed]

/-- Frames in front of other bytes are received first. -/
theorem frames_receive_encodeAll_append
    {frames : List Frame}
    (wellFormed : ∀ frame ∈ frames, frame.WellFormed)
    (rest : List UInt8) :
    (receive (Frame.encodeAll frames ++ rest)).frames =
      frames ++ (receive rest).frames := by
  induction frames with
  | nil => rfl
  | cons frame frames hypothesis =>
      obtain ⟨first, others⟩ := List.forall_mem_cons.mp wellFormed
      rw [Frame.encodeAll_cons, List.append_assoc,
        receive_encode_append first, List.cons_append, ← hypothesis others]
      rfl

/-- Frames are received as they are sent. -/
theorem receive_encodeAll
    {frames : List Frame}
    (wellFormed : ∀ frame ∈ frames, frame.WellFormed) :
    receive (Frame.encodeAll frames) = { frames, ending := .complete } := by
  induction frames with
  | nil => exact receive_nil
  | cons frame frames hypothesis =>
      obtain ⟨first, others⟩ := List.forall_mem_cons.mp wellFormed
      rw [Frame.encodeAll_cons, receive_encode_append first,
        hypothesis others]
      rfl

theorem receive_of_decode_eq_error
    {bytes : List UInt8}
    {error : HeaderError}
    (nonempty : bytes ≠ [])
    (failed : Header.decode bytes = .error error) :
    receive bytes = { frames := [], ending := .insideHeader error } := by
  rw [receive]
  split
  next empty => exact absurd (List.isEmpty_iff.mp empty) nonempty
  next =>
    split
    next found =>
      rw [failed] at found
      cases found
      rfl
    next decoded =>
      rw [failed] at decoded
      cases decoded

namespace Frame

/-- How the reading of a beginning of some frames ends, by the frames that are
not whole in it and the bytes that are there of the first of them: in front of
it, inside its header, or inside its body, which then is that of a data
frame. -/
inductive CutOff : List Frame -> List UInt8 -> ReceptionEnd -> Prop
  | between (later : List Frame) : CutOff later [] .complete
  | insideHeader
      (frame : Frame)
      (later : List Frame)
      {part : List UInt8}
      (begun : part <+: frame.header.encode)
      (nonempty : part ≠ [])
      (short : part.length < Header.size) :
      CutOff (frame :: later) part
        (.insideHeader (.truncated part.length))
  | insideBody
      (frame : Frame)
      (later : List Frame)
      {received : List UInt8}
      (data : frame.header.command = .data)
      (begun : received <+: frame.body)
      (short : received.length < frame.body.length) :
      CutOff (frame :: later) (frame.header.encode ++ received)
        (.insideBody frame.header received)

/-- What is there of a frame that is not whole is shorter than the frame. -/
theorem CutOff.length_lt
    {frame : Frame}
    {later : List Frame}
    {part : List UInt8}
    {ending : ReceptionEnd}
    (cut : CutOff (frame :: later) part ending) :
    part.length < frame.encode.length := by
  rw [encode, List.length_append, Header.length_encode]
  cases cut with
  | between => exact Nat.add_pos_left (by decide) _
  | insideHeader _ _ begun nonempty short => omega
  | insideBody _ _ data begun short =>
      rw [List.length_append, Header.length_encode]
      omega

/-- Only data has a body. -/
theorem command_eq_data_of_body
    {frame : Frame}
    (wellFormed : frame.WellFormed)
    (body : 0 < frame.body.length) : frame.header.command = .data := by
  rw [wellFormed] at body
  unfold Header.bodyLength at body
  split at body
  next isData => exact isData
  next => cases body
  next => cases body

end Frame

/-- Too few bytes for a frame are received as no frame, and the reading ends
where they break off. -/
theorem exists_receive_of_short
    {frame : Frame}
    (wellFormed : frame.WellFormed)
    {part : List UInt8}
    (begun : part <+: frame.encode)
    (short : part.length < frame.encode.length)
    (later : List Frame) :
    ∃ ending,
      receive part = { frames := [], ending } ∧
        Frame.CutOff (frame :: later) part ending := by
  rw [Frame.encode, List.length_append, Header.length_encode] at short
  rcases Nat.eq_zero_or_pos part.length with empty | positive
  · obtain rfl := List.length_eq_zero_iff.mp empty
    exact ⟨.complete, receive_nil, .between _⟩
  have nonempty : part ≠ [] := List.length_pos_iff.mp positive
  have headerBegun : frame.header.encode <+: frame.encode :=
    List.prefix_append _ _
  rcases Nat.lt_or_ge part.length Header.size with inHeader | inBody
  · have truncated :
        Header.decode part = .error (.truncated part.length) := by
      unfold Header.decode
      rw [if_pos inHeader]
    refine ⟨_, receive_of_decode_eq_error nonempty truncated, ?_⟩
    refine .insideHeader frame later ?_ nonempty inHeader
    apply List.prefix_of_prefix_length_le begun headerBegun
    rw [Header.length_encode]
    exact Nat.le_of_lt inHeader
  · obtain ⟨received, rfl⟩ : frame.header.encode <+: part := by
      apply List.prefix_of_prefix_length_le headerBegun begun
      rwa [Header.length_encode]
    rw [List.length_append, Header.length_encode] at short
    have bodyShort : received.length < frame.body.length := by omega
    have bodyBegun : received <+: frame.body :=
      (List.prefix_append_right_inj _).mp begun
    have isData := Frame.command_eq_data_of_body wellFormed (by omega)
    refine ⟨_, ?_, .insideBody frame later isData bodyBegun bodyShort⟩
    rw [receive_header_append, if_pos]
    rwa [← wellFormed]

/-- A beginning of the bytes of frames is received as the frames that are
whole in it, and the reading ends where the next one breaks off. -/
theorem exists_receive_of_begun
    {frames : List Frame}
    (wellFormed : ∀ frame ∈ frames, frame.WellFormed)
    {bytes : List UInt8}
    (begun : bytes <+: Frame.encodeAll frames) :
    ∃ whole later part ending,
      frames = whole ++ later ∧ bytes = Frame.encodeAll whole ++ part ∧
        Frame.CutOff later part ending ∧
        receive bytes = { frames := whole, ending } := by
  induction frames generalizing bytes with
  | nil =>
      obtain rfl := List.prefix_nil.mp begun
      exact ⟨[], [], [], .complete, rfl, rfl, .between _, receive_nil⟩
  | cons frame frames hypothesis =>
      obtain ⟨first, others⟩ := List.forall_mem_cons.mp wellFormed
      rw [Frame.encodeAll_cons] at begun
      rcases Nat.lt_or_ge bytes.length frame.encode.length with short | enough
      · have firstBegun : bytes <+: frame.encode :=
          List.prefix_of_prefix_length_le begun (List.prefix_append _ _)
            (Nat.le_of_lt short)
        obtain ⟨ending, received, cut⟩ :=
          exists_receive_of_short first firstBegun short frames
        exact ⟨[], frame :: frames, bytes, ending, rfl, rfl, cut, received⟩
      · obtain ⟨rest, rfl⟩ : frame.encode <+: bytes :=
          List.prefix_of_prefix_length_le (List.prefix_append _ _) begun enough
        obtain ⟨whole, later, part, ending, rfl, rfl, cut, received⟩ :=
          hypothesis others ((List.prefix_append_right_inj _).mp begun)
        refine ⟨frame :: whole, later, part, ending, rfl, ?_, cut, ?_⟩
        · rw [Frame.encodeAll_cons, List.append_assoc]
        · rw [receive_encode_append first, received]
          rfl

/-- A beginning of the bytes of frames is received as a beginning of the
frames. -/
theorem frames_receive_of_begun
    {frames : List Frame}
    (wellFormed : ∀ frame ∈ frames, frame.WellFormed)
    {bytes : List UInt8}
    (begun : bytes <+: Frame.encodeAll frames) :
    (receive bytes).frames <+: frames := by
  obtain ⟨whole, later, part, ending, rfl, _, _, received⟩ :=
    exists_receive_of_begun wellFormed begun
  rw [received]
  exact List.prefix_append whole later

namespace Reception

/-- The number of shutdown headers on a connection. -/
def shutdowns (reception : Reception) : Nat :=
  reception.frames.countP fun frame => frame.header.command = .shutdown

/-- A beginning of the bytes of frames holds no more shutdowns than they. -/
theorem shutdowns_le_of_begun
    {frames : List Frame}
    (wellFormed : ∀ frame ∈ frames, frame.WellFormed)
    {bytes : List UInt8}
    (begun : bytes <+: Frame.encodeAll frames) :
    (receive bytes).shutdowns ≤
      frames.countP fun frame => frame.header.command = .shutdown :=
  (frames_receive_of_begun wellFormed begun).sublist.countP_le

end Reception
end StreamLoad
