import Mathlib.Algebra.GroupWithZero.Nat
import Mathlib.Data.Set.Function
import StreamLoad.Frame.Header

/-!
# The codec of headers in both directions

A header is appended to a buffer as 26 bytes behind what the buffer held, and is
read back from there whatever follows. In the other direction bytes are refused
because they are too few, or else because of an unknown tag, and are otherwise
read as the one header whose bytes stand at their front. Headers and the strings
of 26 bytes that begin with a known tag are the same thing in two forms.
-/

namespace StreamLoad

/-- The byte of a number at some place is its digit there to the base 256. -/
theorem LittleEndian.getElem?_encode
    {width index : Nat}
    (inside : index < width)
    (number : Nat) :
    (encode width number)[index]? =
      some (UInt8.ofNat (number / 256 ^ index % 256)) := by
  induction width generalizing index number with
  | zero => cases inside
  | succ width hypothesis =>
      rw [encode]
      cases index with
      | zero => simp
      | succ index =>
          rw [List.getElem?_cons_succ,
            hypothesis (Nat.lt_of_succ_lt_succ inside), Nat.pow_succ',
            Nat.div_div_eq_div_mul]

namespace Header

/-- The tag belongs to a command. -/
def IsKnown (tag : UInt8) : Prop :=
  tag = 0 ∨ tag = 2 ∨ tag = 3

theorem isKnown_tag (command : Command) : IsKnown command.tag := by
  unfold IsKnown
  cases command <;> decide

/-- A tag that belongs to no command is reported as it is. -/
theorem ofTag_of_not_isKnown
    {tag : UInt8}
    (unknown : ¬IsKnown tag) :
    Command.ofTag tag = .error (.unknownCommand tag) := by
  unfold IsKnown at unknown
  rw [not_or, not_or] at unknown
  obtain ⟨notData, notHangup, notShutdown⟩ := unknown
  rw [Command.ofTag, if_neg notData, if_neg notHangup, if_neg notShutdown]

theorem exists_ofTag_of_isKnown
    {tag : UInt8}
    (known : IsKnown tag) : ∃ command, Command.ofTag tag = .ok command := by
  obtain rfl | rfl | rfl := known
  · exact ⟨.data, rfl⟩
  · exact ⟨.hangup, rfl⟩
  · exact ⟨.shutdown, rfl⟩

/-- Writing a field undoes reading it. -/
theorem fieldBytes_fieldOf
    {bytes : List UInt8}
    (enough : 8 ≤ bytes.length) :
    fieldBytes (fieldOf bytes) = bytes.take 8 := by
  have width : (bytes.take 8).length = 8 := List.length_take_of_le enough
  have bound := LittleEndian.decode_lt (bytes.take 8)
  rw [width] at bound
  have value : (UInt64.ofNat (LittleEndian.decode (bytes.take 8))).toNat =
      LittleEndian.decode (bytes.take 8) :=
    UInt64.toNat_ofNat_of_lt' bound
  have undone := LittleEndian.encode_decode (bytes.take 8)
  rw [width] at undone
  rw [fieldBytes, fieldOf, value, undone]

/-- Writing three fields undoes reading them one behind the other. -/
theorem fieldBytes_append_of_enough
    {fields : List UInt8}
    (enough : 24 ≤ fields.length) :
    fieldBytes (fieldOf fields) ++
        (fieldBytes (fieldOf (fields.drop 8)) ++
          fieldBytes (fieldOf (fields.drop 16))) = fields.take 24 := by
  rw [fieldBytes_fieldOf (by omega),
    fieldBytes_fieldOf (by rw [List.length_drop]; omega),
    fieldBytes_fieldOf (by rw [List.length_drop]; omega)]
  rw [show (24 : Nat) = 8 + (8 + 8) from rfl, List.take_add, List.take_add,
    List.drop_drop]

/-- How the reading of a header ends: with too few bytes, at a tag that is not
known, or with the header whose bytes stand at the front. -/
inductive Reading (bytes : List UInt8) : Except HeaderError Header -> Prop
  | truncated
      (short : bytes.length < size) :
      Reading bytes (.error (.truncated bytes.length))
  | unknown
      {tag : UInt8}
      (enough : size ≤ bytes.length)
      (first : bytes.head? = some tag)
      (unknown : ¬IsKnown tag) :
      Reading bytes (.error (.unknownCommand tag))
  | whole
      {header : Header}
      (first : bytes.head? = some header.command.tag)
      (front : header.encode = bytes.take size) :
      Reading bytes (.ok header)

/-- Every reading of a header ends in one of the three ways. -/
theorem reading_decode (bytes : List UInt8) : Reading bytes (decode bytes) := by
  unfold decode
  split
  next short => exact .truncated short
  next long =>
    have enough : size ≤ bytes.length := Nat.le_of_not_lt long
    split
    next tag kind fields =>
      split
      next error failed =>
        have unknown : ¬IsKnown tag := by
          intro known
          obtain ⟨command, found⟩ := exists_ofTag_of_isKnown known
          cases found.symm.trans failed
        rw [ofTag_of_not_isKnown unknown] at failed
        cases failed
        exact .unknown enough rfl unknown
      next command found =>
        have rest : 24 ≤ fields.length := by
          simp only [List.length_cons, size] at enough
          omega
        have tagged := Command.tag_of_ofTag found
        refine .whole (congrArg some tagged.symm) ?_
        rw [encode, tagged, fieldBytes_append_of_enough rest]
        rfl
    next notTwo =>
      -- Twenty-six bytes have a first and a second one.
      cases bytes with
      | nil => cases enough
      | cons tag bytes =>
          cases bytes with
          | nil => exact absurd enough (by simp [size])
          | cons kind fields => exact absurd rfl (notTwo tag kind fields)

/-- A header that stands at the front of some bytes is read from them. -/
theorem decode_of_encode_eq_take
    {header : Header}
    {bytes : List UInt8}
    (front : header.encode = bytes.take size) : decode bytes = .ok header := by
  rw [← List.take_append_drop size bytes, ← front, decode_encode_append]

/-- The bytes of a header: the tag, the kind, and the digits of the id, of the
start offset and of the length to the base 256, the lowest first. -/
structure LaidOut (header : Header) (bytes : List UInt8) : Prop where
  tag : bytes[0]? = some header.command.tag
  kind : bytes[1]? = some header.kind
  id : ∀ index < 8, bytes[2 + index]? =
    some (UInt8.ofNat (header.id.toNat / 256 ^ index % 256))
  startOffset : ∀ index < 8, bytes[10 + index]? =
    some (UInt8.ofNat (header.startOffset.toNat / 256 ^ index % 256))
  length : ∀ index < 8, bytes[18 + index]? =
    some (UInt8.ofNat (header.length.toNat / 256 ^ index % 256))

theorem laidOut_encode (header : Header) : header.LaidOut header.encode where
  tag := rfl
  kind := rfl
  id := by
    intro index inside
    have width := length_fieldBytes header.id
    rw [encode, Nat.add_comm, List.getElem?_cons_succ,
      List.getElem?_cons_succ, List.getElem?_append_left (by omega)]
    exact LittleEndian.getElem?_encode inside _
  startOffset := by
    intro index inside
    have width := length_fieldBytes header.startOffset
    rw [encode, show 10 + index = 8 + index + 1 + 1 by omega,
      List.getElem?_cons_succ, List.getElem?_cons_succ,
      ← List.getElem?_drop, List.drop_left' (length_fieldBytes header.id),
      List.getElem?_append_left (by omega)]
    exact LittleEndian.getElem?_encode inside _
  length := by
    intro index inside
    rw [encode, ← List.append_assoc,
      show 18 + index = 8 + 8 + index + 1 + 1 by omega,
      List.getElem?_cons_succ, List.getElem?_cons_succ,
      ← List.getElem?_drop, List.drop_left' (by simp)]
    exact LittleEndian.getElem?_encode inside _

/-- Appending a header to a buffer leaves what the buffer held, and puts behind
it the 26 bytes from which the header is read back, whatever follows them. -/
structure AppendedExactly (header : Header) (buffer : Array UInt8) :
    Prop where
  size : (header.appendTo buffer).size = buffer.size + 26
  kept : ∀ index < buffer.size,
    (header.appendTo buffer)[index]? = buffer[index]?
  readBack : ∀ rest,
    decode (((header.appendTo buffer).toList ++ rest).drop buffer.size) =
      .ok header
  alone : (header.appendTo #[]).toList = header.encode
  laidOut : header.LaidOut ((header.appendTo buffer).toList.drop buffer.size)

/-- Bytes are refused as too few exactly when they are fewer than 26, whatever
they begin with, and as an unknown command exactly when they are enough and
begin with a tag other than 0, 2 and 3. Otherwise they are read as the one
header whose encoding is their first 26 bytes. -/
structure ReadExactly (bytes : List UInt8) : Prop where
  truncated : ∀ count, decode bytes = .error (.truncated count) ↔
    bytes.length < 26 ∧ count = bytes.length
  unknown : ∀ tag, decode bytes = .error (.unknownCommand tag) ↔
    26 ≤ bytes.length ∧ bytes.head? = some tag ∧
      ¬(tag = 0 ∨ tag = 2 ∨ tag = 3)
  whole : ∀ header, decode bytes = .ok header ↔
    header.encode = bytes.take 26

/-- The strings of 26 bytes whose first byte is the tag of a command. -/
def encodings : Set (List UInt8) :=
  { bytes | bytes.length = 26 ∧
    ∃ tag, bytes.head? = some tag ∧ (tag = 0 ∨ tag = 2 ∨ tag = 3) }

theorem appendedExactly (header : Header) (buffer : Array UInt8) :
    header.AppendedExactly buffer where
  size := by
    rw [← Array.length_toList, toList_appendTo, List.length_append,
      length_encode, Array.length_toList]
    rfl
  kept := by
    intro index inside
    rw [← Array.getElem?_toList, toList_appendTo,
      List.getElem?_append_left inside, Array.getElem?_toList]
  readBack := by
    intro rest
    rw [toList_appendTo, List.append_assoc,
      List.drop_left' Array.length_toList, decode_encode_append]
  alone := by
    rw [toList_appendTo]
    rfl
  laidOut := by
    rw [toList_appendTo, List.drop_left' Array.length_toList]
    exact laidOut_encode header

theorem readExactly (bytes : List UInt8) : ReadExactly bytes := by
  have reading := reading_decode bytes
  refine ⟨?_, ?_, ?_⟩
  · intro count
    constructor
    · intro failed
      rw [failed] at reading
      cases reading with
      | truncated short => exact ⟨short, rfl⟩
    · rintro ⟨short, rfl⟩
      exact if_pos short
  · intro tag
    constructor
    · intro failed
      rw [failed] at reading
      cases reading with
      | unknown enough first unknown => exact ⟨enough, first, unknown⟩
    · rintro ⟨enough, first, unknown⟩
      generalize decode bytes = result at reading
      cases reading with
      | truncated short => exact absurd enough (Nat.not_le.mpr short)
      | unknown _ found _ =>
          cases found.symm.trans first
          rfl
      | @whole header found _ =>
          cases found.symm.trans first
          exact absurd (isKnown_tag header.command) unknown
  · intro header
    refine ⟨?_, decode_of_encode_eq_take⟩
    intro decoded
    rw [decoded] at reading
    cases reading with
    | whole _ front => exact front

theorem encode_mem_encodings (header : Header) :
    header.encode ∈ encodings :=
  ⟨length_encode header, header.command.tag, rfl, isKnown_tag header.command⟩

/-- Reading takes the strings of 26 bytes with a known tag and the headers to
each other. -/
theorem bijOn_decode :
    Set.BijOn decode encodings (Set.range Except.ok) := by
  have whole (bytes : List UInt8) (member : bytes ∈ encodings) :
      ∃ header, decode bytes = .ok header ∧ header.encode = bytes := by
    obtain ⟨length, tag, first, known⟩ := member
    have reading := reading_decode bytes
    generalize decode bytes = result at reading
    cases reading with
    | truncated short => exact absurd short (by rw [length]; decide)
    | unknown _ found unknown =>
        cases found.symm.trans first
        exact absurd known unknown
    | @whole header _ front =>
        refine ⟨header, rfl, ?_⟩
        exact front.trans (List.take_of_length_le (Nat.le_of_eq length))
  refine ⟨?_, ?_, ?_⟩
  · intro bytes member
    obtain ⟨header, decoded, _⟩ := whole bytes member
    exact ⟨header, decoded.symm⟩
  · intro first firstMember second secondMember equal
    obtain ⟨header, decoded, encoded⟩ := whole first firstMember
    obtain ⟨other, decodedToo, encodedToo⟩ := whole second secondMember
    rw [decoded, decodedToo] at equal
    cases equal
    exact encoded.symm.trans encodedToo
  · rintro _ ⟨header, rfl⟩
    refine ⟨header.encode, encode_mem_encodings header, ?_⟩
    have decoded := decode_encode_append header []
    rwa [List.append_nil] at decoded

/-- The codec is exact in both directions: appended headers are read back, bytes
are read as the header that they are or refused for the first thing wrong with
them, and the accepted strings of 26 bytes are the headers. -/
theorem codec_exact :
    (∀ (header : Header) (buffer : Array UInt8),
      header.AppendedExactly buffer) ∧
    (∀ bytes, ReadExactly bytes) ∧
    Set.BijOn decode encodings (Set.range Except.ok) :=
  ⟨appendedExactly, readExactly, bijOn_decode⟩

end Header
end StreamLoad
