import StreamLoad.Bytes.LittleEndian

/-!
# Frame headers

Every message begins with a header of 26 bytes: a command tag, a reserved
kind, and three 64-bit little-endian numbers (stream id, start offset, body
length). A data header is followed by a body of exactly `length` bytes; hangup
and shutdown have no body. Reading a header ignores whatever follows it.
-/

namespace StreamLoad

/-- What a header asks the server to do. -/
inductive Command
  | data
  | hangup
  | shutdown
  deriving DecidableEq, Repr

/-- Why bytes are not a header. -/
inductive HeaderError
  | truncated (length : Nat)
  | unknownCommand (tag : UInt8)
  deriving DecidableEq, Repr

namespace HeaderError

/-- The wording of a header error. -/
def message : HeaderError -> String
  | .truncated length =>
      "header truncated: got " ++ toString length ++ " bytes, need 26"
  | .unknownCommand tag => "unknown command tag " ++ toString tag.toNat

end HeaderError

namespace Command

/-- The first byte of a header with this command. -/
def tag : Command -> UInt8
  | .data => 0
  | .hangup => 2
  | .shutdown => 3

/-- The command of a tag; tag 1 and those above 3 belong to no command. -/
def ofTag (tag : UInt8) : Except HeaderError Command :=
  if tag = 0 then
    .ok .data
  else if tag = 2 then
    .ok .hangup
  else if tag = 3 then
    .ok .shutdown
  else
    .error (.unknownCommand tag)

@[simp] theorem ofTag_tag (command : Command) :
    ofTag command.tag = .ok command := by
  cases command <;> rfl

theorem tag_of_ofTag
    {tag : UInt8}
    {command : Command}
    (known : ofTag tag = .ok command) :
    command.tag = tag := by
  unfold ofTag at known
  split at known
  next isData => cases known; exact isData.symm
  next =>
    split at known
    next isHangup => cases known; exact isHangup.symm
    next =>
      split at known
      next isShutdown => cases known; exact isShutdown.symm
      next => cases known

end Command

/-- The fixed part at the front of every message. -/
structure Header where
  command : Command
  kind : UInt8
  id : UInt64
  startOffset : UInt64
  length : UInt64
  deriving DecidableEq, Repr

namespace Header

/-- The number of bytes of an encoded header. -/
def size : Nat := 26

/-- The header that announces a stream. -/
def data (id length : UInt64) : Header :=
  { command := .data, kind := 0, id, startOffset := 0, length }

/-- A header without a body has zero in every field after the tag. -/
def control (command : Command) : Header :=
  { command, kind := 0, id := 0, startOffset := 0, length := 0 }

/-- The header that asks for an acknowledgment and ends a connection. -/
def hangup : Header := control .hangup

/-- The header that ends the server. -/
def shutdown : Header := control .shutdown

/-- The eight bytes of a 64-bit field. -/
def fieldBytes (field : UInt64) : List UInt8 :=
  LittleEndian.encode 8 field.toNat

/-- The 64-bit field in the first eight bytes. -/
def fieldOf (bytes : List UInt8) : UInt64 :=
  UInt64.ofNat (LittleEndian.decode (bytes.take 8))

/-- The 26 bytes of a header. -/
def encode (header : Header) : List UInt8 :=
  header.command.tag :: header.kind ::
    (fieldBytes header.id ++
      (fieldBytes header.startOffset ++ fieldBytes header.length))

/-- Append a header to what a buffer holds: its tag, its kind and then its
three fields. -/
def appendTo (header : Header) (buffer : Array UInt8) : Array UInt8 :=
  let tagged := (buffer.push header.command.tag).push header.kind
  let identified := LittleEndian.push 8 header.id.toNat tagged
  let placed := LittleEndian.push 8 header.startOffset.toNat identified
  LittleEndian.push 8 header.length.toNat placed

/-- Read the header at the front of some bytes. Too few bytes are reported
before an unknown tag. -/
def decode (bytes : List UInt8) : Except HeaderError Header :=
  if bytes.length < size then
    .error (.truncated bytes.length)
  else
    match bytes with
    | tag :: kind :: fields =>
        match Command.ofTag tag with
        | .error error => .error error
        | .ok command =>
            .ok
              { command
                kind
                id := fieldOf fields
                startOffset := fieldOf (fields.drop 8)
                length := fieldOf (fields.drop 16) }
    | _ => .error (.truncated bytes.length)

@[simp] theorem length_fieldBytes (field : UInt64) :
    (fieldBytes field).length = 8 :=
  LittleEndian.length_encode 8 field.toNat

@[simp] theorem fieldOf_fieldBytes_append
    (field : UInt64)
    (rest : List UInt8) :
    fieldOf (fieldBytes field ++ rest) = field := by
  have bound : field.toNat < LittleEndian.span 8 := field.toNat_lt
  rw [fieldOf, List.take_left' (length_fieldBytes field), fieldBytes,
    LittleEndian.decode_encode, Nat.mod_eq_of_lt bound, UInt64.ofNat_toNat]

@[simp] theorem length_encode (header : Header) :
    header.encode.length = size := by
  simp [encode, size]

/-- What is appended are the bytes of the header. -/
@[simp] theorem toList_appendTo (header : Header) (buffer : Array UInt8) :
    (header.appendTo buffer).toList = buffer.toList ++ header.encode := by
  simp [appendTo, encode, fieldBytes]

theorem encode_append
    (header : Header)
    (rest : List UInt8) :
    header.encode ++ rest =
      header.command.tag :: header.kind ::
        (fieldBytes header.id ++ (fieldBytes header.startOffset ++
          (fieldBytes header.length ++ rest))) := by
  simp [encode]

/-- A header is read back whatever follows it. -/
@[simp] theorem decode_encode_append
    (header : Header)
    (rest : List UInt8) :
    decode (header.encode ++ rest) = .ok header := by
  have enough : ¬ (header.encode ++ rest).length < size := by
    simp
  have second :
      (fieldBytes header.id ++ (fieldBytes header.startOffset ++
        (fieldBytes header.length ++ rest))).drop 8 =
          fieldBytes header.startOffset ++
            (fieldBytes header.length ++ rest) :=
    List.drop_left' (length_fieldBytes _)
  have third :
      (fieldBytes header.id ++ (fieldBytes header.startOffset ++
        (fieldBytes header.length ++ rest))).drop 16 =
          fieldBytes header.length ++ rest := by
    rw [show (16 : Nat) = 8 + 8 from rfl, ← List.drop_drop, second]
    exact List.drop_left' (length_fieldBytes _)
  unfold decode
  rw [if_neg enough, encode_append]
  simp [second, third]

end Header
end StreamLoad
