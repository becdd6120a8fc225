/-!
# Little-endian numbers

A number written in a fixed count of bytes, least significant byte first, and
the number read back from such bytes. Reading undoes writing below the width's
bound, and writing undoes reading. The bytes may also be pushed on a buffer, one
by one.
-/

namespace StreamLoad
namespace LittleEndian

/-- The lowest `width` bytes of a number, least significant first. -/
def encode : Nat -> Nat -> List UInt8
  | 0, _ => []
  | width + 1, number =>
      UInt8.ofNat (number % 256) :: encode width (number / 256)

/-- The number of numbers of some width in bytes. -/
def span : Nat -> Nat
  | 0 => 1
  | width + 1 => 256 * span width

/-- The number with the given bytes, least significant first. -/
def decode : List UInt8 -> Nat
  | [] => 0
  | byte :: bytes => byte.toNat + 256 * decode bytes

@[simp] theorem length_encode (width number : Nat) :
    (encode width number).length = width := by
  induction width generalizing number with
  | zero => rfl
  | succ width hypothesis => simp [encode, hypothesis]

theorem decode_encode (width number : Nat) :
    decode (encode width number) = number % span width := by
  induction width generalizing number with
  | zero => simp [encode, decode, span, Nat.mod_one]
  | succ width hypothesis =>
      have digit : (UInt8.ofNat (number % 256)).toNat = number % 256 :=
        UInt8.toNat_ofNat_of_lt' (Nat.mod_lt number (by decide))
      rw [encode, decode, hypothesis, digit, span, Nat.mod_mul]

theorem decode_lt (bytes : List UInt8) :
    decode bytes < span bytes.length := by
  induction bytes with
  | nil => exact Nat.one_pos
  | cons byte bytes hypothesis =>
      have byteBound := byte.toNat_lt
      rw [decode, List.length_cons, span]
      omega

theorem encode_decode (bytes : List UInt8) :
    encode bytes.length (decode bytes) = bytes := by
  induction bytes with
  | nil => rfl
  | cons byte bytes hypothesis =>
      have byteBound := byte.toNat_lt
      rw [List.length_cons, decode, encode]
      congr 1
      · rw [Nat.add_mul_mod_self_left, Nat.mod_eq_of_lt byteBound,
          UInt8.ofNat_toNat]
      · rw [Nat.add_mul_div_left _ _ (by decide),
          Nat.div_eq_of_lt byteBound, Nat.zero_add, hypothesis]

/-- Push the lowest `width` bytes of a number on a buffer, least significant
first. -/
def push : Nat -> Nat -> Array UInt8 -> Array UInt8
  | 0, _, buffer => buffer
  | width + 1, number, buffer =>
      push width (number / 256) (buffer.push (UInt8.ofNat (number % 256)))

@[simp] theorem toList_push (width number : Nat) (buffer : Array UInt8) :
    (push width number buffer).toList =
      buffer.toList ++ encode width number := by
  induction width generalizing number buffer with
  | zero => simp [push, encode]
  | succ width hypothesis => simp [push, encode, hypothesis]

end LittleEndian
end StreamLoad
