/-!
# Slices by bytes

Parts of a text that are given by positions in its UTF-8 bytes. A position
inside a character or behind the end belongs to no part.
-/

namespace StreamLoad
namespace Text

/-- The number of bytes that some characters take up. -/
def byteSize : List Char -> Nat
  | [] => 0
  | character :: text => character.utf8Size + byteSize text

@[simp] theorem byteSize_nil : byteSize [] = 0 := rfl

@[simp] theorem byteSize_cons (character : Char) (text : List Char) :
    byteSize (character :: text) = character.utf8Size + byteSize text := rfl

/-- What is behind a number of bytes. -/
def dropBytes? : Nat -> List Char -> Option (List Char)
  | 0, text => some text
  | _ + 1, [] => none
  | count + 1, character :: text =>
      if character.utf8Size ≤ count + 1 then
        dropBytes? (count + 1 - character.utf8Size) text
      else
        none

/-- The first characters that take up a number of bytes. -/
def takeBytes? : Nat -> List Char -> Option (List Char)
  | 0, _ => some []
  | _ + 1, [] => none
  | count + 1, character :: text =>
      if character.utf8Size ≤ count + 1 then
        (takeBytes? (count + 1 - character.utf8Size) text).map (character :: ·)
      else
        none

/-- The part of a text from one position up to another. -/
def slice? (text : List Char) (start stop : Nat) : Option (List Char) :=
  (dropBytes? start text).bind (takeBytes? (stop - start))

@[simp] theorem dropBytes?_byteSize_append (front rest : List Char) :
    dropBytes? (byteSize front) (front ++ rest) = some rest := by
  induction front with
  | nil => simp [dropBytes?]
  | cons character front hypothesis =>
      have positive := character.utf8Size_pos
      obtain ⟨count, size⟩ : ∃ count,
          character.utf8Size + byteSize front = count + 1 :=
        ⟨character.utf8Size + byteSize front - 1, by omega⟩
      rw [byteSize_cons, size, List.cons_append, dropBytes?,
        if_pos (by omega), ← size, Nat.add_sub_cancel_left, hypothesis]

@[simp] theorem takeBytes?_byteSize_append (front rest : List Char) :
    takeBytes? (byteSize front) (front ++ rest) = some front := by
  induction front with
  | nil => simp [takeBytes?]
  | cons character front hypothesis =>
      have positive := character.utf8Size_pos
      obtain ⟨count, size⟩ : ∃ count,
          character.utf8Size + byteSize front = count + 1 :=
        ⟨character.utf8Size + byteSize front - 1, by omega⟩
      rw [byteSize_cons, size, List.cons_append, takeBytes?,
        if_pos (by omega), ← size, Nat.add_sub_cancel_left, hypothesis]
      rfl

/-- Between the positions around a part stands that part. -/
theorem slice?_append (front part rest : List Char) :
    slice? (front ++ (part ++ rest)) (byteSize front)
      (byteSize front + byteSize part) = some part := by
  simp [slice?]

end Text
end StreamLoad
