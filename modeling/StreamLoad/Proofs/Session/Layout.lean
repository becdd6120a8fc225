import StreamLoad.Proofs.Random.Spelling
import StreamLoad.Proofs.Session.Transcript

/-!
# The transcript laid out

A text is laid out along a plan by cutting the bodies off it, one behind the
other, with its header in front of each and the hangup header at the end. The
transcript of a session is the text that the words of its source spell, laid out
along its plan.
-/

namespace StreamLoad
namespace Plan

/-- A text laid out in streams of some lengths, the first of which has some
index. -/
def layoutFrom (idPrefix : UInt64) :
    Nat -> List UInt64 -> List UInt8 -> List UInt8
  | _, [], _ => Header.hangup.encode
  | index, length :: lengths, text =>
      (Header.data (idPrefix + UInt64.ofNat index) length).encode ++
        text.take length.toNat ++
          layoutFrom idPrefix (index + 1) lengths (text.drop length.toNat)

/-- A text laid out in the streams of a plan. -/
def layout
    (plan : Plan)
    (idPrefix : UInt64)
    (text : List UInt8) : List UInt8 :=
  layoutFrom idPrefix 0 plan.lengths text

variable {Source : Type} [WordSource Source]

theorem transcriptFrom_eq_layoutFrom
    {lengths : List UInt64}
    {source rest : Source}
    {text : List UInt8}
    (drawn : letters (lengths.map UInt64.toNat).sum source =
      some (text, rest))
    (idPrefix : UInt64)
    (index : Nat) :
    transcriptFrom idPrefix index lengths source =
      layoutFrom idPrefix index lengths text := by
  induction lengths generalizing index source text with
  | nil => rfl
  | cons length lengths hypothesis =>
      rw [List.map_cons, List.sum_cons] at drawn
      obtain ⟨body, middle, more, first, later, rfl⟩ :=
        exists_of_letters_add drawn
      have size := length_of_letters first
      rw [transcriptFrom_of_letters first, layoutFrom,
        List.take_left' size, List.drop_left' size, hypothesis later]

/-- A text is what the next words of the source spell, and has as many letters
as the plan. -/
structure SpelledAs
    (plan : Plan)
    (source : Source)
    (text : List UInt8) : Prop where
  spells : WordSource.Spells source text
  length : text.length = plan.letterCount

theorem spelledAs_iff
    {plan : Plan}
    {source : Source}
    {text : List UInt8} :
    plan.SpelledAs source text ↔
      ∃ rest, letters plan.letterCount source = some (text, rest) := by
  constructor
  · rintro ⟨spells, length⟩
    rw [← length]
    exact spells_iff.mp spells
  · rintro ⟨rest, drawn⟩
    have length := length_of_letters drawn
    exact ⟨spells_iff.mpr ⟨rest, length ▸ drawn⟩, length⟩

/-- A source yields every letter of a plan when its words spell as many. -/
theorem yieldedBy_iff {plan : Plan} {source : Source} :
    plan.YieldedBy source ↔ ∃ text, plan.SpelledAs source text := by
  simp only [YieldedBy, spelledAs_iff, Option.isSome_iff_exists,
    Prod.exists]

theorem runsDry_of_not_yieldedBy
    {plan : Plan}
    {source : Source}
    (broken : ¬plan.YieldedBy source) : WordSource.RunsDry source := by
  rw [YieldedBy, Option.not_isSome_iff_eq_none] at broken
  exact runsDry_of_letters broken

/-- The transcript is what the words of the source spell, laid out. -/
theorem transcript_eq_layout
    {plan : Plan}
    {source : Source}
    {text : List UInt8}
    (spelled : plan.SpelledAs source text)
    (idPrefix : UInt64) :
    plan.transcript idPrefix source = plan.layout idPrefix text := by
  obtain ⟨rest, drawn⟩ := spelledAs_iff.mp spelled
  exact transcriptFrom_eq_layoutFrom drawn idPrefix 0

end Plan
end StreamLoad
