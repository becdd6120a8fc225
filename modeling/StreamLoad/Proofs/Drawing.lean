import StreamLoad.Proofs.Plan
import StreamLoad.Proofs.Random.Even
import StreamLoad.Proofs.Random.Taken

/-!
# How plans are drawn

A plan is drawn by the words that decide its stream count and, behind them, by
those that decide its lengths, one after the other. Counts and lengths are each
given by equally many words, so that plans of the same size are given by equally
many lists of words, and every plan within the limits that can be held is drawn
from some source.
-/

namespace StreamLoad
namespace Plan

variable {Source : Type} [WordSource Source] {source rest : Source}
  {limits : Limits} {plan : Plan}

/-- The lengths drawn are decided by the words that are taken, in order. -/
theorem drawLengths_eq_ok_iff
    {bound : UInt64}
    {count : Nat}
    {drawn lengths : List UInt64} :
    drawLengths bound count drawn source = (.ok lengths, rest) ↔
      ∃ more groups, lengths = drawn.reverse ++ more ∧ more.length = count ∧
        List.Forall₂ (Decides bound) groups more ∧
          WordSource.Gives source groups.flatten rest := by
  induction count generalizing drawn source with
  | zero =>
      rw [drawLengths]
      constructor
      · intro equal
        cases equal
        exact ⟨[], [], (List.append_nil _).symm, rfl, .nil,
          WordSource.gives_nil_iff.mpr rfl⟩
      · rintro ⟨more, groups, rfl, empty, decided, gives⟩
        obtain rfl := List.length_eq_zero_iff.mp empty
        obtain rfl := List.forall₂_nil_right_iff.mp decided
        rw [List.append_nil, WordSource.gives_nil_iff.mp gives]
  | succ count hypothesis =>
      rw [drawLengths]
      constructor
      · intro found
        split at found
        next => cases found
        next length later first =>
          obtain ⟨words, decides, given⟩ := drawUpTo_eq_ok_iff.mp first
          obtain ⟨more, groups, rfl, size, decided, gives⟩ :=
            hypothesis.mp found
          refine ⟨length :: more, words :: groups, ?_, ?_,
            .cons decides decided, ?_⟩
          · rw [List.reverse_cons, List.append_assoc]
            rfl
          · rw [List.length_cons, size]
          · exact WordSource.gives_append_iff.mpr ⟨later, given, gives⟩
      · rintro ⟨more, groups, rfl, size, decided, gives⟩
        obtain ⟨length, more, rfl⟩ :=
          List.exists_cons_of_length_eq_add_one size
        obtain ⟨words, groups, decides, others, rfl⟩ :=
          List.forall₂_cons_right_iff.mp decided
        obtain ⟨later, given, gives⟩ := WordSource.gives_append_iff.mp gives
        rw [drawUpTo_eq_ok_iff.mpr ⟨words, decides, given⟩]
        refine hypothesis.mpr ⟨more, groups, ?_, ?_, others, gives⟩
        · rw [List.reverse_cons, List.append_assoc]
          rfl
        · exact Nat.succ.inj size

/-- Words decide a plan: some of them its stream count, and then a group for
each stream its length. -/
structure DecidedBy
    (plan : Plan)
    (limits : Limits)
    (first : List UInt64)
    (groups : List (List UInt64)) : Prop where
  size : ∃ count : UInt64, count.toNat = plan.size ∧
    Decides limits.maxStreams first count
  lengths :
    List.Forall₂ (Decides limits.maxStreamLength) groups plan.lengths

/-- A plan is drawn exactly when it can be held in memory and the next words of
the source decide it, and these are the words that are taken. -/
theorem draw_eq_ok_iff :
    draw limits source = (.ok plan, rest) ↔
      plan.size < capacity ∧ ∃ first groups,
        plan.DecidedBy limits first groups ∧
          WordSource.Gives source (first ++ groups.flatten) rest := by
  unfold draw
  constructor
  · intro found
    split at found
    next => cases found
    next count later counted =>
      obtain ⟨first, decides, given⟩ := drawUpTo_eq_ok_iff.mp counted
      split at found
      next small =>
        split at found
        next => cases found
        next lengths final drawn =>
          cases found
          obtain ⟨more, groups, rfl, size, decided, gives⟩ :=
            drawLengths_eq_ok_iff.mp drawn
          refine ⟨?_, first, groups, ⟨⟨count, size.symm, decides⟩, decided⟩,
            WordSource.gives_append_iff.mpr ⟨later, given, gives⟩⟩
          rwa [Plan.size, size]
      next => cases found
  · rintro ⟨small, first, groups, ⟨⟨count, size, decides⟩, decided⟩, gives⟩
    obtain ⟨later, given, gives⟩ := WordSource.gives_append_iff.mp gives
    have drawn : drawLengths limits.maxStreamLength count.toNat [] later =
        (.ok plan.lengths, rest) :=
      drawLengths_eq_ok_iff.mpr
        ⟨plan.lengths, groups, rfl, size.symm, decided, gives⟩
    rw [drawUpTo_eq_ok_iff.mpr ⟨first, decides, given⟩]
    dsimp only
    rw [if_pos (by rwa [size]), drawn]

/-- A count of streams that no memory holds is a fault behind its words. -/
theorem draw_of_capacity_le
    {count : UInt64}
    {first : List UInt64}
    (decides : Decides limits.maxStreams first count)
    (given : WordSource.Gives source first rest)
    (large : capacity ≤ count.toNat) :
    draw limits source = (.error (.fault .capacityOverflow), rest) := by
  unfold draw
  rw [drawUpTo_eq_ok_iff.mpr ⟨first, decides, given⟩]
  dsimp only
  rw [if_neg (Nat.not_lt.mpr large)]

/-- The lists of words from which a plan is drawn with none of them passed
over. -/
def wordsOf (plan : Plan) (limits : Limits) : Set (List UInt64) :=
  { words | ∃ first later, words = first :: later ∧
    plan.DecidedBy limits [first] (later.map fun word => [word]) }

/-- A single word decides what it gives. -/
theorem decides_singleton_iff {bound word number : UInt64} :
    Decides bound [word] number ↔ word ∈ StreamLoad.wordsOf bound number := by
  refine ⟨?_, Decides.of_accept⟩
  intro decides
  rcases decides.cons_cases with ⟨accepted, _⟩ | ⟨_, later⟩
  · exact accepted
  · exact absurd rfl later.ne_nil

/-- The size of a plan within limits is a count that can be drawn. -/
theorem Within.toNat_ofNat_size
    (within : plan.Within limits) :
    (UInt64.ofNat plan.size).toNat = plan.size :=
  UInt64.toNat_ofNat_of_lt'
    (Nat.lt_of_le_of_lt within.size limits.maxStreams.toNat_lt)

theorem wordsOf_eq
    (within : plan.Within limits) :
    plan.wordsOf limits =
      Function.uncurry List.cons ''
        (StreamLoad.wordsOf limits.maxStreams (UInt64.ofNat plan.size) ×ˢ
          wordsOfEach limits.maxStreamLength plan.lengths) := by
  have size := within.toNat_ofNat_size
  ext words
  constructor
  · rintro ⟨first, later, rfl, ⟨count, same, decides⟩, decided⟩
    obtain rfl : count = UInt64.ofNat plan.size :=
      UInt64.toNat_inj.mp (same.trans size.symm)
    refine ⟨(first, later), ⟨decides_singleton_iff.mp decides, ?_⟩, rfl⟩
    rw [List.forall₂_map_left_iff] at decided
    exact decided.imp fun _ _ => decides_singleton_iff.mp
  · rintro ⟨⟨first, later⟩, ⟨accepted, given⟩, rfl⟩
    refine ⟨first, later, rfl,
      ⟨_, size, decides_singleton_iff.mpr accepted⟩, ?_⟩
    rw [List.forall₂_map_left_iff]
    exact List.Forall₂.imp (fun _ _ => decides_singleton_iff.mpr) given

/-- Plans within the limits are given by as many lists of words as any others of
the same size. -/
theorem ncard_wordsOf_plan
    (within : plan.Within limits) :
    (plan.wordsOf limits).ncard =
      2 ^ leadingZeros limits.maxStreams *
        (2 ^ leadingZeros limits.maxStreamLength) ^ plan.size := by
  have size := within.toNat_ofNat_size
  rw [wordsOf_eq within, ncard_image_cons, ncard_wordsOfEach within.lengths,
    ncard_wordsOf (by rw [size]; exact within.nonempty)
      (by rw [size]; exact within.size)]
  rfl

/-- A plan is drawn from a source that gives one of its lists of words. -/
theorem draw_of_mem_wordsOf
    {words : List UInt64}
    (small : plan.size < capacity)
    (member : words ∈ plan.wordsOf limits)
    (gives : WordSource.Gives source words rest) :
    draw limits source = (.ok plan, rest) := by
  obtain ⟨first, later, rfl, decided⟩ := member
  refine draw_eq_ok_iff.mpr ⟨small, [first], _, decided, ?_⟩
  rw [← List.flatMap_def, List.flatMap_singleton']
  exact gives

/-- Every plan within the limits that can be held is drawn from some source. -/
theorem exists_draw_of_within
    (within : plan.Within limits)
    (small : plan.size < capacity) :
    ∃ tape rest : Tape, draw limits tape = (.ok plan, rest) := by
  have given : (plan.wordsOf limits).Nonempty := by
    apply Set.nonempty_of_ncard_ne_zero
    rw [ncard_wordsOf_plan within]
    exact (Nat.mul_pos (Nat.two_pow_pos _)
      (Nat.pow_pos (Nat.two_pow_pos _))).ne'
  obtain ⟨words, member⟩ := given
  exact ⟨_, _, draw_of_mem_wordsOf small member (Tape.gives_ofLongs words)⟩

/-- Every count up to the limit is drawn from some source. -/
theorem exists_drawUpTo
    {bound number : UInt64}
    (low : 1 ≤ number.toNat)
    (high : number.toNat ≤ bound.toNat) :
    ∃ tape rest : Tape, drawUpTo bound tape = (.ok number, rest) := by
  obtain ⟨word, accepted⟩ := exists_mem_wordsOf low high
  exact ⟨_, _, drawUpTo_eq_ok_iff.mpr
    ⟨[word], .of_accept accepted, Tape.gives_ofLongs [word]⟩⟩

/-- Plans are drawn within the limits from the words that decide their stream
count and behind them those that decide their lengths, in order. Each number
from one to a bound is given by as many words, two to the number of zero bits
in front of the bound, and no other number by any. So all stream counts up to
the limit are drawn from some source, and so are all plans within the limits
that can be held, those of the same size from equally many lists of words of
which none is passed over. The words of a count that is too large are taken
before the fault, and none are if there is no count to draw. -/
structure DrawnEvenly (Source : Type) [WordSource Source] (limits : Limits) :
    Prop where
  within : ∀ (plan : Plan) (source rest : Source),
    draw limits source = (.ok plan, rest) -> plan.Within limits
  taken : ∀ (plan : Plan) (source rest : Source),
    draw limits source = (.ok plan, rest) ↔
      plan.size < capacity ∧ ∃ first groups,
        plan.DecidedBy limits first groups ∧
          WordSource.Gives source (first ++ groups.flatten) rest
  zeros : ∀ bound : UInt64, bound ≠ 0 ->
    2 ^ 63 ≤ bound.toNat * 2 ^ leadingZeros bound ∧
      bound.toNat * 2 ^ leadingZeros bound < 2 ^ 64
  even : ∀ bound number : UInt64, bound ≠ 0 ->
    (StreamLoad.wordsOf bound number).ncard =
      if 1 ≤ number.toNat ∧ number.toNat ≤ bound.toNat then
        2 ^ leadingZeros bound
      else
        0
  counts : ∀ count : UInt64, 1 ≤ count.toNat ->
    count.toNat ≤ limits.maxStreams.toNat ->
      ∃ tape rest : Tape,
        drawUpTo limits.maxStreams tape = (.ok count, rest)
  plans : ∀ plan : Plan, plan.Within limits -> plan.size < capacity ->
    ∃ tape rest : Tape, draw limits tape = (.ok plan, rest)
  lists : ∀ plan : Plan, plan.Within limits ->
    (plan.wordsOf limits).ncard =
      2 ^ leadingZeros limits.maxStreams *
        (2 ^ leadingZeros limits.maxStreamLength) ^ plan.size
  beyond : ∀ (count : UInt64) (words : List UInt64) (source rest : Source),
    Decides limits.maxStreams words count ->
      WordSource.Gives source words rest -> capacity ≤ count.toNat ->
        draw limits source = (.error (.fault .capacityOverflow), rest)
  empty : limits.maxStreams = 0 -> ∀ source : Source,
    draw limits source = (.error (.fault .emptyRange), source)

/-- Plans are drawn within their limits and evenly, whatever the limits and
whatever words the source gives. -/
theorem drawnEvenly (Source : Type) [WordSource Source] (limits : Limits) :
    DrawnEvenly Source limits where
  within := fun _ _ _ drawn => (within_of_draw drawn).1
  taken := fun _ _ _ => draw_eq_ok_iff
  zeros := fun _ => leadingZeros_bounds
  even := by
    intro bound number nonzero
    split
    next inside => exact ncard_wordsOf inside.1 inside.2
    next outside => rw [wordsOf_eq_empty nonzero outside, Set.ncard_empty]
  counts := fun _ => exists_drawUpTo
  plans := fun _ => exists_draw_of_within
  lists := fun _ => ncard_wordsOf_plan
  beyond := fun _ _ _ _ => draw_of_capacity_le
  empty := by
    intro noCount source
    rw [draw, drawUpTo, if_pos noCount]

end Plan
end StreamLoad
