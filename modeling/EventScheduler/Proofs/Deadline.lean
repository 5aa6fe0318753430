import EventScheduler.Time

/-!
# The order of deadlines

Deadlines are compared as words, so they are in linear order, and a deadline
that has passed was preceded by every earlier one.
-/

namespace EventScheduler.Deadline

theorem lt_iff {first second : Deadline} :
    first < second ↔ first.word.toNat < second.word.toNat :=
  Iff.rfl

theorem le_iff {first second : Deadline} :
    first ≤ second ↔ first.word.toNat ≤ second.word.toNat :=
  Iff.rfl

theorem not_lt {first second : Deadline} : ¬ first < second ↔ second ≤ first := by
  rw [lt_iff, le_iff, Nat.not_lt]

theorem le_refl (deadline : Deadline) : deadline ≤ deadline :=
  Nat.le_refl _

theorem le_trans {first second third : Deadline} (before : first ≤ second)
    (after : second ≤ third) : first ≤ third := by
  rw [le_iff] at before after ⊢
  omega

theorem le_of_lt {first second : Deadline} (before : first < second) :
    first ≤ second := by
  rw [lt_iff] at before
  rw [le_iff]
  omega

theorem lt_or_eq_of_le {first second : Deadline} (before : first ≤ second) :
    first < second ∨ first = second := by
  rcases Nat.lt_or_eq_of_le (le_iff.mp before) with earlier | same
  · exact Or.inl (lt_iff.mpr earlier)
  · right
    cases first
    cases second
    exact congrArg Deadline.mk (UInt64.toNat_inj.mp same)

theorem isNever_iff {deadline : Deadline} :
    deadline.isNever = true ↔ deadline = never := by
  unfold isNever
  rw [beq_iff_eq]
  cases deadline
  exact Deadline.mk.injEq _ _ ▸ Iff.rfl

theorem tick?_eq_some_iff {deadline : Deadline} {tick : Tick} :
    deadline.tick? = some tick ↔
      deadline.isNever = false ∧ tick = ⟨deadline.word⟩ := by
  unfold tick?
  cases deadline.isNever <;> simp [eq_comm]

theorem reached_elapsed (now : Tick) : elapsed.reached now = true := by
  have passed : elapsed.word ≤ now.ticks := UInt64.zero_le
  unfold reached
  rw [decide_eq_true passed]
  rfl

theorem reached_never (now : Tick) : never.reached now = false :=
  rfl

/-- A deadline that is not later than one that has passed has passed, unless it
never does. -/
theorem reached_of_le {first second : Deadline} {now : Tick}
    (before : first ≤ second) (ever : first.isNever = false)
    (passed : second.reached now = true) : first.reached now = true := by
  unfold reached at passed ⊢
  rw [Bool.and_eq_true, decide_eq_true_iff] at passed ⊢
  refine ⟨by rw [ever]; rfl, ?_⟩
  have secondPassed : second.word.toNat ≤ now.ticks.toNat := passed.2
  rw [le_iff] at before
  exact UInt64.le_iff_toNat_le.mpr (Nat.le_trans before secondPassed)

/-! ### Counting ticks -/

theorem toNat_word_ofTick (tick : Tick) :
    (ofTick tick).word.toNat = min tick.ticks.toNat (UInt64.size - 2) := by
  have bound := tick.ticks.toNat_lt
  have size : UInt64.size = 2 ^ 64 := rfl
  unfold ofTick
  split
  · next last =>
      rw [last]
      rfl
  · next earlier =>
      have different : tick.ticks.toNat ≠ never.word.toNat := fun same =>
        earlier (UInt64.toNat_inj.mp same)
      have greatest : never.word.toNat = UInt64.size - 1 := rfl
      dsimp only
      omega

theorem reached_iff {deadline : Deadline} {now : Tick} :
    deadline.reached now = true ↔
      deadline.isNever = false ∧ deadline.word.toNat ≤ now.ticks.toNat := by
  unfold reached
  rw [Bool.and_eq_true, decide_eq_true_iff, UInt64.le_iff_toNat_le]
  simp

/-- What comes of counting ticks from now: the sum does not wrap around, and it
is brought forward only if it is beyond what a deadline can name. -/
structure Saturates (now : Tick) (count : UInt64) : Prop where
  word : (after now count).word.toNat =
    min (now.ticks.toNat + count.toNat) (UInt64.size - 2)
  ever : after now count ≠ never
  reached_iff (moment : Tick) : (after now count).reached moment = true ↔
    min (now.ticks.toNat + count.toNat) (UInt64.size - 2) ≤ moment.ticks.toNat
  earlier_iff :
    (after now count).word.toNat < now.ticks.toNat + count.toNat ↔
      UInt64.size - 1 ≤ now.ticks.toNat + count.toNat

theorem saturates (now : Tick) (count : UInt64) : Saturates now count := by
  have size : UInt64.size = 2 ^ 64 := rfl
  have word : (after now count).word.toNat =
      min (now.ticks.toNat + count.toNat) (UInt64.size - 2) := by
    unfold after
    rw [toNat_word_ofTick, Tick.toNat_advance]
    omega
  have ever := isNever_after now count
  refine ⟨word, fun never => ?_, fun moment => ?_, ?_⟩
  · rw [never] at ever
    cases ever
  · rw [reached_iff, word, and_iff_right ever]
  · rw [word]
    omega

end EventScheduler.Deadline
