/-!
# Ticks and deadlines

Deadlines are absolute.  A task that waits in several partial steps keeps the
same deadline, so it never accumulates drift from recomputing a relative one.
-/

namespace EventScheduler

def ticksPerSecond : Nat := 1000

def cyclesPerSecond : Nat := 16000000

/-- A point on the monotonic clock. -/
structure Tick where
  /-- Ticks since the clock started. -/
  ticks : UInt64
deriving DecidableEq, Inhabited

namespace Tick

def last : Tick := ⟨0xffffffffffffffff⟩

/-- The point `count` ticks later, or the last one if there is none. -/
def advance (tick : Tick) (count : UInt64) : Tick :=
  if tick.ticks.toNat + count.toNat ≤ last.ticks.toNat then
    ⟨tick.ticks + count⟩
  else
    last

theorem toNat_advance (tick : Tick) (count : UInt64) :
    (tick.advance count).ticks.toNat =
      min (tick.ticks.toNat + count.toNat) (UInt64.size - 1) := by
  have bound : last.ticks.toNat = UInt64.size - 1 := rfl
  have size : UInt64.size = 2 ^ 64 := rfl
  unfold advance
  split
  · rw [UInt64.toNat_add]
    omega
  · omega

def max (first second : Tick) : Tick :=
  if first.ticks ≤ second.ticks then second else first

instance : Ord Tick := ⟨fun first second => compare first.ticks second.ticks⟩

instance : ToString Tick := ⟨fun tick => toString tick.ticks ++ "t"⟩

end Tick

/--
An absolute deadline on the monotonic clock, held as one word.

The greatest word is reserved for a deadline that is never reached, and the
word zero is reached at any time.
-/
structure Deadline where
  /-- The tick at which the deadline falls due, unless it is the greatest. -/
  word : UInt64
deriving DecidableEq, Inhabited

namespace Deadline

def elapsed : Deadline := ⟨0⟩

def never : Deadline := ⟨0xffffffffffffffff⟩

def isNever (deadline : Deadline) : Bool :=
  deadline.word == never.word

/-- The deadline at `tick`; the last tick is brought forward by one, because
its word means `never`. -/
def ofTick (tick : Tick) : Deadline :=
  if tick.ticks = never.word then ⟨never.word - 1⟩ else ⟨tick.ticks⟩

/-- The deadline `count` ticks after `now`, kept below `never`. -/
def after (now : Tick) (count : UInt64) : Deadline :=
  ofTick (now.advance count)

def reached (deadline : Deadline) (now : Tick) : Bool :=
  !deadline.isNever && deadline.word ≤ now.ticks

/-- The tick at which the deadline falls due, if it ever does. -/
def tick? (deadline : Deadline) : Option Tick :=
  if deadline.isNever then none else some ⟨deadline.word⟩

theorem isNever_ofTick (tick : Tick) : (ofTick tick).isNever = false := by
  unfold ofTick isNever
  split
  · rfl
  · next different => simpa using different

theorem isNever_after (now : Tick) (count : UInt64) :
    (after now count).isNever = false :=
  isNever_ofTick _

theorem tick?_eq_none_iff (deadline : Deadline) :
    deadline.tick? = none ↔ deadline = never := by
  cases deadline
  simp [tick?, isNever, never]

instance : Ord Deadline :=
  ⟨fun first second => compare first.word second.word⟩

instance : LT Deadline := ⟨fun first second => first.word < second.word⟩

instance : LE Deadline := ⟨fun first second => first.word ≤ second.word⟩

instance (first second : Deadline) : Decidable (first < second) :=
  inferInstanceAs (Decidable (first.word < second.word))

instance (first second : Deadline) : Decidable (first ≤ second) :=
  inferInstanceAs (Decidable (first.word ≤ second.word))

instance : ToString Deadline where
  toString deadline :=
    if deadline = never then "never"
    else if deadline = elapsed then "elapsed"
    else "@" ++ toString deadline.word ++ "t"

end Deadline

end EventScheduler
