import EventScheduler.Proofs.Kernel.Lines

/-!
# Places in the line

Whoever waits in a line keeps the place as long as others come to the tail and
leave, from wherever they stand.  The run queue is such a line: only a pop takes
its head, and nobody overtakes another one.
-/

namespace EventScheduler

variable {S : Signature}

/-! ### Lines -/

def ahead (task : TaskHandle) (line : List TaskHandle) : List TaskHandle :=
  line.takeWhile (· ≠ task)

/-- Who is in line stays there, and only those are ahead that were before. -/
def KeepsPlace (task : TaskHandle) (line next : List TaskHandle) : Prop :=
  task ∈ line → task ∈ next ∧ (ahead task next).Sublist (ahead task line)

section Lines

variable {task other : TaskHandle} {line next third : List TaskHandle}

theorem ahead_cons_self (task : TaskHandle) (line : List TaskHandle) :
    ahead task (task :: line) = [] :=
  List.takeWhile_cons_of_neg (by simp)

theorem ahead_cons_of_ne (different : other ≠ task) (line : List TaskHandle) :
    ahead task (other :: line) = other :: ahead task line :=
  List.takeWhile_cons_of_pos (by simpa using different)

theorem ahead_append (inside : task ∈ line) (more : List TaskHandle) :
    ahead task (line ++ more) = ahead task line := by
  induction line with
  | nil => cases inside
  | cons head rest ih =>
      rw [List.cons_append]
      by_cases same : head = task
      · subst same
        rw [ahead_cons_self, ahead_cons_self]
      · have later : task ∈ rest :=
          List.mem_of_ne_of_mem (Ne.symm same) inside
        rw [ahead_cons_of_ne same, ahead_cons_of_ne same, ih later]

theorem ahead_filter (different : other ≠ task) (line : List TaskHandle) :
    ahead task (line.filter (· ≠ other)) =
      (ahead task line).filter (· ≠ other) := by
  induction line with
  | nil => rfl
  | cons head rest ih =>
      by_cases same : head = task
      · subst same
        rw [List.filter_cons_of_pos (by simpa using different.symm),
          ahead_cons_self, ahead_cons_self]
        rfl
      · rw [ahead_cons_of_ne same]
        by_cases gone : head = other
        · rw [List.filter_cons_of_neg (by simpa using gone),
            List.filter_cons_of_neg (by simpa using gone), ih]
        · rw [List.filter_cons_of_pos (by simpa using gone),
            List.filter_cons_of_pos (by simpa using gone),
            ahead_cons_of_ne same, ih]

theorem length_ahead_le {place : Nat} {tasks : List TaskHandle}
    (found : tasks[place]? = some task) :
    (ahead task tasks).length ≤ place := by
  induction tasks generalizing place with
  | nil => cases found
  | cons head rest ih =>
      by_cases same : head = task
      · subst same
        rw [ahead_cons_self]
        exact Nat.zero_le _
      · cases place with
        | zero => exact absurd (Option.some.inj found) same
        | succ place =>
            rw [ahead_cons_of_ne same, List.length_cons]
            exact Nat.succ_le_succ (ih found)

/-- Whoever is behind another one is not ahead of it. -/
theorem notMem_ahead (nodup : line.Nodup)
    (behind : [task, other].Sublist line) :
    task ∈ line ∧ other ≠ task ∧ other ∉ ahead task line := by
  induction line with
  | nil => cases behind
  | cons head rest ih =>
      obtain ⟨fresh, nodup⟩ := List.nodup_cons.mp nodup
      cases behind with
      | cons _ behind =>
          obtain ⟨inside, different, absent⟩ := ih nodup behind
          have apart : head ≠ task := (ne_of_mem_of_not_mem inside fresh).symm
          refine ⟨List.mem_cons_of_mem _ inside, different, ?_⟩
          rw [ahead_cons_of_ne apart, List.mem_cons, not_or]
          refine ⟨?_, absent⟩
          rintro rfl
          exact fresh (behind.subset (by simp))
      | cons_cons _ behind =>
          have later := List.singleton_sublist.mp behind
          rw [ahead_cons_self]
          exact ⟨List.mem_cons_self, ne_of_mem_of_not_mem later fresh,
            List.not_mem_nil⟩

namespace KeepsPlace

theorem refl (task : TaskHandle) (line : List TaskHandle) :
    KeepsPlace task line line :=
  fun inside => ⟨inside, List.Sublist.refl _⟩

theorem trans (before : KeepsPlace task line next)
    (after : KeepsPlace task next third) : KeepsPlace task line third := by
  intro inside
  obtain ⟨still, fewer⟩ := before inside
  obtain ⟨last, least⟩ := after still
  exact ⟨last, least.trans fewer⟩

theorem append (task : TaskHandle) (line more : List TaskHandle) :
    KeepsPlace task line (line ++ more) := by
  intro inside
  rw [ahead_append inside]
  exact ⟨List.mem_append_left _ inside, List.Sublist.refl _⟩

theorem filter (different : other ≠ task) (line : List TaskHandle) :
    KeepsPlace task line (line.filter (· ≠ other)) := by
  intro inside
  rw [ahead_filter different]
  exact ⟨List.mem_filter.mpr ⟨inside, by simpa using different.symm⟩,
    List.filter_sublist⟩

end KeepsPlace

/-- Only the task that dies loses its place where no turn goes on. -/
theorem Deed.keepsPlace {deed : Deed} (survives : deed ≠ .dies task)
    (line : List TaskHandle) : KeepsPlace task line (deed.lineUp line) := by
  cases deed with
  | starts | handles | wakes => exact .append _ _ _
  | dies other =>
      refine .filter ?_ line
      rintro rfl
      exact survives rfl
  | _ => exact .refl _ _

end Lines

namespace Kernel

variable {kernel next : Kernel S} {task other : TaskHandle}

theorem nodup_queued (wellformed : kernel.Wellformed) :
    kernel.roster.queued.Nodup :=
  List.nodup_map_iff kernel.roster.handleAt_injective |>.mpr
    wellformed.sound.run_nodup

theorem Evolves.keepsPlace {may : Deed → Prop}
    (evolves : Evolves may kernel next) (wellformed : kernel.Wellformed)
    (calm : ∀ deed, may deed → deed.isOfTurn = false ∧ deed ≠ .dies task) :
    KeepsPlace task kernel.roster.queued next.roster.queued := by
  induction evolves with
  | refl => exact .refl _ _
  | step before change allowed ih =>
      obtain ⟨between, survives⟩ := calm _ allowed
      rw [change.queued (before.wellformed wellformed) between]
      exact ih.trans (Deed.keepsPlace survives _)

end Kernel

end EventScheduler
