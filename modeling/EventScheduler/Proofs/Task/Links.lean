import EventScheduler.Task.Table
import Mathlib.Data.Fintype.Card
import Mathlib.Logic.Function.Basic

/-!
# Lists threaded through an arena

The run queue and the timer list of a task table are chains of links.  This
module says what it means that the links of a table follow given lists of
slots, and how linking and unlinking a slot changes those lists: a slot is
spliced in between, or taken from between, the slots in front of it and the
slots behind it.
-/

namespace EventScheduler.TaskTable

variable {S : Signature}

/-! ### Slots after a change -/

def slot (table : TaskTable S) (index : SlotIndex) : TaskSlot S :=
  getElem table.slots index index.isLt

theorem slot_modify (table : TaskTable S) (index other : SlotIndex)
    (change : TaskSlot S → TaskSlot S) :
    (table.modify index change).slot other =
      if other = index then change (table.slot other) else table.slot other := by
  by_cases same : other = index
  · subst same
    rw [if_pos rfl]
    exact slots_modify_self table other change
  · rw [if_neg same]
    exact slots_modify_of_ne table change (Ne.symm same)

@[simp]
theorem slot_setHead (table : TaskTable S) (list : TaskList)
    (index : Option SlotIndex) (other : SlotIndex) :
    (table.setHead list index).slot other = table.slot other := by
  cases list <;> rfl

@[simp]
theorem head_setHead_self (table : TaskTable S) (list : TaskList)
    (index : Option SlotIndex) : (table.setHead list index).head list = index := by
  cases list <;> rfl

theorem head_setHead_of_ne (table : TaskTable S) {list other : TaskList}
    (index : Option SlotIndex) (different : other ≠ list) :
    (table.setHead list index).head other = table.head other := by
  cases list <;> cases other
  · exact absurd rfl different
  · rfl
  · rfl
  · exact absurd rfl different

@[simp]
theorem head_modify (table : TaskTable S) (index : SlotIndex)
    (change : TaskSlot S → TaskSlot S) (list : TaskList) :
    (table.modify index change).head list = table.head list := by
  cases list <;> rfl

theorem head_setTail (table : TaskTable S) (tail : Option SlotIndex)
    (list : TaskList) :
    ({ table with runTail := tail } : TaskTable S).head list =
      table.head list := by
  cases list <;> rfl

/-! ### Following the links -/

/-- The links lead from `first` through the given slots, in order, to
`stop`. -/
def Leads (table : TaskTable S) (stop : Option SlotIndex) :
    (first : Option SlotIndex) → List SlotIndex → Prop
  | first, [] => first = stop
  | first, index :: rest =>
      first = some index ∧ table.Leads stop (table.slot index).next rest

variable {table : TaskTable S}

theorem leads_append {first stop : Option SlotIndex}
    {front back : List SlotIndex} :
    table.Leads stop first (front ++ back) ↔
      ∃ middle, table.Leads middle first front ∧
        table.Leads stop middle back := by
  induction front generalizing first with
  | nil => simp [Leads]
  | cons index front ih =>
      simp only [List.cons_append, Leads, ih]
      constructor
      · rintro ⟨found, middle, before, after⟩
        exact ⟨middle, ⟨found, before⟩, after⟩
      · rintro ⟨middle, ⟨found, before⟩, after⟩
        exact ⟨found, middle, before, after⟩

/-- Links that are the same on some slots lead through them in the same way. -/
theorem Leads.congr {other : TaskTable S} {first stop : Option SlotIndex}
    {slots : List SlotIndex} (leads : table.Leads stop first slots)
    (same : ∀ index ∈ slots,
      (other.slot index).next = (table.slot index).next) :
    other.Leads stop first slots := by
  induction slots generalizing first with
  | nil => exact leads
  | cons index rest ih =>
      obtain ⟨found, after⟩ := leads
      refine ⟨found, ?_⟩
      rw [same index List.mem_cons_self]
      exact ih after fun later inside =>
        same later (List.mem_cons_of_mem index inside)

theorem Leads.first_eq {first : Option SlotIndex} {slots : List SlotIndex}
    (leads : table.Leads none first slots) : first = slots.head? := by
  cases slots with
  | nil => exact leads
  | cons index rest => exact leads.1

/-- The links lead through one list only. -/
theorem Leads.unique {first : Option SlotIndex} {slots others : List SlotIndex}
    (leads : table.Leads none first slots)
    (leadsToo : table.Leads none first others) : slots = others := by
  induction slots generalizing first others with
  | nil =>
      cases others with
      | nil => rfl
      | cons index rest =>
          have impossible : none = some index := leads.symm.trans leadsToo.1
          cases impossible
  | cons index rest ih =>
      cases others with
      | nil =>
          have impossible : none = some index := leadsToo.symm.trans leads.1
          cases impossible
      | cons other others =>
          have same : index = other :=
            Option.some.inj (leads.1.symm.trans leadsToo.1)
          subst same
          rw [ih leads.2 leadsToo.2]

/-- No slot is met twice: from its first occurrence on, the links would have to
lead through two different lists. -/
theorem Leads.nodup {first : Option SlotIndex} {slots : List SlotIndex}
    (leads : table.Leads none first slots) : slots.Nodup := by
  induction slots generalizing first with
  | nil => exact List.nodup_nil
  | cons index rest ih =>
      refine List.nodup_cons.mpr ⟨fun again => ?_, ih leads.2⟩
      obtain ⟨front, back, parts⟩ := List.append_of_mem again
      have after := leads.2
      rw [parts, leads_append] at after
      obtain ⟨middle, _, fromIndex⟩ := after
      have whole : table.Leads none (some index) (index :: rest) :=
        ⟨rfl, leads.2⟩
      have shorter : table.Leads none (some index) (index :: back) :=
        ⟨rfl, fromIndex.2⟩
      have same := congrArg List.length (whole.unique shorter)
      rw [parts] at same
      simp only [List.length_cons, List.length_append] at same
      omega

/-- What `chain` reads off is the list that the links lead through. -/
theorem Leads.chain_eq {first : Option SlotIndex} {slots : List SlotIndex}
    (leads : table.Leads none first slots) {bound : Nat}
    (enough : slots.length ≤ bound) : table.chain bound first = slots := by
  induction slots generalizing first bound with
  | nil =>
      cases leads
      cases bound <;> rfl
  | cons index rest ih =>
      obtain ⟨rfl, after⟩ := leads
      cases bound with
      | zero => simp at enough
      | succ bound =>
          have fewer : rest.length ≤ bound := by
            simpa using enough
          exact congrArg (index :: ·) (ih after fewer)

/-- Two tables whose links lead through the same slots agree on what follows
each of them. -/
theorem Leads.next_eq {other : TaskTable S} {first firstToo : Option SlotIndex}
    {slots : List SlotIndex} {index : SlotIndex}
    (leads : table.Leads none first slots)
    (leadsToo : other.Leads none firstToo slots) (inside : index ∈ slots) :
    (other.slot index).next = (table.slot index).next := by
  induction slots generalizing first firstToo with
  | nil => cases inside
  | cons slot rest ih =>
      by_cases same : index = slot
      · subst same
        rw [leads.2.first_eq, leadsToo.2.first_eq]
      · exact ih leads.2 leadsToo.2 (List.mem_of_ne_of_mem same inside)

/-! ### Tables threaded by given lists -/

/-- The links and marks of a table hold the given lists, one for each of the
two. -/
structure Threaded (table : TaskTable S)
    (lists : TaskList → List SlotIndex) : Prop where
  /-- The links lead through every list from its first slot to its end. -/
  leads (list : TaskList) : table.Leads none (table.head list) (lists list)
  /-- The marks say which slots are on a list. -/
  mem_iff (list : TaskList) (index : SlotIndex) :
    index ∈ lists list ↔ (table.slot index).list = some list
  /-- The tail of the run queue is its last slot. -/
  tail : table.runTail = (lists .run).getLast?
  /-- A slot on no list is followed by none. -/
  next_eq_none (index : SlotIndex) :
    (table.slot index).list = none → (table.slot index).next = none

/-- A table with the same tasks, whatever became of its lists. -/
structure SameTasks (table other : TaskTable S) : Prop where
  /-- The same handles fit. -/
  generation (index : SlotIndex) :
    (other.slot index).generation = (table.slot index).generation
  /-- The same tasks are in the slots. -/
  entry (index : SlotIndex) :
    (other.slot index).entry = (table.slot index).entry
  /-- As many tasks are live. -/
  live : other.live = table.live

theorem SameTasks.trans {first second third : TaskTable S}
    (before : first.SameTasks second) (after : second.SameTasks third) :
    first.SameTasks third where
  generation index := (after.generation index).trans (before.generation index)
  entry index := (after.entry index).trans (before.entry index)
  live := after.live.trans before.live

namespace Threaded

variable {lists : TaskList → List SlotIndex}

theorem nodup (threaded : table.Threaded lists) (list : TaskList) :
    (lists list).Nodup :=
  (threaded.leads list).nodup

theorem linked_eq (threaded : table.Threaded lists) (list : TaskList) :
    table.linked list = lists list := by
  refine (threaded.leads list).chain_eq ?_
  simpa using (threaded.nodup list).length_le_card

theorem notMem_of_list_eq_none (threaded : table.Threaded lists)
    {index : SlotIndex} (off : (table.slot index).list = none)
    (list : TaskList) : index ∉ lists list := by
  intro inside
  rw [threaded.mem_iff, off] at inside
  cases inside

theorem list_eq_none_iff (threaded : table.Threaded lists)
    (index : SlotIndex) :
    (table.slot index).list = none ↔ ∀ list, index ∉ lists list := by
  refine ⟨fun off list => threaded.notMem_of_list_eq_none off list, ?_⟩
  intro outside
  cases marked : (table.slot index).list with
  | none => rfl
  | some list =>
      exact absurd ((threaded.mem_iff list index).mpr marked) (outside list)

/-- No slot is on both lists. -/
theorem disjoint (threaded : table.Threaded lists) {list other : TaskList}
    {index : SlotIndex} (inside : index ∈ lists list)
    (different : other ≠ list) : index ∉ lists other := by
  intro insideToo
  rw [threaded.mem_iff] at inside insideToo
  exact different (Option.some.inj (insideToo.symm.trans inside))

/-- Only the slots and the lists matter. -/
theorem congr (threaded : table.Threaded lists) {other : TaskTable S}
    (heads : ∀ list, other.head list = table.head list)
    (tail : other.runTail = table.runTail)
    (marks : ∀ index, (other.slot index).list = (table.slot index).list)
    (links : ∀ index, (other.slot index).next = (table.slot index).next) :
    other.Threaded lists where
  leads list := by
    rw [heads]
    exact (threaded.leads list).congr fun index _ => links index
  mem_iff list index := by rw [marks, threaded.mem_iff]
  tail := tail.trans threaded.tail
  next_eq_none index off := by
    rw [links]
    exact threaded.next_eq_none index (marks index ▸ off)

theorem head_eq (threaded : table.Threaded lists) (list : TaskList) :
    table.head list = (lists list).head? :=
  (threaded.leads list).first_eq

/-- The lists determine the marks and the links. -/
theorem slot_eq {other : TaskTable S} (threaded : table.Threaded lists)
    (threadedToo : other.Threaded lists) (index : SlotIndex) :
    (other.slot index).list = (table.slot index).list ∧
      (other.slot index).next = (table.slot index).next := by
  have marks : (other.slot index).list = (table.slot index).list :=
    Option.ext fun list => by
      rw [← threadedToo.mem_iff, ← threaded.mem_iff]
  refine ⟨marks, ?_⟩
  cases marked : (table.slot index).list with
  | none =>
      rw [threaded.next_eq_none index marked,
        threadedToo.next_eq_none index (marks.trans marked)]
  | some list =>
      exact (threaded.leads list).next_eq (threadedToo.leads list)
        ((threaded.mem_iff list index).mpr marked)

end Threaded

/-! ### Splicing -/

theorem slot_link (table : TaskTable S) (list : TaskList)
    (previous next : Option SlotIndex) (index : SlotIndex) :
    (table.link list previous next).slot index =
      if previous = some index then { table.slot index with next }
      else table.slot index := by
  cases previous with
  | none => simp [link]
  | some previous =>
      simp only [link, setNext, slot_modify, Option.some.injEq]
      by_cases same : index = previous
      · rw [if_pos same, if_pos same.symm]
      · rw [if_neg same, if_neg (Ne.symm same)]

@[simp]
theorem list_slot_link (table : TaskTable S) (list : TaskList)
    (previous next : Option SlotIndex) (index : SlotIndex) :
    ((table.link list previous next).slot index).list =
      (table.slot index).list := by
  rw [slot_link]
  split <;> rfl

theorem next_slot_link_of_ne (table : TaskTable S) (list : TaskList)
    {previous : Option SlotIndex} (next : Option SlotIndex)
    {index : SlotIndex} (different : previous ≠ some index) :
    ((table.link list previous next).slot index).next =
      (table.slot index).next := by
  rw [slot_link, if_neg different]

theorem sameTasks_link (table : TaskTable S) (list : TaskList)
    (previous next : Option SlotIndex) :
    table.SameTasks (table.link list previous next) where
  generation index := by
    rw [slot_link]
    split <;> rfl
  entry index := by
    rw [slot_link]
    split <;> rfl
  live := by
    cases previous with
    | none => cases list <;> rfl
    | some previous => rfl

theorem head_link_of_ne (table : TaskTable S) {list other : TaskList}
    (previous next : Option SlotIndex) (different : other ≠ list) :
    (table.link list previous next).head other = table.head other := by
  cases previous with
  | none => exact head_setHead_of_ne table next different
  | some previous => exact head_modify table previous _ other

/-- Linking `first` behind the last slot of `front` makes one list of `front`
and what the links lead through from `first` on. -/
theorem leads_link {list : TaskList} {first stop : Option SlotIndex}
    {front rest : List SlotIndex} (distinct : (front ++ rest).Nodup)
    (before : table.Leads stop (table.head list) front)
    (after : table.Leads none first rest) :
    (table.link list front.getLast? first).Leads none
      ((table.link list front.getLast? first).head list) (front ++ rest) := by
  rcases List.eq_nil_or_concat front with rfl | ⟨init, last, rfl⟩
  · simp only [List.getLast?_nil, link, head_setHead_self, List.nil_append]
    exact after.congr fun index _ => by rw [slot_setHead]
  · rw [List.concat_eq_append] at distinct before ⊢
    have lastNotInit : last ∉ init := by
      intro inside
      have parts := (List.nodup_append.mp distinct).1
      exact (List.nodup_append.mp parts).2.2 last inside last
        (List.mem_singleton_self last) rfl
    have lastNotRest : last ∉ rest := by
      intro inside
      exact (List.nodup_append.mp distinct).2.2 last
        (List.mem_append_right init (List.mem_singleton_self last))
        last inside rfl
    obtain ⟨middle, toLast, found, _⟩ := leads_append.mp before
    have elsewhere : ∀ index, index ≠ last →
        ((table.link list (some last) first).slot index).next =
          (table.slot index).next := fun index different =>
      next_slot_link_of_ne table list first
        (fun same => different (Option.some.inj same).symm)
    have atLast :
        ((table.link list (some last) first).slot last).next = first := by
      rw [slot_link, if_pos rfl]
    rw [List.getLast?_concat, List.append_assoc, leads_append]
    refine ⟨middle, ?_, found, ?_⟩
    · refine Leads.congr ?_ fun index inside =>
        elsewhere index (ne_of_mem_of_not_mem inside lastNotInit)
      exact (head_modify table last _ list).symm ▸ toLast
    · rw [atLast]
      exact after.congr fun index inside =>
        elsewhere index (ne_of_mem_of_not_mem inside lastNotRest)

/-- A slot of a threaded table is changed and what comes behind `front` on one
list is replaced by `rest`.  The other list does not notice, because neither
the changed slot nor the last slot of `front` is on it. -/
theorem Threaded.splice {lists : TaskList → List SlotIndex}
    (threaded : table.Threaded lists) {list : TaskList} {index : SlotIndex}
    {change : TaskSlot S → TaskSlot S}
    {first stop tail : Option SlotIndex} {front rest : List SlotIndex}
    (offOther : ∀ other, other ≠ list → index ∉ lists other)
    (notFront : index ∉ front) (inside : ∀ slot ∈ front, slot ∈ lists list)
    (before : table.Leads stop (table.head list) front)
    (after : (table.modify index change).Leads none first rest)
    (distinct : (front ++ rest).Nodup)
    (members : ∀ slot, slot ∈ front ++ rest ↔
      ((table.modify index change).slot slot).list = some list)
    (noOther : ∀ other, other ≠ list →
      (change (table.slot index)).list ≠ some other)
    (loose : (change (table.slot index)).list = none →
      (change (table.slot index)).next = none)
    (last : tail =
      (Function.update lists list (front ++ rest) .run).getLast?) :
    { (table.modify index change).link list front.getLast? first with
        runTail := tail }.Threaded
      (Function.update lists list (front ++ rest)) := by
  have changedSelf :
      (table.modify index change).slot index = change (table.slot index) := by
    rw [slot_modify, if_pos rfl]
  have changedOther : ∀ slot, slot ≠ index →
      (table.modify index change).slot slot = table.slot slot :=
    fun slot different => by rw [slot_modify, if_neg different]
  have lastInside : ∀ slot, front.getLast? = some slot → slot ∈ lists list :=
    fun slot found => inside slot (List.mem_of_getLast? found)
  -- The links, the marks, the tail, and the slots that are on no list.
  refine ⟨fun other => ?_, fun other slot => ?_, last, fun slot off => ?_⟩
  · by_cases same : other = list
    · subst same
      rw [Function.update_self, head_setTail]
      have beforeChanged : (table.modify index change).Leads stop
          ((table.modify index change).head other) front := by
        rw [head_modify]
        exact before.congr fun slot within => by
          rw [changedOther slot (ne_of_mem_of_not_mem within notFront)]
      exact (leads_link distinct beforeChanged after).congr fun _ _ => rfl
    -- Linking writes the head of this list and the last slot of its front, and
    -- neither belongs to the other list.
    · rw [Function.update_of_ne same, head_setTail]
      have heads := (head_link_of_ne (table.modify index change)
        front.getLast? first same).trans (head_modify table index change other)
      refine Leads.congr (heads ▸ threaded.leads other) fun slot within => ?_
      have apart : front.getLast? ≠ some slot := fun found =>
        threaded.disjoint (lastInside slot found) same within
      refine (next_slot_link_of_ne _ list first apart).trans ?_
      rw [changedOther slot (ne_of_mem_of_not_mem within (offOther other same))]
  · have marks :
        (({ (table.modify index change).link list front.getLast? first with
          runTail := tail } : TaskTable S).slot slot).list =
        ((table.modify index change).slot slot).list :=
      list_slot_link _ list front.getLast? first slot
    rw [marks]
    by_cases same : other = list
    · subst same
      rw [Function.update_self]
      exact members slot
    · rw [Function.update_of_ne same]
      by_cases atIndex : slot = index
      · subst atIndex
        rw [changedSelf]
        exact iff_of_false (offOther other same) (noOther other same)
      · rw [changedOther slot atIndex, threaded.mem_iff]
  · have marks : ((table.modify index change).slot slot).list = none :=
      (list_slot_link _ list front.getLast? first slot).symm.trans off
    have apart : front.getLast? ≠ some slot := by
      intro found
      have within := (members slot).mp (List.mem_append_left rest
        (List.mem_of_getLast? found))
      rw [marks] at within
      cases within
    refine (next_slot_link_of_ne _ list first apart).trans ?_
    by_cases atIndex : slot = index
    · subst atIndex
      rw [changedSelf] at marks ⊢
      exact loose marks
    · rw [changedOther slot atIndex] at marks ⊢
      exact threaded.next_eq_none slot marks

/-! ### Appending to the run queue -/

theorem sameTasks_modify (table : TaskTable S) (index : SlotIndex)
    {change : TaskSlot S → TaskSlot S}
    (generation : ∀ slot, (change slot).generation = slot.generation)
    (entry : ∀ slot, (change slot).entry = slot.entry) :
    table.SameTasks (table.modify index change) where
  generation other := by
    rw [slot_modify]
    split
    · rw [generation]
    · rfl
  entry other := by
    rw [slot_modify]
    split
    · rw [entry]
    · rfl
  live := rfl

theorem sameTasks_mark (table : TaskTable S) (index : SlotIndex)
    (list : TaskList) (next : Option SlotIndex) :
    table.SameTasks (table.mark index list next) :=
  sameTasks_modify table index (fun _ => rfl) fun _ => rfl

theorem sameTasks_unmark (table : TaskTable S) (index : SlotIndex) :
    table.SameTasks (table.unmark index) :=
  sameTasks_modify table index (fun _ => rfl) fun _ => rfl

theorem sameTasks_setTail (table : TaskTable S) (tail : Option SlotIndex) :
    table.SameTasks { table with runTail := tail } where
  generation _ := rfl
  entry _ := rfl
  live := rfl

theorem Threaded.pushRun {lists : TaskList → List SlotIndex}
    (threaded : table.Threaded lists) {index : SlotIndex}
    (off : (table.slot index).list = none) :
    ∃ pushed, table.pushRun index = .ok pushed ∧
      pushed.Threaded
        (Function.update lists .run (lists .run ++ [index])) ∧
      table.SameTasks pushed := by
  have outside := threaded.notMem_of_list_eq_none off
  refine ⟨{ (table.mark index .run none).link .run table.runTail
    (some index) with runTail := some index }, ?_, ?_, ?_⟩
  · unfold TaskTable.pushRun
    rw [show table.slots[index].list = none from off]
    rfl
  · rw [threaded.tail]
    refine threaded.splice (fun other _ => outside other) (outside .run)
      (fun _ inside => inside) (threaded.leads .run) ?_ ?_ ?_ ?_ ?_ ?_
    · refine ⟨rfl, ?_⟩
      rw [slot_modify, if_pos rfl]
      rfl
    · rw [List.nodup_append]
      refine ⟨threaded.nodup .run, List.nodup_singleton index, ?_⟩
      intro slot inside other single
      rw [List.mem_singleton.mp single]
      exact ne_of_mem_of_not_mem inside (outside .run)
    · intro slot
      rw [slot_modify, List.mem_append, List.mem_singleton, threaded.mem_iff]
      by_cases same : slot = index <;> simp [same]
    · intro other different same
      exact different (Option.some.inj same).symm
    · intro marked
      cases marked
    · rw [Function.update_self, List.getLast?_concat]
  · exact ((sameTasks_mark table index .run none).trans
      (sameTasks_link _ _ _ _)).trans (sameTasks_setTail _ _)

/-! ### Taking a slot off its list -/

theorem predecessor_append {index : SlotIndex} {front : List SlotIndex}
    (previous : Option SlotIndex) (back : List SlotIndex)
    (notFront : index ∉ front) :
    predecessor index previous (front ++ index :: back) =
      some (front.getLast?.or previous) := by
  induction front generalizing previous with
  | nil => simp [predecessor]
  | cons slot rest ih =>
      have different : slot ≠ index := fun same =>
        notFront (same ▸ List.mem_cons_self)
      have notRest : index ∉ rest := fun inside =>
        notFront (List.mem_cons_of_mem slot inside)
      rw [List.cons_append, predecessor, if_neg different, ih _ notRest]
      cases rest <;> simp [List.getLast?_cons]

/-- What becomes of the tail of the run queue when a slot is taken out. -/
private theorem Threaded.tail_of_parts {lists : TaskList → List SlotIndex}
    (threaded : table.Threaded lists) {index : SlotIndex}
    {front back : List SlotIndex}
    (parts : lists .run = front ++ index :: back) (notBack : index ∉ back) :
    (if TaskList.run = .run ∧ table.runTail = some index then front.getLast?
      else table.runTail) = (front ++ back).getLast? := by
  rw [threaded.tail, parts]
  cases back with
  | nil => simp
  | cons next back =>
      have last : (front ++ index :: next :: back).getLast? =
          (next :: back).getLast? := by
        simp [List.getLast?_append, List.getLast?_cons]
      have apart : (next :: back).getLast? ≠ some index := fun found =>
        notBack (List.mem_of_getLast? found)
      rw [last, if_neg (fun both => apart both.2)]
      simp [List.getLast?_append, List.getLast?_cons]

/-- A slot between `front` and `back` is taken off its list. -/
private theorem Threaded.unlink_of_parts {lists : TaskList → List SlotIndex}
    (threaded : table.Threaded lists) {index : SlotIndex} {list : TaskList}
    {front back : List SlotIndex} (parts : lists list = front ++ index :: back) :
    ∃ unlinked, table.unlink index = .ok unlinked ∧
      unlinked.Threaded (Function.update lists list (front ++ back)) ∧
      table.SameTasks unlinked := by
  have distinct := threaded.nodup list
  rw [parts] at distinct
  have leads := threaded.leads list
  rw [parts, leads_append] at leads
  obtain ⟨middle, before, found, after⟩ := leads
  obtain ⟨frontDistinct, backDistinct, apart⟩ := List.nodup_append.mp distinct
  have notFront : index ∉ front := fun within =>
    apart index within index List.mem_cons_self rfl
  have notBack : index ∉ back := (List.nodup_cons.mp backDistinct).1
  have erased : (lists list).erase index = front ++ back := by
    rw [parts, List.erase_append_right _ notFront, List.erase_cons_head]
  have inside : index ∈ lists list := by
    rw [parts]
    exact List.mem_append_right front List.mem_cons_self
  have within : ∀ slot, slot ∈ front → slot ∈ lists list := by
    intro slot member
    rw [parts]
    exact List.mem_append_left _ member
  have marked := (threaded.mem_iff list index).mp inside
  have place : predecessor index none (table.linked list) =
      some front.getLast? := by
    rw [threaded.linked_eq, parts, predecessor_append none back notFront,
      Option.or_none]
  refine ⟨{ (table.unmark index).link list front.getLast?
      (table.slot index).next with
      runTail := if list = .run ∧ table.runTail = some index then
        front.getLast? else table.runTail }, ?_, ?_, ?_⟩
  · unfold TaskTable.unlink
    rw [show table.slots[index].list = some list from marked]
    simp only [place]
    split
    · rfl
    · refine congrArg Except.ok ?_
      cases front.getLast? <;> cases list <;> rfl
  · refine threaded.splice
      (fun other different => threaded.disjoint inside different) notFront
      within before ?_ ?_ ?_ ?_ ?_ ?_
    -- The links of `back` are untouched: its slots are not `index`.
    · exact after.congr fun slot member => by
        rw [slot_modify, if_neg (ne_of_mem_of_not_mem member notBack)]
    · exact erased ▸ (threaded.nodup list).erase index
    · intro slot
      rw [slot_modify, ← erased, (threaded.nodup list).mem_erase_iff,
        threaded.mem_iff]
      by_cases same : slot = index <;> simp [same]
    · intro other _ marks
      cases marks
    · intro _
      rfl
    · cases list with
      | run =>
          rw [Function.update_self]
          exact threaded.tail_of_parts parts notBack
      | timer =>
          rw [if_neg (by simp), Function.update_of_ne (by decide)]
          exact threaded.tail
  · exact ((sameTasks_unmark table index).trans
      (sameTasks_link _ _ _ _)).trans (sameTasks_setTail _ _)

theorem Threaded.unlink {lists : TaskList → List SlotIndex}
    (threaded : table.Threaded lists) (index : SlotIndex) :
    ∃ unlinked, table.unlink index = .ok unlinked ∧
      unlinked.Threaded (fun list => (lists list).erase index) ∧
      table.SameTasks unlinked := by
  cases marked : (table.slot index).list with
  | none =>
      have outside := threaded.notMem_of_list_eq_none marked
      refine ⟨table, ?_, ?_, ⟨fun _ => rfl, fun _ => rfl, rfl⟩⟩
      · unfold TaskTable.unlink
        rw [show table.slots[index].list = none from marked]
      · have same : (fun list => (lists list).erase index) = lists :=
          funext fun list => List.erase_of_not_mem (outside list)
        rwa [same]
  | some list =>
      have inside : index ∈ lists list := (threaded.mem_iff list index).mpr marked
      obtain ⟨front, back, _, parts, erased⟩ := List.exists_erase_eq inside
      have erasedOnly : (fun other => (lists other).erase index) =
          Function.update lists list (front ++ back) := by
        funext other
        by_cases same : other = list
        · subst same
          rw [Function.update_self, erased]
        · rw [Function.update_of_ne same]
          exact List.erase_of_not_mem (threaded.disjoint inside same)
      rw [erasedOnly]
      exact threaded.unlink_of_parts parts

/-! ### Inserting into the timer list -/

/-- The place of a deadline is behind the slots that are due no later. -/
theorem timerPlace_eq (deadline : Deadline) {due : SlotIndex → Deadline}
    {slots : List SlotIndex}
    (known : ∀ slot ∈ slots, table.deadlineOf slot = .ok (due slot))
    (previous : Option SlotIndex) :
    table.timerPlace deadline previous slots =
      .ok ((slots.takeWhile fun slot => ¬ deadline < due slot).getLast?.or
          previous,
        (slots.dropWhile fun slot => ¬ deadline < due slot).head?) := by
  induction slots generalizing previous with
  | nil => simp [timerPlace]
  | cons slot rest ih =>
      have knownRest : ∀ later ∈ rest,
          table.deadlineOf later = .ok (due later) :=
        fun later inside => known later (List.mem_cons_of_mem slot inside)
      rw [timerPlace, known slot List.mem_cons_self]
      by_cases later : deadline < due slot
      · simp [later, bind, Except.bind, pure, Except.pure]
      · have step := ih knownRest (some slot)
        simp only [bind, Except.bind, later, if_false, step]
        simp [later, List.getLast?_cons]

theorem Threaded.insertTimer {lists : TaskList → List SlotIndex}
    (threaded : table.Threaded lists) {index : SlotIndex} (deadline : Deadline)
    (off : (table.slot index).list = none) {due : SlotIndex → Deadline}
    (known : ∀ slot ∈ lists .timer,
      table.deadlineOf slot = .ok (due slot)) :
    ∃ inserted, table.insertTimer index deadline = .ok inserted ∧
      inserted.Threaded (Function.update lists .timer
        (((lists .timer).takeWhile fun slot => ¬ deadline < due slot) ++
          index ::
          ((lists .timer).dropWhile fun slot => ¬ deadline < due slot))) ∧
      table.SameTasks inserted := by
  have outside := threaded.notMem_of_list_eq_none off
  have parts := List.takeWhile_append_dropWhile
    (p := fun slot => ¬ deadline < due slot) (l := lists .timer)
  have place := timerPlace_eq deadline known none
  rw [Option.or_none] at place
  generalize ((lists .timer).takeWhile fun slot => ¬ deadline < due slot) =
    front at parts place ⊢
  generalize ((lists .timer).dropWhile fun slot => ¬ deadline < due slot) =
    back at parts place ⊢
  have notParts : index ∉ front ++ back := parts ▸ outside .timer
  have notFront : index ∉ front := fun inside =>
    notParts (List.mem_append_left back inside)
  have notBack : index ∉ back := fun inside =>
    notParts (List.mem_append_right front inside)
  have leads := threaded.leads .timer
  rw [← parts, leads_append] at leads
  obtain ⟨middle, before, after⟩ := leads
  refine ⟨{ (table.mark index .timer back.head?).link .timer front.getLast?
    (some index) with runTail := table.runTail }, ?_, ?_, ?_⟩
  · unfold TaskTable.insertTimer
    rw [show table.slots[index].list = none from off, threaded.linked_eq, place]
    cases front.getLast? <;> rfl
  · refine threaded.splice (fun other _ => outside other) notFront
      (fun slot inside => parts ▸ List.mem_append_left back inside) before
      ?_ ?_ ?_ ?_ ?_ ?_
    -- The new slot leads on to the first of `back`, whose links are untouched.
    · refine ⟨rfl, ?_⟩
      rw [slot_modify, if_pos rfl, ← after.first_eq]
      exact after.congr fun slot inside => by
        rw [slot_modify, if_neg (ne_of_mem_of_not_mem inside notBack)]
    · rw [List.nodup_middle, List.nodup_cons]
      exact ⟨notParts, parts ▸ threaded.nodup .timer⟩
    · intro slot
      rw [slot_modify, List.mem_append, List.mem_cons, or_left_comm,
        ← List.mem_append, parts, threaded.mem_iff]
      by_cases same : slot = index <;> simp [same]
    · intro other different same
      exact different (Option.some.inj same).symm
    · intro marked
      cases marked
    · rw [Function.update_of_ne (by decide)]
      exact threaded.tail
  · exact ((sameTasks_mark table index .timer back.head?).trans
      (sameTasks_link _ _ _ _)).trans (sameTasks_setTail _ _)

end EventScheduler.TaskTable
