/-
A work queue shared by any number of workers.  An item asked for several times is
held once, an item that is being processed is not handed out again, and one that
is asked for meanwhile comes back when its processing ends.  A delaying queue adds
items later, through a channel and a list of entries ordered by their times.
-/
import Mathlib.Algebra.Group.Nat.Defs
import Mathlib.Data.Finset.Basic
import Mathlib.Data.List.Nodup
import Mathlib.Data.List.Infix

namespace ControlLoop

variable {K : Type} [DecidableEq K]

/-! ## The queue -/

structure WorkQueue (K : Type) [DecidableEq K] where
  queue : List K := []
  dirty : Finset K := ∅
  processing : Finset K := ∅
  shuttingDown : Bool := false

namespace WorkQueue

def add (q : WorkQueue K) (item : K) : WorkQueue K :=
  if q.shuttingDown then q
  else if item ∈ q.dirty then q
  else if item ∈ q.processing then { q with dirty := insert item q.dirty }
  else { q with dirty := insert item q.dirty, queue := q.queue ++ [item] }

/-- What `get` does when there is an item: the item at the front is handed out. -/
def get (q : WorkQueue K) : Option (K × WorkQueue K) :=
  match q.queue with
  | [] => none
  | item :: rest =>
      some (item, { q with
        queue := rest, processing := insert item q.processing, dirty := q.dirty.erase item })

def done (q : WorkQueue K) (item : K) : WorkQueue K :=
  if item ∈ q.dirty then
    { q with processing := q.processing.erase item, queue := q.queue ++ [item] }
  else { q with processing := q.processing.erase item }

def shutDown (q : WorkQueue K) : WorkQueue K :=
  { q with shuttingDown := true }

/-- The queue holds, once each, exactly the items that are asked for and are not
being processed. -/
structure Valid (q : WorkQueue K) : Prop where
  nodup : q.queue.Nodup
  mem_queue : ∀ item, item ∈ q.queue ↔ item ∈ q.dirty ∧ item ∉ q.processing

theorem valid_empty : ({} : WorkQueue K).Valid :=
  ⟨List.nodup_nil, fun item => by simp⟩

/-! ### Adding -/

@[simp] theorem add_shuttingDown (q : WorkQueue K) (item : K) :
    (q.add item).shuttingDown = q.shuttingDown := by
  unfold add
  split_ifs <;> rfl

@[simp] theorem add_processing (q : WorkQueue K) (item : K) :
    (q.add item).processing = q.processing := by
  unfold add
  split_ifs <;> rfl

theorem mem_dirty_add {q : WorkQueue K} (h : q.shuttingDown = false) (item other : K) :
    other ∈ (q.add item).dirty ↔ other = item ∨ other ∈ q.dirty := by
  unfold add
  rw [if_neg (by simp [h])]
  split_ifs with hdirty
  · exact ⟨.inr, by rintro (rfl | hother) <;> assumption⟩
  · exact Finset.mem_insert
  · exact Finset.mem_insert

theorem eq_or_mem_of_mem_dirty_add {q : WorkQueue K} {item other : K}
    (h : other ∈ (q.add item).dirty) : other = item ∨ other ∈ q.dirty := by
  unfold add at h
  split_ifs at h
  · exact .inr h
  · exact .inr h
  · exact Finset.mem_insert.mp h
  · exact Finset.mem_insert.mp h

theorem dirty_subset_add (q : WorkQueue K) (item : K) : q.dirty ⊆ (q.add item).dirty := by
  unfold add
  split_ifs <;> simp

theorem queue_prefix_add (q : WorkQueue K) (item : K) : q.queue <+: (q.add item).queue := by
  unfold add
  split_ifs <;> simp

theorem Valid.add {q : WorkQueue K} (h : q.Valid) (item : K) : (q.add item).Valid := by
  unfold WorkQueue.add
  split_ifs with _ hdirty hprocessing
  · exact h
  · exact h
  · -- the item is being processed: it is noted, and queued when that ends
    refine ⟨h.nodup, fun other => ?_⟩
    rw [h.mem_queue other, Finset.mem_insert]
    exact ⟨fun ⟨hother, hnot⟩ => ⟨.inr hother, hnot⟩, fun ⟨hother, hnot⟩ =>
      ⟨hother.resolve_left fun heq => hnot (heq ▸ hprocessing), hnot⟩⟩
  · have hnot : item ∉ q.queue := fun hmem => hdirty ((h.mem_queue item).mp hmem).1
    refine ⟨?_, fun other => ?_⟩
    · rw [List.nodup_append_comm]
      exact List.nodup_cons.mpr ⟨hnot, h.nodup⟩
    · simp only [List.mem_append, List.mem_singleton, Finset.mem_insert, h.mem_queue other]
      constructor
      · rintro (⟨hother, hother'⟩ | rfl)
        · exact ⟨.inr hother, hother'⟩
        · exact ⟨.inl rfl, hprocessing⟩
      · rintro ⟨rfl | hother, hother'⟩
        · exact .inr rfl
        · exact .inl ⟨hother, hother'⟩

/-- The queue is as it was, or one item was added. -/
def Grown (q q' : WorkQueue K) : Prop :=
  q' = q ∨ ∃ item, q' = q.add item

theorem Grown.add (q : WorkQueue K) (item : K) : Grown q (q.add item) :=
  .inr ⟨item, rfl⟩

theorem Grown.valid {q q' : WorkQueue K} (hgrown : Grown q q') (h : q.Valid) : q'.Valid := by
  obtain rfl | ⟨item, rfl⟩ := hgrown
  · exact h
  · exact h.add item

theorem Grown.processing {q q' : WorkQueue K} (hgrown : Grown q q') :
    q'.processing = q.processing := by
  obtain rfl | ⟨item, rfl⟩ := hgrown
  · rfl
  · exact q.add_processing item

theorem Grown.shuttingDown {q q' : WorkQueue K} (hgrown : Grown q q') :
    q'.shuttingDown = q.shuttingDown := by
  obtain rfl | ⟨item, rfl⟩ := hgrown
  · rfl
  · exact q.add_shuttingDown item

theorem Grown.dirty_subset {q q' : WorkQueue K} (hgrown : Grown q q') : q.dirty ⊆ q'.dirty := by
  obtain rfl | ⟨item, rfl⟩ := hgrown
  · exact Finset.Subset.refl _
  · exact q.dirty_subset_add item

theorem Grown.queue_prefix {q q' : WorkQueue K} (hgrown : Grown q q') : q.queue <+: q'.queue := by
  obtain rfl | ⟨item, rfl⟩ := hgrown
  · exact List.prefix_refl _
  · exact q.queue_prefix_add item

/-! ### Taking and giving back -/

theorem get_eq_some {q q' : WorkQueue K} {item : K} (h : q.get = some (item, q')) :
    q.queue = item :: q'.queue ∧ q'.processing = insert item q.processing ∧
      q'.dirty = q.dirty.erase item ∧ q'.shuttingDown = q.shuttingDown := by
  unfold get at h
  split at h
  · cases h
  case _ first rest hqueue =>
    cases h
    exact ⟨hqueue, rfl, rfl, rfl⟩

theorem Valid.get {q q' : WorkQueue K} {item : K} (h : q.Valid) (hget : q.get = some (item, q')) :
    item ∈ q.dirty ∧ item ∉ q.processing ∧ q'.Valid := by
  obtain ⟨hqueue, hprocessing, hdirty, -⟩ := get_eq_some hget
  have hnodup := h.nodup
  rw [hqueue, List.nodup_cons] at hnodup
  have hitem := (h.mem_queue item).mp (hqueue ▸ List.mem_cons_self)
  refine ⟨hitem.1, hitem.2, hnodup.2, fun other => ?_⟩
  have hother := h.mem_queue other
  rw [hqueue, List.mem_cons] at hother
  rw [hdirty, hprocessing, Finset.mem_erase, Finset.mem_insert]
  by_cases heq : other = item
  · simp [heq, hnodup.1]
  · simpa [heq] using hother

@[simp] theorem done_shuttingDown (q : WorkQueue K) (item : K) :
    (q.done item).shuttingDown = q.shuttingDown := by
  unfold done
  split_ifs <;> rfl

@[simp] theorem done_dirty (q : WorkQueue K) (item : K) : (q.done item).dirty = q.dirty := by
  unfold done
  split_ifs <;> rfl

@[simp] theorem done_processing (q : WorkQueue K) (item : K) :
    (q.done item).processing = q.processing.erase item := by
  unfold done
  split_ifs <;> rfl

theorem queue_prefix_done (q : WorkQueue K) (item : K) : q.queue <+: (q.done item).queue := by
  unfold done
  split_ifs <;> simp

/-- Ending the processing of an item that is being processed. -/
theorem Valid.done {q : WorkQueue K} (h : q.Valid) {item : K} (hitem : item ∈ q.processing) :
    (q.done item).Valid := by
  have hnot : item ∉ q.queue := fun hmem => ((h.mem_queue item).mp hmem).2 hitem
  unfold WorkQueue.done
  split_ifs with hdirty
  · refine ⟨?_, fun other => ?_⟩
    · rw [List.nodup_append_comm]
      exact List.nodup_cons.mpr ⟨hnot, h.nodup⟩
    · by_cases heq : other = item
      · simpa [heq] using hdirty
      · simp [heq, h.mem_queue other]
  · refine ⟨h.nodup, fun other => ?_⟩
    by_cases heq : other = item
    · simpa [heq, hnot] using hdirty
    · simp [heq, h.mem_queue other]

@[simp] theorem shutDown_queue (q : WorkQueue K) : q.shutDown.queue = q.queue := rfl
@[simp] theorem shutDown_dirty (q : WorkQueue K) : q.shutDown.dirty = q.dirty := rfl
@[simp] theorem shutDown_processing (q : WorkQueue K) :
    q.shutDown.processing = q.processing := rfl

theorem Valid.shutDown {q : WorkQueue K} (h : q.Valid) : q.shutDown.Valid :=
  ⟨h.nodup, h.mem_queue⟩

end WorkQueue

/-! ## Adding later -/

/-- How many entries the channel of a delaying queue buffers. -/
def waitingForAddCapacity : Nat := 1000

/-- A queue with a clock.  An entry goes through the channel to the entries that
the waiting loop keeps, at most one for an item. -/
structure DelayingQueue (K : Type) [DecidableEq K] where
  active : WorkQueue K := {}
  clock : Nat := 0
  waitingForAddCh : List (K × Nat) := []
  waiting : List (K × Nat) := []

/-- `insert`: an entry that is already known only ever becomes due sooner. -/
def insertWaiting (item : K) (readyAt : Nat) : List (K × Nat) → List (K × Nat)
  | [] => [(item, readyAt)]
  | existing :: rest =>
      if existing.1 = item then
        (existing.1, if readyAt < existing.2 then readyAt else existing.2) :: rest
      else existing :: insertWaiting item readyAt rest

theorem mem_keys_insertWaiting {item other : K} {readyAt : Nat} {waiting : List (K × Nat)} :
    other ∈ (insertWaiting item readyAt waiting).map Prod.fst ↔
      other = item ∨ other ∈ waiting.map Prod.fst := by
  induction waiting with
  | nil => simp [insertWaiting]
  | cons existing rest ih =>
      unfold insertWaiting
      by_cases heq : existing.1 = item
      · simp only [heq, if_true, List.map_cons, List.mem_cons]
        tauto
      · simp only [if_neg heq, List.map_cons, List.mem_cons, ih]
        tauto

/-- What an entry of the item becomes. -/
theorem exists_of_mem_insertWaiting {item : K} {readyAt : Nat} {waiting : List (K × Nat)}
    {entry : K × Nat} (h : entry ∈ insertWaiting item readyAt waiting) :
    entry ∈ waiting ∨ entry = (item, readyAt) := by
  induction waiting with
  | nil => exact .inr (List.mem_singleton.mp h)
  | cons existing rest ih =>
      unfold insertWaiting at h
      split_ifs at h with heq hless
      · rcases List.mem_cons.mp h with rfl | hrest
        · exact .inr (by rw [heq])
        · exact .inl (List.mem_cons_of_mem _ hrest)
      · exact .inl h
      · rcases List.mem_cons.mp h with rfl | hrest
        · exact .inl List.mem_cons_self
        · exact (ih hrest).imp_left (List.mem_cons_of_mem _)

/-- No entry becomes due later than it was. -/
theorem exists_le_of_mem_waiting {item : K} {readyAt : Nat} {waiting : List (K × Nat)}
    {entry : K × Nat} (h : entry ∈ waiting) :
    ∃ time ≤ entry.2, (entry.1, time) ∈ insertWaiting item readyAt waiting := by
  induction waiting with
  | nil => cases h
  | cons existing rest ih =>
      unfold insertWaiting
      rcases List.mem_cons.mp h with rfl | hrest
      · split_ifs with heq hless
        · exact ⟨readyAt, by omega, List.mem_cons_self⟩
        · exact ⟨entry.2, le_refl _, List.mem_cons_self⟩
        · exact ⟨entry.2, le_refl _, List.mem_cons_self⟩
      · by_cases heq : existing.1 = item
        · rw [if_pos heq]
          exact ⟨entry.2, le_refl _, List.mem_cons_of_mem _ hrest⟩
        · obtain ⟨time, htime, hmem⟩ := ih hrest
          rw [if_neg heq]
          exact ⟨time, htime, List.mem_cons_of_mem _ hmem⟩

/-- How many entries are due at a time. -/
def countDue (time : Nat) (waiting : List (K × Nat)) : Nat :=
  waiting.countP fun entry => entry.2 ≤ time

/-- An entry for a later time does not delay the ones that are due. -/
theorem countDue_insertWaiting {time readyAt : Nat} (h : time < readyAt) (item : K)
    (waiting : List (K × Nat)) :
    countDue time (insertWaiting item readyAt waiting) = countDue time waiting := by
  induction waiting with
  | nil => simp [insertWaiting, countDue, h]
  | cons existing rest ih =>
      unfold insertWaiting
      by_cases heq : existing.1 = item
      · rw [if_pos heq, countDue, countDue, List.countP_cons, List.countP_cons]
        split_ifs <;> simp_all <;> omega
      · rw [if_neg heq]
        simp only [countDue, List.countP_cons] at ih ⊢
        rw [ih]

omit [DecidableEq K] in
theorem countDue_filter_le (time : Nat) (p : K × Nat → Bool) (waiting : List (K × Nat)) :
    countDue time (waiting.filter p) ≤ countDue time waiting :=
  List.Sublist.countP_le List.filter_sublist

/-- Taking a due entry away makes the entries that are due fewer. -/
theorem countDue_filter_lt {time : Nat} {waiting : List (K × Nat)} {entry : K × Nat}
    (hentry : entry ∈ waiting) (hdue : entry.2 ≤ time) :
    countDue time (waiting.filter fun other => other.1 ≠ entry.1) < countDue time waiting := by
  induction waiting with
  | nil => cases hentry
  | cons first rest ih =>
      rcases List.mem_cons.mp hentry with rfl | hrest
      · rw [List.filter_cons_of_neg (by simp)]
        have hle := countDue_filter_le time (fun other => other.1 ≠ entry.1) rest
        simp only [countDue, List.countP_cons, hdue, decide_true] at hle ⊢
        simp only [if_true]
        omega
      · have hlt := ih hrest
        rw [List.filter_cons]
        split
        · simp only [countDue, List.countP_cons] at hlt ⊢
          omega
        · simp only [countDue, List.countP_cons] at hlt ⊢
          omega

namespace DelayingQueue

def add (q : DelayingQueue K) (item : K) : DelayingQueue K :=
  { q with active := q.active.add item }

/-- The send to the channel blocks while the channel is full. -/
def send (q : DelayingQueue K) (item : K) (readyAt : Nat) : Option (DelayingQueue K) :=
  if q.waitingForAddCh.length < waitingForAddCapacity then
    some { q with waitingForAddCh := q.waitingForAddCh ++ [(item, readyAt)] }
  else none

/-- The waiting loop takes an entry from the channel. -/
def receive (q : DelayingQueue K) : Option (DelayingQueue K) :=
  match q.waitingForAddCh with
  | [] => none
  | (item, readyAt) :: rest =>
      if q.clock < readyAt then
        some { q with waitingForAddCh := rest, waiting := insertWaiting item readyAt q.waiting }
      else some ({ q with waitingForAddCh := rest }.add item)

/-- The entry may be at the front of the priority queue, and its time has come. -/
def Due (q : DelayingQueue K) (entry : K × Nat) : Prop :=
  entry.2 ≤ q.clock ∧ ∀ other ∈ q.waiting, entry.2 ≤ other.2

instance (q : DelayingQueue K) (entry : K × Nat) : Decidable (q.Due entry) :=
  inferInstanceAs (Decidable (_ ∧ _))

/-- The waiting loop adds an item whose entry is at the front and due. -/
def fire (q : DelayingQueue K) (item : K) : Option (DelayingQueue K) :=
  if ∃ entry ∈ q.waiting, entry.1 = item ∧ q.Due entry then
    some ({ q with waiting := q.waiting.filter fun entry => entry.1 ≠ item }.add item)
  else none

def tick (q : DelayingQueue K) (duration : Nat) : DelayingQueue K :=
  { q with clock := q.clock + duration }

/-- The item is in the channel or with the waiting loop. -/
def Delayed (q : DelayingQueue K) (item : K) : Prop :=
  item ∈ q.waitingForAddCh.map Prod.fst ∨ item ∈ q.waiting.map Prod.fst

/-- The item will be handed to a worker without anyone asking for it again. -/
def Holds (q : DelayingQueue K) (item : K) : Prop :=
  item ∈ q.active.dirty ∨ q.Delayed item

@[simp] theorem add_active (q : DelayingQueue K) (item : K) :
    (q.add item).active = q.active.add item := rfl

@[simp] theorem add_clock (q : DelayingQueue K) (item : K) : (q.add item).clock = q.clock := rfl

@[simp] theorem add_waitingForAddCh (q : DelayingQueue K) (item : K) :
    (q.add item).waitingForAddCh = q.waitingForAddCh := rfl

@[simp] theorem add_waiting (q : DelayingQueue K) (item : K) :
    (q.add item).waiting = q.waiting := rfl

theorem Holds.add {q : DelayingQueue K} {item : K} (h : q.Holds item) (other : K) :
    (q.add other).Holds item :=
  h.imp_left fun hdirty => q.active.dirty_subset_add other hdirty

theorem holds_add {q : DelayingQueue K} (h : q.active.shuttingDown = false) (item : K) :
    (q.add item).Holds item :=
  .inl ((WorkQueue.mem_dirty_add h item item).mpr (.inl rfl))

theorem send_eq_some {q q' : DelayingQueue K} {item : K} {readyAt : Nat}
    (h : q.send item readyAt = some q') :
    q' = { q with waitingForAddCh := q.waitingForAddCh ++ [(item, readyAt)] } := by
  unfold send at h
  split at h
  · exact (Option.some.inj h).symm
  · cases h

/-- What the waiting loop does with the entry it takes from the channel. -/
theorem receive_cases {q q' : DelayingQueue K} (h : q.receive = some q') :
    ∃ item readyAt rest, q.waitingForAddCh = (item, readyAt) :: rest ∧
      (q.clock < readyAt ∧
          q' = { q with waitingForAddCh := rest,
                        waiting := insertWaiting item readyAt q.waiting } ∨
        readyAt ≤ q.clock ∧
          q' = { q with waitingForAddCh := rest, active := q.active.add item }) := by
  unfold receive at h
  split at h
  · cases h
  case _ item readyAt rest hch =>
    refine ⟨item, readyAt, rest, hch, ?_⟩
    split at h
    · exact .inl ⟨‹_›, (Option.some.inj h).symm⟩
    · exact .inr ⟨not_lt.mp ‹_›, (Option.some.inj h).symm⟩

theorem fire_eq_some {q q' : DelayingQueue K} {item : K} (h : q.fire item = some q') :
    (∃ entry ∈ q.waiting, entry.1 = item ∧ q.Due entry) ∧
      q' = { q with waiting := q.waiting.filter fun entry => entry.1 ≠ item,
                    active := q.active.add item } := by
  unfold fire at h
  split at h
  · exact ⟨‹_›, (Option.some.inj h).symm⟩
  · cases h

theorem receive_clock {q q' : DelayingQueue K} (h : q.receive = some q') :
    q'.clock = q.clock := by
  obtain ⟨_, _, _, _, ⟨-, rfl⟩ | ⟨-, rfl⟩⟩ := receive_cases h <;> rfl

theorem fire_clock {q q' : DelayingQueue K} {item : K} (h : q.fire item = some q') :
    q'.clock = q.clock := by
  rw [(fire_eq_some h).2]

theorem send_clock {q q' : DelayingQueue K} {item : K} {readyAt : Nat}
    (h : q.send item readyAt = some q') : q'.clock = q.clock := by
  rw [send_eq_some h]

theorem receive_grown {q q' : DelayingQueue K} (h : q.receive = some q') :
    WorkQueue.Grown q.active q'.active := by
  obtain ⟨item, _, _, _, ⟨-, rfl⟩ | ⟨-, rfl⟩⟩ := receive_cases h
  · exact .inl rfl
  · exact .add _ item

theorem fire_grown {q q' : DelayingQueue K} {item : K} (h : q.fire item = some q') :
    WorkQueue.Grown q.active q'.active := by
  obtain ⟨-, rfl⟩ := fire_eq_some h
  exact .add _ item

theorem Holds.send {q q' : DelayingQueue K} {item other : K} {readyAt : Nat}
    (hsend : q.send other readyAt = some q') (h : q.Holds item) : q'.Holds item := by
  rw [send_eq_some hsend]
  rcases h with hdirty | hch | hwaiting
  · exact .inl hdirty
  · refine .inr (.inl ?_)
    rw [List.map_append]
    exact List.mem_append_left _ hch
  · exact .inr (.inr hwaiting)

theorem holds_send {q q' : DelayingQueue K} {item : K} {readyAt : Nat}
    (hsend : q.send item readyAt = some q') : q'.Holds item := by
  rw [send_eq_some hsend]
  exact .inr (.inl (by simp))

/-- The waiting loop drops nothing while the queue accepts items. -/
theorem Holds.receive {q q' : DelayingQueue K} {item : K} (hopen : q.active.shuttingDown = false)
    (hreceive : q.receive = some q') (h : q.Holds item) : q'.Holds item := by
  obtain ⟨received, readyAt, rest, hch, ⟨-, rfl⟩ | ⟨-, rfl⟩⟩ := receive_cases hreceive
  · rcases h with hdirty | hmem | hwaiting
    · exact .inl hdirty
    · rw [hch, List.map_cons, List.mem_cons] at hmem
      rcases hmem with heq | hrest
      · exact .inr (.inr (mem_keys_insertWaiting.mpr (.inl heq)))
      · exact .inr (.inl hrest)
    · exact .inr (.inr (mem_keys_insertWaiting.mpr (.inr hwaiting)))
  · rcases h with hdirty | hmem | hwaiting
    · exact .inl (q.active.dirty_subset_add received hdirty)
    · rw [hch, List.map_cons, List.mem_cons] at hmem
      rcases hmem with heq | hrest
      · exact .inl ((WorkQueue.mem_dirty_add hopen received item).mpr (.inl heq))
      · exact .inr (.inl hrest)
    · exact .inr (.inr hwaiting)

theorem Holds.fire {q q' : DelayingQueue K} {item other : K}
    (hopen : q.active.shuttingDown = false) (hfire : q.fire other = some q')
    (h : q.Holds item) : q'.Holds item := by
  obtain ⟨-, rfl⟩ := fire_eq_some hfire
  rcases h with hdirty | hch | hwaiting
  · exact .inl (q.active.dirty_subset_add other hdirty)
  · exact .inr (.inl hch)
  · by_cases heq : item = other
    · exact .inl ((WorkQueue.mem_dirty_add hopen other item).mpr (.inl heq))
    · obtain ⟨entry, hentry, rfl⟩ := List.mem_map.mp hwaiting
      refine .inr (.inr (List.mem_map.mpr ⟨entry, List.mem_filter.mpr ⟨hentry, ?_⟩, rfl⟩))
      simpa using heq

/-! ### What is not added before a time -/

/-- No request makes the item available before the time. -/
structure NotBefore (q : DelayingQueue K) (item : K) (time : Nat) : Prop where
  dirty : item ∈ q.active.dirty → time ≤ q.clock
  channel : ∀ readyAt, (item, readyAt) ∈ q.waitingForAddCh → time ≤ readyAt
  waiting : ∀ readyAt, (item, readyAt) ∈ q.waiting → time ≤ readyAt

theorem notBefore_of_not_holds {q : DelayingQueue K} {item : K} (h : ¬ q.Holds item)
    (time : Nat) : q.NotBefore item time where
  dirty := fun hmem => absurd (.inl hmem) h
  channel := fun _ hmem => absurd (.inr (.inl (List.mem_map_of_mem hmem))) h
  waiting := fun _ hmem => absurd (.inr (.inr (List.mem_map_of_mem hmem))) h

theorem NotBefore.add {q : DelayingQueue K} {item other : K} {time : Nat}
    (h : q.NotBefore item time) (hother : other = item → time ≤ q.clock) :
    (q.add other).NotBefore item time where
  dirty := fun hmem =>
    (WorkQueue.eq_or_mem_of_mem_dirty_add hmem).elim (fun heq => hother heq.symm) h.dirty
  channel := h.channel
  waiting := h.waiting

theorem NotBefore.send {q q' : DelayingQueue K} {item other : K} {time readyAt : Nat}
    (h : q.NotBefore item time) (hsend : q.send other readyAt = some q')
    (hother : other = item → time ≤ readyAt) : q'.NotBefore item time := by
  rw [send_eq_some hsend]
  refine ⟨h.dirty, fun readyAt' hmem => ?_, h.waiting⟩
  rcases List.mem_append.mp hmem with hmem | hmem
  · exact h.channel readyAt' hmem
  · cases List.mem_singleton.mp hmem
    exact hother rfl

theorem NotBefore.receive {q q' : DelayingQueue K} {item : K} {time : Nat}
    (h : q.NotBefore item time) (hreceive : q.receive = some q') : q'.NotBefore item time := by
  obtain ⟨other, readyAt, rest, hch, hcases⟩ := receive_cases hreceive
  have hfirst : other = item → time ≤ readyAt := fun heq =>
    h.channel readyAt (by rw [hch, heq]; exact List.mem_cons_self)
  have hrest : ∀ readyAt', (item, readyAt') ∈ rest → time ≤ readyAt' := fun readyAt' hmem =>
    h.channel readyAt' (by rw [hch]; exact List.mem_cons_of_mem _ hmem)
  obtain ⟨-, rfl⟩ | ⟨hready, rfl⟩ := hcases
  · refine ⟨h.dirty, hrest, fun readyAt' hmem => ?_⟩
    rcases exists_of_mem_insertWaiting hmem with hmem | heq
    · exact h.waiting readyAt' hmem
    · cases heq
      exact hfirst rfl
  · refine ⟨fun hmem => ?_, hrest, h.waiting⟩
    rcases WorkQueue.eq_or_mem_of_mem_dirty_add hmem with heq | hmem
    · exact (hfirst heq.symm).trans hready
    · exact h.dirty hmem

theorem NotBefore.fire {q q' : DelayingQueue K} {item other : K} {time : Nat}
    (h : q.NotBefore item time) (hfire : q.fire other = some q') : q'.NotBefore item time := by
  obtain ⟨⟨⟨_, readyAt⟩, hentry, rfl, hdue, -⟩, rfl⟩ := fire_eq_some hfire
  refine ⟨fun hmem => ?_, h.channel, fun readyAt' hmem => ?_⟩
  · rcases WorkQueue.eq_or_mem_of_mem_dirty_add hmem with heq | hmem
    · exact (h.waiting readyAt (heq ▸ hentry)).trans hdue
    · exact h.dirty hmem
  · exact h.waiting readyAt' (List.mem_filter.mp hmem).1

end DelayingQueue

/-! ## Delays that grow with the failures -/

/-- The delay that an item's failures so far give it: doubled each time, up to a
limit.  Durations are 64-bit, so a product above that range gives the limit too. -/
def exponentialDelay (baseDelay maxDelay failures : Nat) : Nat :=
  let backoff := baseDelay * 2 ^ failures
  if 2 ^ 63 - 1 < backoff then maxDelay
  else if maxDelay < backoff then maxDelay
  else backoff

theorem exponentialDelay_eq_min {baseDelay maxDelay : Nat} (h : maxDelay ≤ 2 ^ 63 - 1)
    (failures : Nat) :
    exponentialDelay baseDelay maxDelay failures = min (baseDelay * 2 ^ failures) maxDelay := by
  simp only [exponentialDelay]
  split_ifs <;> omega

theorem exponentialDelay_mono {baseDelay maxDelay : Nat} (h : maxDelay ≤ 2 ^ 63 - 1)
    {failures failures' : Nat} (hle : failures ≤ failures') :
    exponentialDelay baseDelay maxDelay failures ≤
      exponentialDelay baseDelay maxDelay failures' := by
  rw [exponentialDelay_eq_min h, exponentialDelay_eq_min h]
  have hpow : baseDelay * 2 ^ failures ≤ baseDelay * 2 ^ failures' :=
    Nat.mul_le_mul_left _ (Nat.pow_le_pow_right (by decide) hle)
  exact min_le_min_right _ hpow

end ControlLoop
