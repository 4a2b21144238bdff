/-
Every request is eventually taken up.  As long as the controller is not stopped, and
if its workers, its handlers and the waiting loop of its queue go on and time passes,
a key that is owed a sync is started on.
-/
import Navigator.Base.LeadsTo
import Navigator.Workers

namespace Navigator

open ControlLoop

namespace Workers

section

variable {K : Type} [DecidableEq K] {n m : Nat} {enqueue : Fin m → Enqueue}

/-- The stop channel stays open. -/
def noStop : Controller n m K → Event n m K → Prop := fun _ e => e ≠ .stop

/-- A run of a controller that is never stopped. -/
abbrev OpenRun (n : Nat) {m : Nat} (enqueue : Fin m → Enqueue) (K : Type) [DecidableEq K] :=
  (machine n enqueue K).Run noStop

/-- What keeps the controller going: a sync that was started returns and its worker
goes on, a handler's call goes on, an idle worker takes what is in the queue, the
waiting loop reads its channel and adds what is due, and time passes. -/
structure Fair (run : OpenRun n enqueue K) : Prop where
  worker : ∀ i w, (run.state i).worker w ≠ .idle →
    ∃ j, i ≤ j ∧ (run.state j).worker w ≠ (run.state i).worker w
  handler : ∀ i h call, (run.state i).handler h = some call →
    ∃ j, i ≤ j ∧ (run.state j).handler h ≠ some call
  get : ∀ i w, (run.state i).queue.active.queue ≠ [] → (run.state i).worker w = .idle →
    ∃ j w', i ≤ j ∧ run.event j = some (.get w')
  receive : ∀ i, (run.state i).queue.waitingForAddCh ≠ [] →
    ∃ j, i ≤ j ∧ run.event j = some .receive
  fire : ∀ i, (∃ entry ∈ (run.state i).queue.waiting, entry.2 ≤ (run.state i).queue.clock) →
    ∃ j item, i ≤ j ∧ run.event j = some (.fire item)
  time : ∀ i t, ∃ j, i ≤ j ∧ t ≤ (run.state j).queue.clock

theorem stepAt {run : OpenRun n enqueue K} {i : Nat} {e : Event n m K}
    (h : run.event i = some e) : (run.state i).step enqueue e = some (run.state (i + 1)) :=
  run.step_of_event h

/-! ## A controller that is not stopped -/

namespace Controller

structure Open (c : Controller n m K) : Prop where
  stopCh : c.stopCh = false
  queue : c.queue.active.shuttingDown = false
  worker : ∀ w, c.worker w ≠ .stopped

theorem Open.setWorker {c : Controller n m K} (h : c.Open) (w : Fin n) {worker : Worker K}
    (hworker : worker ≠ .stopped) : (c.setWorker w worker).Open := by
  refine ⟨h.stopCh, h.queue, fun w' => ?_⟩
  rw [setWorker_worker]
  by_cases heq : w' = w
  · rw [heq, Function.update_self]
    exact hworker
  · rw [Function.update_of_ne heq]
    exact h.worker w'

theorem Open.setQueue {c : Controller n m K} (h : c.Open) {queue : DelayingQueue K}
    (hqueue : queue.active.shuttingDown = c.queue.active.shuttingDown) :
    (c.setQueue queue).Open :=
  ⟨h.stopCh, hqueue.trans h.queue, h.worker⟩

theorem Open.step {c c' : Controller n m K} {e : Event n m K} (h : c.Open)
    (hstep : c.step enqueue e = some c') (hne : e ≠ .stop) : c'.Open := by
  cases step_effect hstep with
  | notifyAdd => exact h.setQueue (WorkQueue.add_shuttingDown _ _)
  | notifyLimited | drop => exact ⟨h.stopCh, h.queue, h.worker⟩
  | resume _ hadvance =>
      exact ⟨h.stopCh, (Call.advance_grown hadvance).shuttingDown.trans h.queue, h.worker⟩
  | launch => exact h.setWorker _ (by simp)
  | cancel _ hstop =>
      rw [h.stopCh] at hstop
      cases hstop
  | get _ hget =>
      exact (h.setQueue (WorkQueue.get_eq_some hget).2.2.2).setWorker _ (by simp)
  | quit _ _ hdown =>
      rw [h.queue] at hdown
      cases hdown
  | @succeed w item =>
      have hforget : (c.forget item).Open := ⟨h.stopCh, h.queue, h.worker⟩
      exact hforget.setWorker _ (by simp)
  | @fail w item =>
      have hcount : (c.count item).Open := ⟨h.stopCh, h.queue, h.worker⟩
      exact hcount.setWorker _ (by simp)
  | requeue _ hadvance =>
      exact (h.setQueue (Call.advance_grown hadvance).shuttingDown).setWorker _
        (running_of_item (item_afterCall hadvance)).2
  | abandon => exact h.setWorker _ (by simp)
  | done => exact (h.setQueue (WorkQueue.done_shuttingDown _ _)).setWorker _ (by simp)
  | receive hreceive => exact h.setQueue (DelayingQueue.receive_grown hreceive).shuttingDown
  | fire hfire => exact h.setQueue (DelayingQueue.fire_grown hfire).shuttingDown
  | tick => exact h.setQueue rfl
  | stop => exact absurd rfl hne
  | shutDown hstop =>
      rw [h.stopCh] at hstop
      cases hstop

end Controller

theorem open_of_reachable {c : Controller n m K}
    (h : (machine n enqueue K).Reachable noStop c) : c.Open :=
  h.invariant Controller.Open (fun _ hinit => hinit ▸ ⟨rfl, rfl, by simp⟩)
    fun _ _ _ hopen hne hstep => hopen.step hstep hne

/-! ## Every worker comes back for the next key -/

/-- How much a worker has to do before it is idle. -/
def Worker.rank : Worker K → Nat
  | .syncing _ => 5
  | .requeuing (.addAfter _ _) => 4
  | .requeuing (.send _ _) => 3
  | .finishing _ => 2
  | .starting => 1
  | .idle => 0
  | .stopped => 0

namespace Controller

theorem rank_afterCall {queue queue' : DelayingQueue K} {call : Call K} {rest : Option (Call K)}
    (h : call.advance queue = some (queue', rest)) :
    (afterCall call rest).rank < (Worker.requeuing call).rank := by
  obtain ⟨_, _, rfl, _, _, rfl⟩ | ⟨_, rfl, _, _, rfl⟩ | ⟨_, _, rfl, _, _, rfl⟩ |
    ⟨_, _, rfl, _, rfl⟩ := Call.advance_cases h <;>
    simp [afterCall, Worker.rank]

/-- A busy worker stays where it is or gets closer to being idle. -/
theorem rank_step {c c' : Controller n m K} {e : Event n m K} (hopen : c.Open)
    (hstep : c.step enqueue e = some c') {w : Fin n} (hbusy : c.worker w ≠ .idle) :
    c'.worker w = c.worker w ∨ (c'.worker w).rank < (c.worker w).rank := by
  have hupdate : ∀ w' next, (w = w' → next.rank < (c.worker w).rank) →
      Function.update c.worker w' next w = c.worker w ∨
        (Function.update c.worker w' next w).rank < (c.worker w).rank := by
    intro w' next hnext
    by_cases heq : w = w'
    · rw [← heq, Function.update_self]
      exact .inr (hnext heq)
    · exact .inl (Function.update_of_ne heq _ _)
  cases step_effect hstep with
  | notifyAdd | notifyLimited | resume | drop | receive | fire | tick | stop | shutDown =>
      exact .inl rfl
  | launch hworker =>
      exact hupdate _ _ fun heq => by rw [heq, hworker]; simp [Worker.rank]
  | cancel _ hstop =>
      rw [hopen.stopCh] at hstop
      cases hstop
  | get hidle =>
      refine hupdate _ _ fun heq => absurd ?_ hbusy
      rw [heq, hidle]
  | quit _ _ hdown =>
      rw [hopen.queue] at hdown
      cases hdown
  | succeed hworker | fail hworker =>
      exact hupdate _ _ fun heq => by rw [heq, hworker]; simp [Worker.rank]
  | requeue hworker hadvance =>
      refine hupdate _ _ fun heq => ?_
      rw [heq, hworker]
      exact rank_afterCall hadvance
  | @abandon w' call hworker =>
      refine hupdate _ _ fun heq => ?_
      rw [heq, hworker]
      cases call <;> simp [Worker.rank]
  | done hworker =>
      exact hupdate _ _ fun heq => by rw [heq, hworker]; simp [Worker.rank]

end Controller

/-! ## What one step does to a request -/

namespace Controller

variable {c c' : Controller n m K} {e : Event n m K} {item : K}

/-- A worker takes the key, or the key moves up in the queue. -/
theorem queue_get {w : Fin n} (hget : c.step enqueue (.get w) = some c')
    (hmem : item ∈ c.queue.active.queue) :
    c'.worker w = .syncing item ∨ item ∈ c'.queue.active.queue ∧
      c'.queue.active.queue.idxOf item < c.queue.active.queue.idxOf item := by
  cases step_effect hget with
  | @get _ taken active hidle hactive =>
      have hqueue := (WorkQueue.get_eq_some hactive).1
      by_cases heq : item = taken
      · exact .inl (by simp [heq])
      · rw [hqueue] at hmem ⊢
        refine .inr ⟨(List.mem_cons.mp hmem).resolve_left heq, ?_⟩
        rw [List.idxOf_cons_ne _ (Ne.symm heq)]
        exact Nat.lt_succ_self _

/-- Nothing is put into the queue before a key that is in it. -/
theorem queue_step (hstep : c.step enqueue e = some c') (hmem : item ∈ c.queue.active.queue) :
    (∃ w, e = .get w ∧ c'.worker w = .syncing item) ∨ item ∈ c'.queue.active.queue ∧
      c'.queue.active.queue.idxOf item ≤ c.queue.active.queue.idxOf item := by
  have hlonger : c.queue.active.queue <+: c'.queue.active.queue →
      item ∈ c'.queue.active.queue ∧
        c'.queue.active.queue.idxOf item ≤ c.queue.active.queue.idxOf item := by
    rintro ⟨rest, hrest⟩
    rw [← hrest]
    exact ⟨List.mem_append_left _ hmem, (List.idxOf_append_of_mem hmem).le⟩
  cases step_kind hstep with
  | @get w taken hidle hget hworker =>
      rcases queue_get hstep hmem with hstart | ⟨hmem', hless⟩
      · exact .inl ⟨w, rfl, hstart⟩
      · exact .inr ⟨hmem', hless.le⟩
  | done _ hactive => exact .inr (hlonger (hactive ▸ WorkQueue.queue_prefix_done _ _))
  | shutDown hactive => exact .inr (hlonger (by rw [hactive]; exact List.prefix_refl _))
  | other hgrown => exact .inr (hlonger hgrown.queue_prefix)

/-- A key that is asked for while a worker has it goes to the queue when the worker
gives it back. -/
theorem held_step {w : Fin n} (hsound : c.Sound) (hstep : c.step enqueue e = some c')
    (hdirty : item ∈ c.queue.active.dirty) (hheld : (c.worker w).item = some item) :
    item ∈ c'.queue.active.dirty ∧ (c'.worker w).item = some item ∨
      item ∈ c'.queue.active.queue := by
  have hprocessing := (hsound.processing item).mpr ⟨w, hheld⟩
  have hdirty' : item ∈ c'.queue.active.dirty := by
    cases step_kind hstep with
    | get _ hget =>
        rw [(WorkQueue.get_eq_some hget).2.2.1]
        refine Finset.mem_erase.mpr ⟨?_, hdirty⟩
        rintro rfl
        exact (hsound.valid.get hget).2.1 hprocessing
    | done _ hactive => rwa [hactive, WorkQueue.done_dirty]
    | shutDown hactive => rwa [hactive]
    | other hgrown => exact hgrown.dirty_subset hdirty
  rcases item_step hstep hheld with hheld' | rfl
  · exact .inl ⟨hdirty', hheld'⟩
  · refine .inr (((hsound.step hstep).valid.mem_queue item).mpr ⟨hdirty', ?_⟩)
    cases step_effect hstep with
    | done hworker =>
        rw [hworker, Worker.item, Option.some.injEq] at hheld
        simp [hheld]

/-- An entry of the waiting loop becomes due no later, until the loop adds its key. -/
theorem waiting_step (hopen : c.Open) (hstep : c.step enqueue e = some c') {time : Nat}
    (hentry : ∃ readyAt ≤ time, (item, readyAt) ∈ c.queue.waiting) :
    (∃ readyAt ≤ time, (item, readyAt) ∈ c'.queue.waiting) ∨ item ∈ c'.queue.active.dirty := by
  obtain ⟨readyAt, hready, hmem⟩ := hentry
  have hsame : c'.queue.waiting = c.queue.waiting →
      (∃ readyAt ≤ time, (item, readyAt) ∈ c'.queue.waiting) ∨ item ∈ c'.queue.active.dirty :=
    fun heq => .inl ⟨readyAt, hready, heq ▸ hmem⟩
  cases step_effect hstep with
  | resume _ hadvance | requeue _ hadvance => exact hsame (Call.advance_waiting hadvance)
  | @receive queue hreceive =>
      obtain ⟨other, otherReadyAt, rest, -, ⟨-, rfl⟩ | ⟨-, rfl⟩⟩ :=
        DelayingQueue.receive_cases hreceive
      · obtain ⟨readyAt', hle, hmem'⟩ := exists_le_of_mem_waiting hmem
        exact .inl ⟨readyAt', hle.trans hready, hmem'⟩
      · exact hsame rfl
  | @fire other queue hfire =>
      obtain ⟨-, rfl⟩ := DelayingQueue.fire_eq_some hfire
      by_cases heq : item = other
      · exact .inr ((WorkQueue.mem_dirty_add hopen.queue other item).mpr (.inl heq))
      · refine .inl ⟨readyAt, hready, List.mem_filter.mpr ⟨hmem, ?_⟩⟩
        simpa using heq
  | _ => exact hsame rfl

/-- No later entry gets before the ones that are due. -/
theorem countDue_step (hstep : c.step enqueue e = some c') {time : Nat}
    (htime : time ≤ c.queue.clock) :
    countDue time c'.queue.waiting ≤ countDue time c.queue.waiting := by
  cases step_effect hstep with
  | resume _ hadvance | requeue _ hadvance =>
      exact (congrArg (countDue time) (Call.advance_waiting hadvance)).le
  | @receive queue hreceive =>
      obtain ⟨other, readyAt, rest, -, ⟨hlater, rfl⟩ | ⟨-, rfl⟩⟩ :=
        DelayingQueue.receive_cases hreceive
      · exact (countDue_insertWaiting (by omega) other c.queue.waiting).le
      · exact le_refl _
  | @fire other queue hfire =>
      obtain ⟨-, rfl⟩ := DelayingQueue.fire_eq_some hfire
      exact countDue_filter_le _ _ _
  | _ => exact le_refl _

/-- The loop adds an entry that is due. -/
theorem countDue_fire {other : K} (hfire : c.step enqueue (.fire other) = some c') {time : Nat}
    (hentry : ∃ readyAt ≤ time, (item, readyAt) ∈ c.queue.waiting) :
    countDue time c'.queue.waiting < countDue time c.queue.waiting := by
  obtain ⟨readyAt, hready, hmem⟩ := hentry
  cases step_effect hfire with
  | fire hqueue =>
      obtain ⟨⟨entry, hentry, rfl, -, hfront⟩, rfl⟩ := DelayingQueue.fire_eq_some hqueue
      exact countDue_filter_lt hentry ((hfront _ hmem).trans hready)

/-- How many entries of the channel are read before the first one of the key. -/
def channelIdx (c : Controller n m K) (item : K) : Nat :=
  (c.queue.waitingForAddCh.map Prod.fst).idxOf item

/-- The waiting loop reads an entry: it is the key's, or the key's entry moves up. -/
theorem channel_receive (hopen : c.Open) (hreceive : c.step enqueue .receive = some c')
    (hmem : item ∈ c.queue.waitingForAddCh.map Prod.fst) :
    (item ∈ c'.queue.waiting.map Prod.fst ∨ item ∈ c'.queue.active.dirty) ∨
      item ∈ c'.queue.waitingForAddCh.map Prod.fst ∧ c'.channelIdx item < c.channelIdx item := by
  cases step_effect hreceive with
  | @receive queue hqueue =>
      obtain ⟨other, readyAt, rest, hch, hcases⟩ := DelayingQueue.receive_cases hqueue
      rw [hch, List.map_cons, List.mem_cons] at hmem
      by_cases heq : item = other
      · refine .inl ?_
        obtain ⟨-, rfl⟩ | ⟨-, rfl⟩ := hcases
        · exact .inl (mem_keys_insertWaiting.mpr (.inl heq))
        · exact .inr ((WorkQueue.mem_dirty_add hopen.queue other item).mpr (.inl heq))
      · have hrest : queue.waitingForAddCh = rest := by
          obtain ⟨-, rfl⟩ | ⟨-, rfl⟩ := hcases <;> rfl
        refine .inr ⟨?_, ?_⟩
        · rw [setQueue_queue, hrest]
          exact hmem.resolve_left heq
        · rw [channelIdx, channelIdx, setQueue_queue, hrest, hch, List.map_cons,
            List.idxOf_cons_ne _ (Ne.symm heq)]
          exact Nat.lt_succ_self _

/-- The entries of the channel are read in order. -/
theorem channel_step (hopen : c.Open) (hstep : c.step enqueue e = some c')
    (hmem : item ∈ c.queue.waitingForAddCh.map Prod.fst) :
    (item ∈ c'.queue.waiting.map Prod.fst ∨ item ∈ c'.queue.active.dirty) ∨
      item ∈ c'.queue.waitingForAddCh.map Prod.fst ∧ c'.channelIdx item ≤ c.channelIdx item := by
  have hlonger : c.queue.waitingForAddCh <+: c'.queue.waitingForAddCh →
      item ∈ c'.queue.waitingForAddCh.map Prod.fst ∧ c'.channelIdx item ≤ c.channelIdx item := by
    rintro ⟨rest, hrest⟩
    rw [channelIdx, channelIdx, ← hrest, List.map_append]
    exact ⟨List.mem_append_left _ hmem, (List.idxOf_append_of_mem hmem).le⟩
  cases step_effect hstep with
  | resume _ hadvance | requeue _ hadvance =>
      exact .inr (hlonger (Call.advance_channel hadvance))
  | receive =>
      exact (channel_receive hopen hstep hmem).imp_right fun ⟨hmem', hless⟩ => ⟨hmem', hless.le⟩
  | fire hfire =>
      obtain ⟨-, rfl⟩ := DelayingQueue.fire_eq_some hfire
      exact .inr (hlonger (List.prefix_refl _))
  | _ => exact .inr (hlonger (List.prefix_refl _))

/-- The call of a worker gets its key into the queue. -/
theorem workerCall_step (hopen : c.Open) (hstep : c.step enqueue e = some c') {w : Fin n}
    (hcall : ∃ call, c.worker w = .requeuing call ∧ call.item = item) :
    (∃ call, c'.worker w = .requeuing call ∧ call.item = item) ∨ c'.queue.Holds item := by
  obtain ⟨call, hworker, hitem⟩ := hcall
  have hother : ∀ w' next, (∀ call, c.worker w' ≠ .requeuing call) →
      Function.update c.worker w' next w = .requeuing call := by
    intro w' next hne
    rw [Function.update_of_ne]
    · exact hworker
    · rintro rfl
      exact hne call hworker
  cases step_effect hstep with
  | notifyAdd | notifyLimited | resume | drop | receive | fire | tick | stop | shutDown =>
      exact .inl ⟨call, hworker, hitem⟩
  | launch hw | cancel hw | quit hw | succeed hw | fail hw | done hw =>
      exact .inl ⟨call, hother _ _ (by simp [hw]), hitem⟩
  | get hw => exact .inl ⟨call, hother _ _ (by simp [hw]), hitem⟩
  | abandon _ habandoned =>
      rw [Call.not_abandoned hopen.queue] at habandoned
      cases habandoned
  | @requeue w' call' queue rest hw hadvance =>
      by_cases heq : w = w'
      · obtain rfl : call = call' := by
          rw [heq, hw, Worker.requeuing.injEq] at hworker
          exact hworker.symm
        rcases (Call.advance_holds hopen.queue hadvance).2 with hholds | ⟨next, hnext, hsame⟩
        · exact .inr (hitem ▸ hholds)
        · exact .inl ⟨next, by simp [heq, hnext, afterCall], hsame.trans hitem⟩
      · exact .inl ⟨call, by simp [Function.update_of_ne heq, hworker], hitem⟩

/-- The call of a handler goes on in the same way. -/
theorem handlerCall_step (hopen : c.Open) (hstep : c.step enqueue e = some c') {h : Fin m}
    {call : Call K} (hcall : c.handler h = some call) (hitem : call.item = item) :
    c'.handler h = some call ∨ c'.queue.Holds item ∨
      ∃ readyAt, c'.handler h = some (.send item readyAt) ∧
        ∃ duration, call = .addAfter item duration := by
  cases step_effect hstep with
  | @notifyLimited h' other bucket _ hfree =>
      refine .inl ?_
      rw [setHandler_handler, Function.update_of_ne]
      · exact hcall
      · rintro rfl
        rw [hfree] at hcall
        cases hcall
  | drop _ habandoned =>
      rw [Call.not_abandoned hopen.queue] at habandoned
      cases habandoned
  | @resume h' call' queue rest hh hadvance =>
      by_cases heq : h = h'
      · obtain rfl : call = call' := by
          rw [heq, hh, Option.some.injEq] at hcall
          exact hcall.symm
        refine .inr ?_
        rcases (Call.advance_holds hopen.queue hadvance).2 with hholds | ⟨next, hnext, -⟩
        · exact .inl (hitem ▸ hholds)
        · obtain ⟨_, _, rfl, _, _, hrest⟩ | ⟨_, rfl, _, _, hrest⟩ |
            ⟨other, duration, rfl, _, _, hrest⟩ | ⟨_, _, rfl, _, hrest⟩ :=
            Call.advance_cases hadvance
          · cases hrest.symm.trans hnext
          · cases hrest.symm.trans hnext
          · obtain rfl : other = item := hitem
            exact .inr ⟨c.queue.clock + duration, by simp [heq, hrest], duration, rfl⟩
          · cases hrest.symm.trans hnext
      · refine .inl ?_
        rw [setHandler_handler, Function.update_of_ne heq]
        exact hcall
  | _ => exact .inl hcall

end Controller

section Progress

variable {run : OpenRun n enqueue K} (hfair : Fair run)
include hfair

theorem leadsTo_idle (w : Fin n) :
    run.LeadsTo (fun _ => True) fun c => c.worker w = .idle := by
  refine .of_measure (fun c => (c.worker w).rank) fun bound i ⟨_, hbound⟩ => ?_
  by_cases hidle : (run.state i).worker w = .idle
  · exact ⟨i, le_refl i, .inl hidle⟩
  · obtain ⟨j, hij, hchanged⟩ := hfair.worker i w hidle
    have hunless : Machine.Run.Unless (machine n enqueue K) noStop
        (fun c => c.worker w = (run.state i).worker w) (fun c => (c.worker w).rank < bound) := by
      intro c e c' hreach hsame _ hstep
      rcases Controller.rank_step (open_of_reachable hreach) hstep (hsame ▸ hidle) with heq | hless
      · exact .inl (heq.trans hsame)
      · exact .inr (by rwa [hsame, hbound] at hless)
    rcases run.holds_or_exists hunless hij rfl with hsame | ⟨k, hik, _, hless⟩
    · exact absurd hsame hchanged
    · exact ⟨k, hik, .inr ⟨trivial, hless⟩⟩

/-- A key in the queue is taken: with every `Get` it moves up. -/
theorem leadsTo_syncing (hn : 0 < n) (item : K) :
    run.LeadsTo (fun c => item ∈ c.queue.active.queue)
      fun c => ∃ w, c.worker w = .syncing item := by
  refine .of_measure (fun c => c.queue.active.queue.idxOf item) fun bound => ?_
  have hunless : Machine.Run.Unless (machine n enqueue K) noStop
      (fun c => item ∈ c.queue.active.queue ∧ c.queue.active.queue.idxOf item = bound)
      (fun c => (∃ w, c.worker w = .syncing item) ∨
        item ∈ c.queue.active.queue ∧ c.queue.active.queue.idxOf item < bound) := by
    intro c e c' _ ⟨hmem, hbound⟩ _ hstep
    rcases Controller.queue_step hstep hmem with ⟨w, -, hstart⟩ | ⟨hmem', hle⟩
    · exact .inr (.inl ⟨w, hstart⟩)
    · rcases (hbound ▸ hle).lt_or_eq with hless | heq
      · exact .inr (.inr ⟨hmem', hless⟩)
      · exact .inl ⟨hmem', heq⟩
  refine .of_unless hunless fun i _ => ?_
  -- at some later moment a worker is idle, and then some worker takes a key
  obtain ⟨j, hij, hidle⟩ := leadsTo_idle hfair ⟨0, hn⟩ i trivial
  refine ⟨j, hij, fun hj => ?_⟩
  obtain ⟨k, w, hjk, hget⟩ := hfair.get j ⟨0, hn⟩ (List.ne_nil_of_mem hj.1) hidle
  rcases run.holds_or_exists hunless hjk hj with ⟨hmem, hbound⟩ | ⟨l, hjl, _, hreached⟩
  · refine ⟨k + 1, by omega, ?_⟩
    rcases Controller.queue_get (stepAt hget) hmem with hstart | ⟨hmem', hless⟩
    · exact .inl ⟨w, hstart⟩
    · exact .inr ⟨hmem', hbound ▸ hless⟩
  · exact ⟨l, hij.trans hjl, hreached⟩

/-- A key that is asked for is in the queue, or gets there when the worker that has it
gives it back. -/
theorem leadsTo_queue (item : K) :
    run.LeadsTo (fun c => item ∈ c.queue.active.dirty) fun c => item ∈ c.queue.active.queue := by
  have hheld : ∀ w, run.LeadsTo
      (fun c => item ∈ c.queue.active.dirty ∧ (c.worker w).item = some item)
      (fun c => item ∈ c.queue.active.queue) := by
    intro w
    refine .of_unless (fun c e c' hreach ⟨hdirty, hitem⟩ _ hstep =>
      Controller.held_step (sound_of_reachable hreach) hstep hdirty hitem) fun i _ => ?_
    obtain ⟨j, hij, hidle⟩ := leadsTo_idle hfair w i trivial
    refine ⟨j, hij, fun ⟨_, hitem⟩ => ?_⟩
    rw [hidle] at hitem
    cases hitem
  refine .of_invariant (fun c hreach => sound_of_reachable hreach) fun i ⟨hsound, hdirty⟩ => ?_
  by_cases hprocessing : item ∈ (run.state i).queue.active.processing
  · obtain ⟨w, hw⟩ := (hsound.processing item).mp hprocessing
    exact hheld w i ⟨hdirty, hw⟩
  · exact ⟨i, le_refl i, (hsound.valid.mem_queue item).mpr ⟨hdirty, hprocessing⟩⟩

/-- The waiting loop adds the entries that are due, one after the other. -/
theorem leadsTo_dirty_of_due (item : K) (time : Nat) :
    run.LeadsTo (fun c => time ≤ c.queue.clock ∧
        ∃ readyAt ≤ time, (item, readyAt) ∈ c.queue.waiting)
      fun c => item ∈ c.queue.active.dirty := by
  refine .of_measure (fun c => countDue time c.queue.waiting) fun bound => ?_
  refine .of_event ?_ fun i ⟨⟨htime, readyAt, hready, hmem⟩, _⟩ => ?_
  · intro c e c' hreach ⟨⟨htime, hentry⟩, hbound⟩ _ hstep
    have htime' := htime.trans (Controller.clock_step hstep)
    rcases Controller.waiting_step (open_of_reachable hreach) hstep hentry with hentry' | hdirty
    · rcases (hbound ▸ Controller.countDue_step hstep htime).lt_or_eq with hless | heq
      · exact .inr (.inr ⟨⟨htime', hentry'⟩, hless⟩)
      · exact .inl ⟨⟨htime', hentry'⟩, heq⟩
    · exact .inr (.inl hdirty)
  · obtain ⟨j, other, hij, hfire⟩ := hfair.fire i ⟨_, hmem, hready.trans htime⟩
    refine ⟨j, _, hij, hfire, fun next ⟨⟨htime, hentry⟩, hbound⟩ hstep => ?_⟩
    change (run.state j).step enqueue (.fire other) = some next at hstep
    have hopen := open_of_reachable (run.reachable j)
    rcases Controller.waiting_step hopen hstep hentry with hentry' | hdirty
    · exact .inr ⟨⟨htime.trans (Controller.clock_step hstep), hentry'⟩,
        hbound ▸ Controller.countDue_fire hstep hentry⟩
    · exact .inl hdirty

theorem leadsTo_dirty_of_waiting (item : K) :
    run.LeadsTo (fun c => item ∈ c.queue.waiting.map Prod.fst)
      fun c => item ∈ c.queue.active.dirty := by
  have hentry : ∀ time, run.LeadsTo
      (fun c => ∃ readyAt ≤ time, (item, readyAt) ∈ c.queue.waiting)
      (fun c => item ∈ c.queue.active.dirty) := by
    intro time
    refine .of_unless (fun c e c' hreach hentry _ hstep =>
      Controller.waiting_step (open_of_reachable hreach) hstep hentry) fun i _ => ?_
    -- the time of the entry comes
    obtain ⟨j, hij, hclock⟩ := hfair.time i time
    refine ⟨j, hij, fun hwaiting => ?_⟩
    obtain ⟨k, hjk, hdirty⟩ := leadsTo_dirty_of_due hfair item time j ⟨hclock, hwaiting⟩
    exact ⟨k, hij.trans hjk, hdirty⟩
  intro i hmem
  obtain ⟨⟨_, readyAt⟩, hwaiting, rfl⟩ := List.mem_map.mp hmem
  exact hentry readyAt i ⟨readyAt, le_refl _, hwaiting⟩

/-- The waiting loop reads its channel. -/
theorem leadsTo_of_channel (item : K) :
    run.LeadsTo (fun c => item ∈ c.queue.waitingForAddCh.map Prod.fst)
      fun c => item ∈ c.queue.waiting.map Prod.fst ∨ item ∈ c.queue.active.dirty := by
  refine .of_measure (fun c => c.channelIdx item) fun bound => ?_
  refine .of_event ?_ fun i ⟨hmem, _⟩ => ?_
  · intro c e c' hreach ⟨hmem, hbound⟩ _ hstep
    rcases Controller.channel_step (open_of_reachable hreach) hstep hmem with
      hreached | ⟨hmem', hle⟩
    · exact .inr (.inl hreached)
    · rcases (hbound ▸ hle).lt_or_eq with hless | heq
      · exact .inr (.inr ⟨hmem', hless⟩)
      · exact .inl ⟨hmem', heq⟩
  · have hnonempty : (run.state i).queue.waitingForAddCh ≠ [] := by
      intro hnil
      rw [hnil] at hmem
      cases hmem
    obtain ⟨j, hij, hreceive⟩ := hfair.receive i hnonempty
    refine ⟨j, _, hij, hreceive, fun next ⟨hmem, hbound⟩ hstep => ?_⟩
    change (run.state j).step enqueue .receive = some next at hstep
    exact (Controller.channel_receive (open_of_reachable (run.reachable j)) hstep hmem).imp_right
      fun ⟨hmem', hless⟩ => ⟨hmem', hbound ▸ hless⟩

theorem leadsTo_dirty_of_holds (item : K) :
    run.LeadsTo (fun c => c.queue.Holds item) fun c => item ∈ c.queue.active.dirty := by
  have hwaiting := leadsTo_dirty_of_waiting hfair item
  have hdirty : run.LeadsTo (fun c => item ∈ c.queue.active.dirty)
      fun c => item ∈ c.queue.active.dirty := .of_imp fun _ => id
  exact hdirty.or (((leadsTo_of_channel hfair item).trans (hwaiting.or hdirty)).or hwaiting)

/-- A call that adds the key gets it into the queue. -/
theorem leadsTo_holds_of_workerCall (w : Fin n) (item : K) :
    run.LeadsTo (fun c => ∃ call, c.worker w = .requeuing call ∧ call.item = item)
      fun c => c.queue.Holds item := by
  refine .of_unless (fun c e c' hreach hcall _ hstep =>
    Controller.workerCall_step (open_of_reachable hreach) hstep hcall) fun i _ => ?_
  obtain ⟨j, hij, hidle⟩ := leadsTo_idle hfair w i trivial
  refine ⟨j, hij, fun ⟨call, hcall, _⟩ => ?_⟩
  rw [hidle] at hcall
  cases hcall

theorem leadsTo_holds_of_handlerCall (h : Fin m) (item : K) :
    run.LeadsTo (fun c => ∃ call, c.handler h = some call ∧ call.item = item)
      fun c => c.queue.Holds item := by
  have hcall : ∀ call : Call K, call.item = item →
      run.LeadsTo (fun c => c.handler h = some call) (fun c => c.queue.Holds item ∨
        ∃ readyAt, c.handler h = some (.send item readyAt) ∧
          ∃ duration, call = .addAfter item duration) := by
    intro call hitem
    refine .of_unless (fun c e c' hreach hhandler _ hstep =>
      Controller.handlerCall_step (open_of_reachable hreach) hstep hhandler hitem)
      fun i hhandler => ?_
    obtain ⟨j, hij, hchanged⟩ := hfair.handler i h call hhandler
    exact ⟨j, hij, fun hsame => absurd hsame hchanged⟩
  have hsend : ∀ readyAt, run.LeadsTo (fun c => c.handler h = some (.send item readyAt))
      fun c => c.queue.Holds item := by
    intro readyAt
    refine (hcall (.send item readyAt) rfl).trans (.of_imp fun c hc => ?_)
    obtain hholds | ⟨_, _, _, hadd⟩ := hc
    · exact hholds
    · cases hadd
  refine .exists fun call i ⟨hhandler, hitem⟩ => ?_
  obtain ⟨j, hij, hholds | ⟨readyAt, hsending, _⟩⟩ := hcall call hitem i hhandler
  · exact ⟨j, hij, hholds⟩
  · obtain ⟨k, hjk, hholds⟩ := hsend readyAt j hsending
    exact ⟨k, hij.trans hjk, hholds⟩

theorem leadsTo_queue_of_owed (item : K) :
    run.LeadsTo (fun c => c.Owed item) fun c => item ∈ c.queue.active.queue := by
  have hholds : run.LeadsTo (fun c => c.queue.Holds item)
      fun c => item ∈ c.queue.active.queue :=
    (leadsTo_dirty_of_holds hfair item).trans (leadsTo_queue hfair item)
  have hworker := Machine.Run.LeadsTo.exists fun w =>
    (leadsTo_holds_of_workerCall hfair w item).trans hholds
  have hhandler := Machine.Run.LeadsTo.exists fun h =>
    (leadsTo_holds_of_handlerCall hfair h item).trans hholds
  exact hholds.or (hworker.or hhandler)

/-- Every request is eventually taken up: along every fair run of a controller that is
not stopped, a worker starts a sync of the key after the moment of the request. -/
theorem owed_eventually_started (hn : 0 < n) {item : K} {i : Nat}
    (howed : (run.state i).Owed item) :
    ∃ j w, i ≤ j ∧ run.event j = some (.get w) ∧
      (run.state (j + 1)).worker w = .syncing item := by
  obtain ⟨j, hij, hqueued⟩ := leadsTo_queue_of_owed hfair item i howed
  obtain ⟨k, hjk, w, hsyncing⟩ := leadsTo_syncing hfair hn item j hqueued
  have hsound := sound_of_reachable (run.reachable k)
  have hnot : item ∉ (run.state k).queue.active.queue := fun hmem =>
    ((hsound.valid.mem_queue item).mp hmem).2
      ((hsound.processing item).mpr ⟨w, by rw [hsyncing]; rfl⟩)
  -- the key leaves the queue in a step, which is a worker taking it
  obtain ⟨l, e, hjl, -, hevent, hmem, hgone⟩ :=
    run.exists_event_of_not (P := fun c => item ∈ c.queue.active.queue) hjk hqueued hnot
  obtain ⟨w', rfl, hstart⟩ := (Controller.queue_step (stepAt hevent) hmem).resolve_right
    fun ⟨hmem', _⟩ => hgone hmem'
  exact ⟨l, w', hij.trans hjl, hevent, hstart⟩

end Progress

end

namespace WorkerProgressWitness

-- two workers and the goroutine that calls the handlers
def first : Fin 2 := .castSucc (.last 0)

def second : Fin 2 := .last 1

def caller : Fin 1 := .last 0

/-- The handlers of the Elasticsearch controller add keys directly. -/
def elasticsearch (_ : Fin 1) : Enqueue := .add

/-- The sync of a cluster fails at one worker; after the delay the other worker syncs it.
From then on only time passes. -/
def event : Nat → Event 2 1 String
  | 0 => .launch first
  | 1 => .launch second
  | 2 => .notify caller "default/db" 0
  | 3 => .get first
  | 4 => .fail first 0
  | 5 => .requeue first
  | 6 => .requeue first
  | 7 => .done first
  | 8 => .receive
  | 9 => .tick (5 * 10 ^ 6)
  | 10 => .fire "default/db"
  | 11 => .get second
  | 12 => .succeed second
  | 13 => .done second
  | _ => .tick 1

def state : Nat → Controller 2 1 String
  | 0 => {}
  | i + 1 => ((state i).step elasticsearch (event i)).getD {}

theorem event_ne_stop (i : Nat) : event i ≠ .stop := by
  unfold event
  split <;> simp

theorem step_event (i : Nat) :
    (state i).step elasticsearch (event i) = some (state (i + 1)) := by
  rcases i with _ | _ | _ | _ | _ | _ | _ | _ | _ | _ | _ | _ | _ | _ | i <;> rfl

theorem event_meets (i : Nat) (e : Event 2 1 String) (he : e ∈ some (event i)) :
    noStop (state i) e := by
  cases Option.some.inj he
  exact event_ne_stop i

def run : OpenRun 2 elasticsearch String where
  state := state
  event := fun i => some (event i)
  start := rfl
  meets := event_meets
  steps := step_event

/-- What is left when the second sync is over. -/
theorem state_late (i : Nat) : state (i + 14) = (state 14).setQueue ((state 14).queue.tick i) := by
  induction i with
  | zero => rfl
  | succ i ih =>
      rw [state, ih]
      rfl

/-- What holds of the first states, and of the last one whatever its clock, holds of
all. -/
theorem state_cases {P : Nat → Controller 2 1 String → Prop}
    (hearly : ∀ i : Fin 14, P i (state i))
    (hlate : ∀ i, P (i + 14) ((state 14).setQueue ((state 14).queue.tick i))) (i : Nat) :
    P i (state i) := by
  by_cases hi : i < 14
  · exact hearly ⟨i, hi⟩
  · obtain ⟨k, rfl⟩ := Nat.exists_eq_add_of_le' (Nat.le_of_not_lt hi)
    rw [state_late]
    exact hlate k

theorem handler_eq_none (i : Nat) : ∀ h, (state i).handler h = none :=
  state_cases (P := fun _ c => ∀ h, c.handler h = none) (by decide +kernel)
    (fun _ => (by decide +kernel : ∀ h, (state 14).handler h = none)) i

theorem queue_eq_nil (i : Nat) : 11 < i → (state i).queue.active.queue = [] :=
  state_cases (P := fun i c => 11 < i → c.queue.active.queue = []) (by decide +kernel)
    (fun _ _ => (by decide +kernel : (state 14).queue.active.queue = [])) i

theorem channel_eq_nil (i : Nat) : 8 < i → (state i).queue.waitingForAddCh = [] :=
  state_cases (P := fun i c => 8 < i → c.queue.waitingForAddCh = []) (by decide +kernel)
    (fun _ _ => (by decide +kernel : (state 14).queue.waitingForAddCh = [])) i

theorem waiting_eq_nil (i : Nat) : 10 < i → (state i).queue.waiting = [] :=
  state_cases (P := fun i c => 10 < i → c.queue.waiting = []) (by decide +kernel)
    (fun _ _ => (by decide +kernel : (state 14).queue.waiting = [])) i

theorem fair_run : Fair run where
  worker := by
    intro i w hbusy
    have hidle : ∀ w, (state 14).worker w = .idle := by decide +kernel
    refine ⟨i + 14, by omega, fun heq => hbusy ?_⟩
    change (state i).worker w = .idle
    change (state (i + 14)).worker w = (state i).worker w at heq
    rw [← heq, state_late]
    exact hidle w
  handler := fun i h call hcall => nomatch (handler_eq_none i h).symm.trans hcall
  get := by
    intro i w hqueue _
    by_cases hi : i ≤ 11
    · exact ⟨11, second, hi, rfl⟩
    · exact absurd (queue_eq_nil i (Nat.lt_of_not_le hi)) hqueue
  receive := by
    intro i hch
    by_cases hi : i ≤ 8
    · exact ⟨8, hi, rfl⟩
    · exact absurd (channel_eq_nil i (Nat.lt_of_not_le hi)) hch
  fire := by
    rintro i ⟨entry, hentry, -⟩
    by_cases hi : i ≤ 10
    · exact ⟨10, "default/db", hi, rfl⟩
    · change entry ∈ (state i).queue.waiting at hentry
      rw [waiting_eq_nil i (Nat.lt_of_not_le hi)] at hentry
      cases hentry
  time := by
    intro i t
    refine ⟨i + t + 14, by omega, ?_⟩
    change t ≤ (state (i + t + 14)).queue.clock
    rw [state_late]
    exact (Nat.le_add_left t i).trans (Nat.le_add_left _ _)

/-- The cluster whose sync failed is synced again. -/
theorem owed_eventually_started_once :
    ∃ j w, 5 ≤ j ∧ run.event j = some (.get w) ∧
      (run.state (j + 1)).worker w = .syncing "default/db" :=
  owed_eventually_started fair_run Nat.two_pos
    (.inr (.inl ⟨first, .addAfter "default/db" (5 * 10 ^ 6), by decide +kernel, rfl⟩))

end WorkerProgressWitness

end Workers

end Navigator
