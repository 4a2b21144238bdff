/-
The document count in the status of a Pilot.  The sync function of the
Elasticsearch pilot clears the count before it asks Elasticsearch for it, so
that a count which could not be read is unknown; but the status is posted also
after a sync that did not come that far.
-/
import Navigator.GenericPilot.Run

namespace Navigator

open ControlLoop GenericPilot

namespace Elasticsearch

/-- What the local API answers, with the nodes in the order in which their map
is iterated; `none` stands for a node that lacks the field. -/
structure LocalClient where
  nodesStats : Except Err (List (String × Option Int))
  nodesInfo : Except Err (List (String × Option String))

/-- The document count in the answer: that of the last node, as far as the answer
can be read. -/
def LocalClient.count (client : LocalClient) : Option Int :=
  match client.nodesStats with
  | .error _ => none
  | .ok nodes => ((nodes.map Prod.snd).takeWhile Option.isSome).getLast?.join

/-- The fields of the Elasticsearch pilot that a sync reads, and its time; times
are in nanoseconds.  The time of the last update is never assigned. -/
structure EsPilot where
  localESClient : Option LocalClient := none
  lastNodeStatsUpdate : Nat := 0
  now : Nat := 0

def nodeStatsUpdateFrequency : Nat := 10000000000

/-- `if pilot.Status.Elasticsearch == nil`. -/
def ensureStatus (pilot : Pilot) : Pilot :=
  match pilot.status.elasticsearch with
  | none => { pilot with status := { pilot.status with elasticsearch := some {} } }
  | some _ => pilot

def setDocuments (pilot : Pilot) (documents : Option Int) : Pilot :=
  { pilot with status := { pilot.status with
      elasticsearch := pilot.status.elasticsearch.map ({ · with documents := documents }) } }

def setVersion (pilot : Pilot) (version : Version) : Pilot :=
  { pilot with status := { pilot.status with
      elasticsearch := pilot.status.elasticsearch.map ({ · with version := some version }) } }

/-- The loop over the statistics.  A field that is missing is a nil pointer, and
the deferred functions run before the pilot dies of it. -/
def applyStats : Pilot → List (String × Option Int) → Pilot × Option Err
  | pilot, [] => (pilot, none)
  | pilot, (_, some docCount) :: nodes => applyStats (setDocuments pilot (some docCount)) nodes
  | pilot, (_, none) :: _ => (pilot, some .nilDereference)

def applyInfo : Pilot → List (String × Option String) → Pilot × Option Err
  | pilot, [] => (pilot, none)
  | pilot, (_, none) :: _ => (pilot, some .nilDereference)
  | pilot, (_, some version) :: nodes =>
      match Version.parse version with
      | .error e => (pilot, some (.plain e))
      | .ok ver => applyInfo (setVersion pilot ver) nodes

def clientNotAvailable : Err := .plain "local elasticsearch client not available"

namespace EsPilot

/-- It is too soon to perform an update of the node statistics. -/
def tooSoon (p : EsPilot) : Bool := p.now < p.lastNodeStatsUpdate + nodeStatsUpdateFrequency

def updateNodeStats (p : EsPilot) (pilot : Pilot) : Pilot × Option Err :=
  let pilot := setDocuments (ensureStatus pilot) none
  match p.localESClient with
  | none => (pilot, some clientNotAvailable)
  | some client =>
      match client.nodesStats with
      | .error e => (pilot, some e)
      | .ok nodes => applyStats pilot nodes

def updateNodeInfo (p : EsPilot) (pilot : Pilot) : Pilot × Option Err :=
  let pilot := ensureStatus pilot
  match p.localESClient with
  | none => (pilot, some clientNotAvailable)
  | some client =>
      match client.nodesInfo with
      | .error e => (pilot, some e)
      | .ok nodes => applyInfo pilot nodes

def syncFunc (p : EsPilot) (pilot : Pilot) : Pilot × Option Err :=
  let pilot := ensureStatus pilot
  if p.tooSoon then (pilot, none)
  else
    match p.updateNodeStats pilot with
    | (pilot, some e) => (pilot, some e)
    | (pilot, none) => p.updateNodeInfo pilot

/-- The count that Elasticsearch gives in a call of the sync function, which
does not ask when it is too soon. -/
def documentCount (p : EsPilot) : Option Int :=
  if p.tooSoon then none else p.localESClient.bind LocalClient.count

end EsPilot

def documents (pilot : Pilot) : Option Int :=
  pilot.status.elasticsearch.bind ElasticsearchPilotStatus.documents

section Documents

variable {pilot : Pilot}

@[simp] theorem metadata_ensureStatus : (ensureStatus pilot).metadata = pilot.metadata := by
  unfold ensureStatus
  split <;> rfl

@[simp] theorem documents_ensureStatus : documents (ensureStatus pilot) = documents pilot := by
  unfold ensureStatus documents
  split
  · rename_i hnone
    rw [hnone]
    rfl
  · rfl

theorem isSome_ensureStatus : (ensureStatus pilot).status.elasticsearch.isSome = true := by
  unfold ensureStatus
  split
  · rfl
  · rename_i status hsome
    rw [hsome]
    rfl

theorem documents_setDocuments (hstatus : pilot.status.elasticsearch.isSome = true)
    (count : Option Int) : documents (setDocuments pilot count) = count := by
  obtain ⟨status, hsome⟩ := Option.isSome_iff_exists.mp hstatus
  simp [documents, setDocuments, hsome]

@[simp] theorem documents_setVersion (version : Version) :
    documents (setVersion pilot version) = documents pilot := by
  cases hstatus : pilot.status.elasticsearch <;> simp [documents, setVersion, hstatus]

/-- The loop leaves the count of the last node, if there is one. -/
theorem documents_applyStats (nodes : List (String × Option Int))
    (hstatus : pilot.status.elasticsearch.isSome = true) :
    documents (applyStats pilot nodes).1 =
      (((nodes.map Prod.snd).takeWhile Option.isSome).getLast?.join).or (documents pilot) := by
  induction nodes generalizing pilot with
  | nil => rfl
  | cons node nodes ih =>
      obtain ⟨name, docCount⟩ := node
      cases docCount with
      | none => rfl
      | some docCount =>
          have hset : (setDocuments pilot (some docCount)).status.elasticsearch.isSome = true := by
            simpa [setDocuments] using hstatus
          rw [applyStats, ih hset, documents_setDocuments hstatus, List.map_cons,
            List.takeWhile_cons_of_pos rfl, List.getLast?_cons]
          cases hlast : ((nodes.map Prod.snd).takeWhile Option.isSome).getLast? with
          | none => rfl
          | some last =>
              have hread : last.isSome = true :=
                (List.mem_takeWhile_imp (List.mem_of_getLast? hlast))
              obtain ⟨count, rfl⟩ := Option.isSome_iff_exists.mp hread
              rfl

theorem metadata_applyStats (nodes : List (String × Option Int)) :
    (applyStats pilot nodes).1.metadata = pilot.metadata := by
  induction nodes generalizing pilot with
  | nil => rfl
  | cons node nodes ih =>
      obtain ⟨name, docCount⟩ := node
      cases docCount with
      | none => rfl
      | some docCount => rw [applyStats, ih, setDocuments]

/-- The versions leave the count alone. -/
theorem applyInfo_spec (pilot : Pilot) (nodes : List (String × Option String)) :
    documents (applyInfo pilot nodes).1 = documents pilot ∧
      (applyInfo pilot nodes).1.metadata = pilot.metadata := by
  induction nodes generalizing pilot with
  | nil => exact ⟨rfl, rfl⟩
  | cons node nodes ih =>
      obtain ⟨name, version⟩ := node
      cases version with
      | none => exact ⟨rfl, rfl⟩
      | some version =>
          unfold applyInfo
          cases Version.parse version with
          | error e => exact ⟨rfl, rfl⟩
          | ok ver =>
              obtain ⟨hdocuments, hmetadata⟩ := ih (setVersion pilot ver)
              exact ⟨hdocuments.trans (documents_setVersion ver), hmetadata⟩

theorem updateNodeStats_spec (p : EsPilot) (pilot : Pilot) :
    documents (p.updateNodeStats pilot).1 = p.localESClient.bind LocalClient.count ∧
      (p.updateNodeStats pilot).1.metadata = pilot.metadata := by
  have hcleared : documents (setDocuments (ensureStatus pilot) none) = none :=
    documents_setDocuments isSome_ensureStatus none
  have hstatus : (setDocuments (ensureStatus pilot) none).status.elasticsearch.isSome = true := by
    simpa [setDocuments] using isSome_ensureStatus
  unfold EsPilot.updateNodeStats
  cases p.localESClient with
  | none => exact ⟨hcleared, metadata_ensureStatus⟩
  | some client =>
      cases hstats : client.nodesStats with
      | error e =>
          simp only [Option.bind_some, LocalClient.count, hstats]
          exact ⟨hcleared, metadata_ensureStatus⟩
      | ok nodes =>
          simp only [Option.bind_some, LocalClient.count, hstats]
          rw [documents_applyStats nodes hstatus, hcleared, Option.or_none, metadata_applyStats]
          exact ⟨rfl, metadata_ensureStatus⟩

theorem updateNodeInfo_spec (p : EsPilot) (pilot : Pilot) :
    documents (p.updateNodeInfo pilot).1 = documents pilot ∧
      (p.updateNodeInfo pilot).1.metadata = pilot.metadata := by
  unfold EsPilot.updateNodeInfo
  cases p.localESClient with
  | none => exact ⟨documents_ensureStatus, metadata_ensureStatus⟩
  | some client =>
      cases hinfo : client.nodesInfo with
      | error e =>
          simp only [hinfo]
          exact ⟨documents_ensureStatus, metadata_ensureStatus⟩
      | ok nodes =>
          simp only [hinfo]
          obtain ⟨hdocuments, hmetadata⟩ := applyInfo_spec (ensureStatus pilot) nodes
          exact ⟨hdocuments.trans documents_ensureStatus, hmetadata.trans metadata_ensureStatus⟩

/-- The sync function leaves the count that it was given, or the old one when it
is too soon to ask. -/
theorem syncFunc_spec (p : EsPilot) (pilot : Pilot) :
    documents (p.syncFunc pilot).1 = (if p.tooSoon then documents pilot else p.documentCount) ∧
      (p.syncFunc pilot).1.metadata = pilot.metadata := by
  unfold EsPilot.syncFunc EsPilot.documentCount
  by_cases hsoon : p.tooSoon = true
  · simp only [if_pos hsoon]
    exact ⟨documents_ensureStatus, metadata_ensureStatus⟩
  · simp only [if_neg hsoon]
    obtain ⟨hdocuments, hmetadata⟩ := updateNodeStats_spec p (ensureStatus pilot)
    rw [metadata_ensureStatus] at hmetadata
    rcases hupdated : p.updateNodeStats (ensureStatus pilot) with ⟨updated, _ | e⟩
    · rw [hupdated] at hdocuments hmetadata
      obtain ⟨hkept, hsame⟩ := updateNodeInfo_spec p updated
      exact ⟨hkept.trans hdocuments, hsame.trans hmetadata⟩
    · rw [hupdated] at hdocuments hmetadata
      exact ⟨hdocuments, hmetadata⟩

end Documents

/-- The status that an operation posts. -/
def posted : Op → Option Pilot
  | .updateStatus pilot => some pilot
  | _ => none

def isSyncFunc : Op → Bool
  | .syncFunc _ => true
  | _ => false

/-- The count that Elasticsearch gave in a call with these operations. -/
def obtained (p : EsPilot) (ops : List Op) : Option Int :=
  if ops.any isSyncFunc then p.documentCount else none

/-- The call comes to the sync function: the hooks before the start succeed, the
command is constructed, the process is started unless it runs or the pilot shuts
down, and the hooks after the start succeed. -/
structure ComesToSync (s : Shared) (outcomes : Op → Outcome) (pilot : Pilot) : Prop where
  preStart : (s.hooks.transition (outcomes (.transition .preStart pilot)).hook .preStart
    (some pilot)).1 = none
  constructed : s.process.isSome = true ∨ (outcomes (.ensureProcess pilot)).failure = none
  started : s.isRunning = true ∨ s.shutdown = true ∨
    s.started = false ∧ (outcomes .start).failure = none
  postStart : ((s.hooks.transition (outcomes (.transition .preStart pilot)).hook .preStart
    (some pilot)).2.transition (outcomes (.transition .postStart pilot)).hook .postStart
    (some pilot)).1 = none

/-- Operations that neither post a status nor call the sync function. -/
def Silent (ops : List Op) : Prop :=
  ops.filterMap posted = [] ∧ ops.any isSyncFunc = false

section Call

variable {o : Options} {s : Shared} {outcomes : Op → Outcome} {pilot : Pilot}

theorem ensureProcess_spec (failure : Option Err) :
    ((s.ensureProcess failure).1 = none ↔ s.process.isSome = true ∨ failure = none) ∧
      (s.ensureProcess failure).2.isRunning = s.isRunning ∧
      (s.ensureProcess failure).2.started = s.started ∧
      (s.ensureProcess failure).2.shutdown = s.shutdown ∧
      (s.ensureProcess failure).2.hooks = s.hooks ∧
      ((s.ensureProcess failure).1 = none → (s.ensureProcess failure).2.process.isSome = true) := by
  unfold Shared.ensureProcess
  cases hprocess : s.process <;> cases failure <;>
    simp [Shared.isRunning, Shared.started, hprocess, Process.running, Process.started]

/-- A start that is tried succeeds for a command that has not been started. -/
theorem startProcess_spec (hprocess : s.process.isSome = true) (hidle : s.isRunning = false)
    (pid : Nat) (failure : Option Err) :
    (s.startProcess pid failure).1 = none ↔ s.started = false ∧ failure = none := by
  obtain ⟨⟨state, signalled⟩, hsome⟩ := Option.isSome_iff_exists.mp hprocess
  unfold Shared.startProcess
  cases state with
  | running pid => simp [Shared.isRunning, hsome, Process.running] at hidle
  | _ => cases failure <;> simp [Shared.started, hsome, Process.started, Process.start]

theorem alone_ensureStarted (outcomes : Op → Outcome) (hprocess : s.process.isSome = true) :
    ∃ err ops s', ensureStarted.alone serve outcomes s = some (err, ops, s') ∧ Silent ops ∧
      s'.hooks = s.hooks ∧
      (err = none ↔ s.isRunning = true ∨ s.shutdown = true ∨
        s.started = false ∧ (outcomes .start).failure = none) := by
  by_cases hmay : (!s.isRunning && !s.shutdown) = true
  · have hidle : s.isRunning = false ∧ s.shutdown = false := by simpa using hmay
    have htest : serve (outcomes .mayStart) s .mayStart = some (true, s) := by
      simp [serve, hidle]
    have hstart : serve (outcomes .start) s .start =
        some ((s.startProcess (outcomes .start).pid (outcomes .start).failure).1,
          (s.startProcess (outcomes .start).pid (outcomes .start).failure).2) := rfl
    refine ⟨_, _, _, Thread.alone_bind_some (Thread.alone_perform htest)
      (Thread.alone_perform hstart), ⟨rfl, rfl⟩, ?_, ?_⟩
    · unfold Shared.startProcess
      split <;> rfl
    · rw [startProcess_spec hprocess hidle.1, hidle.1, hidle.2]
      simp
  · have htest : serve (outcomes .mayStart) s .mayStart = some (false, s) := by
      simpa [serve] using hmay
    refine ⟨none, _, s, Thread.alone_bind_some (Thread.alone_perform htest) rfl, ⟨rfl, rfl⟩, rfl, ?_⟩
    have hbusy : s.isRunning = true ∨ s.shutdown = true := by
      rw [Bool.and_eq_true, Bool.not_eq_true', Bool.not_eq_true', not_and_or] at hmay
      simpa using hmay
    exact ⟨fun _ => hbusy.imp_right .inl, fun _ => rfl⟩

/-- The thread comes to the sync function if `reaches` holds, and otherwise leaves
the Pilot as it was. -/
def Comes (outcomes : Op → Outcome) (pilot : Pilot) (reaches : Prop)
    (thread : PilotThread (Pilot × Option Err)) (s : Shared) : Prop :=
  ∃ synced ops s', thread.alone serve outcomes s = some (synced, ops, s') ∧
    ops.filterMap posted = [] ∧
    (reaches ∧ ops.any isSyncFunc = true ∧ synced = (outcomes (.syncFunc pilot)).syncFunc pilot ∨
      ¬ reaches ∧ ops.any isSyncFunc = false ∧ synced.1 = pilot)

/-- A step whose error is returned at once comes before the rest. -/
theorem Comes.check {step : PilotThread (Option Err)}
    {rest : Option Err → PilotThread (Pilot × Option Err)} {checked reaches : Prop}
    {err : Option Err} {ops : List Op} {s' : Shared}
    (hstep : step.alone serve outcomes s = some (err, ops, s')) (hsilent : Silent ops)
    (hchecked : err = none ↔ checked) (hreturn : ∀ e, rest (some e) = pure (pilot, some e))
    (hrest : checked → Comes outcomes pilot reaches (rest none) s') :
    Comes outcomes pilot (checked ∧ reaches) (step >>= rest) s := by
  cases err with
  | some e =>
      have hfails : ¬ checked := fun h => nomatch hchecked.mpr h
      have hend : (rest (some e)).alone serve outcomes s' = some ((pilot, some e), [], s') := by
        rw [hreturn]
        rfl
      refine ⟨_, _, _, Thread.alone_bind_some hstep hend, ?_, .inr ⟨fun h => hfails h.1, ?_, rfl⟩⟩
      · rw [List.append_nil]
        exact hsilent.1
      · rw [List.append_nil]
        exact hsilent.2
  | none =>
      have hholds : checked := hchecked.mp rfl
      obtain ⟨synced, opsRest, s'', hrun, hposted, hend⟩ := hrest hholds
      refine ⟨_, _, _, Thread.alone_bind_some hstep hrun, ?_, ?_⟩
      · rw [List.filterMap_append, hsilent.1, hposted]
        rfl
      · simpa [hsilent.2, hholds] using hend

/-- `syncPilot` between its deferred functions. -/
theorem comes_syncOwnPilot (s : Shared) (outcomes : Op → Outcome)
    (hthis : o.isThis pilot = true) :
    Comes outcomes pilot (ComesToSync s outcomes pilot) (syncOwnPilot o pilot) s := by
  have hparts : ComesToSync s outcomes pilot ↔ _ ∧ _ ∧ _ ∧ _ ∧ True :=
    ⟨fun h => ⟨h.preStart, h.constructed, h.started, h.postStart, trivial⟩,
      fun ⟨h₁, h₂, h₃, h₄, _⟩ => ⟨h₁, h₂, h₃, h₄⟩⟩
  simp only [syncOwnPilot, hthis, Bool.not_true, Bool.false_eq_true, if_false]
  rw [hparts]
  apply Comes.check (Thread.alone_perform rfl) ⟨rfl, rfl⟩ Iff.rfl (fun _ => rfl)
  intro _
  obtain ⟨hconstructs, hrunning, hstarted, hshutdown, hhooks, hpresent⟩ :=
    ensureProcess_spec (s := { s with
      hooks := (s.hooks.transition (outcomes (.transition .preStart pilot)).hook .preStart
        (some pilot)).2 }) (outcomes (.ensureProcess pilot)).failure
  apply Comes.check (Thread.alone_perform rfl) ⟨rfl, rfl⟩ hconstructs (fun _ => rfl)
  intro hconstructed
  obtain ⟨err, ops, s', hstart, hsilent, hkept, hstarts⟩ :=
    alone_ensureStarted outcomes (hpresent (hconstructs.mpr hconstructed))
  rw [hrunning, hshutdown, hstarted] at hstarts
  have hhooks' : s'.hooks = (s.hooks.transition (outcomes (.transition .preStart pilot)).hook
      .preStart (some pilot)).2 := hkept.trans hhooks
  apply Comes.check hstart hsilent hstarts (fun _ => rfl)
  intro _
  rw [← hhooks']
  apply Comes.check (Thread.alone_perform rfl) ⟨rfl, rfl⟩ Iff.rfl (fun _ => rfl)
  intro _
  exact ⟨_, _, _, Thread.alone_perform rfl, rfl, .inl ⟨trivial, rfl, rfl⟩⟩

/-- The leader's sync function neither posts a status nor has a say in it. -/
theorem alone_leaderSync (o : Options) (s : Shared) (outcomes : Op → Outcome) (synced : Pilot)
    (err : Option Err) :
    ∃ err' ops s', (leaderSync o synced err).alone serve outcomes s = some (err', ops, s') ∧
      Silent ops := by
  unfold leaderSync
  split
  · exact ⟨err, [], s, rfl, rfl, rfl⟩
  · cases hleading : (outcomes .leading).leading with
    | true =>
        have hserve : serve (outcomes .leading) s .leading = some (true, s) := by
          rw [← hleading]
          rfl
        exact ⟨_, _, s, Thread.alone_bind_some (Thread.alone_perform hserve)
          (Thread.alone_bind_some (Thread.alone_perform rfl) rfl), rfl, rfl⟩
    | false =>
        have hserve : serve (outcomes .leading) s .leading = some (false, s) := by
          rw [← hleading]
          rfl
        exact ⟨_, _, s, Thread.alone_bind_some (Thread.alone_perform hserve) rfl, rfl, rfl⟩

/-- One status is posted, with the count of the Pilot. -/
theorem alone_updatePilotStatus (o : Options) (s : Shared) (outcomes : Op → Outcome)
    (synced : Pilot) :
    ∃ err ops s' status, (updatePilotStatus o synced).alone serve outcomes s =
        some (err, ops, s') ∧
      ops.filterMap posted = [status] ∧ ops.any isSyncFunc = false ∧
      documents status = documents synced := by
  cases hrunning : s.isRunning with
  | true =>
      have hserve : serve (outcomes .isRunning) s .isRunning = some (true, s) := by
        rw [← hrunning]
        rfl
      exact ⟨_, _, s, _, Thread.alone_bind_some (Thread.alone_perform hserve)
        (Thread.alone_bind_some (Thread.alone_perform rfl)
          (Thread.alone_bind_some (Thread.alone_perform rfl) (Thread.alone_perform rfl))),
        rfl, rfl, rfl⟩
  | false =>
      have hserve : serve (outcomes .isRunning) s .isRunning = some (false, s) := by
        rw [← hrunning]
        rfl
      exact ⟨_, _, s, _, Thread.alone_bind_some (Thread.alone_perform hserve)
        (Thread.alone_bind_some (Thread.alone_perform rfl) (Thread.alone_perform rfl)),
        rfl, rfl, rfl⟩

theorem comesToSync_locked :
    ComesToSync { s with locked := true } outcomes pilot ↔ ComesToSync s outcomes pilot :=
  ⟨fun h => ⟨h.preStart, h.constructed, h.started, h.postStart⟩,
    fun h => ⟨h.preStart, h.constructed, h.started, h.postStart⟩⟩

/-- The one status that a call posts, and whether the call came to the sync
function. -/
theorem alone_syncPilot {p : EsPilot} (hsync : ∀ op, (outcomes op).syncFunc = p.syncFunc)
    (hthis : o.isThis pilot = true) (hfree : s.locked = false) :
    ∃ err ops s' status,
      (syncPilot o pilot).alone serve outcomes s = some (err, ops, s') ∧
        ops.filterMap posted = [status] ∧
        (ComesToSync s outcomes pilot ∧ ops.any isSyncFunc = true ∧
            documents status = (if p.tooSoon then documents pilot else p.documentCount) ∨
          ¬ ComesToSync s outcomes pilot ∧ ops.any isSyncFunc = false ∧
            documents status = documents pilot) := by
  have hlock : serve (outcomes .lock) s .lock = some ((), { s with locked := true }) := by
    simp [serve, hfree]
  obtain ⟨synced, ops₁, s₁, hsynced, hposted₁, hcomes⟩ :=
    comes_syncOwnPilot { s with locked := true } outcomes hthis
  obtain ⟨err₂, ops₂, s₂, hleader, hsilent₂⟩ :=
    alone_leaderSync o s₁ outcomes synced.1 synced.2
  obtain ⟨err₄, ops₄, s₄, status, hupdate, hposted₄, hsync₄, hdocuments⟩ :=
    alone_updatePilotStatus o { s₂ with locked := false } outcomes synced.1
  obtain ⟨hcount, hmetadata⟩ := syncFunc_spec p pilot
  rw [comesToSync_locked, hsync] at hcomes
  have hthis' : o.isThis synced.1 = true := by
    have hsame : synced.1.metadata = pilot.metadata := by
      rcases hcomes with ⟨-, -, rfl⟩ | ⟨-, -, hkept⟩
      · exact hmetadata
      · rw [hkept]
    unfold Options.isThis nameOf namespaceOf at hthis ⊢
    exact (congrArg (fun m : ObjectMeta => o.isThisPilot m.name m.namespaceName) hsame).trans hthis
  have hend : (if o.isThis synced.1 then do
      let updateErr ← updatePilotStatus o synced.1
      pure (newAggregate [err₂, updateErr])
    else pure err₂ : PilotThread (Option Err)).alone serve outcomes
      { s₂ with locked := false } = some (newAggregate [err₂, err₄], ops₄ ++ [], s₄) := by
    rw [if_pos hthis']
    exact Thread.alone_bind_some hupdate rfl
  refine ⟨_, _, _, status, Thread.alone_bind_some (Thread.alone_perform hlock)
    (Thread.alone_bind_some hsynced (Thread.alone_bind_some hleader
      (Thread.alone_bind_some (Thread.alone_perform rfl) hend))), ?_, ?_⟩
  · simp only [List.filterMap_append, hposted₁, hsilent₂.1, hposted₄]
    rfl
  · have hasked : ([Op.lock] ++ (ops₁ ++ (ops₂ ++ ([Op.unlock] ++ (ops₄ ++ []))))).any isSyncFunc =
        ops₁.any isSyncFunc := by
      simp only [List.any_append, hsilent₂.2, hsync₄, List.any_cons, List.any_nil, isSyncFunc,
        Bool.or_false, Bool.false_or]
    rw [hasked, hdocuments]
    rcases hcomes with ⟨hreach, hany, rfl⟩ | ⟨hfails, hany, hkept⟩
    · exact .inl ⟨hreach, hany, hcount⟩
    · exact .inr ⟨hfails, hany, by rw [hkept]⟩

end Call

/-- A call of `syncPilot` for the own Pilot of the Elasticsearch pilot posts one
status.  The document count in it is the one obtained in the call, and unknown
without one, exactly if no count was recorded before or the call asks for it:
it comes to the sync function, and it is not too soon. -/
theorem posted_documents_iff {o : Options} {p : EsPilot} {s : Shared} {outcomes : Op → Outcome}
    {pilot : Pilot} (hsync : ∀ op, (outcomes op).syncFunc = p.syncFunc)
    (hthis : o.isThis pilot = true) (hfree : s.locked = false) :
    (∃ err ops s' status,
        (syncPilot o pilot).alone serve outcomes s = some (err, ops, s') ∧
          ops.filterMap posted = [status] ∧ documents status = obtained p ops) ↔
      documents pilot = none ∨ ComesToSync s outcomes pilot ∧ p.tooSoon = false := by
  obtain ⟨err, ops, s', status, hrun, hposted, hcase⟩ :=
    alone_syncPilot hsync hthis hfree
  have hcall : (∃ err ops s' status,
      (syncPilot o pilot).alone serve outcomes s = some (err, ops, s') ∧
        ops.filterMap posted = [status] ∧ documents status = obtained p ops) ↔
      documents status = obtained p ops := by
    constructor
    · rintro ⟨err', ops', s'', status', hrun', hposted', hholds⟩
      obtain ⟨rfl, rfl, rfl⟩ : err = err' ∧ ops = ops' ∧ s' = s'' := by
        simpa using hrun.symm.trans hrun'
      obtain rfl : status = status' := by simpa using hposted.symm.trans hposted'
      exact hholds
    · intro hholds
      exact ⟨err, ops, s', status, hrun, hposted, hholds⟩
  rw [hcall, obtained]
  rcases hcase with ⟨hreach, hany, hdocuments⟩ | ⟨hfails, hany, hdocuments⟩
  · simp only [hany, hdocuments, if_true]
    by_cases hsoon : p.tooSoon = true
    · simp [EsPilot.documentCount, hsoon]
    · simp [hsoon, hreach]
  · simp [hany, hdocuments, hfails]

namespace DocumentCountWitness

def options : Options := { pilotName := "es-db-0", pilotNamespace := "default" }

/-- When the status was posted last, the node was empty. -/
def pilot : Pilot where
  metadata := { name := "es-db-0", namespaceName := "default" }
  status := { elasticsearch := some { documents := some 0 } }

/-- The pilot has just been started again. -/
def shared : Shared where
  caches := noCaches
  hooks := { preStart := ["WriteConfig", "InstallPlugins"] }

def esPilot : EsPilot where
  localESClient := some ⟨.ok [("es-db-0", some 12)], .ok [("es-db-0", some "5.6.2")]⟩
  now := 1000000000000

def succeeding (_ : Op) : Outcome where
  syncFunc := esPilot.syncFunc

def pluginsFail (_ : Op) : Outcome where
  syncFunc := esPilot.syncFunc
  hook name := if name = "InstallPlugins" then some (.plain "exit status 1") else none

theorem comes : ComesToSync shared succeeding pilot := by
  constructor
  · decide +kernel
  · exact .inr rfl
  · exact .inr (.inr ⟨rfl, rfl⟩)
  · decide +kernel

/-- The node has documents by now, and this is posted. -/
theorem posted_documents_iff_asked :
    documents pilot = some 0 ∧ obtained esPilot [.syncFunc pilot] = some 12 ∧
      ∃ err ops s' status,
        (syncPilot options pilot).alone serve succeeding shared =
            some (err, ops, s') ∧
          ops.filterMap posted = [status] ∧ documents status = obtained esPilot ops := by
  have hasked : esPilot.tooSoon = false := by decide +kernel
  have hsync : ∀ op, (succeeding op).syncFunc = esPilot.syncFunc := by
    intro op
    simp only [succeeding]
  have hthis : options.isThis pilot = true := by decide +kernel
  have hcount : obtained esPilot [.syncFunc pilot] = some 12 := by decide +kernel
  have hfree : shared.locked = false := rfl
  exact ⟨rfl, hcount, (posted_documents_iff hsync hthis hfree).mpr (.inr ⟨comes, hasked⟩)⟩

/-- The plugins cannot be installed, and the node is said to be empty. -/
theorem stale_count_posted :
    options.isThis pilot = true ∧ shared.locked = false ∧
      ((syncPilot options pilot).alone serve pluginsFail shared).map
          (fun call => (call.2.1.filterMap posted).map documents) = some [some 0] ∧
      ((syncPilot options pilot).alone serve pluginsFail shared).map
          (fun call => obtained esPilot call.2.1) = some none := by
  decide +kernel

end DocumentCountWitness

end Elasticsearch

end Navigator
