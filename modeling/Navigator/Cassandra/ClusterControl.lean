/-
`Sync` of a Cassandra cluster: the status of its node pools, the choice of the
next action, the two actions, and what they may ask of the API server.
-/
import Navigator.Cassandra.Resources
import Navigator.Control

namespace Navigator

open ControlLoop

namespace Cassandra

/-- What a `Sync` reads besides the cluster.  The controllers of services,
service accounts, roles, role bindings and seed labels are given by their
outcome. -/
structure Environment where
  now : Nat := 0
  state : State
  seedProviderService : Option Err := none
  nodesService : Option Err := none
  serviceAccount : Option Err := none
  role : Option Err := none
  roleBinding : Option Err := none
  seedLabeller : Option Err := none

/-- The loop body of `StatefulSetsForCluster`: a StatefulSet that the cluster
controls replaces an earlier one of its name. -/
def addControlled (c : Cluster) (results : List StatefulSet) (set : StatefulSet) :
    List StatefulSet :=
  if isControlledBy set c then
    results.filter (fun other => nameOf other ≠ nameOf set) ++ [set]
  else results

/-- `StatefulSetsForCluster`: the StatefulSets with the cluster's label that the
cluster controls.  The map of the source is a list with one entry for each
name, in the order of the lister, which is as arbitrary as that of the map. -/
def statefulSetsForCluster (state : State) (c : Cluster) : Except Err (List StatefulSet) := do
  let selector ← selectorForCluster c
  let existingSets ← state.statefulSetLister.list c.metadata.namespaceName selector
  pure (existingSets.foldl (addControlled c) [])

/-- The loop body of `updateStatus`. -/
def addStatus (statuses : Std.ExtTreeMap String NodePoolStatus) (set : StatefulSet) :
    Std.ExtTreeMap String NodePoolStatus :=
  statuses.insert (StringMap.get set.metadata.labels cassandraNodePoolNameLabel)
    { readyReplicas := set.status.readyReplicas }

/-- `updateStatus`: the ready replicas of the StatefulSets, by the pool name that
each one carries. -/
def nodePoolStatuses (state : State) (c : Cluster) :
    Except Err (Std.ExtTreeMap String NodePoolStatus) := do
  let sets ← statefulSetsForCluster state c
  pure (sets.foldl addStatus ∅)

/-- The cluster and the pool that an action is for. -/
structure Target where
  cluster : Cluster
  nodePool : NodePool
deriving DecidableEq

/-- `CreateNodePool.Execute`.  A StatefulSet of the name is left alone. -/
def createNodePool (t : Target) : Program Unit :=
  match statefulSetForCluster t.cluster t.nodePool with
  | .error _ => .fail .nilDereference
  | .ok set => do
      match ← (issue (.createStatefulSet set)).attempt with
      | .ok _ =>
          record .normal "CreateNodePool" ("CreateNodePool: Name=" ++ quoted t.nodePool.name)
      | .error e => if e.isAlreadyExists then pure () else .fail e

/-- The StatefulSet with one replica more. -/
def grown (set : StatefulSet) (current : Int) : StatefulSet :=
  { set with spec := { set.spec with replicas := some (int32 (current + 1)) } }

/-- `ScaleOut.Execute`. -/
def scaleOut (state : State) (t : Target) : Program Unit :=
  match statefulSetForCluster t.cluster t.nodePool with
  | .error _ => .fail .nilDereference
  | .ok baseSet =>
      match state.statefulSetLister.get "statefulset.apps" (namespaceOf baseSet)
          (nameOf baseSet) with
      | .error e => .fail (e.wrap "unable to find statefulset")
      | .ok existingSet =>
          match existingSet.spec.replicas, t.nodePool.replicas with
          | some current, some desired =>
              if current = desired then .ret ()
              else if current > desired then .ret ()
              else if existingSet.status.readyReplicas ≠ current then .ret ()
              else do
                (issue (.updateStatefulSet (grown existingSet current))).mapFail
                  (Err.wrap "unable to update statefulset replica count")
                record .normal "ScaleOut" ("ScaleOut: NodePool=" ++
                  t.cluster.metadata.namespaceName ++ "/" ++ t.cluster.metadata.name ++ "/" ++
                  t.nodePool.name ++ ", ReplicaCount=" ++ decimal current ++
                  ", TargetReplicaCount=" ++ decimal desired)
          | _, _ => .fail .nilDereference

inductive Action where
  | createNodePool (t : Target)
  | scaleOut (t : Target)
deriving DecidableEq

def Action.execute (state : State) : Action → Program Unit
  | createNodePool t => Cassandra.createNodePool t
  | scaleOut t => Cassandra.scaleOut state t

/-- The second loop of `NextAction`: the first pool with fewer ready replicas
than desired.  A pool without a status reads as one without ready replicas. -/
def nextScaleOut (c : Cluster) : List NodePool → Checked (Option Action)
  | [] => .ok none
  | np :: rest =>
      match np.replicas with
      | none => .error .nilDereference
      | some desired =>
          if desired > ((c.status.nodePools[np.name]?).getD {}).readyReplicas then
            .ok (some (.scaleOut ⟨c, np⟩))
          else nextScaleOut c rest

/-- `NextAction`. -/
def nextAction (c : Cluster) : Checked (Option Action) :=
  match c.spec.nodePools.find? fun np => (c.status.nodePools[np.name]?).isNone with
  | some np => .ok (some (.createNodePool ⟨c, np⟩))
  | none => nextScaleOut c c.spec.nodePools

def messageErrorSyncService : String := "Error syncing service: "

def messageSuccessSync : String := "Successfully synced CassandraCluster"

/-- The last part of `Sync`: choose and execute an action. -/
def syncNodePools (state : State) (c : Cluster) : Program (Option Err) :=
  match nextAction c with
  | .error _ => .fail .nilDereference
  | .ok none => do
      record .normal "SuccessSync" messageSuccessSync
      pure none
  | .ok (some action) => do
      match ← handling (action.execute state) fun e =>
          record .warning errorSync ("Error syncing: " ++ e.error) with
      | some e => pure (some e)
      | none => do
          record .normal "SuccessSync" messageSuccessSync
          pure none

/-- The cluster with the node pool statuses that `Sync` computes. -/
def withNodePoolStatuses (c : Cluster) (statuses : Std.ExtTreeMap String NodePoolStatus) :
    Cluster :=
  { c with status := { c.status with nodePools := statuses } }

def withPausedConditions (now : Nat) (c : Cluster) : Cluster :=
  { c with status := { c.status with
      conditions := syncPausedConditions now c.spec.navigatorClusterConfig.paused
        c.status.conditions } }

/-- The parts of `Sync` after the node pool statuses. -/
def syncStages (env : Environment) (c : Cluster) : Program (Option Err) :=
  subControl env.serviceAccount "Error syncing service account: " <|
  subControl env.role "Error syncing role: " <|
  subControl env.roleBinding "Error syncing role binding: " <|
  subControl env.seedLabeller "Error syncing seed labels: " <|
  syncNodePools env.state c

/-- `Sync`: the status it leaves in the cluster and the error. -/
def sync (env : Environment) (cluster : Cluster) :
    Program (CassandraClusterStatus × Option Err) :=
  let c := withPausedConditions env.now cluster
  if c.spec.navigatorClusterConfig.paused then .ret (c.status, none)
  else do
    match ← subControl env.seedProviderService messageErrorSyncService <|
        subControl env.nodesService messageErrorSyncService <| pure none with
    | some e => pure (c.status, some e)
    | none =>
        match nodePoolStatuses env.state c with
        | .error e => do
            record .warning errorSync ("Error syncing node pools: " ++ e.error)
            pure ((withNodePoolStatuses c ∅).status, some e)
        | .ok statuses => do
            let err ← syncStages env (withNodePoolStatuses c statuses)
            pure ((withNodePoolStatuses c statuses).status, err)

@[simp] theorem withPausedConditions_spec (now : Nat) (c : Cluster) :
    (withPausedConditions now c).spec = c.spec := rfl

@[simp] theorem withPausedConditions_metadata (now : Nat) (c : Cluster) :
    (withPausedConditions now c).metadata = c.metadata := rfl

section Statuses

variable {state : State} {c : Cluster}

/-- A cached StatefulSet that counts for the cluster: it carries the name of the
cluster and has the cluster as its controller. -/
structure OwnSet (state : State) (c : Cluster) (set : StatefulSet) : Prop where
  cached : set ∈ state.statefulSetLister.items
  label : StringMap.get? set.metadata.labels cassandraClusterNameLabel = some c.metadata.name
  controlled : isControlledBy set c = true

theorem mem_of_mem_addControlled {results : List StatefulSet} {first set : StatefulSet}
    (h : set ∈ addControlled c results first) :
    set ∈ results ∨ set = first ∧ isControlledBy first c = true := by
  unfold addControlled at h
  split at h
  · rename_i hcontrolled
    rcases List.mem_append.mp h with h | h
    · exact Or.inl (List.mem_of_mem_filter h)
    · exact Or.inr ⟨List.mem_singleton.mp h, hcontrolled⟩
  · exact Or.inl h

theorem mem_of_mem_foldl_addControlled {listed results : List StatefulSet} {set : StatefulSet}
    (h : set ∈ listed.foldl (addControlled c) results) :
    set ∈ results ∨ set ∈ listed ∧ isControlledBy set c = true := by
  induction listed generalizing results with
  | nil => exact Or.inl h
  | cons first rest ih =>
      rcases ih h with hset | ⟨hset, hcontrolled⟩
      · rcases mem_of_mem_addControlled hset with hset | ⟨rfl, hcontrolled⟩
        · exact Or.inl hset
        · exact Or.inr ⟨List.mem_cons_self, hcontrolled⟩
      · exact Or.inr ⟨List.mem_cons_of_mem first hset, hcontrolled⟩

theorem mem_statefulSetsForCluster {found : List StatefulSet}
    (h : statefulSetsForCluster state c = .ok found) {set : StatefulSet} (hset : set ∈ found) :
    OwnSet state c set := by
  obtain ⟨selector, hselector, h⟩ := bind_eq_ok h
  obtain ⟨listed, hlisted, h⟩ := bind_eq_ok h
  rw [← Except.ok.inj h] at hset
  obtain ⟨hmem, hcontrolled⟩ :=
    (mem_of_mem_foldl_addControlled hset).resolve_left List.not_mem_nil
  obtain ⟨hcached, _, hmatches⟩ := (Lister.mem_list hlisted).mp hmem
  exact ⟨hcached, matchesLabels_of_selectorForCluster hselector hmatches, hcontrolled⟩

theorem getElem?_foldl_addStatus {found : List StatefulSet}
    {statuses : Std.ExtTreeMap String NodePoolStatus} {name : String} {status : NodePoolStatus}
    (h : (found.foldl addStatus statuses)[name]? = some status) :
    statuses[name]? = some status ∨ ∃ set ∈ found,
      StringMap.get set.metadata.labels cassandraNodePoolNameLabel = name ∧
        status.readyReplicas = set.status.readyReplicas := by
  induction found generalizing statuses with
  | nil => exact Or.inl h
  | cons first rest ih =>
      rcases ih h with hinsert | ⟨set, hset, hlabel⟩
      · rw [addStatus, Std.ExtTreeMap.getElem?_insert] at hinsert
        split at hinsert
        · rename_i hcompare
          cases hinsert
          exact Or.inr ⟨first, List.mem_cons_self, Std.LawfulEqCmp.eq_of_compare hcompare, rfl⟩
        · exact Or.inl hinsert
      · exact Or.inr ⟨set, List.mem_cons_of_mem first hset, hlabel⟩

/-- A status comes from a StatefulSet of the cluster that carries the pool name. -/
theorem nodePoolStatuses_sound {statuses : Std.ExtTreeMap String NodePoolStatus}
    (h : nodePoolStatuses state c = .ok statuses) {name : String} {status : NodePoolStatus}
    (hstatus : statuses[name]? = some status) :
    ∃ set, OwnSet state c set ∧
      StringMap.get set.metadata.labels cassandraNodePoolNameLabel = name ∧
        status.readyReplicas = set.status.readyReplicas := by
  obtain ⟨found, hfound, h⟩ := bind_eq_ok h
  rw [← Except.ok.inj h] at hstatus
  rcases getElem?_foldl_addStatus hstatus with hempty | ⟨set, hset, hlabel⟩
  · simp at hempty
  · exact ⟨set, mem_statefulSetsForCluster hfound hset, hlabel⟩

end Statuses

/-- The requests of a `Sync` of the cluster `c`: at most the create of a pool's
StatefulSet or the growth of a cached one by one replica, besides events. -/
inductive SyncRequest (state : State) (c : Cluster) : Request → Prop where
  | event (event : Event) : SyncRequest state c (.recordEvent event)
  | create {statuses : Std.ExtTreeMap String NodePoolStatus} {np : NodePool} {set : StatefulSet}
      (counted : nodePoolStatuses state c = .ok statuses)
      (pool : np ∈ c.spec.nodePools) (missing : statuses[np.name]? = none)
      (built : statefulSetForCluster c np = .ok set) :
      SyncRequest state c (.createStatefulSet set)
  | grow {statuses : Std.ExtTreeMap String NodePoolStatus} {np : NodePool} {set : StatefulSet}
      {current desired : Int}
      (counted : nodePoolStatuses state c = .ok statuses)
      (chosen : nextAction (withNodePoolStatuses c statuses) =
        .ok (some (.scaleOut ⟨withNodePoolStatuses c statuses, np⟩)))
      (cached : state.statefulSetLister.get "statefulset.apps" c.metadata.namespaceName
        (nodePoolResourceName c np) = .ok set)
      (replicas : set.spec.replicas = some current) (wanted : np.replicas = some desired)
      (fewer : current < desired) (ready : set.status.readyReplicas = current) :
      SyncRequest state c (.updateStatefulSet (grown set current))

theorem createNodePool_once {state : State} {c : Cluster} {np : NodePool}
    {statuses : Std.ExtTreeMap String NodePoolStatus}
    (hcounted : nodePoolStatuses state c = .ok statuses) (hpool : np ∈ c.spec.nodePools)
    (hmissing : statuses[np.name]? = none) :
    (createNodePool ⟨withNodePoolStatuses c statuses, np⟩).Once IsEvent
      (SyncRequest state c) := by
  unfold createNodePool
  split
  · trivial
  · rename_i set hset
    apply (issue_once (.create hcounted hpool hmissing hset)).attempt.bind
    intro outcome
    split
    · exact record_all_isEvent
    · split
      · trivial
      · trivial

theorem scaleOut_once {state : State} {c : Cluster} {np : NodePool}
    {statuses : Std.ExtTreeMap String NodePoolStatus}
    (hcounted : nodePoolStatuses state c = .ok statuses)
    (hchosen : nextAction (withNodePoolStatuses c statuses) =
      .ok (some (.scaleOut ⟨withNodePoolStatuses c statuses, np⟩))) :
    (scaleOut state ⟨withNodePoolStatuses c statuses, np⟩).Once IsEvent
      (SyncRequest state c) := by
  unfold scaleOut
  split
  · trivial
  · rename_i baseSet hbase
    obtain ⟨hname, hnamespace, _⟩ := statefulSetForCluster_eq_ok hbase
    split
    · trivial
    · rename_i set hcached
      rw [hname, hnamespace] at hcached
      split
      · rename_i current desired hcurrent hdesired
        split
        · trivial
        · rename_i hne
          split
          · trivial
          · rename_i hle
            split
            · trivial
            · rename_i hready
              have hfewer : current < desired := lt_of_le_of_ne (not_lt.mp hle) hne
              apply (issue_once (.grow hcounted hchosen hcached hcurrent hdesired hfewer
                (not_not.mp hready))).mapFail.bind
              intro _
              exact record_all_isEvent
      · trivial

/-- A pool that is chosen for a scale out has fewer ready replicas than desired,
and every pool before it has at least as many as desired. -/
theorem nextScaleOut_eq_some {c : Cluster} {pools : List NodePool} {action : Action}
    (h : nextScaleOut c pools = .ok (some action)) :
    ∃ before np after desired, pools = before ++ np :: after ∧ action = .scaleOut ⟨c, np⟩ ∧
      (∀ other ∈ before, ∃ wanted, other.replicas = some wanted ∧
        wanted ≤ ((c.status.nodePools[other.name]?).getD {}).readyReplicas) ∧
      np.replicas = some desired ∧
      ((c.status.nodePools[np.name]?).getD {}).readyReplicas < desired := by
  induction pools with
  | nil => cases h
  | cons np rest ih =>
      unfold nextScaleOut at h
      split at h
      · cases h
      · rename_i desired hdesired
        split at h
        · rename_i hgreater
          cases h
          exact ⟨[], np, rest, desired, rfl, rfl, fun other hother => absurd hother
            List.not_mem_nil, hdesired, hgreater⟩
        · rename_i hle
          obtain ⟨before, np', after, desired', hsplit, haction, hbefore, hnp'⟩ := ih h
          refine ⟨np :: before, np', after, desired', by rw [hsplit, List.cons_append],
            haction, ?_, hnp'⟩
          intro other hother
          rcases List.mem_cons.mp hother with rfl | hother
          · exact ⟨desired, hdesired, not_lt.mp hle⟩
          · exact hbefore other hother

/-- The action chosen: the first pool without a status is created; when there is
none, the first pool that lacks ready replicas is scaled out. -/
theorem nextAction_eq_some {c : Cluster} {action : Action}
    (h : nextAction c = .ok (some action)) :
    (∃ np ∈ c.spec.nodePools, c.status.nodePools[np.name]? = none ∧
      action = .createNodePool ⟨c, np⟩) ∨
    ((∀ np ∈ c.spec.nodePools, (c.status.nodePools[np.name]?).isSome = true) ∧
      nextScaleOut c c.spec.nodePools = .ok (some action)) := by
  unfold nextAction at h
  split at h
  · rename_i np hfind
    cases h
    have hnone := List.find?_some hfind
    exact Or.inl ⟨np, List.mem_of_find?_eq_some hfind, Option.isNone_iff_eq_none.mp hnone, rfl⟩
  · rename_i hfind
    refine Or.inr ⟨?_, h⟩
    intro np hnp
    have hsome := List.find?_eq_none.mp hfind np hnp
    rwa [Option.isNone_iff_eq_none, ← ne_eq, Option.ne_none_iff_isSome] at hsome

/-- A chosen scale out is for a pool of the spec. -/
theorem mem_of_nextAction_scaleOut {c : Cluster} {np : NodePool}
    (h : nextAction c = .ok (some (.scaleOut ⟨c, np⟩))) : np ∈ c.spec.nodePools := by
  rcases nextAction_eq_some h with ⟨_, _, _, haction⟩ | ⟨_, hscale⟩
  · cases haction
  · obtain ⟨before, np', after, _, hsplit, haction, _⟩ := nextScaleOut_eq_some hscale
    cases haction
    rw [hsplit]
    exact List.mem_append_right before List.mem_cons_self

theorem syncNodePools_once {state : State} {c : Cluster}
    {statuses : Std.ExtTreeMap String NodePoolStatus}
    (hcounted : nodePoolStatuses state c = .ok statuses) :
    (syncNodePools state (withNodePoolStatuses c statuses)).Once IsEvent
      (SyncRequest state c) := by
  unfold syncNodePools
  split
  · trivial
  · apply Prog.once_of_all
    exact Prog.all_bind record_all_isEvent fun _ => trivial
  · rename_i action hchosen
    have hexecute : (action.execute state).Once IsEvent (SyncRequest state c) := by
      rcases nextAction_eq_some hchosen with ⟨np, hnp, hmissing, rfl⟩ | ⟨_, hscale⟩
      · exact createNodePool_once hcounted hnp hmissing
      · obtain ⟨_, np, _, _, _, rfl, _⟩ := nextScaleOut_eq_some hscale
        exact scaleOut_once hcounted hchosen
    apply (handling_once hexecute fun _ => record_all_isEvent).bind
    intro outcome
    split
    · trivial
    · exact Prog.all_bind record_all_isEvent fun _ => trivial

/-- A `Sync` writes at most once. -/
theorem sync_once (env : Environment) (c : Cluster) :
    (sync env c).Once IsEvent
      (SyncRequest env.state (withPausedConditions env.now c)) := by
  have hevent : ∀ event, IsEvent (.recordEvent event) := fun event => ⟨event, rfl⟩
  unfold sync
  by_cases hpaused :
      (withPausedConditions env.now c).spec.navigatorClusterConfig.paused = true
  · rw [if_pos hpaused]
    trivial
  · rw [if_neg hpaused]
    apply Prog.once_bind
    · exact subControl_all hevent (subControl_all hevent trivial)
    intro outcome
    split
    · trivial
    · split
      · apply Prog.once_of_all
        exact Prog.all_bind record_all_isEvent fun _ => trivial
      · rename_i statuses hcounted
        have hstages : (syncStages env (withNodePoolStatuses _ statuses)).Once IsEvent
            (SyncRequest env.state (withPausedConditions env.now c)) :=
          subControl_once hevent (subControl_once hevent (subControl_once hevent
            (subControl_once hevent (syncNodePools_once hcounted))))
        exact hstages.bind fun _ => trivial

theorem sync_all (env : Environment) (c : Cluster) :
    (sync env c).All (SyncRequest env.state (withPausedConditions env.now c)) := by
  apply (sync_once env c).all
  rintro request ⟨event, rfl⟩
  exact .event event

end Cassandra

end Navigator
