/-
`Sync` of an Elasticsearch cluster: the sub-controllers, the ConfigMaps, the
choice of the next action, and the garbage collection of node pools.
-/
import Navigator.Elasticsearch.ActionSpecs

namespace Navigator

open ControlLoop

namespace Elasticsearch

/-- What a `Sync` reads besides the cluster.  The controllers of service
accounts, services, roles and role bindings are given by their outcome. -/
structure Environment where
  now : Nat := 0
  state : State
  serviceAccount : Option Err := none
  service : Option Err := none
  role : Option Err := none
  roleBinding : Option Err := none

/-- `ensureConfigMap`: an existing ConfigMap is left alone. -/
def ensureConfigMap (state : State) (configMap : ConfigMap) : Program Unit :=
  match state.configMapLister.get "configmap" (namespaceOf configMap) (nameOf configMap) with
  | .ok _ => .ret ()
  | .error e => if e.isNotFound then issue (.createConfigMap configMap) else .fail e

/-- The body of the loop of the ConfigMap controller. -/
def ensureNodePoolConfigMap (state : State) (c : Cluster) (np : NodePool) : Program Unit :=
  match esConfigConfigMap c np with
  | .error _ => .fail .nilDereference
  | .ok configMap =>
      (ensureConfigMap state configMap).mapFail fun e =>
        .plain ("error ensuring " ++ quoted c.metadata.name ++ "/" ++ quoted np.name ++
          " nodepool configmap: " ++ e.error)

/-- `Sync` of the ConfigMap controller. -/
def syncConfigMaps (state : State) (c : Cluster) : Program Unit :=
  Prog.forEach c.spec.nodePools (ensureNodePoolConfigMap state c)

inductive Action where
  | createNodePool (t : Target)
  | scale (t : Target) (replicas : Int)
  | updateVersion (t : Target)
deriving DecidableEq

namespace Action

def name : Action → String
  | createNodePool _ => "CreateNodePool"
  | scale _ _ => Scale.actionName
  | updateVersion _ => UpdateVersion.actionName

def execute (state : State) : Action → Program Unit
  | createNodePool t => Elasticsearch.createNodePool t
  | scale t replicas => Scale.execute state t replicas
  | updateVersion t => UpdateVersion.execute state t

def target : Action → Target
  | createNodePool t => t
  | scale t _ => t
  | updateVersion t => t

end Action

def nextActionForNodePool (state : State) (t : Target) : Except Err (Option Action) :=
  match state.statefulSetLister.get "statefulset.apps" t.namespaceName t.statefulSetName with
  | .error e => if e.isNotFound then .ok (some (.createNodePool t)) else .error e
  | .ok set =>
      match StringMap.get? set.metadata.annotations elasticsearchNodePoolVersionAnnotation with
      | none => .error (.plain
          ("cannot determine existing Elasticsearch version of statefulset " ++
            quoted (nameOf set)))
      | some currentVersionStr =>
          if t.cluster.spec.version.string ≠ currentVersionStr then
            .ok (some (.updateVersion t))
          else match set.spec.replicas with
            | none =>
                .error (.plain "current number of replicas on statefulset cannot be nil")
            | some currentDesiredReplicas =>
                match t.nodePool.replicas with
                | none => .error .nilDereference
                | some replicas =>
                    if currentDesiredReplicas ≠ replicas then .ok (some (.scale t replicas))
                    else .ok none

/-- The loop of `nextAction`: the first pool that needs an action. -/
def nextActionFrom (state : State) (c : Cluster) : List NodePool → Except Err (Option Action)
  | [] => .ok none
  | np :: rest =>
      match nextActionForNodePool state ⟨c, np⟩ with
      | .error e => .error e
      | .ok (some action) => .ok (some action)
      | .ok none => nextActionFrom state c rest

def nextAction (state : State) (c : Cluster) : Except Err (Option Action) :=
  nextActionFrom state c c.spec.nodePools

/-- The StatefulSet carries the name of the pool. -/
def claims (np : NodePool) (set : StatefulSet) : Bool :=
  set.metadata.labels.isSome &&
    StringMap.get set.metadata.labels elasticsearchNodePoolNameLabel = np.name

/-- What the loop over the pools leaves: for each pool the first StatefulSet
that carries its name is taken out. -/
def unclaimed (pools : List NodePool) (sets : List StatefulSet) : List StatefulSet :=
  pools.foldl (fun sets np => sets.eraseP (claims np)) sets

def deleteIfControlled (c : Cluster) (set : StatefulSet) : Program Unit :=
  if isControlledBy set c then issue (.deleteStatefulSet (namespaceOf set) (nameOf set))
  else .ret ()

def reconcileNodePools (state : State) (c : Cluster) : Program Unit :=
  match selectorForCluster c.metadata.name with
  | .error e => .fail (.plain ("error creating label selector for cluster '" ++
      c.metadata.name ++ "': " ++ e.error))
  | .ok selector =>
      match state.statefulSetLister.list c.metadata.namespaceName selector with
      | .error e => .fail e
      | .ok sets =>
          Prog.forEach (unclaimed c.spec.nodePools sets) (deleteIfControlled c)

/-- `updateClusterStatus` on a node pool map that is not nil.  It stops at the
first lookup error other than a missing StatefulSet. -/
def updateNodePoolStatuses (state : State) (c : Cluster) :
    List NodePool → Std.ExtTreeMap String NodePoolStatus →
      Std.ExtTreeMap String NodePoolStatus × Option Err
  | [], statuses => (statuses, none)
  | pool :: rest, statuses =>
      match state.statefulSetLister.get "statefulset.apps" c.metadata.namespaceName
          (nodePoolResourceName c pool) with
      | .error e =>
          if e.isNotFound then updateNodePoolStatuses state c rest statuses
          else (statuses, some e)
      | .ok set =>
          updateNodePoolStatuses state c rest
            (statuses.insert pool.name { readyReplicas := set.status.readyReplicas })

/-- The status that `Sync` returns.  It is copied before the deferred update
runs, so it sees that update only through a map that exists already. -/
def returnedStatus (state : State) (c : Cluster) : ElasticsearchClusterStatus :=
  match c.status.nodePools with
  | none => c.status
  | some statuses =>
      { c.status with
        nodePools := some (updateNodePoolStatuses state c c.spec.nodePools statuses).1 }

def messageErrorSyncNodePools : String := "Error syncing node pools: "

/-- The part of `Sync` that works on the node pools. -/
def syncNodePools (state : State) (c : Cluster) : Program (Option Err) :=
  match nextAction state c with
  | .error .nilDereference => .fail .nilDereference
  | .error e => do
      record .warning errorSync (messageErrorSyncNodePools ++ e.error)
      pure (some e)
  | .ok none => handling (reconcileNodePools state c) fun _ => pure ()
  | .ok (some action) =>
      handling (action.execute state) fun e =>
        record .warning ("Err" ++ action.name) (messageErrorSyncNodePools ++ e.error)

/-- The sub-controllers in order, then the ConfigMaps, then the node pools. -/
def syncStages (env : Environment) (c : Cluster) : Program (Option Err) :=
  subControl env.serviceAccount "Error syncing service account: " <|
  subControl env.service "Error syncing service: " <|
  subControl env.role "Error syncing RBAC roles: " <|
  subControl env.roleBinding "Error syncing RBAC role bindings: " <| do
    match ← handling (syncConfigMaps env.state c) fun e =>
        record .warning errorSync ("Error syncing config map: " ++ e.error) with
    | some e => pure (some e)
    | none => syncNodePools env.state c

/-- The copy of the cluster that `Sync` works on. -/
def withPausedConditions (now : Nat) (c : Cluster) : Cluster :=
  { c with status := { c.status with
      conditions := syncPausedConditions now c.spec.navigatorClusterConfig.paused
        c.status.conditions } }

/-- `Sync`: the status to post and the error. -/
def sync (env : Environment) (cluster : Cluster) :
    Program (ElasticsearchClusterStatus × Option Err) :=
  let c := withPausedConditions env.now cluster
  if c.spec.navigatorClusterConfig.paused then .ret (c.status, none)
  else do
    let err ← syncStages env c
    pure (returnedStatus env.state c, err)

end Elasticsearch

end Navigator
