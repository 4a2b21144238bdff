/-
The three actions on a node pool: create its StatefulSet, scale it, and roll
its pods over to another version.
-/
import Navigator.Elasticsearch.Resources

namespace Navigator

open ControlLoop

namespace Elasticsearch

/-- The cluster and the pool an action works on. -/
structure Target where
  cluster : Cluster
  nodePool : NodePool
deriving DecidableEq

namespace Target

def statefulSetName (t : Target) : String := nodePoolResourceName t.cluster t.nodePool

def namespaceName (t : Target) : String := t.cluster.metadata.namespaceName

end Target

def createNodePool (t : Target) : Program Unit :=
  match nodePoolStatefulSet t.cluster t.nodePool with
  | .error e => .fail e
  | .ok toCreate => do
      issue (.createStatefulSet toCreate)
      record .normal "CreateNodePool" ("Created node pool " ++ quoted t.nodePool.name)

def pilotNameForStatefulSetReplica (setName : String) (replica : Int) : String :=
  setName ++ "-" ++ decimal replica

/-- The Pilots of the pool in ordinal order, or the names of those missing. -/
def pilotsForStatefulSet (state : State) (t : Target) (set : StatefulSet) :
    Except Err (List Pilot) :=
  match set.spec.replicas with
  | none => .error (.plain "statefulset.spec.replicas cannot be nil")
  | some replicas => do
      let selector ← selectorForNodePool t.cluster.metadata.name t.nodePool.name
      let pilots ← state.pilotLister.list t.namespaceName selector
      let names := (List.range replicas.toNat).map fun (i : Nat) =>
        pilotNameForStatefulSetReplica (nameOf set) i
      let missing := names.filter fun pilotName =>
        (pilots.find? fun p => nameOf p = pilotName).isNone
      if missing ≠ [] then
        .error (.status .notFound (aggregateMessage
          (missing.map fun pilotName => "pilot " ++ quoted pilotName ++ " not found")))
      else
        .ok (names.filterMap fun pilotName => pilots.find? fun p => nameOf p = pilotName)

/-- The Pilots a scale down by `-replicaDiff` removes, from the highest ordinal
down; an ordinal without a Pilot is skipped. -/
def determinePilotsToBeRemoved (allPilots : List Pilot) (set : StatefulSet)
    (replicaDiff : Int) : Except Err (List Pilot) :=
  if replicaDiff ≥ 0 then .ok []
  else match set.spec.replicas with
    | none => .error (.plain "current replicas of statefulset cannot be nil")
    | some currentReplicas =>
        let desiredReplicas := int32 (currentReplicas + replicaDiff)
        let ordinals := (List.range (currentReplicas - desiredReplicas).toNat).map
          fun (k : Nat) => currentReplicas - 1 - (k : Int)
        .ok (ordinals.filterMap fun i => allPilots.find? fun p =>
          pilotNameForStatefulSetReplica (nameOf set) i = nameOf p ∧
            namespaceOf set = namespaceOf p)

namespace Scale

def actionName : String := "Scale"

/-- The document check of `canScaleNodePool`, Pilot by Pilot. -/
def pilotsEmpty : List Pilot → Program Bool
  | [] => .ret true
  | p :: rest =>
      match p.status.elasticsearch.bind ElasticsearchPilotStatus.documents with
      | none => do
          record .warning ("Err" ++ actionName)
            ("Could not determine document count for pilot " ++ quoted (nameOf p))
          pure false
      | some documentCount =>
          if documentCount > 0 then do
            record .normal ("Err" ++ actionName)
              ("Pilot " ++ quoted (nameOf p) ++ " still contains " ++ decimal documentCount ++
                " documents. Will not scale down until empty.")
            pure false
          else pilotsEmpty rest

def canScaleNodePool (state : State) (t : Target) (set : StatefulSet) (replicaDiff : Int) :
    Program Bool :=
  if replicaDiff ≥ 0 then .ret true
  else if !containsElasticsearchRole t.nodePool.roles .data then .ret true
  else match pilotsForStatefulSet state t set with
    | .error e =>
        if e.isNotFound then do
          record .warning ("Err" ++ actionName)
            ("Could not get all pilots for statefulset " ++ quoted (nameOf set) ++ ": " ++ e.error)
          pure false
        else .fail e
    | .ok allPilots =>
        match determinePilotsToBeRemoved allPilots set replicaDiff with
        | .error e => .fail e
        | .ok toRemove => pilotsEmpty toRemove

/-- `Scale.Execute`.  The final event prints the address of the replica
pointer; the model leaves the address out. -/
def execute (state : State) (t : Target) (replicas : Int) : Program Unit :=
  match state.statefulSetLister.get "statefulset.apps" t.namespaceName t.statefulSetName with
  | .error e =>
      if e.isNotFound then
        record .warning ("Err" ++ actionName)
          ("Cannot get statefulset " ++ quoted t.statefulSetName ++ " for node pool " ++
            quoted t.nodePool.name ++ ": " ++ e.error)
      else .fail e
  | .ok set =>
      match set.spec.replicas with
      | none => .fail (.plain "current number of replicas on statefulset cannot be nil")
      | some currentReplicas =>
          let replicaDiff := int32 (replicas - currentReplicas)
          if replicaDiff = 0 then .ret ()
          else do
            let canScale ← canScaleNodePool state t set replicaDiff
            if canScale then do
              issue (.updateStatefulSet (set.withReplicas replicas))
              record .normal actionName
                ("Scaled node pool " ++ quoted t.nodePool.name ++ " to  replicas")
            else pure ()

end Scale

def pilotVersionUpToDate (spec : ElasticsearchClusterSpec) (status : PilotStatus) : Bool :=
  match status.elasticsearch.bind ElasticsearchPilotStatus.version with
  | none => false
  | some version => version.equal spec.version

namespace UpdateVersion

def actionName : String := "UpdateVersion"

/-- `pilotsUpToDate`: the error, or none when every Pilot of the pool reports
the version of the spec. -/
def pilotsUpToDate (state : State) (t : Target) (set : StatefulSet) : Option Err :=
  match pilotsForStatefulSet state t set with
  | .error e => some e
  | .ok pilots =>
      (pilots.find? fun p => !pilotVersionUpToDate t.cluster.spec p.status).map fun p =>
        .plain ("Pilot " ++ quoted (nameOf p) ++ " is not up to date")

/-- The partition of the next write: one below the replicas already updated. -/
def nextPartition (desiredReplicas updatedReplicas : Int) : Int :=
  let next := int32 (desiredReplicas - updatedReplicas - 1)
  if next = -1 then 0 else next

/-- The last Pilot that was told to update still has to report the version. -/
def lastPilotError (state : State) (t : Target) (set : StatefulSet)
    (desiredReplicas nextPartitionToUse : Int) : Except Err (Option String) :=
  let lastReplicaUpdated := int32 (nextPartitionToUse + 1)
  if lastReplicaUpdated < desiredReplicas then do
    let lastPilotUpdated ← state.pilotLister.get "pilot.navigator.jetstack.io" t.namespaceName
      (pilotNameForStatefulSetReplica (nameOf set) lastReplicaUpdated)
    if pilotVersionUpToDate t.cluster.spec lastPilotUpdated.status then pure none
    else pure (some ("Pilot " ++ quoted (nameOf lastPilotUpdated) ++
      " has not finished updating to version " ++ quoted t.cluster.spec.version.string))
  else pure none

/-- The write that completes the upgrade of the pool. -/
def completed (t : Target) (set : StatefulSet) : StatefulSet :=
  set.withAnnotation elasticsearchNodePoolVersionAnnotation t.cluster.spec.version.string

/-- The write that lets one more replica update. -/
def advanced (set : StatefulSet) (nextPartitionToUse : Int) (newImage : String) : StatefulSet :=
  (set.withPartition nextPartitionToUse).withImage newImage

/-- Issue the update and tell the user. -/
def writeBack (set : StatefulSet) (updateMsg : String) : Program Unit := do
  issue (.updateStatefulSet set)
  record .normal actionName updateMsg

/-- The switch of `UpdateVersion.Execute`. -/
def decideWrite (state : State) (t : Target) (set : StatefulSet) (desiredReplicas : Int)
    (existingImage newImage : String) : Program Unit :=
  let nextPartitionToUse := nextPartition desiredReplicas set.status.updatedReplicas
  match pilotsUpToDate state t set with
  | none =>
      writeBack (completed t set)
        ("Updated node pool " ++ quoted t.nodePool.name ++ " to version " ++
          quoted t.cluster.spec.version.string)
  | some _ =>
      if set.partition ≠ nextPartitionToUse ∨ existingImage ≠ newImage then
        match lastPilotError state t set desiredReplicas nextPartitionToUse with
        | .error e => .fail e
        | .ok (some message) => record .warning ("Err" ++ actionName) message
        | .ok none =>
            writeBack (advanced set nextPartitionToUse newImage)
              ("Updating replica " ++
                pilotNameForStatefulSetReplica (nameOf set) nextPartitionToUse ++
                " to version " ++ t.cluster.spec.version.string)
      else .ret ()

/-- The part of `UpdateVersion.Execute` after the versions are known to differ. -/
def rollOut (state : State) (t : Target) (set : StatefulSet) : Program Unit :=
  match esImageToUse t.cluster.spec with
  | .error e =>
      record .warning ("Err" ++ actionName)
        ("Cannot determine Elasticsearch image to use for cluster: " ++ e.error)
  | .ok newImageSpec =>
      match set.spec.replicas with
      | none => .fail .nilDereference
      | some desiredReplicas =>
          if desiredReplicas ≠ set.status.readyReplicas then .ret ()
          else match set.image? with
            | none =>
                record .warning ("Err" ++ actionName)
                  ("No containers specified on statefulset " ++ quoted (nameOf set) ++
                    " pod template")
            | some existingImage =>
                decideWrite state t set desiredReplicas existingImage newImageSpec.reference

/-- `UpdateVersion.Execute` as far as its comparison of the two versions, with what it
does when they are equal and when they differ. -/
def compareVersions (state : State) (t : Target) (equal : Program Unit)
    (differ : StatefulSet → Program Unit) : Program Unit :=
  match state.statefulSetLister.get "statefulset.apps" t.namespaceName t.statefulSetName with
  | .error e => .fail e
  | .ok set =>
      match t.cluster.status.health with
      | none => .fail (.plain "Could not determine current health of Elasticsearch cluster")
      | some .red =>
          record .warning ("Err" ++ actionName)
            ("Cluster is in a red state, refusing to upgrade node pool " ++
              quoted t.nodePool.name)
      | some _ =>
          match StringMap.get? set.metadata.annotations
              elasticsearchNodePoolVersionAnnotation with
          | none =>
              record .warning ("Err" ++ actionName)
                ("StatefulSet " ++ quoted (nameOf set) ++
                  " does not have an Elasticsearch version annotation")
          | some currentVersionStr =>
              match Version.parse currentVersionStr with
              | .error message =>
                  record .warning ("Err" ++ actionName)
                    ("Invalid version string " ++ quoted currentVersionStr ++
                      " on statefulset " ++ quoted (nameOf set) ++ ": " ++ message)
              | .ok currentVersion =>
                  if t.cluster.spec.version.equal currentVersion then equal
                  else differ set

/-- `UpdateVersion.Execute`. -/
def execute (state : State) (t : Target) : Program Unit :=
  compareVersions state t (.ret ()) (rollOut state t)

end UpdateVersion

end Elasticsearch

end Navigator
