/-
The Navigator API types: Elasticsearch and Cassandra clusters, their node pools
and statuses, and Pilots.
-/
import Navigator.GoVersion
import Navigator.Kube
import Navigator.Semver

namespace Navigator

def elasticsearchClusterNameLabel : String :=
  "navigator.jetstack.io/elasticsearch-cluster-name"
def elasticsearchNodePoolNameLabel : String :=
  "navigator.jetstack.io/elasticsearch-node-pool-name"
def elasticsearchNodePoolVersionAnnotation : String :=
  "navigator.jetstack.io/elasticsearch-version"
def elasticsearchRoleLabelPrefix : String := "navigator.jetstack.io/elasticsearch-role-"
def cassandraClusterNameLabel : String := "navigator.jetstack.io/cassandra-cluster-name"
def cassandraNodePoolNameLabel : String := "navigator.jetstack.io/cassandra-node-pool-name"
def pilotLabel : String := "navigator.jetstack.io/has-pilot"

def groupName : String := "navigator.jetstack.io"

/-- The API version of the Navigator types in owner references. -/
def navigatorApiVersion : String := groupName ++ "/v1alpha1"

structure ImageSpec where
  repository : String
  tag : String
  pullPolicy : String
deriving DecidableEq

def pullIfNotPresent : String := "IfNotPresent"

structure PersistenceConfig where
  size : Quantity
  storageClass : Option String
deriving DecidableEq

structure NavigatorSecurityContext where
  runAsUser : Option Int := none
deriving DecidableEq

structure NavigatorClusterConfig where
  pilotImage : ImageSpec
  securityContext : NavigatorSecurityContext := {}
  paused : Bool := false
deriving DecidableEq

inductive ClusterConditionType where
  | available
  | progressing
  | other (text : String) (unknown : text ∉ ["Available", "Progressing"])
deriving DecidableEq

inductive ConditionStatus where
  | true
  | false
  | unknown
  | other (text : String) (unlisted : text ∉ ["True", "False", "Unknown"])
deriving DecidableEq

/-- A condition.  Those of clusters and those of Pilots differ only in what their
types are. -/
structure Condition (τ : Type) where
  type : τ
  status : ConditionStatus
  lastTransitionTime : Nat := 0
  reason : String
  message : String
deriving DecidableEq

abbrev ClusterCondition := Condition ClusterConditionType

/-- `GetStatusCondition`. -/
def getStatusCondition (conditions : List ClusterCondition) (type : ClusterConditionType) :
    Option ClusterCondition :=
  conditions.find? fun condition => condition.type = type

section Conditions

variable {τ : Type} [DecidableEq τ]

/-- The loop of `UpdateStatusCondition`: the first condition of the type is
replaced, keeping its transition time when the status stays the same. -/
def replaceCondition (now : Nat) (newCondition : Condition τ) :
    List (Condition τ) → List (Condition τ)
  | [] => []
  | condition :: rest =>
      if condition.type = newCondition.type then
        { newCondition with lastTransitionTime :=
            if condition.status ≠ newCondition.status then now
            else condition.lastTransitionTime } :: rest
      else condition :: replaceCondition now newCondition rest

/-- What the two functions named `UpdateStatusCondition` do to their list.  A
condition is added only to an empty list. -/
def setCondition (now : Nat) (conditions : List (Condition τ)) (newCondition : Condition τ) :
    List (Condition τ) :=
  match conditions with
  | [] => [{ newCondition with lastTransitionTime := now }]
  | conditions => replaceCondition now newCondition conditions

end Conditions

/-- `NavigatorClusterStatus.UpdateStatusCondition`. -/
def updateStatusCondition (now : Nat) (conditions : List ClusterCondition)
    (newCondition : ClusterCondition) : List ClusterCondition :=
  setCondition now conditions newCondition

def pausedClusterReason : String := "ClusterPaused"
def resumedClusterReason : String := "ClusterResumed"

/-- `syncPausedConditions`, the same in both cluster controllers. -/
def syncPausedConditions (now : Nat) (paused : Bool) (conditions : List ClusterCondition) :
    List ClusterCondition :=
  let pausedCondExists :=
    (getStatusCondition conditions .progressing).any fun condition =>
      condition.reason = pausedClusterReason
  if paused && !pausedCondExists then
    updateStatusCondition now conditions
      { type := .progressing, status := .false, reason := pausedClusterReason,
        message := "Cluster is paused" }
  else if !paused && pausedCondExists then
    updateStatusCondition now conditions
      { type := .progressing, status := .true, reason := resumedClusterReason,
        message := "Cluster is resumed" }
  else conditions

/-- A role is a string; the three the code knows are named. -/
inductive ElasticsearchClusterRole where
  | data
  | master
  | ingest
  | other (text : String) (unknown : text ∉ ["data", "master", "ingest"])
deriving DecidableEq

namespace ElasticsearchClusterRole

def string : ElasticsearchClusterRole → String
  | data => "data"
  | master => "master"
  | ingest => "ingest"
  | other text _ => text

theorem string_injective {r s : ElasticsearchClusterRole} (h : r.string = s.string) :
    r = s := by
  rcases r with _ | _ | _ | ⟨text, hunknown⟩ <;> rcases s with _ | _ | _ | ⟨text', hunknown'⟩ <;>
    simp only [string] at h <;> first | rfl | grind

end ElasticsearchClusterRole

structure ElasticsearchClusterNodePool where
  name : String
  replicas : Option Int
  roles : List ElasticsearchClusterRole
  nodeSelector : StringMap := none
  resources : ResourceRequirements := {}
  persistence : Option PersistenceConfig := none
  schedulerName : String := ""
deriving DecidableEq

structure ElasticsearchClusterSpec where
  navigatorClusterConfig : NavigatorClusterConfig
  version : Version
  plugins : List String := []
  nodePools : List ElasticsearchClusterNodePool
  image : Option ImageSpec := none
  minimumMasters : Option Int := none
deriving DecidableEq

inductive ElasticsearchClusterHealth where
  | red
  | yellow
  | green
  | other (text : String) (unknown : text ∉ ["Red", "Yellow", "Green"])
deriving DecidableEq

structure NodePoolStatus where
  readyReplicas : Int := 0
deriving DecidableEq

structure ElasticsearchClusterStatus where
  conditions : List ClusterCondition := []
  nodePools : Option (Std.ExtTreeMap String NodePoolStatus) := none
  health : Option ElasticsearchClusterHealth := none
deriving DecidableEq

structure ElasticsearchCluster where
  metadata : ObjectMeta
  spec : ElasticsearchClusterSpec
  status : ElasticsearchClusterStatus := {}
deriving DecidableEq

instance : ApiObject ElasticsearchCluster where
  objectMeta c := c.metadata
  setMeta c m := { c with metadata := m }
  objectMeta_setMeta _ _ := rfl

/-- `version.Version` of the Cassandra types: the text as given and the parsed
version, which is nil in the zero value. -/
structure CassandraVersion where
  versionString : String
  semver : Option GoVersion
deriving DecidableEq

structure CassandraClusterNodePool where
  name : String
  replicas : Option Int
  persistence : Option PersistenceConfig := none
  nodeSelector : StringMap := none
  rack : Option String := none
  datacenter : Option String := none
  resources : ResourceRequirements := {}
  schedulerName : String := ""
deriving DecidableEq

structure CassandraClusterSpec where
  navigatorClusterConfig : NavigatorClusterConfig
  nodePools : List CassandraClusterNodePool
  image : Option ImageSpec := none
  version : CassandraVersion
deriving DecidableEq

structure CassandraClusterStatus where
  conditions : List ClusterCondition := []
  nodePools : Std.ExtTreeMap String NodePoolStatus := ∅
deriving DecidableEq

structure CassandraCluster where
  metadata : ObjectMeta
  spec : CassandraClusterSpec
  status : CassandraClusterStatus := {}
deriving DecidableEq

instance : ApiObject CassandraCluster where
  objectMeta c := c.metadata
  setMeta c m := { c with metadata := m }
  objectMeta_setMeta _ _ := rfl

/-- What an Elasticsearch Pilot reports; `none` is a value not known. -/
structure ElasticsearchPilotStatus where
  documents : Option Int := none
  version : Option Version := none
deriving DecidableEq

inductive PilotConditionType where
  | ready
  | started
  | stopped
  | other (text : String) (unknown : text ∉ ["Ready", "Started", "Stopped"])
deriving DecidableEq

abbrev PilotCondition := Condition PilotConditionType

structure PilotStatus where
  conditions : List PilotCondition := []
  elasticsearch : Option ElasticsearchPilotStatus := none
deriving DecidableEq

structure Pilot where
  metadata : ObjectMeta
  status : PilotStatus := {}
deriving DecidableEq

instance : ApiObject Pilot where
  objectMeta pilot := pilot.metadata
  setMeta pilot m := { pilot with metadata := m }
  objectMeta_setMeta _ _ := rfl

namespace Pilot

def hasCondition (p : Pilot) (condition : PilotCondition) : Bool :=
  p.status.conditions.any fun cond =>
    condition.type = cond.type && condition.status = cond.status

/-- `Pilot.UpdateStatusCondition`, with `fmt.Sprintf` on one argument, the list
of the texts that follow the message. -/
def updateStatusCondition (sprintf : String → List String → String) (now : Nat) (p : Pilot)
    (conditionType : PilotConditionType) (status : ConditionStatus) (reason message : String)
    (format : List String) : Pilot :=
  { p with status := { p.status with
      conditions := setCondition now p.status.conditions
        { type := conditionType, status := status, reason := reason,
          message := sprintf message format } } }

end Pilot

/-- The image reference of a container. -/
def ImageSpec.reference (image : ImageSpec) : String :=
  image.repository ++ ":" ++ image.tag

def sharedVolumeName : String := "shared"
def sharedVolumeMountPath : String := "/shared"

def jvmCgroupOpts : String :=
  "-XX:+UnlockExperimentalVMOptions -XX:+UseCGroupMemoryLimitForHeap -XX:MaxRAMFraction=1 "

/-- Ten thousandths of a core. -/
def pilotInstallCPU : Quantity := { i := ⟨10, -3⟩, s := "10m", format := .decimalSI }

/-- Fifty mebibytes. -/
def pilotInstallMemory : Quantity := { i := ⟨50 * 1048576, 0⟩, s := "50Mi", format := .binarySI }

example : Quantity.parseQuantity "10m" = .ok pilotInstallCPU ∧
    Quantity.parseQuantity "50Mi" = .ok pilotInstallMemory := by decide +kernel

/-- The requests and limits of the container that installs the pilot. -/
def pilotInstallResources : ResourceRequirements :=
  let resources := Std.ExtTreeMap.ofList [("cpu", pilotInstallCPU), ("memory", pilotInstallMemory)]
  { limits := some resources, requests := some resources }

/-- The claim for the data volume of a pool with persistence. -/
def dataVolumeClaim (volumeName : String) (persistence : PersistenceConfig) :
    PersistentVolumeClaim where
  name := volumeName
  annotations := match persistence.storageClass with
    | none => StringMap.ofList []
    | some storageClass =>
        StringMap.ofList [("volume.beta.kubernetes.io/storage-class", storageClass)]
  accessModes := ["ReadWriteOnce"]
  storageClassName := persistence.storageClass
  requests := some (Std.ExtTreeMap.ofList [("storage", persistence.size)])

end Navigator
