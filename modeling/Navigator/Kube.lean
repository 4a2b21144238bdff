/-
The Kubernetes objects the controllers build and read: pods and their
templates, StatefulSets and ConfigMaps.
-/
import Navigator.Quantity

namespace Navigator

open ControlLoop

/-- A resource list, `none` when it is nil. -/
abbrev ResourceList := Option (Std.ExtTreeMap String Quantity)

structure ResourceRequirements where
  limits : ResourceList := none
  requests : ResourceList := none
deriving DecidableEq

inductive VolumeSource where
  | emptyDir
  | configMap (name : String)
deriving DecidableEq

structure Volume where
  name : String
  source : VolumeSource
deriving DecidableEq

inductive EnvSource where
  | value (text : String)
  | fieldRef (fieldPath : String)
deriving DecidableEq

structure EnvVar where
  name : String
  source : EnvSource
deriving DecidableEq

structure VolumeMount where
  name : String
  mountPath : String
  readOnly : Bool
deriving DecidableEq

structure ContainerPort where
  name : String
  containerPort : Int
deriving DecidableEq

/-- A probe by an HTTP GET. -/
structure Probe where
  port : Int
  path : String := ""
  initialDelaySeconds : Int := 0
  timeoutSeconds : Int := 0
  periodSeconds : Int := 0
  successThreshold : Int := 0
  failureThreshold : Int := 0
deriving DecidableEq

structure SecurityContext where
  runAsUser : Option Int := none
  addCapabilities : List String := []
deriving DecidableEq

structure Container where
  name : String
  image : String
  imagePullPolicy : String
  command : List String := []
  args : List String := []
  env : List EnvVar := []
  securityContext : Option SecurityContext := none
  readinessProbe : Option Probe := none
  livenessProbe : Option Probe := none
  resources : ResourceRequirements := {}
  ports : List ContainerPort := []
  volumeMounts : List VolumeMount := []
deriving DecidableEq

structure PodSpec where
  terminationGracePeriodSeconds : Option Int := none
  serviceAccountName : String := ""
  nodeSelector : StringMap := none
  schedulerName : String := ""
  fsGroup : Option Int := none
  volumes : List Volume := []
  initContainers : List Container := []
  containers : List Container := []
deriving DecidableEq

structure PodTemplateSpec where
  labels : StringMap := none
  annotations : StringMap := none
  spec : PodSpec := {}
deriving DecidableEq

structure PersistentVolumeClaim where
  name : String
  annotations : StringMap
  accessModes : List String
  storageClassName : Option String
  requests : ResourceList
deriving DecidableEq

inductive PodManagementPolicy where
  | orderedReady
  | parallel
deriving DecidableEq

inductive UpdateStrategyType where
  | rollingUpdate
  | onDelete
deriving DecidableEq

/-- An update strategy; `rollingUpdate` is the pointer to the parameters, which
hold the optional partition. -/
structure UpdateStrategy where
  type : UpdateStrategyType := .rollingUpdate
  rollingUpdate : Option (Option Int) := none
deriving DecidableEq

structure StatefulSetSpec where
  replicas : Option Int := none
  serviceName : String := ""
  selector : StringMap := none
  updateStrategy : UpdateStrategy := {}
  podManagementPolicy : PodManagementPolicy := .orderedReady
  template : PodTemplateSpec := {}
  volumeClaimTemplates : List PersistentVolumeClaim := []
deriving DecidableEq

structure StatefulSetStatus where
  readyReplicas : Int := 0
  currentReplicas : Int := 0
  updatedReplicas : Int := 0
deriving DecidableEq

structure StatefulSet where
  metadata : ObjectMeta := {}
  spec : StatefulSetSpec := {}
  status : StatefulSetStatus := {}
deriving DecidableEq

instance : ApiObject StatefulSet where
  objectMeta set := set.metadata
  setMeta set m := { set with metadata := m }
  objectMeta_setMeta _ _ := rfl

structure ConfigMap where
  metadata : ObjectMeta := {}
  data : StringMap := none
deriving DecidableEq

instance : ApiObject ConfigMap where
  objectMeta configMap := configMap.metadata
  setMeta configMap m := { configMap with metadata := m }
  objectMeta_setMeta _ _ := rfl

/-- A pod, as far as the pilot controller reads it. -/
structure Pod where
  metadata : ObjectMeta := {}
deriving DecidableEq

instance : ApiObject Pod where
  objectMeta pod := pod.metadata
  setMeta pod m := { pod with metadata := m }
  objectMeta_setMeta _ _ := rfl

namespace StatefulSet

/-- The partition the rolling update stops at, 0 when none is set. -/
def partition (set : StatefulSet) : Int :=
  (set.spec.updateStrategy.rollingUpdate.getD none).getD 0

/-- The image of the first container of the template. -/
def image? (set : StatefulSet) : Option String :=
  set.spec.template.spec.containers.head?.map Container.image

/-- Write the partition, creating the rolling update parameters if needed. -/
def withPartition (set : StatefulSet) (partition : Int) : StatefulSet :=
  { set with spec := { set.spec with
      updateStrategy := { set.spec.updateStrategy with
        rollingUpdate := some (some partition) } } }

/-- Write the image of the first container. -/
def withImage (set : StatefulSet) (image : String) : StatefulSet :=
  { set with spec := { set.spec with template := { set.spec.template with
      spec := { set.spec.template.spec with
        containers := set.spec.template.spec.containers.modifyHead
          fun container => { container with image := image } } } } }

def withReplicas (set : StatefulSet) (replicas : Int) : StatefulSet :=
  { set with spec := { set.spec with replicas := some replicas } }

def withAnnotation (set : StatefulSet) (key value : String) : StatefulSet :=
  { set with metadata := { set.metadata with
      annotations := StringMap.set set.metadata.annotations key value } }

section Fields

variable (set : StatefulSet) (n : Int) (text value : String)

@[simp] theorem withPartition_metadata : (set.withPartition n).metadata = set.metadata := rfl
@[simp] theorem withPartition_status : (set.withPartition n).status = set.status := rfl
@[simp] theorem withPartition_image? : (set.withPartition n).image? = set.image? := rfl
@[simp] theorem withPartition_partition : (set.withPartition n).partition = n := rfl

@[simp] theorem withPartition_replicas :
    (set.withPartition n).spec.replicas = set.spec.replicas := rfl

@[simp] theorem withImage_metadata : (set.withImage text).metadata = set.metadata := rfl
@[simp] theorem withImage_status : (set.withImage text).status = set.status := rfl
@[simp] theorem withImage_partition : (set.withImage text).partition = set.partition := rfl

@[simp] theorem withImage_replicas :
    (set.withImage text).spec.replicas = set.spec.replicas := rfl

/-- A template without containers has no image to write. -/
@[simp] theorem withImage_image? :
    (set.withImage text).image? = set.image?.map fun _ => text := by
  cases hcontainers : set.spec.template.spec.containers with
  | nil => simp [withImage, image?, hcontainers]
  | cons first rest => simp [withImage, image?, hcontainers]

@[simp] theorem withReplicas_metadata : (set.withReplicas n).metadata = set.metadata := rfl
@[simp] theorem withReplicas_status : (set.withReplicas n).status = set.status := rfl
@[simp] theorem withReplicas_image? : (set.withReplicas n).image? = set.image? := rfl
@[simp] theorem withReplicas_partition : (set.withReplicas n).partition = set.partition := rfl
@[simp] theorem withReplicas_replicas : (set.withReplicas n).spec.replicas = some n := rfl

@[simp] theorem withAnnotation_spec : (set.withAnnotation text value).spec = set.spec := rfl
@[simp] theorem withAnnotation_status : (set.withAnnotation text value).status = set.status := rfl
@[simp] theorem withAnnotation_image? : (set.withAnnotation text value).image? = set.image? := rfl

@[simp] theorem withAnnotation_partition :
    (set.withAnnotation text value).partition = set.partition := rfl

@[simp] theorem withAnnotation_annotations :
    (set.withAnnotation text value).metadata.annotations =
      StringMap.set set.metadata.annotations text value := rfl

@[simp] theorem key_withPartition :
    Resource.key (set.withPartition n) = Resource.key set := rfl
@[simp] theorem version_withPartition :
    Resource.version (set.withPartition n) = Resource.version set := rfl
@[simp] theorem key_withImage : Resource.key (set.withImage text) = Resource.key set := rfl
@[simp] theorem version_withImage :
    Resource.version (set.withImage text) = Resource.version set := rfl
@[simp] theorem key_withReplicas : Resource.key (set.withReplicas n) = Resource.key set := rfl
@[simp] theorem version_withReplicas :
    Resource.version (set.withReplicas n) = Resource.version set := rfl
@[simp] theorem key_withAnnotation :
    Resource.key (set.withAnnotation text value) = Resource.key set := rfl
@[simp] theorem version_withAnnotation :
    Resource.version (set.withAnnotation text value) = Resource.version set := rfl

end Fields

end StatefulSet

end Navigator
