/-
The event handlers of the Elasticsearch controller: which cluster an event about
one of the watched objects puts into the work queue.
-/
import Navigator.Elasticsearch.Resources
import Navigator.Ownership
import Navigator.PilotController

namespace Navigator

/-- What an informer tells its handlers.  A deletion that was missed carries the
last known state of the object, if there is one. -/
inductive Notification where
  | add (object : Controlee)
  | update (old new : Controlee)
  | delete (object : Controlee)
  | deletedFinalStateUnknown (object : Option Controlee)

/-- `BlockingEventHandler`: the keys its work function adds to the queue. -/
def blockingEventHandler (workFunc : Controlee → List String) : Notification → List String
  | .add object => workFunc object
  | .update old new =>
      if old.metadata.resourceVersion ≠ new.metadata.resourceVersion then workFunc new else []
  | .delete object => workFunc object
  | .deletedFinalStateUnknown (some object) => workFunc object
  | .deletedFinalStateUnknown none => []

/-- The notification is about the object, and not about one that is unchanged. -/
inductive Notification.About : Notification → Controlee → Prop where
  | add {object : Controlee} : About (.add object) object
  | update {old new : Controlee}
      (changed : old.metadata.resourceVersion ≠ new.metadata.resourceVersion) :
      About (.update old new) new
  | delete {object : Controlee} : About (.delete object) object
  | deletedFinalStateUnknown {object : Controlee} :
      About (.deletedFinalStateUnknown (some object)) object

theorem blockingEventHandler_eq {workFunc : Controlee → List String} {event : Notification}
    {object : Controlee} (h : event.About object) :
    blockingEventHandler workFunc event = workFunc object := by
  cases h with
  | update changed => simp only [blockingEventHandler, if_pos changed]
  | _ => rfl

/-- `cache.MetaNamespaceKeyFunc`. -/
def metaNamespaceKey {α : Type} [ApiObject α] (object : α) : String :=
  if namespaceOf object ≠ "" then namespaceOf object ++ "/" ++ nameOf object else nameOf object

namespace Elasticsearch

/-- The kinds that the controller watches, besides the clusters themselves. -/
inductive Watched where
  | pilot
  | statefulSet
  | pod
  | serviceAccount
  | service
  | configMap
  | role
  | roleBinding
deriving DecidableEq

/-- The caches that the handlers read. -/
structure Listers where
  esLister : Lister ElasticsearchCluster
  state : State

def handleObject (listers : Listers) (object : Controlee) : List String :=
  match getControllerOf object with
  | none => []
  | some ownerRef =>
      if ownerRef.kind ≠ "ElasticsearchCluster" then []
      else
        match listers.esLister.get "elasticsearchcluster.navigator.jetstack.io"
            (namespaceOf object) ownerRef.name with
        | .error _ => []
        | .ok cluster => [metaNamespaceKey cluster]

def handlePodObject (listers : Listers) (object : Controlee) : List String :=
  match getControllerOf object with
  | none => []
  | some ownerRef =>
      if ownerRef.kind ≠ "StatefulSet" then []
      else
        match listers.state.statefulSetLister.get "statefulset.apps" (namespaceOf object)
            ownerRef.name with
        | .error _ => []
        | .ok set => handleObject listers (.of set)

/-- The handlers that `NewElasticsearch` registers. -/
def handler (listers : Listers) : Watched → Notification → List String
  | .pod => blockingEventHandler (handlePodObject listers)
  | _ => blockingEventHandler (handleObject listers)

/-- The object is controlled by an Elasticsearch cluster. -/
def ControlledByCluster (object : Controlee) : Prop :=
  ∃ ref, getControllerOf object = some ref ∧ ref.kind = "ElasticsearchCluster"

/-- As far as the handler of a kind follows the controllers: one link, and two
for a pod, the first of them a StatefulSet. -/
def WithinReach (state : State) (object : Controlee) : Watched → Prop
  | .pod => ∃ ref set, getControllerOf object = some ref ∧ ref.kind = "StatefulSet" ∧
      state.statefulSetLister.get "statefulset.apps" (namespaceOf object) ref.name = .ok set ∧
      ControlledByCluster (.of set)
  | _ => ControlledByCluster object

section

variable {listers : Listers} {object : Controlee} {ref : OwnerReference}
  {cluster : ElasticsearchCluster}

/-- Of an object whose controllers end in a cached cluster, `handleObject` finds
that cluster exactly when it is the first of them. -/
theorem mem_handleObject_iff (hroot : RootController listers.state object ref)
    (hcluster : listers.esLister.get "elasticsearchcluster.navigator.jetstack.io"
      (namespaceOf object) ref.name = .ok cluster) :
    metaNamespaceKey cluster ∈ handleObject listers object ↔ ControlledByCluster object := by
  unfold handleObject ControlledByCluster
  cases hcontroller : getControllerOf object with
  | none => simp
  | some ownerRef =>
      simp only [Option.some.injEq, exists_eq_left']
      by_cases hkind : ownerRef.kind = "ElasticsearchCluster"
      · obtain rfl := (rootController_of_cluster hcontroller (Or.inl hkind)).mp hroot
        simp [hkind, hcluster]
      · simp [hkind]

/-- The same for a pod, one link further. -/
theorem mem_handlePodObject_iff (hroot : RootController listers.state object ref)
    (hcluster : listers.esLister.get "elasticsearchcluster.navigator.jetstack.io"
      (namespaceOf object) ref.name = .ok cluster) :
    metaNamespaceKey cluster ∈ handlePodObject listers object ↔
      WithinReach listers.state object .pod := by
  unfold handlePodObject WithinReach
  cases hcontroller : getControllerOf object with
  | none => simp
  | some ownerRef =>
      simp only [Option.some.injEq, exists_and_left, exists_eq_left']
      by_cases hkind : ownerRef.kind = "StatefulSet"
      · obtain ⟨set, hset, hrest⟩ :=
          (rootController_of_statefulSet hcontroller hkind).mp hroot
        have hnamespace : namespaceOf set = namespaceOf object :=
          congrArg Prod.fst (Lister.get_ok hset).2
        have hfound := mem_handleObject_iff hrest (by rwa [Controlee.namespaceOf_of, hnamespace])
        simpa [hkind, hset] using hfound
      · simp [hkind]

/-- An event about an object whose controllers end in a cached cluster wakes the
controller for that cluster, exactly when the cluster is within reach of the
handler. -/
theorem handler_wakes_iff {watched : Watched} {event : Notification}
    (hevent : event.About object) (hroot : RootController listers.state object ref)
    (hcluster : listers.esLister.get "elasticsearchcluster.navigator.jetstack.io"
      (namespaceOf object) ref.name = .ok cluster) :
    metaNamespaceKey cluster ∈ handler listers watched event ↔
      WithinReach listers.state object watched := by
  cases watched with
  | pod =>
      rw [handler, blockingEventHandler_eq hevent]
      exact mem_handlePodObject_iff hroot hcluster
  | _ =>
      rw [handler, blockingEventHandler_eq hevent]
      · exact mem_handleObject_iff hroot hcluster
      all_goals exact Watched.noConfusion

/-- A Pilot that the pilot controller created never wakes the controller: it is
controlled by its pod. -/
theorem handler_pilotForPod (listers : Listers) (pod : Pod) {event : Notification}
    (hevent : event.About (.of (PilotController.pilotForPod pod))) :
    handler listers .pilot event = [] := by
  rw [handler, blockingEventHandler_eq hevent]
  · rfl
  all_goals exact Watched.noConfusion

end

namespace EventHandlersWitness

def pool : NodePool := samplePool "all" 1 [.master, .data]

def cluster : Cluster := sampleCluster "db" "uid-db" (release 6 1 1) [pool]

/-- The StatefulSet of the pool. -/
def sets : List StatefulSet := (nodePoolStatefulSet cluster pool).toOption.toList

/-- Its pod, as the StatefulSet controller creates it. -/
def pod : Pod where
  metadata :=
    { name := "es-db-all-0"
      namespaceName := "default"
      ownerReferences := sets.map (newControllerRef "apps/v1beta1" "StatefulSet") }

def listers : Listers where
  esLister := { items := [cluster] }
  state :=
    { statefulSetLister := { items := sets }
      configMapLister := { items := [] }
      pilotLister := { items := [] }
      podLister := { items := [pod] } }

theorem handler_wakes_iff_pod :
    rootControllerRef listers.state 2 (.of pod) = some (.ok (some (newClusterRef cluster))) ∧
      (metaNamespaceKey cluster ∈ handler listers .pod (.add (.of pod)) ↔
        WithinReach listers.state (.of pod) .pod) := by
  have hroot : rootControllerRef listers.state 2 (.of pod) =
      some (.ok (some (newClusterRef cluster))) := by decide +kernel
  have hcluster : listers.esLister.get "elasticsearchcluster.navigator.jetstack.io" "default"
      "db" = .ok cluster := by decide +kernel
  exact ⟨hroot, handler_wakes_iff .add (rootController_iff.mpr ⟨2, hroot⟩) hcluster⟩

/-- The Pilot of the pod is controlled by the cluster in the end, which is
cached, but its addition wakes no one. -/
theorem handler_misses_pilot :
    rootControllerRef listers.state 3 (.of (PilotController.pilotForPod pod)) =
        some (.ok (some (newClusterRef cluster))) ∧
      listers.esLister.get "elasticsearchcluster.navigator.jetstack.io" "default"
        (newClusterRef cluster).name = .ok cluster ∧
      handler listers .pilot (.add (.of (PilotController.pilotForPod pod))) = [] := by
  decide +kernel

end EventHandlersWitness

end Elasticsearch

end Navigator
