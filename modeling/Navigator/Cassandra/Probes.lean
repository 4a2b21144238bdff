/-
The probes of a Cassandra node: the ports that its pod template names, the
listeners that the pilot starts on them, and what these check.
-/
import Navigator.Cassandra.Nodetool
import Navigator.Cassandra.Resources

namespace Navigator

namespace Cassandra

/-- The outcome of a check: its error, if it fails. -/
abbrev CheckResult := Option Err

/-- The error also prints the nodes, the status or the state; the model leaves
these out. -/
def localNodeUpAndNormal (client : Except Err StorageService) : CheckResult :=
  match status client with
  | .error e => some e
  | .ok nodes =>
      match localNode nodes with
      | none => some (.plain "Local node not found: ")
      | some node =>
          if node.status ≠ .up then some (.plain "Unexpected local node status: ")
          else if node.state ≠ .normal then some (.plain "Unexpected local node state: ")
          else none

def readinessCheck (client : Except Err StorageService) : CheckResult :=
  localNodeUpAndNormal client

def livenessCheck (client : Except Err StorageService) : CheckResult :=
  match status client with
  | .error e => some e
  | .ok _ => none

structure Response where
  statusCode : Nat
  body : String
deriving DecidableEq

/-- `probe.Listener`, with the outcome of its check. -/
structure Listener where
  port : Int
  check : CheckResult

def Listener.serve (l : Listener) : Response :=
  match l.check with
  | none => ⟨200, ""⟩
  | some e => ⟨500, e.error⟩

/-- `serveHealthz` of the generic pilot. -/
def serveHealthz (readinessProbe livenessProbe : CheckResult) : List Listener :=
  [⟨12001, readinessProbe⟩, ⟨12000, livenessProbe⟩]

/-- A GET on a port of the pod, when the local `StorageService` answers so. -/
def httpGet (client : Except Err StorageService) (port : Int) : Option Response :=
  ((serveHealthz (readinessCheck client) (livenessCheck client)).find? fun l =>
    l.port = port).map Listener.serve

/-- A probe succeeds on the codes of success and of redirection. -/
def Succeeds (client : Except Err StorageService) (port : Int) : Prop :=
  ∃ response ∈ httpGet client port, 200 ≤ response.statusCode ∧ response.statusCode < 400

instance (client : Except Err StorageService) (port : Int) :
    Decidable (Succeeds client port) :=
  inferInstanceAs (Decidable (∃ response ∈ httpGet client port,
    200 ≤ response.statusCode ∧ response.statusCode < 400))

/-- The port that the first container of the template names for a probe. -/
def probePort (probe : Container → Option Probe) (set : StatefulSet) : Option Int :=
  (set.spec.template.spec.containers.head?.bind probe).map Probe.port

def StatusSucceeds (client : Except Err StorageService) : Prop :=
  ∃ nodes, status client = .ok nodes

/-- The local node is a member, Up and Normal. -/
def LocalUpAndNormal (client : Except Err StorageService) : Prop :=
  ∃ nodes node, status client = .ok nodes ∧ localNode nodes = some node ∧
    node.status = .up ∧ node.state = .normal

theorem livenessCheck_eq_none_iff {client : Except Err StorageService} :
    livenessCheck client = none ↔ StatusSucceeds client := by
  unfold livenessCheck StatusSucceeds
  cases status client with
  | error e => simp
  | ok nodes => simp

theorem readinessCheck_eq_none_iff {client : Except Err StorageService} :
    readinessCheck client = none ↔ LocalUpAndNormal client := by
  unfold readinessCheck localNodeUpAndNormal LocalUpAndNormal
  cases status client with
  | error e => simp
  | ok nodes =>
      cases hlocal : localNode nodes with
      | none => simp [hlocal]
      | some node =>
          by_cases hup : node.status = .up
          · by_cases hnormal : node.state = .normal
            · simp [hlocal, hup, hnormal]
            · simp [hlocal, hup, hnormal]
          · simp [hlocal, hup]

theorem LocalUpAndNormal.statusSucceeds {client : Except Err StorageService}
    (h : LocalUpAndNormal client) : StatusSucceeds client := by
  obtain ⟨nodes, _, hnodes, _⟩ := h
  exact ⟨nodes, hnodes⟩

/-- A listener answers with success exactly when its check passes. -/
theorem succeeds_iff {client : Except Err StorageService} {port : Int} {l : Listener}
    (hport : (serveHealthz (readinessCheck client) (livenessCheck client)).find?
      (fun l => l.port = port) = some l) :
    Succeeds client port ↔ l.check = none := by
  unfold Succeeds httpGet
  rw [hport]
  cases hcheck : l.check with
  | none => simp [Listener.serve, hcheck]
  | some e => simp [Listener.serve, hcheck]

/-- On port 12000 the pilot says whether it is alive. -/
theorem succeeds_12000_iff {client : Except Err StorageService} :
    Succeeds client 12000 ↔ StatusSucceeds client :=
  (succeeds_iff rfl).trans livenessCheck_eq_none_iff

/-- On port 12001 the pilot says whether it is ready. -/
theorem succeeds_12001_iff {client : Except Err StorageService} :
    Succeeds client 12001 ↔ LocalUpAndNormal client :=
  (succeeds_iff rfl).trans readinessCheck_eq_none_iff

/-- The template asks on port 12000 whether a node is ready and on port 12001
whether it is alive. -/
theorem probePort_statefulSetForCluster {c : Cluster} {np : NodePool} {set : StatefulSet}
    (h : statefulSetForCluster c np = .ok set) :
    probePort Container.readinessProbe set = some 12000 ∧
      probePort Container.livenessProbe set = some 12001 := by
  obtain ⟨image, _, hset⟩ := bind_eq_ok h
  cases hset
  exact ⟨rfl, rfl⟩

/-- The probes that the template names tell a ready node and a live node from
others, exactly when a node that knows its cluster is ready. -/
theorem probes_mean_iff {c : Cluster} {np : NodePool} {set : StatefulSet}
    (hset : statefulSetForCluster c np = .ok set) (client : Except Err StorageService) :
    ∃ readiness liveness, probePort Container.readinessProbe set = some readiness ∧
      probePort Container.livenessProbe set = some liveness ∧
      (((Succeeds client readiness ↔ LocalUpAndNormal client) ∧
        (Succeeds client liveness ↔ StatusSucceeds client)) ↔
          (StatusSucceeds client → LocalUpAndNormal client)) := by
  obtain ⟨hreadiness, hliveness⟩ := probePort_statefulSetForCluster hset
  refine ⟨12000, 12001, hreadiness, hliveness, ?_⟩
  rw [succeeds_12000_iff, succeeds_12001_iff]
  constructor
  · exact fun h => h.1.mp
  · intro h
    exact ⟨⟨h, LocalUpAndNormal.statusSucceeds⟩, ⟨LocalUpAndNormal.statusSucceeds, h⟩⟩

namespace ProbesWitness

def cluster : Cluster where
  metadata := { name := "db", namespaceName := "default", uid := "uid-db" }
  spec :=
    { navigatorClusterConfig :=
        { pilotImage := ⟨"jetstackexperimental/navigator-pilot-cassandra", "latest",
            pullIfNotPresent⟩ }
      nodePools := [{ name := "rack-a", replicas := some 1 }]
      version := ⟨"3.11.2", some { segments := [3, 11, 2], si := 3 }⟩ }

def pool : NodePool := { name := "rack-a", replicas := some 1 }

def nodeId : UUID := List.replicate 16 7

/-- The answer of a node that is alone in its cluster. -/
def answer (joiningNodes : List String) : Except Err StorageService :=
  .ok
    { hostIdMap := [("10.0.0.1", nodeId)]
      liveNodes := ["10.0.0.1"]
      unreachableNodes := []
      leavingNodes := []
      joiningNodes := joiningNodes
      movingNodes := []
      localHostId := nodeId
      hosts_nodup := by simp }

def built : StatefulSet := (statefulSetForCluster cluster pool).toOption.getD {}

theorem probes_mean_iff_normal :
    statefulSetForCluster cluster pool = .ok built ∧
      ∃ readiness liveness, probePort Container.readinessProbe built = some readiness ∧
        probePort Container.livenessProbe built = some liveness ∧
        (((Succeeds (answer []) readiness ↔ LocalUpAndNormal (answer [])) ∧
          (Succeeds (answer []) liveness ↔ StatusSucceeds (answer []))) ↔
            (StatusSucceeds (answer []) → LocalUpAndNormal (answer []))) := by
  have hbuilt : statefulSetForCluster cluster pool = .ok built := by decide +kernel
  exact ⟨hbuilt, probes_mean_iff hbuilt (answer [])⟩

/-- A joining node is taken for ready and for dead. -/
theorem joining_node_ready_and_dead :
    (status (answer ["10.0.0.1"])).map (fun nodes => (localNode nodes).map Node.state) =
        .ok (some .joining) ∧
      probePort Container.readinessProbe built = some 12000 ∧
      Succeeds (answer ["10.0.0.1"]) 12000 ∧
      probePort Container.livenessProbe built = some 12001 ∧
      ¬ Succeeds (answer ["10.0.0.1"]) 12001 := by
  decide +kernel

end ProbesWitness

end Cassandra

end Navigator
