/-
Names, labels and selectors of a Cassandra cluster, and the StatefulSet built
for each of its node pools.
-/
import Navigator.Client
import Navigator.Field

namespace Navigator

namespace Cassandra

abbrev Cluster := CassandraCluster
abbrev NodePool := CassandraClusterNodePool

def typeName : String := "cass"

def kindName : String := "CassandraCluster"

def newClusterRef (c : Cluster) : OwnerReference :=
  newControllerRef navigatorApiVersion kindName c

def resourceBaseName (c : Cluster) : String := typeName ++ "-" ++ c.metadata.name

def nodePoolResourceName (c : Cluster) (np : NodePool) : String :=
  resourceBaseName c ++ "-" ++ np.name

def seedsServiceName (c : Cluster) : String := resourceBaseName c ++ "-seeds"

def serviceAccountName (c : Cluster) : String := resourceBaseName c

def clusterLabels (c : Cluster) : StringMap :=
  StringMap.ofList [("app", "cassandracluster"), (cassandraClusterNameLabel, c.metadata.name)]

def selectorForCluster (c : Cluster) : Except Err Selector := do
  let clusterNameReq ← newRequirement cassandraClusterNameLabel c.metadata.name
  pure [clusterNameReq]

/-- The selector asks for the name of the cluster. -/
theorem matchesLabels_of_selectorForCluster {c : Cluster} {selector : Selector}
    (h : selectorForCluster c = .ok selector) {labels : StringMap}
    (hmatches : selector.matchesLabels labels = true) :
    StringMap.get? labels cassandraClusterNameLabel = some c.metadata.name := by
  have hkey : isQualifiedName cassandraClusterNameLabel = [] := by decide
  obtain ⟨req, hreq, h⟩ := bind_eq_ok h
  obtain ⟨_, rfl⟩ := (newRequirement_eq_ok_iff hkey).mp hreq
  cases h
  simpa [Selector.matchesLabels, Requirement.matchesLabels] using hmatches

def nodePoolLabels (c : Cluster) (poolName : String) : StringMap :=
  StringMap.set (clusterLabels c) cassandraNodePoolNameLabel poolName

def defaultCassandraImageRepository : String := "docker.io/cassandra"

/-- `defaultCassandraImageForVersion`.  Rendering a version that is not there
crashes. -/
def defaultCassandraImageForVersion (v : CassandraVersion) : Checked ImageSpec :=
  match v.semver with
  | none => .error .nilDereference
  | some semver => .ok ⟨defaultCassandraImageRepository, semver.string, pullIfNotPresent⟩

def cassImageToUse (spec : CassandraClusterSpec) : Checked ImageSpec :=
  match spec.image with
  | none => defaultCassandraImageForVersion spec.version
  | some image => .ok image

def cassDataVolumeName : String := "cassandra-data"
def cassDataVolumeMountPath : String := "/var/lib/cassandra"
def cassSnitch : String := "GossipingPropertyFileSnitch"
def jolokiaHost : String := "127.0.0.1"
def jolokiaPort : Int := 8778
def jolokiaContext : String := "/jolokia"

def pilotInstallationContainer (image : ImageSpec) : Container where
  name := "install-pilot"
  image := image.reference
  imagePullPolicy := image.pullPolicy
  command := ["cp", "/pilot", "/jolokia.jar", "/jmx_prometheus_javaagent.jar",
    "/jmx_prometheus_javaagent.yaml", "/libcassandra-kubernetes-seed-provider.jar",
    sharedVolumeMountPath ++ "/"]
  volumeMounts := [⟨sharedVolumeName, sharedVolumeMountPath, false⟩]
  resources := pilotInstallResources

def jvmOpts : String :=
  "-javaagent:" ++ sharedVolumeMountPath ++ "/jolokia.jar=host=" ++ jolokiaHost ++ ",port=" ++
    decimal jolokiaPort ++ ",agentContext=" ++ jolokiaContext ++ " -javaagent:" ++
    sharedVolumeMountPath ++ "/jmx_prometheus_javaagent.jar=8080:" ++ sharedVolumeMountPath ++
    "/jmx_prometheus_javaagent.yaml " ++ jvmCgroupOpts

def cassandraEnv (c : Cluster) (np : NodePool) : List EnvVar :=
  [⟨"MAX_HEAP_SIZE", .value "512M"⟩,
   ⟨"HEAP_NEWSIZE", .value "100M"⟩,
   ⟨"CASSANDRA_LISTEN_ADDRESS", .value " "⟩,
   ⟨"CASSANDRA_BROADCAST_ADDRESS", .value " "⟩,
   ⟨"CASSANDRA_RPC_ADDRESS", .value " "⟩,
   ⟨"CASSANDRA_SEEDS", .value "black-hole-dns-name"⟩,
   ⟨"CASSANDRA_ENDPOINT_SNITCH", .value cassSnitch⟩,
   ⟨"CASSANDRA_SERVICE", .value (seedsServiceName c)⟩,
   ⟨"CASSANDRA_CLUSTER_NAME", .value c.metadata.name⟩,
   ⟨"CASSANDRA_DC", .value (np.datacenter.getD "")⟩,
   ⟨"CASSANDRA_RACK", .value (np.rack.getD "")⟩,
   ⟨"JVM_OPTS", .value jvmOpts⟩,
   ⟨"CLASSPATH",
      .value (sharedVolumeMountPath ++ "/libcassandra-kubernetes-seed-provider.jar")⟩,
   ⟨"POD_IP", .fieldRef "status.podIP"⟩,
   ⟨"POD_NAME", .fieldRef "metadata.name"⟩,
   ⟨"POD_NAMESPACE", .fieldRef "metadata.namespace"⟩,
   ⟨"LEADER_ELECTION_CONFIG_MAP",
      .value ("cassandra-" ++ c.metadata.name ++ "-leaderelection")⟩]

def cassandraContainer (c : Cluster) (np : NodePool) (image : ImageSpec) : Container where
  name := "cassandra"
  image := image.reference
  imagePullPolicy := image.pullPolicy
  command := [sharedVolumeMountPath ++ "/pilot"]
  args := ["--v=4", "--logtostderr", "--pilot-name=$(POD_NAME)",
    "--pilot-namespace=$(POD_NAMESPACE)",
    "--leader-election-config-map=$(LEADER_ELECTION_CONFIG_MAP)",
    "--jolokia-url=http://" ++ jolokiaHost ++ ":" ++ decimal jolokiaPort ++ jolokiaContext ++ "/"]
  env := cassandraEnv c np
  securityContext := some
    { runAsUser := c.spec.navigatorClusterConfig.securityContext.runAsUser }
  readinessProbe := some
    { port := 12000, initialDelaySeconds := 60, timeoutSeconds := 10, periodSeconds := 15,
      successThreshold := 3, failureThreshold := 1 }
  livenessProbe := some
    { port := 12001, initialDelaySeconds := 90, timeoutSeconds := 10, periodSeconds := 30,
      successThreshold := 1, failureThreshold := 6 }
  resources := np.resources
  ports := [⟨"intra-node", 7000⟩, ⟨"intra-node-tls", 7001⟩, ⟨"jmx", 7199⟩, ⟨"cql", 9042⟩,
    ⟨"prometheus", 8080⟩]
  volumeMounts := [⟨sharedVolumeName, sharedVolumeMountPath, true⟩,
    ⟨cassDataVolumeName, cassDataVolumeMountPath, false⟩]

def cassandraVolumes (np : NodePool) : List Volume :=
  ⟨sharedVolumeName, .emptyDir⟩ ::
    match np.persistence with
    | none => [⟨cassDataVolumeName, .emptyDir⟩]
    | some _ => []

/-- The pod template of a pool. -/
def cassandraPodTemplate (c : Cluster) (np : NodePool) (image : ImageSpec) :
    PodTemplateSpec where
  labels := StringMap.set (nodePoolLabels c np.name) pilotLabel ""
  annotations := StringMap.ofList [("prometheus.io/port", "8080"), ("prometheus.io/path", "/"),
    ("prometheus.io/scrape", "true")]
  spec :=
    { serviceAccountName := serviceAccountName c
      nodeSelector := np.nodeSelector
      schedulerName := np.schedulerName
      fsGroup := c.spec.navigatorClusterConfig.securityContext.runAsUser
      volumes := cassandraVolumes np
      initContainers :=
        [pilotInstallationContainer c.spec.navigatorClusterConfig.pilotImage]
      containers := [cassandraContainer c np image] }

/-- `StatefulSetForCluster`.  The StatefulSet starts without replicas. -/
def statefulSetForCluster (c : Cluster) (np : NodePool) : Checked StatefulSet := do
  let image ← cassImageToUse c.spec
  pure
    { metadata :=
        { name := nodePoolResourceName c np
          namespaceName := c.metadata.namespaceName
          labels := nodePoolLabels c np.name
          annotations := StringMap.ofList []
          ownerReferences := [newClusterRef c] }
      spec :=
        { replicas := some 0
          serviceName := nodePoolResourceName c np
          selector := nodePoolLabels c np.name
          updateStrategy := { type := .rollingUpdate }
          podManagementPolicy := .orderedReady
          template := cassandraPodTemplate c np image
          volumeClaimTemplates :=
            (np.persistence.map (dataVolumeClaim cassDataVolumeName)).toList } }

/-- Where the StatefulSet of a pool is stored. -/
def setKey (c : Cluster) (poolName : String) : String × String :=
  (c.metadata.namespaceName, resourceBaseName c ++ "-" ++ poolName)

theorem setKey_injective {c : Cluster} {poolName poolName' : String}
    (h : setKey c poolName = setKey c poolName') : poolName = poolName' := by
  have hlists := congrArg String.toList (congrArg Prod.snd h)
  simp only [setKey, String.toList_append] at hlists
  exact String.toList_inj.mp (List.append_cancel_left hlists)

/-- The fields of a StatefulSet just built that identify it and count its nodes. -/
theorem statefulSetForCluster_eq_ok {c : Cluster} {np : NodePool} {set : StatefulSet}
    (h : statefulSetForCluster c np = .ok set) :
    nameOf set = nodePoolResourceName c np ∧ namespaceOf set = c.metadata.namespaceName ∧
      set.metadata.labels = nodePoolLabels c np.name ∧
      set.metadata.ownerReferences = [newClusterRef c] ∧
      set.spec.replicas = some 0 ∧ set.status = {} := by
  obtain ⟨image, _, hset⟩ := bind_eq_ok h
  cases hset
  exact ⟨rfl, rfl, rfl, rfl, rfl, rfl⟩

/-- The pool label of a pool's StatefulSet is the name of the pool. -/
theorem get?_nodePoolLabels_poolName (c : Cluster) (poolName : String) :
    StringMap.get? (nodePoolLabels c poolName) cassandraNodePoolNameLabel = some poolName := by
  have hlabels : clusterLabels c ≠ none := by
    simp [clusterLabels, StringMap.ofList]
  rw [nodePoolLabels, StringMap.get?_set hlabels, if_pos rfl]

/-- And the cluster label is the name of the cluster. -/
theorem get?_nodePoolLabels_clusterName (c : Cluster) (poolName : String) :
    StringMap.get? (nodePoolLabels c poolName) cassandraClusterNameLabel =
      some c.metadata.name := by
  have hlabels : clusterLabels c ≠ none := by
    simp [clusterLabels, StringMap.ofList]
  rw [nodePoolLabels, StringMap.get?_set hlabels, if_neg (by decide)]
  simp [clusterLabels, StringMap.ofList, StringMap.get?, Std.ExtTreeMap.ofList_cons,
    Std.ExtTreeMap.insertMany_cons]

end Cassandra

end Navigator
