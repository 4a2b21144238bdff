/-
Names, labels, selectors and images of an Elasticsearch cluster, and the
StatefulSets and ConfigMaps built from its specification.
-/
import Navigator.Client
import Navigator.Validation

namespace Navigator

namespace Elasticsearch

abbrev Cluster := ElasticsearchCluster
abbrev NodePool := ElasticsearchClusterNodePool

def newClusterRef (c : Cluster) : OwnerReference :=
  newControllerRef navigatorApiVersion "ElasticsearchCluster" c

def resourceBaseName (c : Cluster) : String := "es-" ++ c.metadata.name

def nodePoolResourceName (c : Cluster) (np : NodePool) : String :=
  resourceBaseName c ++ "-" ++ np.name

def configMapName (c : Cluster) (np : NodePool) : String := nodePoolResourceName c np

def discoveryServiceName (c : Cluster) : String := resourceBaseName c ++ "-discovery"

def clientServiceName (c : Cluster) : String := resourceBaseName c

def serviceAccountName (c : Cluster) : String := resourceBaseName c

def clusterLabels (c : Cluster) : StringMap :=
  StringMap.ofList [(elasticsearchClusterNameLabel, c.metadata.name)]

def roleLabel (role : ElasticsearchClusterRole) : String :=
  elasticsearchRoleLabelPrefix ++ role.string

def nodePoolLabels (c : Cluster) (poolName : String)
    (roles : List ElasticsearchClusterRole) : StringMap :=
  let labels := clusterLabels c
  let labels := if poolName ≠ "" then
    StringMap.set labels elasticsearchNodePoolNameLabel poolName else labels
  roles.foldl (fun labels role => StringMap.set labels (roleLabel role) "true") labels

def selectorForCluster (clusterName : String) : Except Err Selector := do
  let clusterNameReq ← newRequirement elasticsearchClusterNameLabel clusterName
  pure [clusterNameReq]

def selectorForNodePool (clusterName poolName : String) : Except Err Selector := do
  let nodePoolNameReq ← newRequirement elasticsearchNodePoolNameLabel poolName
  let clusterSelector ← selectorForCluster clusterName
  pure (clusterSelector ++ [nodePoolNameReq])

theorem selectorForCluster_eq_ok_iff {clusterName : String} {selector : Selector} :
    selectorForCluster clusterName = .ok selector ↔ ValidLabelValue clusterName ∧
      selector = [⟨elasticsearchClusterNameLabel, clusterName⟩] := by
  have hkey : isQualifiedName elasticsearchClusterNameLabel = [] := by decide
  unfold selectorForCluster
  cases hreq : newRequirement elasticsearchClusterNameLabel clusterName with
  | ok r =>
      obtain ⟨hvalid, rfl⟩ := (newRequirement_eq_ok_iff hkey).mp hreq
      simp [bind, Except.bind, pure, Except.pure, hvalid, eq_comm]
  | error e =>
      have hinvalid : ¬ ValidLabelValue clusterName := fun hvalid => by
        have hok := (newRequirement_eq_ok_iff hkey).mpr ⟨hvalid, rfl⟩
        rw [hreq] at hok
        cases hok
      simp [bind, Except.bind, hinvalid]

theorem selectorForNodePool_eq_ok_iff {clusterName poolName : String}
    {selector : Selector} :
    selectorForNodePool clusterName poolName = .ok selector ↔
      ValidLabelValue clusterName ∧ ValidLabelValue poolName ∧
        selector = [⟨elasticsearchClusterNameLabel, clusterName⟩,
          ⟨elasticsearchNodePoolNameLabel, poolName⟩] := by
  have hkey : isQualifiedName elasticsearchNodePoolNameLabel = [] := by decide
  unfold selectorForNodePool
  cases hreq : newRequirement elasticsearchNodePoolNameLabel poolName with
  | ok r =>
      obtain ⟨hpool, rfl⟩ := (newRequirement_eq_ok_iff hkey).mp hreq
      cases hcluster : selectorForCluster clusterName with
      | ok clusterSelector =>
          obtain ⟨hvalid, rfl⟩ := selectorForCluster_eq_ok_iff.mp hcluster
          simp [bind, Except.bind, pure, Except.pure, hvalid, hpool, eq_comm]
      | error e =>
          have hinvalid : ¬ ValidLabelValue clusterName := fun hvalid => by
            have hok := selectorForCluster_eq_ok_iff.mpr ⟨hvalid, rfl⟩
            rw [hcluster] at hok
            cases hok
          simp [bind, Except.bind, hinvalid]
  | error e =>
      have hinvalid : ¬ ValidLabelValue poolName := fun hvalid => by
        have hok := (newRequirement_eq_ok_iff hkey).mpr ⟨hvalid, rfl⟩
        rw [hreq] at hok
        cases hok
      simp [bind, Except.bind, hinvalid]

def defaultElasticsearchImageRepository : String :=
  "docker.elastic.co/elasticsearch/elasticsearch"

def defaultElasticsearchImageForVersion (v : Version) : Except Err ImageSpec :=
  if v.major = 0 ∧ v.minor = 0 ∧ v.patch = 0 then .error (.plain "version must be specified")
  else .ok ⟨defaultElasticsearchImageRepository, v.string, pullIfNotPresent⟩

def esImageToUse (spec : ElasticsearchClusterSpec) : Except Err ImageSpec :=
  match spec.image with
  | none => defaultElasticsearchImageForVersion spec.version
  | some image => .ok image

def esDataVolumeName : String := "elasticsearch-data"
def esDataVolumeMountPath : String := "/usr/share/elasticsearch/data"
def esConfigVolumeName : String := "config"
def esConfigVolumeMountPath : String := "/etc/pilot/elasticsearch/config"

def buildInitContainers (c : Cluster) : List Container :=
  let pilotImage := c.spec.navigatorClusterConfig.pilotImage
  [{ name := "install-pilot"
     image := pilotImage.reference
     imagePullPolicy := pilotImage.pullPolicy
     command := ["cp", "/pilot", sharedVolumeMountPath ++ "/pilot"]
     volumeMounts := [⟨sharedVolumeName, sharedVolumeMountPath, false⟩]
     resources := pilotInstallResources }]

def elasticsearchVolumes (c : Cluster) (np : NodePool) : List Volume :=
  [⟨sharedVolumeName, .emptyDir⟩, ⟨esConfigVolumeName, .configMap (configMapName c np)⟩] ++
    match np.persistence with
    | none => [⟨esDataVolumeName, .emptyDir⟩]
    | some _ => []

def elasticsearchEnv (c : Cluster) (np : NodePool) : List EnvVar :=
  [⟨"DISCOVERY_URL", .value (discoveryServiceName c)⟩,
   ⟨"ROLES", .value (",".intercalate (np.roles.map ElasticsearchClusterRole.string))⟩,
   ⟨"PLUGINS", .value (",".intercalate c.spec.plugins)⟩,
   ⟨"ES_JAVA_OPTS", .value jvmCgroupOpts⟩,
   ⟨"LEADER_ELECTION_CONFIG_MAP",
      .value ("elastic-" ++ c.metadata.name ++ "-leaderelection")⟩,
   ⟨"CLUSTER_URL", .value ("http://" ++ clientServiceName c ++ ":9200")⟩,
   ⟨"POD_NAME", .fieldRef "metadata.name"⟩,
   ⟨"POD_NAMESPACE", .fieldRef "metadata.namespace"⟩]

def elasticsearchContainer (c : Cluster) (np : NodePool) (esImage : ImageSpec) : Container where
  name := "elasticsearch"
  image := esImage.reference
  imagePullPolicy := esImage.pullPolicy
  command := [sharedVolumeMountPath ++ "/pilot"]
  args := ["--v=4", "--logtostderr", "--pilot-name=$(POD_NAME)",
    "--pilot-namespace=$(POD_NAMESPACE)", "--elasticsearch-master-url=$(CLUSTER_URL)",
    "--elasticsearch-roles=$(ROLES)", "--elasticsearch-plugins=$(PLUGINS)",
    "--leader-election-config-map=$(LEADER_ELECTION_CONFIG_MAP)"]
  env := elasticsearchEnv c np
  securityContext := some
    { runAsUser := c.spec.navigatorClusterConfig.securityContext.runAsUser
      addCapabilities := ["IPC_LOCK"] }
  readinessProbe := some
    { port := 12001, path := "/", initialDelaySeconds := 30, periodSeconds := 10,
      timeoutSeconds := 3 }
  livenessProbe := some
    { port := 12000, path := "/", initialDelaySeconds := 240, periodSeconds := 10,
      failureThreshold := 5, timeoutSeconds := 5 }
  resources := np.resources
  ports := [⟨"transport", 9300⟩, ⟨"http", 9200⟩]
  volumeMounts := [⟨esDataVolumeName, esDataVolumeMountPath, false⟩,
    ⟨sharedVolumeName, sharedVolumeMountPath, true⟩,
    ⟨esConfigVolumeName, esConfigVolumeMountPath, false⟩]

/-- The labels of a pool's pods, which the StatefulSet carries as well. -/
def podLabels (c : Cluster) (np : NodePool) : StringMap :=
  StringMap.set (nodePoolLabels c np.name np.roles) pilotLabel ""

def elasticsearchPodTemplateSpec (c : Cluster) (np : NodePool) :
    Except Err PodTemplateSpec := do
  let esImage ← esImageToUse c.spec
  pure
    { labels := podLabels c np
      annotations := StringMap.ofList []
      spec :=
        { terminationGracePeriodSeconds := some 1800
          serviceAccountName := serviceAccountName c
          nodeSelector := np.nodeSelector
          schedulerName := np.schedulerName
          fsGroup := c.spec.navigatorClusterConfig.securityContext.runAsUser
          volumes := elasticsearchVolumes c np
          initContainers := buildInitContainers c
          containers := [elasticsearchContainer c np esImage] } }

def nodePoolStatefulSet (c : Cluster) (np : NodePool) : Except Err StatefulSet :=
  match elasticsearchPodTemplateSpec c np with
  | .error e => .error (.plain ("error building elasticsearch container: " ++ e.error))
  | .ok template => .ok
      { metadata :=
          { name := nodePoolResourceName c np
            namespaceName := c.metadata.namespaceName
            ownerReferences := [newClusterRef c]
            labels := template.labels
            annotations := StringMap.ofList
              [( elasticsearchNodePoolVersionAnnotation, c.spec.version.string)] }
        spec :=
          { replicas := np.replicas
            serviceName := nodePoolResourceName c np
            selector := nodePoolLabels c np.name []
            updateStrategy := { type := .rollingUpdate }
            podManagementPolicy := .parallel
            template := template
            volumeClaimTemplates := (np.persistence.map (dataVolumeClaim "elasticsearch-data")).toList } }

/-- The text before the number in `configTemplate`. -/
def configTemplateHead : String :=
  "\nnode.data: $\x7bNODE_DATA\x7d\nnode.master: $\x7bNODE_MASTER\x7d\nnode.ingest: $\x7bNODE_INGEST\x7d\nnode.name: $\x7bPOD_NAME\x7d\n\nnetwork.host: 0.0.0.0\n\ndiscovery:\n  zen:\n    ping.unicast.hosts: $\x7bDISCOVERY_URL\x7d\n    minimum_master_nodes: "

/-- The text after the number in `configTemplate`. -/
def configTemplateTail : String := "\n\nxpack.security.enabled: false\n"

/-- `fmt.Sprintf(configTemplate, minimumMasters)`. -/
def renderConfig (minimumMasters : Int) : String :=
  configTemplateHead ++ decimal minimumMasters ++ configTemplateTail

/-- The number `generateConfig` writes: what the spec says, or else a quorum of
the masters of the spec. -/
def minimumMasterNodes (spec : ElasticsearchClusterSpec) : Checked Int :=
  match spec.minimumMasters with
  | some minimumMasters => .ok minimumMasters
  | none => (countElasticsearchMasters spec.nodePools).map calculateQuorum

def generateConfig (c : Cluster) : Checked String :=
  (minimumMasterNodes c.spec).map renderConfig

def configFileName : String := "elasticsearch.yml"

def esConfigConfigMap (c : Cluster) (np : NodePool) : Checked ConfigMap := do
  let config ← generateConfig c
  pure
    { metadata :=
        { name := configMapName c np
          namespaceName := c.metadata.namespaceName
          ownerReferences := [newClusterRef c]
          labels := clusterLabels c }
      data := StringMap.ofList [(configFileName, config)] }

/-- A small concrete cluster, for the witnesses of the modules that follow. -/
def sampleCluster (clusterName uid : String) (version : Version)
    (pools : List NodePool) : Cluster where
  metadata := { name := clusterName, namespaceName := "default", uid := uid }
  spec :=
    { navigatorClusterConfig :=
        { pilotImage := ⟨"jetstackexperimental/navigator-pilot-elasticsearch", "latest",
            pullIfNotPresent⟩ }
      version := version
      nodePools := pools }

def samplePool (poolName : String) (replicas : Int)
    (roles : List ElasticsearchClusterRole) : NodePool where
  name := poolName
  replicas := some replicas
  roles := roles

example : validateElasticsearchCluster
    (sampleCluster "db" "1" (release 6 1 1) [samplePool "all" 3 [.master, .data]]) =
      .ok [] := by decide +kernel

end Elasticsearch

end Navigator
