/-
The defaults that every decoded cluster gets, and when its validators return at
all.
-/
import Navigator.Elasticsearch.Quorum
import Navigator.SpecHistory

namespace Navigator

def cassDefaultDatacenter : String := "navigator-default-datacenter"

def setDefaultsImageSpec (spec : ImageSpec) : ImageSpec :=
  if spec.pullPolicy = "" then { spec with pullPolicy := pullIfNotPresent } else spec

/-- A nil node selector becomes an empty one. -/
def defaultNodeSelector (nodeSelector : StringMap) : StringMap :=
  match nodeSelector with
  | none => StringMap.ofList []
  | some entries => some entries

def setDefaultsCassandraClusterNodePool (np : CassandraClusterNodePool) :
    CassandraClusterNodePool :=
  { np with
    datacenter := some (np.datacenter.getD cassDefaultDatacenter)
    rack := some (np.rack.getD np.name)
    replicas := some (np.replicas.getD 1)
    nodeSelector := defaultNodeSelector np.nodeSelector }

def setDefaultsElasticsearchClusterNodePool (np : ElasticsearchClusterNodePool) :
    ElasticsearchClusterNodePool :=
  { np with
    replicas := some (np.replicas.getD 1)
    nodeSelector := defaultNodeSelector np.nodeSelector }

/-- The defaults of the part that both kinds share. -/
def setDefaultsNavigatorClusterConfig (config : NavigatorClusterConfig) :
    NavigatorClusterConfig :=
  { config with pilotImage := setDefaultsImageSpec config.pilotImage }

def setObjectDefaultsCassandraCluster (c : CassandraCluster) : CassandraCluster :=
  { c with spec := { c.spec with
      navigatorClusterConfig := setDefaultsNavigatorClusterConfig c.spec.navigatorClusterConfig
      nodePools := c.spec.nodePools.map setDefaultsCassandraClusterNodePool
      image := c.spec.image.map setDefaultsImageSpec } }

def setObjectDefaultsElasticsearchCluster (c : ElasticsearchCluster) : ElasticsearchCluster :=
  { c with spec := { c.spec with
      navigatorClusterConfig := setDefaultsNavigatorClusterConfig c.spec.navigatorClusterConfig
      nodePools := c.spec.nodePools.map setDefaultsElasticsearchClusterNodePool
      image := c.spec.image.map setDefaultsImageSpec } }

section Returns

variable {α β : Type}

/-- The computation does not crash. -/
def Returns (x : Checked α) : Prop := ∃ value, x = .ok value

theorem returns_bind_iff {x : Checked α} {f : α → Checked β} :
    Returns (x >>= f) ↔ ∃ value, x = .ok value ∧ Returns (f value) := by
  simp only [Returns, bind_eq_ok_iff]
  constructor
  · rintro ⟨result, value, hx, hf⟩
    exact ⟨value, hx, result, hf⟩
  · rintro ⟨value, hx, result, hf⟩
    exact ⟨result, value, hx, hf⟩

theorem returns_pure (value : α) : Returns (pure value : Checked α) := ⟨value, rfl⟩

@[simp] theorem returns_map_iff {x : Checked α} {f : α → β} :
    Returns (x.map f) ↔ Returns x := by
  cases x with
  | error e => simp [Returns, Except.map]
  | ok value => simp [Returns, Except.map]

end Returns

/-- Only the name that is a single dash is out of bounds. -/
theorem maskTrailingDash_returns_iff {name : String} :
    Returns (maskTrailingDash name) ↔ name ≠ "-" := by
  have hdash : name.toList.reverse = ['-'] ↔ name = "-" := by
    rw [List.reverse_eq_iff, ← String.toList_inj]
    rfl
  rw [ne_eq, ← hdash]
  unfold maskTrailingDash
  split
  · rename_i hname
    simp [Returns, hname]
  · rename_i hname
    simp [Returns, hname]
  · rename_i hname _
    exact ⟨fun _ => hname, fun _ => ⟨name, rfl⟩⟩

theorem validateObjectMeta_returns_iff {m : ObjectMeta} {path : Path} :
    Returns (validateObjectMeta m path) ↔ m.generateName ≠ "-" := by
  have hname : Returns (validateName m path) := by
    unfold validateName
    split
    · exact ⟨_, rfl⟩
    · exact ⟨_, rfl⟩
  have hgenerate : Returns (validateGenerateName m path) ↔ m.generateName ≠ "-" := by
    unfold validateGenerateName
    split
    · rename_i hempty
      simp [Returns, hempty]
    · rw [returns_map_iff, nameIsDNSSubdomain, if_pos rfl, returns_map_iff,
        maskTrailingDash_returns_iff]
  rw [← hgenerate]
  unfold validateObjectMeta
  rw [returns_bind_iff]
  constructor
  · rintro ⟨errs, herrs, _⟩
    exact ⟨errs, herrs⟩
  · rintro ⟨errs, herrs⟩
    refine ⟨errs, herrs, returns_bind_iff.mpr ?_⟩
    obtain ⟨nameErrs, hnameErrs⟩ := hname
    exact ⟨nameErrs, hnameErrs, returns_pure _⟩

/-- The check of the metadata and that of the spec, one after the other. -/
theorem checks_return_iff {metaErrs specErrs : Checked ErrorList} :
    Returns (do
      let metaErrs ← metaErrs
      let specErrs ← specErrs
      pure (metaErrs ++ specErrs)) ↔ Returns metaErrs ∧ Returns specErrs := by
  simp only [returns_bind_iff]
  constructor
  · rintro ⟨left, hleft, right, hright, _⟩
    exact ⟨⟨left, hleft⟩, right, hright⟩
  · rintro ⟨⟨left, hleft⟩, right, hright⟩
    exact ⟨left, hleft, right, hright, returns_pure _⟩

theorem validateElasticsearchClusterSpec_returns {spec : ElasticsearchClusterSpec} {path : Path}
    (hsome : ∀ np ∈ spec.nodePools, np.replicas ≠ none) :
    Returns (validateElasticsearchClusterSpec spec path) :=
  returns_bind_iff.mpr ⟨_, Elasticsearch.countElasticsearchMasters_eq hsome, returns_pure _⟩

/-- Defaulting gives every pool its replicas. -/
theorem replicas_setObjectDefaults {c : ElasticsearchCluster} :
    ∀ np ∈ (setObjectDefaultsElasticsearchCluster c).spec.nodePools, np.replicas ≠ none := by
  intro np hnp
  obtain ⟨decoded, _, rfl⟩ := List.mem_map.mp hnp
  exact Option.some_ne_none _

theorem validateElasticsearchCluster_returns_iff {c : ElasticsearchCluster} :
    Returns (validateElasticsearchCluster (setObjectDefaultsElasticsearchCluster c)) ↔
      c.metadata.generateName ≠ "-" := by
  unfold validateElasticsearchCluster
  rw [checks_return_iff, validateObjectMeta_returns_iff]
  exact and_iff_left (validateElasticsearchClusterSpec_returns replicas_setObjectDefaults)

theorem deref_returns_iff {v : CassandraVersion} : Returns v.deref ↔ v.semver ≠ none := by
  unfold CassandraVersion.deref
  cases hsemver : v.semver with
  | none => simp [Returns]
  | some semver => simp [Returns]

theorem validateCassandraCluster_returns_iff {c : CassandraCluster} :
    Returns (validateCassandraCluster (setObjectDefaultsCassandraCluster c)) ↔
      c.metadata.generateName ≠ "-" ∧ c.spec.version.semver ≠ none := by
  unfold validateCassandraCluster
  rw [checks_return_iff, validateObjectMeta_returns_iff]
  apply and_congr_right
  intro _
  unfold validateCassandraClusterSpec
  rw [returns_bind_iff]
  constructor
  · rintro ⟨version, hversion, _⟩
    exact deref_returns_iff.mp ⟨version, hversion⟩
  · intro hversion
    obtain ⟨version, hderef⟩ := deref_returns_iff.mpr hversion
    exact ⟨version, hderef, returns_pure _⟩

/-- The validators return an error list for a decoded and defaulted object, new
or against an accepted old one, exactly when its generated name is not a single
dash and, for Cassandra, when it has a version. -/
theorem validators_return_iff (e oldE : ElasticsearchCluster) (c oldC : CassandraCluster) :
    (Returns (validateElasticsearchCluster (setObjectDefaultsElasticsearchCluster e)) ↔
      e.metadata.generateName ≠ "-") ∧
    (ElasticsearchCluster.Created oldE →
      (Returns (validateElasticsearchClusterUpdate oldE
        (setObjectDefaultsElasticsearchCluster e)) ↔ e.metadata.generateName ≠ "-")) ∧
    (Returns (validateCassandraCluster (setObjectDefaultsCassandraCluster c)) ↔
      c.metadata.generateName ≠ "-" ∧ c.spec.version.semver ≠ none) ∧
    (CassandraCluster.Created oldC →
      (Returns (validateCassandraClusterUpdate oldC (setObjectDefaultsCassandraCluster c)) ↔
        c.metadata.generateName ≠ "-" ∧ c.spec.version.semver ≠ none)) := by
  refine ⟨validateElasticsearchCluster_returns_iff, ?_,
    validateCassandraCluster_returns_iff, ?_⟩
  · intro _
    unfold validateElasticsearchClusterUpdate
    rw [returns_bind_iff, ← validateElasticsearchCluster_returns_iff]
    constructor
    · rintro ⟨errs, herrs, _⟩
      exact ⟨errs, herrs⟩
    · rintro ⟨errs, herrs⟩
      exact ⟨errs, herrs, returns_pure _⟩
  · intro hold
    unfold validateCassandraClusterUpdate
    rw [returns_bind_iff]
    constructor
    · rintro ⟨errs, herrs, _⟩
      exact validateCassandraCluster_returns_iff.mp ⟨errs, herrs⟩
    · -- the version of the old cluster was there when it was accepted
      intro hnew
      obtain ⟨errs, herrs⟩ := validateCassandraCluster_returns_iff.mpr hnew
      obtain ⟨version, hversion⟩ :=
        deref_returns_iff.mpr (show (setObjectDefaultsCassandraCluster c).spec.version.semver ≠
          none from hnew.2)
      obtain ⟨oldVersion, hsome, _⟩ := (validateCassandraCluster_eq_ok_iff.mp hold).2.version
      exact ⟨errs, herrs, returns_bind_iff.mpr ⟨version, hversion, returns_bind_iff.mpr
        ⟨oldVersion, CassandraVersion.deref_eq_ok_iff.mpr hsome, returns_pure _⟩⟩⟩

namespace DefaultsWitness

/-- A Cassandra manifest without a version. -/
def unversioned : CassandraCluster where
  metadata := { name := "db", namespaceName := "default" }
  spec :=
    { navigatorClusterConfig := { pilotImage := ⟨"navigator-pilot-cassandra", "latest", ""⟩ }
      nodePools := [{ name := "rack-a", replicas := none }]
      version := ⟨"", none⟩ }

/-- An Elasticsearch manifest whose name is to be generated from a dash. -/
def dashed : ElasticsearchCluster where
  metadata := { generateName := "-", namespaceName := "default" }
  spec :=
    { navigatorClusterConfig := { pilotImage := ⟨"navigator-pilot-elasticsearch", "latest", ""⟩ }
      version := release 6 1 1
      nodePools := [{ name := "all", replicas := none, roles := [.master, .data] }] }

/-- Both manifests crash their validators. -/
theorem validators_crash :
    validateCassandraCluster (setObjectDefaultsCassandraCluster unversioned) =
        .error .nilDereference ∧
      validateElasticsearchCluster (setObjectDefaultsElasticsearchCluster dashed) =
        .error .sliceBounds := by
  decide +kernel

/-- Pools are added to accepted objects. -/
theorem validators_return_iff_added :
    ElasticsearchCluster.Created (SpecHistoryWitness.elasticsearch []) ∧
      Returns (validateElasticsearchClusterUpdate (SpecHistoryWitness.elasticsearch [])
        (setObjectDefaultsElasticsearchCluster (SpecHistoryWitness.elasticsearch
          [{ name := "data", replicas := none, roles := [.data] }]))) ∧
      CassandraCluster.Created (SpecHistoryWitness.cassandra []) ∧
      Returns (validateCassandraClusterUpdate (SpecHistoryWitness.cassandra [])
        (setObjectDefaultsCassandraCluster (SpecHistoryWitness.cassandra
          [{ name := "rack-b", replicas := none }]))) := by
  have helasticsearch : ElasticsearchCluster.Created (SpecHistoryWitness.elasticsearch []) := by
    decide +kernel
  have hcassandra : CassandraCluster.Created (SpecHistoryWitness.cassandra []) := by
    decide +kernel
  obtain ⟨-, hreturns, -, hreturnsCassandra⟩ := validators_return_iff
    (SpecHistoryWitness.elasticsearch [{ name := "data", replicas := none, roles := [.data] }])
    (SpecHistoryWitness.elasticsearch [])
    (SpecHistoryWitness.cassandra [{ name := "rack-b", replicas := none }])
    (SpecHistoryWitness.cassandra [])
  exact ⟨helasticsearch, (hreturns helasticsearch).mpr (by decide),
    hcassandra, (hreturnsCassandra hcassandra).mpr ⟨by decide, by decide⟩⟩

end DefaultsWitness

end Navigator
