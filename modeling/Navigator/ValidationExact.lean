/-
The validators against the list of their checks: a cluster is accepted exactly
when every check passes, except that the validator of Cassandra pools drops the
errors of the persistence check.
-/
import Navigator.Validation

namespace Navigator

theorem validateNavigatorClusterConfig_eq_nil_iff {cfg : NavigatorClusterConfig} {path : Path} :
    validateNavigatorClusterConfig cfg path = [] ↔
      validateImageSpec cfg.pilotImage (path.child "pilotImage") = [] ∧
        validateNavigatorSecurityContext cfg.securityContext
          (path.child "securityContext") = [] := by
  rw [validateNavigatorClusterConfig, List.append_eq_nil_iff]

/-- The checks of an Elasticsearch pool. -/
structure ElasticsearchClusterNodePool.ChecksPass (np : ElasticsearchClusterNodePool)
    (path : Path) : Prop where
  name : validateDNS1123Subdomain np.name (path.child "name") = []
  persistence : ∀ cfg ∈ np.persistence,
    validatePersistenceConfig cfg (path.child "persistence") = []
  roles : np.roles ≠ []
  eachRole : ∀ i role, np.roles[i]? = some role →
    validateElasticsearchClusterRole role ((path.child "roles").index i) = []
  replicas : ∀ replicas ∈ np.replicas, 0 ≤ replicas

theorem validateElasticsearchClusterNodePool_eq_nil_iff {np : ElasticsearchClusterNodePool}
    {path : Path} :
    validateElasticsearchClusterNodePool np path = [] ↔ np.ChecksPass path := by
  simp only [validateElasticsearchClusterNodePool, List.append_eq_nil_iff, ite_cons_eq_nil_iff]
  rw [flatMap_zipIdx_eq_nil_iff fun r i =>
    validateElasticsearchClusterRole r ((path.child "roles").index i)]
  constructor
  · rintro ⟨⟨⟨⟨hname, hpersistence⟩, hroles⟩, heach⟩, hreplicas⟩
    refine ⟨hname, ?_, hroles, heach, ?_⟩
    · intro cfg hcfg
      rw [Option.mem_def.mp hcfg] at hpersistence
      exact hpersistence
    · intro replicas hsome
      rw [Option.mem_def.mp hsome] at hreplicas
      exact not_lt.mp (ite_cons_eq_nil_iff.mp hreplicas)
  · rintro ⟨hname, hpersistence, hroles, heach, hreplicas⟩
    refine ⟨⟨⟨⟨hname, ?_⟩, hroles⟩, heach⟩, ?_⟩
    · cases hcfg : np.persistence with
      | none => rfl
      | some cfg => exact hpersistence cfg hcfg
    · cases hsome : np.replicas with
      | none => rfl
      | some replicas => exact ite_cons_eq_nil_iff.mpr (not_lt.mpr (hreplicas replicas hsome))

/-- The image check is made when an image is set. -/
theorem optionalImage_eq_nil_iff {image : Option ImageSpec} {path : Path} :
    (match image with
      | none => []
      | some img => validateImageSpec img path) = [] ↔
      ∀ img ∈ image, validateImageSpec img path = [] := by
  cases image with
  | none => simp
  | some img => simp

/-- The master checks, once the masters are counted. -/
structure ElasticsearchClusterSpec.MastersPass (spec : ElasticsearchClusterSpec)
    (numMasters : Int) : Prop where
  some : numMasters ≠ 0
  nonzero : ∀ minimum ∈ spec.minimumMasters, minimum ≠ 0
  quorum : ∀ minimum ∈ spec.minimumMasters, calculateQuorum numMasters ≤ minimum
  atMost : ∀ minimum ∈ spec.minimumMasters, minimum ≤ numMasters

theorem validateMinimumMasters_eq_nil_iff {spec : ElasticsearchClusterSpec} {numMasters : Int}
    {path : Path} :
    validateMinimumMasters spec numMasters path = [] ↔ spec.MastersPass numMasters := by
  unfold validateMinimumMasters
  by_cases hnone : numMasters = 0
  · rw [if_pos hnone]
    exact ⟨fun h => (by cases h), fun h => absurd hnone h.some⟩
  · rw [if_neg hnone]
    cases hminimum : spec.minimumMasters with
    | none => exact ⟨fun _ => ⟨hnone, by simp [hminimum], by simp [hminimum], by simp [hminimum]⟩,
        fun _ => rfl⟩
    | some minimum =>
        by_cases hzero : minimum = 0
        · simp only [if_pos hzero]
          exact ⟨fun h => (by cases h), fun h => absurd hzero (h.nonzero minimum hminimum)⟩
        · simp only [if_neg hzero]
          by_cases hless : minimum < calculateQuorum numMasters
          · simp only [if_pos hless]
            exact ⟨fun h => (by cases h),
              fun h => absurd hless (not_lt.mpr (h.quorum minimum hminimum))⟩
          · simp only [if_neg hless]
            by_cases hmore : minimum > numMasters
            · simp only [if_pos hmore]
              exact ⟨fun h => (by cases h),
                fun h => absurd hmore (not_lt.mpr (h.atMost minimum hminimum))⟩
            · simp only [if_neg hmore, true_iff]
              refine ⟨hnone, ?_, ?_, ?_⟩
              · intro other hother
                cases hminimum.symm.trans hother
                exact hzero
              · intro other hother
                cases hminimum.symm.trans hother
                exact not_lt.mp hless
              · intro other hother
                cases hminimum.symm.trans hother
                exact not_lt.mp hmore

/-- The checks of an Elasticsearch spec. -/
structure ElasticsearchClusterSpec.ChecksPass (spec : ElasticsearchClusterSpec)
    (path : Path) : Prop where
  pilotImage : validateImageSpec spec.navigatorClusterConfig.pilotImage
    (path.child "pilotImage") = []
  securityContext : validateNavigatorSecurityContext
    spec.navigatorClusterConfig.securityContext (path.child "securityContext") = []
  image : ∀ img ∈ spec.image, validateImageSpec img (path.child "image") = []
  version : spec.version.equal emptySemver = false
  distinct : (spec.nodePools.map ElasticsearchClusterNodePool.name).Nodup
  nodePools : ∀ i (np : ElasticsearchClusterNodePool), spec.nodePools[i]? = some np →
    np.ChecksPass ((path.child "nodePools").index i)
  masters : ∃ numMasters, countElasticsearchMasters spec.nodePools = .ok numMasters ∧
    spec.MastersPass numMasters

theorem validateElasticsearchClusterSpec_eq_ok_iff {spec : ElasticsearchClusterSpec}
    {path : Path} :
    validateElasticsearchClusterSpec spec path = .ok [] ↔ spec.ChecksPass path := by
  unfold validateElasticsearchClusterSpec
  simp only [bind_eq_ok_iff]
  constructor
  · rintro ⟨numMasters, hcount, h⟩
    have herrs := Except.ok.inj h
    simp only [List.append_eq_nil_iff, validateNavigatorClusterConfig_eq_nil_iff,
      validateNodePools_eq_nil_iff, validateMinimumMasters_eq_nil_iff, ite_cons_eq_nil_iff,
      validateElasticsearchClusterNodePool_eq_nil_iff, zero_add, Bool.not_eq_true] at herrs
    obtain ⟨⟨⟨⟨⟨hpilot, hcontext⟩, himage⟩, hdistinct, _, hpools⟩, hmasters⟩, hversion⟩ := herrs
    exact ⟨hpilot, hcontext, optionalImage_eq_nil_iff.mp himage, hversion, hdistinct, hpools,
      numMasters, hcount, hmasters⟩
  · rintro ⟨hpilot, hcontext, himage, hversion, hdistinct, hpools, numMasters, hcount, hmasters⟩
    refine ⟨numMasters, hcount, congrArg Except.ok ?_⟩
    simp only [List.append_eq_nil_iff, validateNavigatorClusterConfig_eq_nil_iff,
      validateNodePools_eq_nil_iff, validateMinimumMasters_eq_nil_iff, ite_cons_eq_nil_iff,
      validateElasticsearchClusterNodePool_eq_nil_iff, zero_add, Bool.not_eq_true]
    exact ⟨⟨⟨⟨⟨hpilot, hcontext⟩, optionalImage_eq_nil_iff.mpr himage⟩, hdistinct,
      fun _ _ => List.not_mem_nil, hpools⟩, hmasters⟩, hversion⟩

/-- Metadata and spec of an Elasticsearch cluster pass all their checks. -/
def ElasticsearchCluster.ChecksPass (c : ElasticsearchCluster) : Prop :=
  validateObjectMeta c.metadata (Path.new "metadata") = .ok [] ∧
    c.spec.ChecksPass (Path.new "spec")

/-- A sum of two error lists is empty when both are. -/
theorem checks_eq_ok_iff {first second : Checked ErrorList} :
    (do
      let firstErrs ← first
      let secondErrs ← second
      pure (firstErrs ++ secondErrs)) = .ok [] ↔ first = .ok [] ∧ second = .ok [] := by
  simp only [bind_eq_ok_iff]
  constructor
  · rintro ⟨firstErrs, hfirst, secondErrs, hsecond, h⟩
    obtain ⟨rfl, rfl⟩ := List.append_eq_nil_iff.mp (Except.ok.inj h)
    exact ⟨hfirst, hsecond⟩
  · rintro ⟨hfirst, hsecond⟩
    exact ⟨[], hfirst, [], hsecond, rfl⟩

theorem validateElasticsearchCluster_eq_ok_iff {c : ElasticsearchCluster} :
    validateElasticsearchCluster c = .ok [] ↔ c.ChecksPass := by
  unfold validateElasticsearchCluster
  rw [checks_eq_ok_iff, validateElasticsearchClusterSpec_eq_ok_iff]
  rfl

/-- The checks of a Cassandra spec, but for the persistence of its pools. -/
structure CassandraClusterSpec.OtherChecksPass (spec : CassandraClusterSpec)
    (path : Path) : Prop where
  pilotImage : validateImageSpec spec.navigatorClusterConfig.pilotImage
    (path.child "pilotImage") = []
  securityContext : validateNavigatorSecurityContext
    spec.navigatorClusterConfig.securityContext (path.child "securityContext") = []
  image : ∀ img ∈ spec.image, validateImageSpec img (path.child "image") = []
  version : ∃ version, spec.version.semver = some version ∧
    GoVersion.checkConstraints GoVersion.supportedCassandraVersions version = true
  distinct : (spec.nodePools.map CassandraClusterNodePool.name).Nodup

/-- The persistence check of every pool that has a persistence block. -/
def CassandraClusterSpec.PersistencePasses (spec : CassandraClusterSpec) (path : Path) : Prop :=
  ∀ i np, spec.nodePools[i]? = some np → ∀ cfg ∈ np.persistence,
    validatePersistenceConfig cfg (((path.child "nodePools").index i).child "persistence") = []

theorem CassandraVersion.deref_eq_ok_iff {v : CassandraVersion} {version : GoVersion} :
    v.deref = .ok version ↔ v.semver = some version := by
  unfold CassandraVersion.deref
  cases v.semver with
  | none => simp
  | some semver => simp

theorem validateCassandraClusterSpec_eq_ok_iff {spec : CassandraClusterSpec} {path : Path} :
    validateCassandraClusterSpec spec path = .ok [] ↔ spec.OtherChecksPass path := by
  unfold validateCassandraClusterSpec
  simp only [bind_eq_ok_iff, CassandraVersion.deref_eq_ok_iff]
  constructor
  · rintro ⟨version, hversion, h⟩
    have herrs := Except.ok.inj h
    simp only [List.append_eq_nil_iff, validateNavigatorClusterConfig_eq_nil_iff,
      validateNodePools_eq_nil_iff] at herrs
    obtain ⟨⟨⟨⟨hpilot, hcontext⟩, hsupported⟩, hdistinct, _⟩, himage⟩ := herrs
    refine ⟨hpilot, hcontext, optionalImage_eq_nil_iff.mp himage, ⟨version, hversion, ?_⟩, hdistinct⟩
    by_contra hunsupported
    rw [if_neg hunsupported] at hsupported
    cases hsupported
  · rintro ⟨hpilot, hcontext, himage, ⟨version, hversion, hsupported⟩, hdistinct⟩
    refine ⟨version, hversion, congrArg Except.ok ?_⟩
    simp only [List.append_eq_nil_iff, validateNavigatorClusterConfig_eq_nil_iff,
      validateNodePools_eq_nil_iff, if_pos hsupported]
    exact ⟨⟨⟨⟨hpilot, hcontext⟩, trivial⟩, hdistinct, fun _ _ => List.not_mem_nil,
      fun _ _ _ => rfl⟩, optionalImage_eq_nil_iff.mpr himage⟩

/-- The checks of a Cassandra cluster, but for the persistence of its pools. -/
def CassandraCluster.OtherChecksPass (c : CassandraCluster) : Prop :=
  validateObjectMeta c.metadata (Path.new "metadata") = .ok [] ∧
    c.spec.OtherChecksPass (Path.new "spec")

def CassandraCluster.PersistencePasses (c : CassandraCluster) : Prop :=
  c.spec.PersistencePasses (Path.new "spec")

theorem validateCassandraCluster_eq_ok_iff {c : CassandraCluster} :
    validateCassandraCluster c = .ok [] ↔ c.OtherChecksPass := by
  unfold validateCassandraCluster
  rw [checks_eq_ok_iff, validateCassandraClusterSpec_eq_ok_iff]
  rfl

/-- A pool that keeps its name is as it was but for replicas, and for persistence
that was not set before. -/
def ElasticsearchClusterNodePool.KeptFrom (newNp oldNp : ElasticsearchClusterNodePool) : Prop :=
  restoredElasticsearchNodePool newNp oldNp = oldNp ∧
    (oldNp.persistence = none ∨ newNp.persistence = oldNp.persistence)

@[inherit_doc ElasticsearchClusterNodePool.KeptFrom]
def CassandraClusterNodePool.KeptFrom (newNp oldNp : CassandraClusterNodePool) : Prop :=
  restoredCassandraNodePool newNp oldNp = oldNp ∧
    (oldNp.persistence = none ∨ newNp.persistence = oldNp.persistence)

theorem validateElasticsearchClusterUpdate_eq_ok_iff {old new : ElasticsearchCluster}
    (hold : (old.spec.nodePools.map ElasticsearchClusterNodePool.name).Nodup) :
    validateElasticsearchClusterUpdate old new = .ok [] ↔
      validateElasticsearchCluster new = .ok [] ∧
        ∀ newNp ∈ new.spec.nodePools, ∀ oldNp ∈ old.spec.nodePools,
          newNp.name = oldNp.name → newNp.KeptFrom oldNp := by
  have hpools := validateNodePoolsUpdate_eq_nil_iff ElasticsearchClusterNodePool.persistence
    restoredElasticsearchNodePool ((Path.new "spec").child "nodePools") new.spec.nodePools hold
  unfold validateElasticsearchClusterUpdate
  rw [bind_eq_ok_iff]
  constructor
  · rintro ⟨allErrs, hall, h⟩
    obtain ⟨rfl, hupdate⟩ := List.append_eq_nil_iff.mp (Except.ok.inj h)
    exact ⟨hall, hpools.mp hupdate⟩
  · rintro ⟨hall, hkept⟩
    exact ⟨[], hall, congrArg Except.ok (hpools.mpr hkept)⟩

theorem validateCassandraClusterUpdate_eq_ok_iff {old new : CassandraCluster}
    (hold : (old.spec.nodePools.map CassandraClusterNodePool.name).Nodup) :
    validateCassandraClusterUpdate old new = .ok [] ↔
      validateCassandraCluster new = .ok [] ∧
        (∃ newVersion oldVersion, new.spec.version.semver = some newVersion ∧
          old.spec.version.semver = some oldVersion ∧ newVersion.equal oldVersion = true) ∧
        ∀ newNp ∈ new.spec.nodePools, ∀ oldNp ∈ old.spec.nodePools,
          newNp.name = oldNp.name → newNp.KeptFrom oldNp := by
  have hpools := validateNodePoolsUpdate_eq_nil_iff CassandraClusterNodePool.persistence
    restoredCassandraNodePool ((Path.new "spec").child "nodePools") new.spec.nodePools hold
  unfold validateCassandraClusterUpdate
  simp only [bind_eq_ok_iff, CassandraVersion.deref_eq_ok_iff]
  constructor
  · rintro ⟨allErrs, hall, newVersion, hnew, oldVersion, hversion, h⟩
    obtain ⟨hnil, hupdate⟩ := List.append_eq_nil_iff.mp (Except.ok.inj h)
    obtain ⟨rfl, hequal⟩ := List.append_eq_nil_iff.mp hnil
    refine ⟨hall, ⟨newVersion, oldVersion, hnew, hversion, ?_⟩, hpools.mp hupdate⟩
    by_contra hdiffers
    rw [if_neg hdiffers] at hequal
    cases hequal
  · rintro ⟨hall, ⟨newVersion, oldVersion, hnew, hversion, hequal⟩, hkept⟩
    refine ⟨[], hall, newVersion, hnew, oldVersion, hversion, ?_⟩
    rw [if_pos hequal]
    exact congrArg Except.ok (hpools.mpr hkept)

theorem validatePersistenceConfig_eq_nil_iff {cfg : PersistenceConfig} {path : Path} :
    validatePersistenceConfig cfg path = [] ↔ 0 < cfg.size.sign := by
  have hsign := cfg.size.sign_range
  rw [validatePersistenceConfig, List.append_eq_nil_iff, ite_cons_eq_nil_iff, ite_cons_eq_nil_iff,
    Quantity.isZero_iff]
  omega

/-- The persistence checks look at the size only. -/
theorem CassandraCluster.persistencePasses_iff {c : CassandraCluster} :
    c.PersistencePasses ↔ ∀ np ∈ c.spec.nodePools, ∀ cfg ∈ np.persistence, 0 < cfg.size.sign := by
  constructor
  · intro h np hnp cfg hcfg
    obtain ⟨i, hi⟩ := List.mem_iff_getElem?.mp hnp
    exact validatePersistenceConfig_eq_nil_iff.mp (h i np hi cfg hcfg)
  · intro h i np hi cfg hcfg
    exact validatePersistenceConfig_eq_nil_iff.mpr
      (h np (List.mem_iff_getElem?.mpr ⟨i, hi⟩) cfg hcfg)

/-- No error of an Elasticsearch cluster is lost: it is accepted exactly when
all checks pass.  The same holds of a Cassandra cluster exactly when its volumes
have a positive size or some other check fails. -/
theorem validators_lose_no_error_iff (e : ElasticsearchCluster) (c : CassandraCluster) :
    (validateElasticsearchCluster e = .ok [] ↔ e.ChecksPass) ∧
      ((validateCassandraCluster c = .ok [] ↔ c.OtherChecksPass ∧ c.PersistencePasses) ↔
        (∀ np ∈ c.spec.nodePools, ∀ cfg ∈ np.persistence, 0 < cfg.size.sign) ∨
          ¬ c.OtherChecksPass) := by
  refine ⟨validateElasticsearchCluster_eq_ok_iff, ?_⟩
  rw [validateCassandraCluster_eq_ok_iff, ← CassandraCluster.persistencePasses_iff]
  constructor
  · intro h
    by_cases hother : c.OtherChecksPass
    · exact .inl (h.mp hother).2
    · exact .inr hother
  · rintro (hpersistence | hother)
    · exact ⟨fun hother => ⟨hother, hpersistence⟩, fun hboth => hboth.1⟩
    · exact ⟨fun h => absurd h hother, fun hboth => hboth.1⟩

namespace ValidationExactWitness

/-- A pool whose data volume has no size. -/
def pool : CassandraClusterNodePool where
  name := "rack-a"
  replicas := some 1
  persistence := some { size := { s := "0", format := .decimalSI }, storageClass := none }

def cluster : CassandraCluster where
  metadata := { name := "db", namespaceName := "default", uid := "uid-db" }
  spec :=
    { navigatorClusterConfig :=
        { pilotImage := ⟨"jetstackexperimental/navigator-pilot-cassandra", "latest",
            pullIfNotPresent⟩ }
      nodePools := [pool]
      version := ⟨"3.11.2", some { segments := [3, 11, 2], si := 3 }⟩ }

/-- The cluster is accepted although the persistence check of its pool reports
that the size is missing. -/
theorem cassandra_persistence_error_lost :
    validateCassandraCluster cluster = .ok [] ∧
      ∃ cfg ∈ pool.persistence, pool ∈ cluster.spec.nodePools ∧
        validatePersistenceConfig cfg
          ((((Path.new "spec").child "nodePools").index 0).child "persistence") =
            [.required (((((Path.new "spec").child "nodePools").index 0).child
              "persistence").child "size") ""] := by
  decide +kernel

end ValidationExactWitness

end Navigator
