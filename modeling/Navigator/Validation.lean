/-
The validation of clusters on create and on update.  A validator returns its
list of field errors; the master count dereferences the replicas, so it can
crash.
-/
import Navigator.Base.FirstMatch
import Navigator.Field
import Navigator.Types

namespace Navigator

def supportedPullPolicies : List String := ["Never", "IfNotPresent", "Always"]

def validateImageSpec (img : ImageSpec) (path : Path) : ErrorList :=
  (if img.tag = "" then [.required (path.child "tag") ""] else []) ++
  (if img.repository = "" then [.required (path.child "repository") ""] else []) ++
  (if img.pullPolicy ∈ supportedPullPolicies then []
    else [.notSupported (path.child "pullPolicy") img.pullPolicy supportedPullPolicies])

def validateNavigatorSecurityContext (ctx : NavigatorSecurityContext) (path : Path) :
    ErrorList :=
  match ctx.runAsUser with
  | none => []
  | some user =>
      if user < 0 then
        [.invalid (path.child "runAsUser") (.int user) "must be non-negative"]
      else []

def validateNavigatorClusterConfig (cfg : NavigatorClusterConfig) (path : Path) :
    ErrorList :=
  validateImageSpec cfg.pilotImage (path.child "pilotImage") ++
    validateNavigatorSecurityContext cfg.securityContext (path.child "securityContext")

def validatePersistenceConfig (cfg : PersistenceConfig) (path : Path) : ErrorList :=
  (if cfg.size.isZero then [.required (path.child "size") ""] else []) ++
  (if cfg.size.sign = -1 then
    [.invalid (path.child "size") (.quantity cfg.size) "must be greater than zero"] else [])

def validateDNS1123Subdomain (value : String) (path : Path) : ErrorList :=
  invalidEach path value (isDNS1123Subdomain value)

/-- `CalculateQuorum`; Go's division rounds towards zero. -/
def calculateQuorum (num : Int) : Int :=
  if num = 0 then 0 else if num = 1 then 1 else num.tdiv 2 + 1

section Lists

theorem ite_cons_eq_nil_iff {α : Type} {P : Prop} [Decidable P] {error : α} :
    (if P then [error] else []) = [] ↔ ¬ P := by
  by_cases h : P
  · simp [h]
  · simp [h]

/-- A check of every element together with its index. -/
theorem flatMap_zipIdx_eq_nil_iff {α β : Type} {items : List α} (check : α → Nat → List β) :
    (items.zipIdx.flatMap fun (item, i) => check item i) = [] ↔
      ∀ i item, items[i]? = some item → check item i = [] := by
  rw [List.flatMap_eq_nil_iff]
  constructor
  · intro h i item hitem
    exact h (item, i) (List.mem_zipIdx_iff_getElem?.mpr hitem)
  · rintro h ⟨item, i⟩ hmem
    exact h i item (List.mem_zipIdx_iff_getElem?.mp hmem)

end Lists

section NodePools

variable {P : Type}

/-- The pool loop of the two spec validators: names must be distinct, and every
pool is checked.  `allNames` holds the names seen so far. -/
def validateNodePools (poolName : P → String) (validateNodePool : P → Path → ErrorList)
    (npPath : Path) : List String → Nat → List P → ErrorList
  | _, _, [] => []
  | allNames, i, np :: rest =>
      (if poolName np ∈ allNames then
        [.duplicate ((npPath.index i).child "name") (poolName np)] else []) ++
      validateNodePool np (npPath.index i) ++
      validateNodePools poolName validateNodePool npPath (poolName np :: allNames)
        (i + 1) rest

/-- The body of the pool loop of the two update validators: a new pool is
compared with the first old pool of its name.  `restored new old` is the new pool
with the replicas and the persistence of the old one. -/
def poolUpdateErrors [DecidableEq P] (poolName : P → String)
    (persistence : P → Option PersistenceConfig) (restored : P → P → P)
    (npPath : Path) (oldPools : List P) (newNp : P) (i : Nat) : ErrorList :=
  match oldPools.find? fun oldNp => poolName newNp = poolName oldNp with
  | none => []
  | some oldNp =>
      (if persistence newNp ≠ persistence oldNp ∧ persistence oldNp ≠ none then
        [.forbidden ((npPath.index i).child "persistence")
          "cannot modify persistence configuration once enabled"] else []) ++
      (if restored newNp oldNp ≠ oldNp then
        [.forbidden (Path.new "spec")
          "updates to nodepool for fields other than 'replicas' and 'persistence' are forbidden."]
        else [])

/-- The pool loop of the two update validators. -/
def validateNodePoolsUpdate [DecidableEq P] (poolName : P → String)
    (persistence : P → Option PersistenceConfig) (restored : P → P → P)
    (npPath : Path) (oldPools newPools : List P) : ErrorList :=
  newPools.zipIdx.flatMap fun (newNp, i) =>
    poolUpdateErrors poolName persistence restored npPath oldPools newNp i

/-- The pool loop reports nothing exactly when the names are distinct and new and
every pool passes its check. -/
theorem validateNodePools_eq_nil_iff {poolName : P → String}
    {validateNodePool : P → Path → ErrorList} {npPath : Path} {allNames : List String}
    {start : Nat} {pools : List P} :
    validateNodePools poolName validateNodePool npPath allNames start pools = [] ↔
      (pools.map poolName).Nodup ∧ (∀ np ∈ pools, poolName np ∉ allNames) ∧
        ∀ i np, pools[i]? = some np → validateNodePool np (npPath.index (start + i)) = [] := by
  induction pools generalizing allNames start with
  | nil => simp [validateNodePools]
  | cons np rest ih =>
      have hfirst : (if poolName np ∈ allNames then
          [FieldError.duplicate ((npPath.index start).child "name") (poolName np)] else []) = [] ↔
          poolName np ∉ allNames := by
        by_cases hmem : poolName np ∈ allNames
        · simp [hmem]
        · simp [hmem]
      simp only [validateNodePools, List.append_eq_nil_iff, hfirst, ih]
      constructor
      · rintro ⟨⟨hnew, hvalid⟩, hnodup, hnames, hpools⟩
        refine ⟨?_, ?_, ?_⟩
        · rw [List.map_cons, List.nodup_cons]
          refine ⟨?_, hnodup⟩
          intro hmem
          obtain ⟨other, hother, heq⟩ := List.mem_map.mp hmem
          exact hnames other hother (heq ▸ List.mem_cons_self)
        · intro other hother
          rcases List.mem_cons.mp hother with rfl | hother
          · exact hnew
          · exact fun hmem => hnames other hother (List.mem_cons_of_mem _ hmem)
        · intro i other hother
          cases i with
          | zero =>
              cases hother
              exact hvalid
          | succ i =>
              have hindex : start + (i + 1) = start + 1 + i := by omega
              rw [hindex]
              exact hpools i other hother
      · rintro ⟨hnodup, hnames, hpools⟩
        rw [List.map_cons, List.nodup_cons] at hnodup
        refine ⟨⟨hnames np List.mem_cons_self, hpools 0 np rfl⟩, hnodup.2, ?_, ?_⟩
        · intro other hother hmem
          rcases List.mem_cons.mp hmem with heq | hmem
          · exact hnodup.1 (heq ▸ List.mem_map_of_mem hother)
          · exact hnames other (List.mem_cons_of_mem np hother) hmem
        · intro i other hother
          have hindex : start + 1 + i = start + (i + 1) := by omega
          rw [hindex]
          exact hpools (i + 1) other hother

/-- The update loop reports nothing exactly when each pool that keeps its name is
as it was but for replicas, and for persistence that was not set before. -/
theorem validateNodePoolsUpdate_eq_nil_iff [DecidableEq P] {poolName : P → String}
    (persistence : P → Option PersistenceConfig) (restored : P → P → P) (npPath : Path)
    {oldPools : List P} (newPools : List P) (hold : (oldPools.map poolName).Nodup) :
    validateNodePoolsUpdate poolName persistence restored npPath oldPools newPools = [] ↔
      ∀ newNp ∈ newPools, ∀ oldNp ∈ oldPools, poolName newNp = poolName oldNp →
        restored newNp oldNp = oldNp ∧
          (persistence oldNp = none ∨ persistence newNp = persistence oldNp) := by
  unfold validateNodePoolsUpdate
  rw [flatMap_zipIdx_eq_nil_iff]
  constructor
  · intro h newNp hnew oldNp holdMem hname
    obtain ⟨i, hi⟩ := List.mem_iff_getElem?.mp hnew
    have hfind : (oldPools.find? fun other => poolName newNp = poolName other) = some oldNp :=
      ControlLoop.find?_eq_some_of_unique holdMem (by simpa using hname)
        fun other hother hotherName => List.inj_on_of_nodup_map hold hother holdMem
          ((of_decide_eq_true hotherName).symm.trans hname)
    have herrors := h i newNp hi
    rw [poolUpdateErrors, hfind] at herrors
    obtain ⟨hpersistence, hothers⟩ := List.append_eq_nil_iff.mp herrors
    rw [ite_cons_eq_nil_iff, not_and_or, not_not, not_not] at hpersistence
    exact ⟨not_not.mp (ite_cons_eq_nil_iff.mp hothers), hpersistence.symm⟩
  · intro h i newNp hi
    unfold poolUpdateErrors
    split
    · rfl
    · rename_i oldNp hfind
      obtain ⟨hothers, hpersistence⟩ := h newNp (List.mem_of_getElem? hi) oldNp
        (List.mem_of_find?_eq_some hfind) (by simpa using List.find?_some hfind)
      rw [List.append_eq_nil_iff, ite_cons_eq_nil_iff, ite_cons_eq_nil_iff, not_and_or, not_not,
        not_not, not_not]
      exact ⟨hpersistence.symm, hothers⟩

end NodePools

def supportedESClusterRoles : List String := ["data", "ingest", "master"]

def validateElasticsearchClusterRole (r : ElasticsearchClusterRole) (path : Path) :
    ErrorList :=
  match r with
  | .data | .ingest | .master => []
  | .other text _ => [.notSupported path text supportedESClusterRoles]

def containsElasticsearchRole (set : List ElasticsearchClusterRole)
    (role : ElasticsearchClusterRole) : Bool :=
  set.any fun s => s = role

/-- The loop of the two master counters, which wraps as `int32` does. -/
def countMastersFrom : Int → List ElasticsearchClusterNodePool → Checked Int
  | masters, [] => .ok masters
  | masters, pool :: rest =>
      if containsElasticsearchRole pool.roles .master then
        match pool.replicas with
        | none => .error .nilDereference
        | some replicas => countMastersFrom (int32 (masters + replicas)) rest
      else countMastersFrom masters rest

def countElasticsearchMasters (pools : List ElasticsearchClusterNodePool) : Checked Int :=
  countMastersFrom 0 pools

def validateElasticsearchClusterNodePool (np : ElasticsearchClusterNodePool) (path : Path) :
    ErrorList :=
  validateDNS1123Subdomain np.name (path.child "name") ++
  (match np.persistence with
    | none => []
    | some cfg => validatePersistenceConfig cfg (path.child "persistence")) ++
  (if np.roles = [] then
    [.required (path.child "roles") "at least one role must be specified"] else []) ++
  (np.roles.zipIdx.flatMap fun (r, i) =>
    validateElasticsearchClusterRole r ((path.child "roles").index i)) ++
  (match np.replicas with
    | none => []
    | some replicas =>
        if replicas < 0 then
          [.invalid (path.child "replicas") (.int replicas) "must be greater than zero"]
        else [])

/-- The master checks of the spec validator; the cases are tried in order. -/
def validateMinimumMasters (spec : ElasticsearchClusterSpec) (numMasters : Int)
    (path : Path) : ErrorList :=
  let quorum := calculateQuorum numMasters
  if numMasters = 0 then
    [.invalid (path.child "nodePools") (.int numMasters) "must be at least one master node"]
  else match spec.minimumMasters with
    | none => []
    | some minimum =>
        if minimum = 0 then
          [.invalid (path.child "minimumMasters") (.int minimum) "cannot be zero"]
        else if minimum < quorum then
          [.invalid (path.child "minimumMasters") (.int minimum)
            ("must be a minimum of " ++ decimal quorum ++ " to avoid a split brain scenario")]
        else if minimum > numMasters then
          [.invalid (path.child "minimumMasters") (.int minimum)
            "cannot be greater than the total number of master nodes"]
        else []

def validateElasticsearchClusterSpec (spec : ElasticsearchClusterSpec) (path : Path) :
    Checked ErrorList := do
  let configErrs := validateNavigatorClusterConfig spec.navigatorClusterConfig path
  let imageErrs := match spec.image with
    | none => []
    | some img => validateImageSpec img (path.child "image")
  let poolErrs := validateNodePools ElasticsearchClusterNodePool.name
    validateElasticsearchClusterNodePool (path.child "nodePools") [] 0 spec.nodePools
  let numMasters ← countElasticsearchMasters spec.nodePools
  let masterErrs := validateMinimumMasters spec numMasters path
  let versionErrs :=
    if spec.version.equal emptySemver then
      [FieldError.required (path.child "version") "must be a semver version"]
    else []
  pure (configErrs ++ imageErrs ++ poolErrs ++ masterErrs ++ versionErrs)

def validateElasticsearchCluster (esc : ElasticsearchCluster) : Checked ErrorList := do
  let metaErrs ← validateObjectMeta esc.metadata (Path.new "metadata")
  let specErrs ← validateElasticsearchClusterSpec esc.spec (Path.new "spec")
  pure (metaErrs ++ specErrs)

def restoredElasticsearchNodePool (newNp oldNp : ElasticsearchClusterNodePool) :
    ElasticsearchClusterNodePool :=
  { newNp with replicas := oldNp.replicas, persistence := oldNp.persistence }

def validateElasticsearchClusterUpdate (old new : ElasticsearchCluster) :
    Checked ErrorList := do
  let allErrs ← validateElasticsearchCluster new
  pure (allErrs ++ validateNodePoolsUpdate ElasticsearchClusterNodePool.name
    ElasticsearchClusterNodePool.persistence restoredElasticsearchNodePool
    ((Path.new "spec").child "nodePools") old.spec.nodePools new.spec.nodePools)

/-- `ValidateCassandraClusterNodePool`.  The errors it collects are dropped. -/
def validateCassandraClusterNodePool (np : CassandraClusterNodePool) (path : Path) :
    ErrorList :=
  let _el := match np.persistence with
    | none => []
    | some cfg => validatePersistenceConfig cfg (path.child "persistence")
  []

/-- `Version.Semver()` used as a receiver, which dereferences it. -/
def CassandraVersion.deref (v : CassandraVersion) : Checked GoVersion :=
  match v.semver with
  | none => .error .nilDereference
  | some semver => .ok semver

def validateCassandraClusterSpec (spec : CassandraClusterSpec) (path : Path) :
    Checked ErrorList := do
  let configErrs := validateNavigatorClusterConfig spec.navigatorClusterConfig path
  let version ← spec.version.deref
  let versionErrs :=
    if GoVersion.checkConstraints GoVersion.supportedCassandraVersions version then []
    else [FieldError.forbidden (path.child "version")
      (spec.version.versionString ++ " is not supported. Supported versions are: " ++
        GoVersion.constraintsString GoVersion.supportedCassandraVersions)]
  let poolErrs := validateNodePools CassandraClusterNodePool.name
    validateCassandraClusterNodePool (path.child "nodePools") [] 0 spec.nodePools
  let imageErrs := match spec.image with
    | none => []
    | some img => validateImageSpec img (path.child "image")
  pure (configErrs ++ versionErrs ++ poolErrs ++ imageErrs)

def validateCassandraCluster (c : CassandraCluster) : Checked ErrorList := do
  let metaErrs ← validateObjectMeta c.metadata (Path.new "metadata")
  let specErrs ← validateCassandraClusterSpec c.spec (Path.new "spec")
  pure (metaErrs ++ specErrs)

def restoredCassandraNodePool (newNp oldNp : CassandraClusterNodePool) :
    CassandraClusterNodePool :=
  { newNp with replicas := oldNp.replicas, persistence := oldNp.persistence }

def validateCassandraClusterUpdate (old new : CassandraCluster) : Checked ErrorList := do
  let allErrs ← validateCassandraCluster new
  let newVersion ← new.spec.version.deref
  let oldVersion ← old.spec.version.deref
  let versionErrs :=
    if newVersion.equal oldVersion then []
    else [FieldError.forbidden ((Path.new "spec").child "version")
      ("cannot change the version of an existing cluster. old version: " ++
        old.spec.version.versionString ++ ", new version: " ++
        new.spec.version.versionString)]
  pure (allErrs ++ versionErrs ++
    validateNodePoolsUpdate CassandraClusterNodePool.name
      CassandraClusterNodePool.persistence restoredCassandraNodePool
      ((Path.new "spec").child "nodePools") old.spec.nodePools new.spec.nodePools)

end Navigator
