/-
The update validators, exactly.  Their pool loop is given a second time as the
source has it, statement by statement on structs and pointers: it overwrites and
restores fields of its loop variables, and what the arguments hold is the same
when it ends.
-/
import Navigator.ValidationExact

namespace Navigator

open ControlLoop

/-- What the update loop knows of a kind of node pool: its name, its persistence,
and how the struct is put together from the fields it holds by value and from
what its pointers to replicas and to persistence point to. -/
structure PoolKind (P : Type) where
  name : P → String
  persistence : P → Option PersistenceConfig
  restored : P → P → P
  assemble : P → Option Int → Option PersistenceConfig → P
  name_assemble : ∀ fields replicas disk, name (assemble fields replicas disk) = name fields
  persistence_assemble : ∀ fields replicas disk,
    persistence (assemble fields replicas disk) = disk
  restored_assemble : ∀ fields replicas disk fields' replicas' disk',
    restored (assemble fields replicas disk) (assemble fields' replicas' disk') =
      assemble fields replicas' disk'

/-- A node pool as it lies in memory.  A pointer is an address, or `none` when it
is nil; `fields` holds the other fields. -/
structure PoolStruct (P : Type) where
  fields : P
  replicas : Option Nat
  persistence : Option Nat

/-- The memory of the update loop: what the pointers point to, the slices of the
two arguments, the variables of the two loops and of the body, and the errors. -/
structure UpdateFrame (P : Type) where
  replicasAt : Nat → Int
  persistenceAt : Nat → PersistenceConfig
  oldPools : List (PoolStruct P)
  newPools : List (PoolStruct P)
  newNp : PoolStruct P
  oldNp : PoolStruct P
  restoreReplicas : Option Nat
  restorePersistence : Option Nat
  allErrs : ErrorList

namespace UpdateFrame

variable {P : Type}

/-- What `reflect.DeepEqual` sees of a pointer to persistence. -/
def disk (s : UpdateFrame P) (np : PoolStruct P) : Option PersistenceConfig :=
  np.persistence.map s.persistenceAt

/-- What `reflect.DeepEqual` sees of a pool. -/
def pool (kind : PoolKind P) (s : UpdateFrame P) (np : PoolStruct P) : P :=
  kind.assemble np.fields (np.replicas.map s.replicasAt) (s.disk np)

def report (s : UpdateFrame P) (e : FieldError) : UpdateFrame P :=
  { s with allErrs := s.allErrs ++ [e] }

/-- The first check of the body of the inner loop. -/
def checkPersistence (npPath : Path) (i : Nat) (s : UpdateFrame P) : UpdateFrame P :=
  if s.disk s.newNp ≠ s.disk s.oldNp then
    if s.oldNp.persistence ≠ none then
      s.report (.forbidden ((npPath.index i).child "persistence")
        "cannot modify persistence configuration once enabled")
    else s
  else s

/-- The second one, between the statements that overwrite fields of the loop
variable and those that restore them. -/
def checkOthers [DecidableEq P] (kind : PoolKind P) (s : UpdateFrame P) : UpdateFrame P :=
  let s := { s with restoreReplicas := s.newNp.replicas }
  let s := { s with newNp := { s.newNp with replicas := s.oldNp.replicas } }
  let s := { s with restorePersistence := s.newNp.persistence }
  let s := { s with newNp := { s.newNp with persistence := s.oldNp.persistence } }
  let s :=
    if s.pool kind s.newNp ≠ s.pool kind s.oldNp then
      s.report (.forbidden (Path.new "spec")
        "updates to nodepool for fields other than 'replicas' and 'persistence' are forbidden.")
    else s
  let s := { s with newNp := { s.newNp with replicas := s.restoreReplicas } }
  { s with newNp := { s.newNp with persistence := s.restorePersistence } }

/-- The body of the inner loop, for pools of one name. -/
def comparePools [DecidableEq P] (kind : PoolKind P) (npPath : Path) (i : Nat)
    (s : UpdateFrame P) : UpdateFrame P :=
  checkOthers kind (checkPersistence npPath i s)

/-- The inner loop, over the indices that are left; it ends at the first match. -/
def compareWithOld [DecidableEq P] (kind : PoolKind P) (npPath : Path) (i : Nat) :
    List Nat → UpdateFrame P → UpdateFrame P
  | [], s => s
  | j :: rest, s =>
      match s.oldPools[j]? with
      | none => s
      | some oldNp =>
          let s := { s with oldNp := oldNp }
          if kind.name s.newNp.fields = kind.name s.oldNp.fields then comparePools kind npPath i s
          else compareWithOld kind npPath i rest s

/-- The outer loop, over the indices that are left. -/
def compareAll [DecidableEq P] (kind : PoolKind P) (npPath : Path) :
    List Nat → UpdateFrame P → UpdateFrame P
  | [], s => s
  | i :: rest, s =>
      match s.newPools[i]? with
      | none => s
      | some newNp =>
          compareAll kind npPath rest
            (compareWithOld kind npPath i (List.range' 0 s.oldPools.length)
              { s with newNp := newNp })

/-- The pool loop of an update validator. -/
def run [DecidableEq P] (kind : PoolKind P) (npPath : Path) (s : UpdateFrame P) : UpdateFrame P :=
  compareAll kind npPath (List.range' 0 s.newPools.length) s

/-- The arguments are as they were, and the errors are appended. -/
structure Extends (s s' : UpdateFrame P) (errs : ErrorList) : Prop where
  replicasAt : s'.replicasAt = s.replicasAt
  persistenceAt : s'.persistenceAt = s.persistenceAt
  oldPools : s'.oldPools = s.oldPools
  newPools : s'.newPools = s.newPools
  allErrs : s'.allErrs = s.allErrs ++ errs

theorem Extends.refl (s : UpdateFrame P) : s.Extends s [] :=
  ⟨rfl, rfl, rfl, rfl, (List.append_nil _).symm⟩

theorem Extends.trans {s s' s'' : UpdateFrame P} {errs errs' : ErrorList}
    (h : s.Extends s' errs) (h' : s'.Extends s'' errs') : s.Extends s'' (errs ++ errs') where
  replicasAt := h'.replicasAt.trans h.replicasAt
  persistenceAt := h'.persistenceAt.trans h.persistenceAt
  oldPools := h'.oldPools.trans h.oldPools
  newPools := h'.newPools.trans h.newPools
  allErrs := by rw [h'.allErrs, h.allErrs, List.append_assoc]

/-- The loop reads a pool through its memory. -/
theorem Extends.pool_eq {kind : PoolKind P} {s s' : UpdateFrame P} {errs : ErrorList}
    (h : s.Extends s' errs) : s'.pool kind = s.pool kind := by
  funext np
  simp only [pool, disk, h.replicasAt, h.persistenceAt]

section Loops

variable (kind : PoolKind P) (npPath : Path)

/-- Assigning to a loop variable leaves the arguments alone. -/
theorem extends_variables (s : UpdateFrame P) (newNp oldNp : PoolStruct P) :
    s.Extends { s with newNp := newNp, oldNp := oldNp } [] :=
  ⟨rfl, rfl, rfl, rfl, (List.append_nil _).symm⟩

theorem checkPersistence_extends (s : UpdateFrame P) (i : Nat) :
    s.Extends (checkPersistence npPath i s)
      (if s.disk s.newNp ≠ s.disk s.oldNp ∧ s.disk s.oldNp ≠ none then
        [.forbidden ((npPath.index i).child "persistence")
          "cannot modify persistence configuration once enabled"] else []) := by
  have hset : s.disk s.oldNp ≠ none ↔ s.oldNp.persistence ≠ none := by simp [disk]
  unfold checkPersistence
  by_cases hdisk : s.disk s.newNp ≠ s.disk s.oldNp
  · by_cases hold : s.oldNp.persistence ≠ none
    · rw [if_pos hdisk, if_pos hold, if_pos ⟨hdisk, hset.mpr hold⟩]
      exact ⟨rfl, rfl, rfl, rfl, rfl⟩
    · rw [if_pos hdisk, if_neg hold, if_neg fun h => hold (hset.mp h.2)]
      exact .refl s
  · rw [if_neg hdisk, if_neg fun h => hdisk h.1]
    exact .refl s

/-- It reads the loop variables only. -/
theorem checkPersistence_variables (s : UpdateFrame P) (i : Nat) :
    (checkPersistence npPath i s).newNp = s.newNp ∧
      (checkPersistence npPath i s).oldNp = s.oldNp := by
  unfold checkPersistence
  split_ifs <;> exact ⟨rfl, rfl⟩

variable [DecidableEq P]

/-- With the two fields overwritten, the new pool is the restored one. -/
theorem checkOthers_extends (s : UpdateFrame P) :
    s.Extends (checkOthers kind s)
      (if kind.restored (s.pool kind s.newNp) (s.pool kind s.oldNp) ≠ s.pool kind s.oldNp then
        [.forbidden (Path.new "spec")
          "updates to nodepool for fields other than 'replicas' and 'persistence' are forbidden."]
        else []) := by
  have hrestored : kind.restored (s.pool kind s.newNp) (s.pool kind s.oldNp) =
      s.pool kind ⟨s.newNp.fields, s.oldNp.replicas, s.oldNp.persistence⟩ :=
    kind.restored_assemble _ _ _ _ _ _
  rw [hrestored]
  unfold checkOthers
  dsimp only
  by_cases hothers : s.pool kind ⟨s.newNp.fields, s.oldNp.replicas, s.oldNp.persistence⟩ ≠
      s.pool kind s.oldNp
  · rw [if_pos hothers]
    split
    · exact ⟨rfl, rfl, rfl, rfl, rfl⟩
    · rename_i hsame
      exact absurd hothers hsame
  · rw [if_neg hothers]
    split
    · rename_i hdiffers
      exact absurd hdiffers hothers
    · exact ⟨rfl, rfl, rfl, rfl, (List.append_nil _).symm⟩

/-- The errors of the body are those of the loop, when the old pool is the first
of its name. -/
theorem comparePools_extends (s : UpdateFrame P) (i : Nat) (rest : List P)
    (hname : kind.name s.newNp.fields = kind.name s.oldNp.fields) :
    s.Extends (comparePools kind npPath i s)
      (poolUpdateErrors kind.name kind.persistence kind.restored npPath
        (s.pool kind s.oldNp :: rest) (s.pool kind s.newNp) i) := by
  have hfind : ((s.pool kind s.oldNp :: rest).find? fun oldNp =>
      kind.name (s.pool kind s.newNp) = kind.name oldNp) = some (s.pool kind s.oldNp) := by
    apply List.find?_cons_of_pos
    simpa [pool, kind.name_assemble] using hname
  have hpersistence := checkPersistence_extends npPath s i
  have hothers := checkOthers_extends kind (checkPersistence npPath i s)
  obtain ⟨hnew, hold⟩ := checkPersistence_variables npPath s i
  rw [hnew, hold, hpersistence.pool_eq] at hothers
  have hdisk : ∀ np, kind.persistence (s.pool kind np) = s.disk np := fun np =>
    kind.persistence_assemble _ _ _
  rw [poolUpdateErrors, hfind]
  simp only [hdisk]
  exact hpersistence.trans hothers

/-- The inner loop finds the first old pool of the name. -/
theorem compareWithOld_extends (i : Nat) (n k : Nat) (s : UpdateFrame P)
    (hlength : s.oldPools.length = k + n) :
    s.Extends (compareWithOld kind npPath i (List.range' k n) s)
      (poolUpdateErrors kind.name kind.persistence kind.restored npPath
        ((s.oldPools.drop k).map (s.pool kind)) (s.pool kind s.newNp) i) := by
  induction n generalizing k s with
  | zero =>
      rw [List.drop_eq_nil_of_le (by omega)]
      exact .refl s
  | succ n ih =>
      have hk : k < s.oldPools.length := by omega
      have hget : s.oldPools[k]? = some s.oldPools[k] := List.getElem?_eq_getElem hk
      rw [List.drop_eq_getElem_cons hk, List.map_cons, List.range'_succ, compareWithOld, hget]
      by_cases hname : kind.name s.newNp.fields = kind.name s.oldPools[k].fields
      · simp only [if_pos hname]
        exact (extends_variables s s.newNp s.oldPools[k]).trans
          (comparePools_extends kind npPath { s with oldNp := s.oldPools[k] } i _ hname)
      · simp only [if_neg hname]
        have hskip : poolUpdateErrors kind.name kind.persistence kind.restored npPath
            (s.pool kind s.oldPools[k] :: (s.oldPools.drop (k + 1)).map (s.pool kind))
            (s.pool kind s.newNp) i =
            poolUpdateErrors kind.name kind.persistence kind.restored npPath
              ((s.oldPools.drop (k + 1)).map (s.pool kind)) (s.pool kind s.newNp) i := by
          rw [poolUpdateErrors, List.find?_cons_of_neg]
          · rfl
          · simpa [pool, kind.name_assemble] using hname
        rw [hskip]
        exact (extends_variables s s.newNp s.oldPools[k]).trans
          (ih (k + 1) { s with oldNp := s.oldPools[k] } (by simp; omega))

/-- The outer loop goes through the new pools. -/
theorem compareAll_extends (n k : Nat) (s : UpdateFrame P) (hlength : s.newPools.length = k + n) :
    s.Extends (compareAll kind npPath (List.range' k n) s)
      (((s.newPools.drop k).map (s.pool kind)).zipIdx k |>.flatMap fun (newNp, i) =>
        poolUpdateErrors kind.name kind.persistence kind.restored npPath
          (s.oldPools.map (s.pool kind)) newNp i) := by
  induction n generalizing k s with
  | zero =>
      rw [List.drop_eq_nil_of_le (by omega)]
      exact .refl s
  | succ n ih =>
      have hk : k < s.newPools.length := by omega
      have hget : s.newPools[k]? = some s.newPools[k] := List.getElem?_eq_getElem hk
      have hfirst := (extends_variables s s.newPools[k] s.oldNp).trans
        (compareWithOld_extends kind npPath k s.oldPools.length 0
          { s with newNp := s.newPools[k] } (by simp))
      have hrest := ih (k + 1) (compareWithOld kind npPath k (List.range' 0 s.oldPools.length)
        { s with newNp := s.newPools[k] }) (by rw [hfirst.newPools]; omega)
      rw [hfirst.newPools, hfirst.oldPools, hfirst.pool_eq] at hrest
      rw [List.drop_eq_getElem_cons hk, List.map_cons, List.zipIdx_cons, List.flatMap_cons,
        List.range'_succ, compareAll, hget]
      exact hfirst.trans hrest

/-- The loop reports what the validator says and leaves the arguments as they
were. -/
theorem run_extends (s : UpdateFrame P) :
    s.Extends (run kind npPath s)
      (validateNodePoolsUpdate kind.name kind.persistence kind.restored npPath
        (s.oldPools.map (s.pool kind)) (s.newPools.map (s.pool kind))) := by
  have h := compareAll_extends kind npPath s.newPools.length 0 s (by simp)
  rwa [List.drop_zero] at h

end Loops

end UpdateFrame

/-- The names of the old pools being distinct, their order does not matter. -/
theorem validateNodePoolsUpdate_perm {P : Type} [DecidableEq P] {poolName : P → String}
    {persistence : P → Option PersistenceConfig} {restored : P → P → P} {npPath : Path}
    {oldPools oldPools' newPools : List P} (hold : (oldPools.map poolName).Nodup)
    (hperm : oldPools'.Perm oldPools) :
    validateNodePoolsUpdate poolName persistence restored npPath oldPools' newPools =
      validateNodePoolsUpdate poolName persistence restored npPath oldPools newPools := by
  have hfind : ∀ newNp, (oldPools'.find? fun oldNp => poolName newNp = poolName oldNp) =
      oldPools.find? fun oldNp => poolName newNp = poolName oldNp := by
    intro newNp
    refine (find?_perm hperm.symm ?_).symm
    intro a ha b hb hnameA hnameB
    exact List.inj_on_of_nodup_map hold ha hb
      ((of_decide_eq_true hnameA).symm.trans (of_decide_eq_true hnameB))
  simp only [validateNodePoolsUpdate, poolUpdateErrors, hfind]

/-- The pools of an Elasticsearch cluster, as the loop handles them. -/
def elasticsearchPools : PoolKind ElasticsearchClusterNodePool where
  name := ElasticsearchClusterNodePool.name
  persistence := ElasticsearchClusterNodePool.persistence
  restored := restoredElasticsearchNodePool
  assemble fields replicas disk := { fields with replicas := replicas, persistence := disk }
  name_assemble _ _ _ := rfl
  persistence_assemble _ _ _ := rfl
  restored_assemble _ _ _ _ _ _ := rfl

/-- The pools of a Cassandra cluster, as the loop handles them. -/
def cassandraPools : PoolKind CassandraClusterNodePool where
  name := CassandraClusterNodePool.name
  persistence := CassandraClusterNodePool.persistence
  restored := restoredCassandraNodePool
  assemble fields replicas disk := { fields with replicas := replicas, persistence := disk }
  name_assemble _ _ _ := rfl
  persistence_assemble _ _ _ := rfl
  restored_assemble _ _ _ _ _ _ := rfl

/-- The loop starts on structs that hold the pools of the two arguments. -/
def UpdateFrame.Holds {P : Type} (kind : PoolKind P) (s : UpdateFrame P) (oldPools newPools : List P) :
    Prop :=
  s.oldPools.map (s.pool kind) = oldPools ∧ s.newPools.map (s.pool kind) = newPools

/-- Two pools are deeply equal, replicas and persistence apart. -/
def ElasticsearchClusterNodePool.EqualOthers (newNp oldNp : ElasticsearchClusterNodePool) : Prop :=
  { newNp with replicas := none, persistence := none } =
    { oldNp with replicas := none, persistence := none }

@[inherit_doc ElasticsearchClusterNodePool.EqualOthers]
def CassandraClusterNodePool.EqualOthers (newNp oldNp : CassandraClusterNodePool) : Prop :=
  { newNp with replicas := none, persistence := none } =
    { oldNp with replicas := none, persistence := none }

instance (newNp oldNp : ElasticsearchClusterNodePool) : Decidable (newNp.EqualOthers oldNp) :=
  inferInstanceAs (Decidable (_ = _))

instance (newNp oldNp : CassandraClusterNodePool) : Decidable (newNp.EqualOthers oldNp) :=
  inferInstanceAs (Decidable (_ = _))

theorem ElasticsearchClusterNodePool.keptFrom_iff {newNp oldNp : ElasticsearchClusterNodePool} :
    newNp.KeptFrom oldNp ↔ newNp.EqualOthers oldNp ∧
      (oldNp.persistence = none ∨ newNp.persistence = oldNp.persistence) := by
  cases newNp
  cases oldNp
  simp [KeptFrom, EqualOthers, restoredElasticsearchNodePool]

theorem CassandraClusterNodePool.keptFrom_iff {newNp oldNp : CassandraClusterNodePool} :
    newNp.KeptFrom oldNp ↔ newNp.EqualOthers oldNp ∧
      (oldNp.persistence = none ∨ newNp.persistence = oldNp.persistence) := by
  cases newNp
  cases oldNp
  simp [KeptFrom, EqualOthers, restoredCassandraNodePool]

theorem UpdateFrame.Holds.run_extends {P : Type} [DecidableEq P] {kind : PoolKind P}
    {s : UpdateFrame P} {oldPools newPools : List P} (h : s.Holds kind oldPools newPools)
    (npPath : Path) :
    s.Extends (s.run kind npPath) (validateNodePoolsUpdate kind.name kind.persistence
      kind.restored npPath oldPools newPools) := by
  obtain ⟨rfl, rfl⟩ := h
  exact UpdateFrame.run_extends kind npPath s

/-- The update validators of the two kinds: when each reports nothing; that the
order of the old pools does not matter; and that the pool loop, run on any structs
that hold the pools, leaves both arguments as they were and appends the errors of
the pools. -/
theorem validateUpdate_exact (old new : ElasticsearchCluster) (oldC newC : CassandraCluster)
    (oldVersion newVersion : GoVersion)
    (hold : (old.spec.nodePools.map ElasticsearchClusterNodePool.name).Nodup)
    (holdC : (oldC.spec.nodePools.map CassandraClusterNodePool.name).Nodup)
    (holdVersion : oldC.spec.version.semver = some oldVersion)
    (hnewVersion : newC.spec.version.semver = some newVersion) :
    ((validateElasticsearchClusterUpdate old new = .ok [] ↔
        validateElasticsearchCluster new = .ok [] ∧
          ∀ newNp ∈ new.spec.nodePools, ∀ oldNp ∈ old.spec.nodePools,
            newNp.name = oldNp.name → newNp.EqualOthers oldNp ∧
              (oldNp.persistence = none ∨ newNp.persistence = oldNp.persistence)) ∧
      (∀ pools, pools.Perm old.spec.nodePools →
        validateElasticsearchClusterUpdate
          { old with spec := { old.spec with nodePools := pools } } new =
            validateElasticsearchClusterUpdate old new) ∧
      ∀ (s : UpdateFrame ElasticsearchClusterNodePool) (npPath : Path),
        s.Holds elasticsearchPools old.spec.nodePools new.spec.nodePools →
        s.Extends (s.run elasticsearchPools npPath)
          (validateNodePoolsUpdate ElasticsearchClusterNodePool.name
            ElasticsearchClusterNodePool.persistence restoredElasticsearchNodePool npPath
            old.spec.nodePools new.spec.nodePools)) ∧
    (validateCassandraClusterUpdate oldC newC = .ok [] ↔
        validateCassandraCluster newC = .ok [] ∧ newVersion.equal oldVersion = true ∧
          ∀ newNp ∈ newC.spec.nodePools, ∀ oldNp ∈ oldC.spec.nodePools,
            newNp.name = oldNp.name → newNp.EqualOthers oldNp ∧
              (oldNp.persistence = none ∨ newNp.persistence = oldNp.persistence)) ∧
      (∀ pools, pools.Perm oldC.spec.nodePools →
        validateCassandraClusterUpdate
          { oldC with spec := { oldC.spec with nodePools := pools } } newC =
            validateCassandraClusterUpdate oldC newC) ∧
      ∀ (s : UpdateFrame CassandraClusterNodePool) (npPath : Path),
        s.Holds cassandraPools oldC.spec.nodePools newC.spec.nodePools →
        s.Extends (s.run cassandraPools npPath)
          (validateNodePoolsUpdate CassandraClusterNodePool.name
            CassandraClusterNodePool.persistence restoredCassandraNodePool npPath
            oldC.spec.nodePools newC.spec.nodePools) := by
  refine ⟨⟨?_, ?_, fun s npPath h => h.run_extends npPath⟩, ?_, ?_,
    fun s npPath h => h.run_extends npPath⟩
  · simp only [← ElasticsearchClusterNodePool.keptFrom_iff]
    exact validateElasticsearchClusterUpdate_eq_ok_iff hold
  · intro pools hperm
    simp only [validateElasticsearchClusterUpdate, validateNodePoolsUpdate_perm hold hperm]
  · simp only [← CassandraClusterNodePool.keptFrom_iff]
    rw [validateCassandraClusterUpdate_eq_ok_iff holdC]
    simp only [holdVersion, hnewVersion, Option.some.injEq, exists_and_left, exists_eq_left']
  · intro pools hperm
    simp only [validateCassandraClusterUpdate, validateNodePoolsUpdate_perm holdC hperm]

namespace UpdateExactWitness

/-- A cluster with a pool of masters and a data pool of the replicas given. -/
def elasticsearch (replicas : Int) : ElasticsearchCluster where
  metadata := { name := "db", namespaceName := "default" }
  spec :=
    { navigatorClusterConfig := { pilotImage := ⟨"pilot", "latest", pullIfNotPresent⟩ }
      version := release 6 1 1
      nodePools :=
        [{ name := "data", replicas := some replicas, roles := [.data] },
          { name := "masters", replicas := some 3, roles := [.master] }] }

/-- A cluster with two racks, of which the second has the replicas given. -/
def cassandra (replicas : Int) : CassandraCluster where
  metadata := { name := "db", namespaceName := "default" }
  spec :=
    { navigatorClusterConfig := { pilotImage := ⟨"pilot", "latest", pullIfNotPresent⟩ }
      nodePools :=
        [{ name := "rack-a", replicas := some 3 },
          { name := "rack-b", replicas := some replicas, rack := some "b" }]
      version := ⟨"3.11.2", some { segments := [3, 11, 2], si := 3 }⟩ }

/-- Scaling is accepted, also with the old pools in another order. -/
theorem validateUpdate_exact_scale :
    validateElasticsearchClusterUpdate (elasticsearch 2) (elasticsearch 5) = .ok [] ∧
      validateElasticsearchClusterUpdate { elasticsearch 2 with spec := { (elasticsearch 2).spec with
        nodePools := (elasticsearch 2).spec.nodePools.reverse } } (elasticsearch 5) = .ok [] ∧
      validateCassandraClusterUpdate (cassandra 1) (cassandra 2) = .ok [] := by
  obtain ⟨⟨helasticsearch, hperm, _⟩, hcassandra, _, _⟩ := validateUpdate_exact (elasticsearch 2)
    (elasticsearch 5) (cassandra 1) (cassandra 2) _ _ (by decide) (by decide) rfl rfl
  have haccepted := helasticsearch.mpr (by decide +kernel)
  refine ⟨haccepted, ?_, hcassandra.mpr (by decide +kernel)⟩
  rw [hperm _ (List.reverse_perm _)]
  exact haccepted

end UpdateExactWitness

end Navigator
