/-
The history of a cluster's spec, from its creation through accepted updates:
what stays as it was of a node pool.
-/
import Navigator.Accepted
import Navigator.Base.History

namespace Navigator

open ControlLoop

section Unchanged

variable {P : Type} {persistence : P → Option PersistenceConfig} {restored : P → P → P}

/-- A pool of the same name differs at most in replicas, and in persistence that
was not set before; `restored` puts the old values of both back. -/
structure Unchanged (persistence : P → Option PersistenceConfig) (restored : P → P → P)
    (old new : P) : Prop where
  others : restored new old = old
  persistence : persistence old ≠ none → persistence new = persistence old

theorem Unchanged.trans {a b c : P} (hab : Unchanged persistence restored a b)
    (hrestored : ∀ a b c, restored (restored c b) a = restored c a)
    (hbc : Unchanged persistence restored b c) : Unchanged persistence restored a c := by
  refine ⟨?_, ?_⟩
  · calc restored c a = restored (restored c b) a := (hrestored a b c).symm
      _ = restored b a := by rw [hbc.others]
      _ = a := hab.others
  · intro hset
    have hb := hab.persistence hset
    rw [hbc.persistence (hb ▸ hset), hb]

end Unchanged

namespace ElasticsearchCluster

def Created (c : ElasticsearchCluster) : Prop := validateElasticsearchCluster c = .ok []

def Updates (old new : ElasticsearchCluster) : Prop :=
  validateElasticsearchClusterUpdate old new = .ok []

instance : DecidablePred Created :=
  fun c => inferInstanceAs (Decidable (validateElasticsearchCluster c = .ok []))

instance : DecidableRel Updates :=
  fun old new => inferInstanceAs (Decidable (validateElasticsearchClusterUpdate old new = .ok []))

def pools (c : ElasticsearchCluster) : List ElasticsearchClusterNodePool := c.spec.nodePools

/-- The pool is the same but for replicas and new persistence. -/
abbrev SamePool : ElasticsearchClusterNodePool → ElasticsearchClusterNodePool → Prop :=
  Unchanged ElasticsearchClusterNodePool.persistence restoredElasticsearchNodePool

/-- An accepted update leaves the pools alone. -/
theorem agree_of_updates {old new : ElasticsearchCluster} (hold : Created old)
    (h : Updates old new) :
    Created new ∧ Agree pools ElasticsearchClusterNodePool.name SamePool old new := by
  obtain ⟨hall, hkept⟩ := (validateElasticsearchClusterUpdate_eq_ok_iff
    (ElasticsearchCluster.accepted hold).distinct).mp h
  refine ⟨hall, ?_⟩
  intro np hnp np' hnp' hname
  obtain ⟨hothers, hpersistence⟩ := hkept np' hnp' np hnp hname
  exact ⟨hothers, hpersistence.resolve_left⟩

end ElasticsearchCluster

namespace CassandraCluster

def Created (c : CassandraCluster) : Prop := validateCassandraCluster c = .ok []

def Updates (old new : CassandraCluster) : Prop :=
  validateCassandraClusterUpdate old new = .ok []

instance : DecidablePred Created :=
  fun c => inferInstanceAs (Decidable (validateCassandraCluster c = .ok []))

instance : DecidableRel Updates :=
  fun old new => inferInstanceAs (Decidable (validateCassandraClusterUpdate old new = .ok []))

def pools (c : CassandraCluster) : List CassandraClusterNodePool := c.spec.nodePools

/-- The pool is the same but for replicas and new persistence. -/
abbrev SamePool : CassandraClusterNodePool → CassandraClusterNodePool → Prop :=
  Unchanged CassandraClusterNodePool.persistence restoredCassandraNodePool

/-- An accepted update leaves the pools alone; it has the version to pass, too. -/
theorem agree_of_updates {old new : CassandraCluster} (hold : Created old)
    (h : Updates old new) :
    Created new ∧ Agree pools CassandraClusterNodePool.name SamePool old new := by
  obtain ⟨hall, _, hkept⟩ := (validateCassandraClusterUpdate_eq_ok_iff
    (validateCassandraCluster_eq_ok_iff.mp hold).2.distinct).mp h
  refine ⟨hall, ?_⟩
  intro np hnp np' hnp' hname
  obtain ⟨hothers, hpersistence⟩ := hkept np' hnp' np hnp hname
  exact ⟨hothers, hpersistence.resolve_left⟩

end CassandraCluster

/-- In a history in which no pool comes back after it was dropped, pools of one
name are the same in any two specs, but for replicas and for persistence that
the earlier one did not have. -/
theorem pools_unchanged (e : List ElasticsearchCluster) (c : List CassandraCluster) :
    ((history ElasticsearchCluster.Created ElasticsearchCluster.Updates).Reachable
      (NoneBack ElasticsearchCluster.pools ElasticsearchClusterNodePool.name) e →
        e.Pairwise fun new old => Agree ElasticsearchCluster.pools
          ElasticsearchClusterNodePool.name ElasticsearchCluster.SamePool old new) ∧
    ((history CassandraCluster.Created CassandraCluster.Updates).Reachable
      (NoneBack CassandraCluster.pools CassandraClusterNodePool.name) c →
        c.Pairwise fun new old => Agree CassandraCluster.pools
          CassandraClusterNodePool.name CassandraCluster.SamePool old new) := by
  constructor
  · intro hreach
    refine pairwise_agree ?_ (fun _ hcreated => hcreated) ?_ hreach
    · exact fun _ _ _ hab hbc => hab.trans (fun _ _ _ => rfl) hbc
    · exact fun _ _ => ElasticsearchCluster.agree_of_updates
  · intro hreach
    refine pairwise_agree ?_ (fun _ hcreated => hcreated) ?_ hreach
    · exact fun _ _ _ hab hbc => hab.trans (fun _ _ _ => rfl) hbc
    · exact fun _ _ => CassandraCluster.agree_of_updates

namespace SpecHistoryWitness

/-- A cluster with one pool that stays and others. -/
def elasticsearch (others : List ElasticsearchClusterNodePool) : ElasticsearchCluster where
  metadata := { name := "db", namespaceName := "default", uid := "uid-db" }
  spec :=
    { navigatorClusterConfig :=
        { pilotImage := ⟨"jetstackexperimental/navigator-pilot-elasticsearch", "latest",
            pullIfNotPresent⟩ }
      version := release 6 1 1
      nodePools := { name := "masters", replicas := some 3, roles := [.master] } :: others }

def dataPool (roles : List ElasticsearchClusterRole) : ElasticsearchClusterNodePool where
  name := "data"
  replicas := some 2
  roles := roles
  persistence := some
    { size := { i := ⟨10 * 1024 ^ 3, 0⟩, s := "10Gi", format := .binarySI }, storageClass := none }

def cassandra (others : List CassandraClusterNodePool) : CassandraCluster where
  metadata := { name := "db", namespaceName := "default", uid := "uid-db" }
  spec :=
    { navigatorClusterConfig :=
        { pilotImage := ⟨"jetstackexperimental/navigator-pilot-cassandra", "latest",
            pullIfNotPresent⟩ }
      nodePools := { name := "rack-a", replicas := some 3 } :: others
      version := ⟨"3.11.2", some { segments := [3, 11, 2], si := 3 }⟩ }

def rackB (rack : String) : CassandraClusterNodePool where
  name := "rack-b"
  replicas := some 1
  rack := some rack

/-- A pool is added to a cluster and then scaled. -/
def elasticsearchUpdates : List ElasticsearchCluster :=
  [elasticsearch [dataPool [.data]], elasticsearch [{ dataPool [.data] with replicas := some 5 }]]

def cassandraUpdates : List CassandraCluster :=
  [cassandra [rackB "b"], cassandra [{ rackB "b" with replicas := some 2 }]]

theorem pools_unchanged_scaled :
    (elasticsearchUpdates.reverse ++ [elasticsearch []]).Pairwise (fun new old =>
        Agree ElasticsearchCluster.pools ElasticsearchClusterNodePool.name
          ElasticsearchCluster.SamePool old new) ∧
      (cassandraUpdates.reverse ++ [cassandra []]).Pairwise (fun new old =>
        Agree CassandraCluster.pools CassandraClusterNodePool.name
          CassandraCluster.SamePool old new) := by
  obtain ⟨helasticsearch, hcassandra⟩ := pools_unchanged
    (elasticsearchUpdates.reverse ++ [elasticsearch []]) (cassandraUpdates.reverse ++ [cassandra []])
  constructor
  · have hfacts : ElasticsearchCluster.Created (elasticsearch []) ∧
        (history ElasticsearchCluster.Created ElasticsearchCluster.Updates).Meets
          (NoneBack ElasticsearchCluster.pools ElasticsearchClusterNodePool.name)
          [elasticsearch []] elasticsearchUpdates ∧
        (history ElasticsearchCluster.Created ElasticsearchCluster.Updates).exec
          [elasticsearch []] elasticsearchUpdates =
            some (elasticsearchUpdates.reverse ++ [elasticsearch []]) := by
      decide +kernel
    obtain ⟨hcreated, hmeets, hexec⟩ := hfacts
    have hstart : (history ElasticsearchCluster.Created ElasticsearchCluster.Updates).init
        [elasticsearch []] := ⟨elasticsearch [], hcreated, rfl⟩
    exact helasticsearch ((Machine.Reachable.start hstart).of_exec hmeets hexec)
  · have hfacts : CassandraCluster.Created (cassandra []) ∧
        (history CassandraCluster.Created CassandraCluster.Updates).Meets
          (NoneBack CassandraCluster.pools CassandraClusterNodePool.name)
          [cassandra []] cassandraUpdates ∧
        (history CassandraCluster.Created CassandraCluster.Updates).exec
          [cassandra []] cassandraUpdates = some (cassandraUpdates.reverse ++ [cassandra []]) := by
      decide +kernel
    obtain ⟨hcreated, hmeets, hexec⟩ := hfacts
    have hstart : (history CassandraCluster.Created CassandraCluster.Updates).init
        [cassandra []] := ⟨cassandra [], hcreated, rfl⟩
    exact hcassandra ((Machine.Reachable.start hstart).of_exec hmeets hexec)

/-- The data pool as it comes back. -/
def otherPool : ElasticsearchClusterNodePool := { dataPool [.ingest] with persistence := none }

/-- A pool that was dropped comes back with another role and without its
persistence, and in another rack: each update is accepted. -/
theorem pool_comes_back_changed :
    (validateElasticsearchCluster (elasticsearch [dataPool [.data]]) = .ok [] ∧
      (history ElasticsearchCluster.Created ElasticsearchCluster.Updates).exec
          [elasticsearch [dataPool [.data]]] [elasticsearch [], elasticsearch [otherPool]] =
        some [elasticsearch [otherPool], elasticsearch [], elasticsearch [dataPool [.data]]] ∧
      otherPool.name = (dataPool [.data]).name ∧ otherPool.roles ≠ (dataPool [.data]).roles ∧
      otherPool.persistence ≠ (dataPool [.data]).persistence) ∧
    validateCassandraCluster (cassandra [rackB "b"]) = .ok [] ∧
      (history CassandraCluster.Created CassandraCluster.Updates).exec [cassandra [rackB "b"]]
          [cassandra [], cassandra [rackB "c"]] =
        some [cassandra [rackB "c"], cassandra [], cassandra [rackB "b"]] ∧
      (rackB "c").name = (rackB "b").name ∧ (rackB "c").rack ≠ (rackB "b").rack := by
  decide +kernel

end SpecHistoryWitness

end Navigator
