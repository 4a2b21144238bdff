/-
The pilot controller and the Elasticsearch actions meet in the Pilots of a pool:
the one creates them by pod name, the others look them up by label and name.
The two agree on the names.  They do not agree on the labels, since the pilot
controller sets none.
-/
import Navigator.Elasticsearch.Labels
import Navigator.Elasticsearch.PilotLookup
import Navigator.PilotController

namespace Navigator

open ControlLoop

namespace Elasticsearch

/-- The Pilot carries the labels by which the actions select those of a pool. -/
def HasPoolLabels (c : Cluster) (np : NodePool) (pilot : Pilot) : Prop :=
  StringMap.get? pilot.metadata.labels elasticsearchClusterNameLabel = some c.metadata.name ∧
    StringMap.get? pilot.metadata.labels elasticsearchNodePoolNameLabel = some np.name

instance (c : Cluster) (np : NodePool) (pilot : Pilot) : Decidable (HasPoolLabels c np pilot) :=
  inferInstanceAs (Decidable (_ ∧ _))

/-- The round is for the pod of the replica `i`, which carries the labels of the
template and is not being deleted. -/
def SyncsPod (set : StatefulSet) (i : Nat) (round : PilotController.Round) : Prop :=
  PilotController.splitMetaNamespaceKey round.key =
      .ok (namespaceOf set, pilotNameForStatefulSetReplica (nameOf set) i) ∧
    ∃ pod, round.state.podLister.get "pod" (namespaceOf set)
        (pilotNameForStatefulSetReplica (nameOf set) i) = .ok pod ∧
      pod.metadata.labels = set.spec.template.labels ∧ pod.metadata.deleted = false

/-- Pilots created by the pilot controller are not selected for any pool. -/
theorem not_hasPoolLabels_of_none {c : Cluster} {np : NodePool} {pilot : Pilot}
    (h : pilot.metadata.labels = none) : ¬ HasPoolLabels c np pilot := by
  rintro ⟨hcluster, _⟩
  rw [h] at hcluster
  cases hcluster

section Lookup

variable {pilots : ObjectStore Pilot} {lister : Lister Pilot} {namespaceName : String}
  {selector : Selector} {listed : List Pilot}

/-- On a current cache, the lookup by label and name is the lookup of the key in
the store, kept if the labels match. -/
theorem pilotOfReplica_eq_filter_get (hcurrent : pilots.Current lister.items)
    (hlisted : lister.list namespaceName selector = .ok listed) (hnamespace : namespaceName ≠ "")
    (setName : String) (i : Int) :
    pilotOfReplica listed setName i =
      (pilots.get (namespaceName, pilotNameForStatefulSetReplica setName i)).filter
        fun p => selector.matchesLabels p.metadata.labels := by
  -- a Pilot is listed exactly when it is stored in the namespace and matches
  have hmem : ∀ p : Pilot, p ∈ listed ↔ p ∈ pilots.objects ∧ namespaceOf p = namespaceName ∧
      selector.matchesLabels p.metadata.labels = true := by
    intro p
    rw [Lister.mem_list hlisted, hcurrent.mem_iff, or_iff_right hnamespace]
    rfl
  apply Option.ext
  intro p
  rw [Option.filter_eq_some_iff, pilots.get_eq_some_iff]
  constructor
  · intro hfind
    obtain ⟨hstored, hns, hmatches⟩ := (hmem p).mp (List.mem_of_find?_eq_some hfind)
    have hname : nameOf p = pilotNameForStatefulSetReplica setName i := by
      simpa using List.find?_some hfind
    exact ⟨⟨hstored, Prod.ext hns hname⟩, hmatches⟩
  · rintro ⟨⟨hstored, hkey⟩, hmatches⟩
    obtain ⟨hns, hname⟩ := Prod.mk.inj hkey
    have hlistedp : p ∈ listed := (hmem p).mpr ⟨hstored, hns, hmatches⟩
    cases hfind : pilotOfReplica listed setName i with
    | none => exact absurd (decide_eq_true hname) (List.find?_eq_none.mp hfind p hlistedp)
    | some found =>
        -- the one found has the same key, so it is the same
        obtain ⟨hfoundStored, hfoundNs, _⟩ := (hmem found).mp (List.mem_of_find?_eq_some hfind)
        have hfoundName : nameOf found = pilotNameForStatefulSetReplica setName i := by
          simpa using List.find?_some hfind
        have hfoundKey : Resource.key found =
            (namespaceName, pilotNameForStatefulSetReplica setName i) :=
          Prod.ext hfoundNs hfoundName
        have hfound := pilots.get_eq_some_iff.mpr ⟨hfoundStored, hfoundKey⟩
        have hp := pilots.get_eq_some_iff.mpr ⟨hstored, hkey⟩
        exact hfound.symm.trans hp

end Lookup

/-- On a current cache the lookup for the StatefulSet of a pool returns the
Pilots stored for its replicas exactly when the names of cluster and pool can
be selected and each replica has a Pilot with the labels of the pool. -/
theorem pilotsForStatefulSet_eq_stored_iff {c : Cluster} {np : NodePool} {set : StatefulSet}
    (hbuilt : nodePoolStatefulSet c np = .ok set) (hnamespace : c.metadata.namespaceName ≠ "")
    {replicas : Nat} (hreplicas : np.replicas = some (replicas : Int)) {state : State}
    {pilots : ObjectStore Pilot} (hworks : state.pilotLister.failure = none)
    (hcurrent : pilots.Current state.pilotLister.items) :
    (∃ found, pilotsForStatefulSet state ⟨c, np⟩ set = .ok found ∧
        (List.range replicas).map (fun i => pilots.get (pilotKey c np i)) = found.map some) ↔
      ValidLabelValue c.metadata.name ∧ ValidLabelValue np.name ∧
        ∀ i < replicas, ∃ pilot, pilots.get (pilotKey c np i) = some pilot ∧
          HasPoolLabels c np pilot := by
  obtain ⟨hname, _, _, _, hsetReplicas⟩ := nodePoolStatefulSet_eq_ok hbuilt
  rw [hreplicas] at hsetReplicas
  constructor
  · rintro ⟨found, hfound, hstored⟩
    obtain ⟨n, selector, listed, hn, hselector, hlisted, hmap⟩ :=
      pilotsForStatefulSet_eq_ok_iff.mp hfound
    rw [hsetReplicas] at hn
    cases hn
    obtain ⟨hcluster, hpool, rfl⟩ := selectorForNodePool_eq_ok_iff.mp hselector
    refine ⟨hcluster, hpool, ?_⟩
    intro i hi
    have hmem : pilotOfReplica listed (nameOf set) (i : Int) ∈ found.map some := by
      rw [← hmap]
      exact List.mem_map_of_mem
        (f := fun (j : Nat) => pilotOfReplica listed (nameOf set) (j : Int))
        (List.mem_range.mpr (by simpa using hi))
    obtain ⟨pilot, _, hpilot⟩ := List.mem_map.mp hmem
    rw [pilotOfReplica_eq_filter_get hcurrent hlisted hnamespace, hname] at hpilot
    obtain ⟨hget, hmatches⟩ := Option.filter_eq_some_iff.mp hpilot.symm
    exact ⟨pilot, hget, by
      simpa [Selector.matchesLabels, Requirement.matchesLabels, HasPoolLabels] using hmatches⟩
  · rintro ⟨hcluster, hpool, hpilots⟩
    have hselector := selectorForNodePool_eq_ok_iff.mpr ⟨hcluster, hpool, rfl⟩
    -- the lister does not fail, so there is a list
    obtain ⟨listed, hlisted⟩ : ∃ listed, state.pilotLister.list c.metadata.namespaceName
        [⟨elasticsearchClusterNameLabel, c.metadata.name⟩,
          ⟨elasticsearchNodePoolNameLabel, np.name⟩] = .ok listed := by
      simp only [Lister.list, hworks]
      exact ⟨_, rfl⟩
    have hsame : ∀ i ∈ List.range replicas,
        pilotOfReplica listed (nameOf set) (i : Int) = pilots.get (pilotKey c np i) := by
      intro i hi
      obtain ⟨pilot, hget, hlabels⟩ := hpilots i (List.mem_range.mp hi)
      rw [pilotOfReplica_eq_filter_get hcurrent hlisted hnamespace, hname]
      change (pilots.get (pilotKey c np i)).filter _ = _
      rw [hget, Option.filter_eq_some_iff]
      exact ⟨rfl, by
        simpa [Selector.matchesLabels, Requirement.matchesLabels, HasPoolLabels] using hlabels⟩
    have hall : ∀ i ∈ List.range replicas, (pilots.get (pilotKey c np i)).isSome = true := by
      intro i hi
      obtain ⟨pilot, hget, _⟩ := hpilots i (List.mem_range.mp hi)
      rw [hget]
      rfl
    have hstored := (filterMap_eq_iff_of_isSome hall).mp rfl
    refine ⟨_, pilotsForStatefulSet_eq_ok_iff.mpr
      ⟨replicas, _, listed, hsetReplicas, hselector, hlisted, ?_⟩, hstored⟩
    rw [← hstored, Int.toNat_natCast]
    exact List.map_congr_left hsame

/-- Once the pilot controller has synced the pods of a pool, each has a Pilot.
The actions find these Pilots exactly when the names of cluster and pool are
valid label values and every Pilot was there before, with the labels of the
pool: one that the controller creates is never found. -/
theorem pilotsForStatefulSet_returns_synced_iff {c : Cluster} {np : NodePool}
    {set : StatefulSet} (hbuilt : nodePoolStatefulSet c np = .ok set)
    (hnamespace : c.metadata.namespaceName ≠ "") {replicas : Nat}
    (hreplicas : np.replicas = some (replicas : Int)) {api api' : ApiServer}
    {rounds : List PilotController.Round}
    (hrun : PilotController.machine.exec api rounds = some api')
    (hsynced : ∀ i < replicas, ∃ round ∈ rounds, SyncsPod set i round) {state : State}
    (hworks : state.pilotLister.failure = none)
    (hcurrent : api'.pilots.Current state.pilotLister.items) :
    (∀ i < replicas, (api'.pilots.get (pilotKey c np i)).isSome = true) ∧
      ((∃ found, pilotsForStatefulSet state ⟨c, np⟩ set = .ok found ∧
          (List.range replicas).map (fun i => api'.pilots.get (pilotKey c np i)) =
            found.map some) ↔
        ValidLabelValue c.metadata.name ∧ ValidLabelValue np.name ∧
          ∀ i < replicas, ∃ pilot, api.pilots.get (pilotKey c np i) = some pilot ∧
            HasPoolLabels c np pilot) := by
  obtain ⟨hname, hns, _, _, _⟩ := nodePoolStatefulSet_eq_ok hbuilt
  constructor
  · intro i hi
    obtain ⟨round, hround, hkey, pod, hpod, _, hlive⟩ := hsynced i hi
    have hsome := PilotController.isSome_get_exec hrun hround hkey hpod hlive
    rwa [hname, hns] at hsome
  · rw [pilotsForStatefulSet_eq_stored_iff hbuilt hnamespace hreplicas hworks hcurrent]
    refine and_congr_right fun _ => and_congr_right fun _ => forall₂_congr fun i _ => ?_
    refine exists_congr fun pilot => and_congr_left fun hlabels => ?_
    obtain ⟨hkept, hnew⟩ := PilotController.get_pilots_exec hrun (pilotKey c np i) pilot
    constructor
    · intro hget
      exact (hnew hget).resolve_right fun hnone => not_hasPoolLabels_of_none hnone hlabels
    · exact hkept

namespace PilotAgreementWitness

def pool : NodePool := samplePool "all" 2 [.master, .data]

def cluster : Cluster := sampleCluster "db" "uid-db" (release 6 1 1) [pool]

def set : StatefulSet := (nodePoolStatefulSet cluster pool).toOption.getD {}

def podName (i : Nat) : String := "es-db-all-" ++ toString i

/-- The pods of the pool. -/
def pod (i : Nat) : Pod where
  metadata :=
    { name := podName i
      namespaceName := "default"
      uid := "uid-" ++ toString i
      labels := set.spec.template.labels }

/-- Caches that show the pods and the Pilots stored. -/
def cached (api : ApiServer) : State where
  statefulSetLister := { items := [] }
  configMapLister := { items := [] }
  podLister := { items := [pod 0, pod 1] }
  pilotLister := { items := api.pilots.objects }

def round (api : ApiServer) (i : Nat) : PilotController.Round where
  state := cached api
  key := "default/" ++ podName i

/-- The second round has not seen what the first one wrote. -/
def rounds (api : ApiServer) : List PilotController.Round := [round api 1, round api 0]

def synced (api : ApiServer) : ApiServer :=
  (PilotController.machine.exec api (rounds api)).getD {}

def labelledPilot (i : Nat) : Pilot where
  metadata :=
    { name := podName i
      namespaceName := "default"
      labels := nodePoolLabels cluster "all" [] }

/-- A server on which the Pilots of the pods exist, with the labels of the pool. -/
def labelled : ApiServer where
  pilots := (ObjectStore.empty.put (labelledPilot 0)).put (labelledPilot 1)

theorem exec_rounds {api : ApiServer}
    (h : (PilotController.machine.exec api (rounds api)).isSome = true) :
    PilotController.machine.exec api (rounds api) = some (synced api) := by
  obtain ⟨final, hfinal⟩ := Option.isSome_iff_exists.mp h
  unfold synced
  rw [hfinal]
  rfl

theorem built : nodePoolStatefulSet cluster pool = .ok set := by
  decide +kernel

theorem syncsPod (api : ApiServer) : ∀ i < 2, ∃ r ∈ rounds api, SyncsPod set i r := by
  have hfacts : ∀ i < 2, PilotController.splitMetaNamespaceKey ("default/" ++ podName i) =
      .ok (namespaceOf set, pilotNameForStatefulSetReplica (nameOf set) i) ∧
      ({ items := [pod 0, pod 1] } : Lister Pod).get "pod" (namespaceOf set)
        (pilotNameForStatefulSetReplica (nameOf set) i) = .ok (pod i) := by
    decide +kernel
  intro i hi
  have hmem : round api i ∈ rounds api := by
    interval_cases i
    · exact List.mem_cons_of_mem _ (List.mem_singleton_self _)
    · exact List.mem_cons_self
  obtain ⟨hkey, hpod⟩ := hfacts i hi
  exact ⟨round api i, hmem, hkey, pod i, hpod, rfl, rfl⟩

/-- The Pilots with the labels of the pool are found. -/
theorem pilotsForStatefulSet_returns_synced_labelled :
    ∃ found, pilotsForStatefulSet (cached (synced labelled)) ⟨cluster, pool⟩ set = .ok found ∧
      (List.range 2).map (fun i => (synced labelled).pilots.get (pilotKey cluster pool i)) =
        found.map some := by
  have hfacts : (PilotController.machine.exec labelled (rounds labelled)).isSome = true ∧
      cluster.metadata.namespaceName ≠ "" ∧ pool.replicas = some ((2 : Nat) : Int) ∧
      ValidLabelValue cluster.metadata.name ∧ ValidLabelValue pool.name ∧
      ∀ i < 2, ∃ pilot ∈ labelled.pilots.get (pilotKey cluster pool i),
        HasPoolLabels cluster pool pilot := by
    decide +kernel
  obtain ⟨hexec, hnamespace, hreplicas, hcluster, hpool, hpilots⟩ := hfacts
  have hcurrent : (synced labelled).pilots.Current (cached (synced labelled)).pilotLister.items :=
    List.Perm.refl _
  exact (pilotsForStatefulSet_returns_synced_iff built hnamespace hreplicas (exec_rounds hexec)
    (syncsPod labelled) rfl hcurrent).2.mpr ⟨hcluster, hpool, hpilots⟩

/-- The Pilots that the pilot controller creates are not found: the pods are synced,
their Pilots exist and are cached, and the lookup fails. -/
theorem pilotsForStatefulSet_misses_created :
    nodePoolStatefulSet cluster pool = .ok set ∧ pool.replicas = some 2 ∧
      PilotController.machine.exec {} (rounds {}) = some (synced {}) ∧
      (∀ i < 2, ∃ r ∈ rounds {}, SyncsPod set i r) ∧
      (synced {}).pilots.Current (cached (synced {})).pilotLister.items ∧
      (∀ i < 2, ((synced {}).pilots.get (pilotKey cluster pool i)).isSome = true) ∧
      pilotsForStatefulSet (cached (synced {})) ⟨cluster, pool⟩ set =
        .error (.status .notFound
          "[pilot \"es-db-all-0\" not found, pilot \"es-db-all-1\" not found]") := by
  have hfacts : (PilotController.machine.exec {} (rounds {})).isSome = true ∧
      (∀ i < 2, ((synced {}).pilots.get (pilotKey cluster pool i)).isSome = true) ∧
      pilotsForStatefulSet (cached (synced {})) ⟨cluster, pool⟩ set =
        .error (.status .notFound
          "[pilot \"es-db-all-0\" not found, pilot \"es-db-all-1\" not found]") := by
    decide +kernel
  obtain ⟨hexec, hsome, hmissed⟩ := hfacts
  exact ⟨built, rfl, exec_rounds hexec, syncsPod {}, List.Perm.refl _, hsome, hmissed⟩

end PilotAgreementWitness

end Elasticsearch

end Navigator
