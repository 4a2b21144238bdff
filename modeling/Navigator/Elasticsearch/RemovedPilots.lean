/-
Which Pilots a scale down looks at: those of the highest ordinals, in falling
order, each once.
-/
import Navigator.Base.FirstMatch
import Navigator.Elasticsearch.PilotLookup

namespace Navigator

open ControlLoop

namespace Elasticsearch

/-- The keys of the replicas that go when `d` is added to `n` replicas, from the
highest ordinal down. -/
def removedKeys (set : StatefulSet) (n d : Int) : List (String × String) :=
  (List.range (-d).toNat).map fun (k : Nat) =>
    (namespaceOf set, pilotNameForStatefulSetReplica (nameOf set) (n - 1 - (k : Int)))

section

variable {set : StatefulSet} {n d : Int}

theorem mem_removedKeys_iff {p : Pilot} :
    Resource.key p ∈ removedKeys set n d ↔ namespaceOf p = namespaceOf set ∧
      ∃ i, n + d ≤ i ∧ i < n ∧ nameOf p = pilotNameForStatefulSetReplica (nameOf set) i := by
  unfold removedKeys
  rw [List.mem_map]
  constructor
  · rintro ⟨k, hk, hkey⟩
    rw [List.mem_range] at hk
    obtain ⟨hnamespace, hname⟩ := Prod.mk.inj hkey
    exact ⟨hnamespace.symm, n - 1 - k, by omega, by omega, hname.symm⟩
  · rintro ⟨hnamespace, i, hlow, hhigh, hname⟩
    refine ⟨(n - 1 - i).toNat, ?_, ?_⟩
    · rw [List.mem_range]
      omega
    · rw [show n - 1 - (((n - 1 - i).toNat : Nat) : Int) = i by omega]
      exact Prod.ext hnamespace.symm hname.symm

/-- The function returns, for each of these keys, the first Pilot listed under
it. -/
theorem determinePilotsToBeRemoved_eq (listed : List Pilot) (hn : set.spec.replicas = some n)
    (hhigh : n < 2 ^ 31) (hd : -n ≤ d) :
    determinePilotsToBeRemoved listed set d =
      .ok ((removedKeys set n d).filterMap fun key =>
        listed.find? fun p => Resource.key p = key) := by
  unfold determinePilotsToBeRemoved
  split
  · rename_i hup
    have hnone : removedKeys set n d = [] := by
      rw [removedKeys, Int.toNat_of_nonpos (by omega)]
      rfl
    rw [hnone]
    rfl
  · rw [hn]
    have hsum : int32 (n + d) = n + d := int32_of_range (by omega) (by omega)
    simp only [hsum, removedKeys, List.filterMap_map, Except.ok.injEq]
    rw [show n - (n + d) = -d by omega]
    apply List.filterMap_congr
    intro k _
    simp only [Function.comp_apply]
    congr 1
    funext p
    apply decide_eq_decide.mpr
    constructor
    · rintro ⟨hname, hnamespace⟩
      exact Prod.ext hnamespace.symm hname.symm
    · intro hkey
      exact ⟨(congrArg Prod.snd hkey).symm, (congrArg Prod.fst hkey).symm⟩

/-- The Pilots found for a set have the names of its replicas, in order. -/
theorem map_nameOf_pilotsForStatefulSet {state : State} {t : Target} {pilots : List Pilot}
    (hpilots : pilotsForStatefulSet state t set = .ok pilots) (hn : set.spec.replicas = some n) :
    pilots.map nameOf = (List.range n.toNat).map fun (i : Nat) =>
      pilotNameForStatefulSetReplica (nameOf set) i := by
  obtain ⟨replicas, _, listed, hreplicas, _, _, hmap⟩ := pilotsForStatefulSet_eq_ok_iff.mp hpilots
  cases hn.symm.trans hreplicas
  clear hpilots
  generalize List.range n.toNat = ordinals at hmap ⊢
  induction ordinals generalizing pilots with
  | nil => simpa using hmap.symm
  | cons i ordinals ih =>
      cases pilots with
      | nil => cases hmap
      | cons p pilots =>
          obtain ⟨hfind, hrest⟩ := List.cons.inj hmap
          have hname : nameOf p = pilotNameForStatefulSetReplica (nameOf set) i := by
            simpa using List.find?_some hfind
          rw [List.map_cons, List.map_cons, hname, ih hrest]

theorem removedKeys_eq (hlow : 0 ≤ n) (hd : -n ≤ d) :
    removedKeys set n d = (((List.range n.toNat).map fun (i : Nat) =>
      (namespaceOf set, pilotNameForStatefulSetReplica (nameOf set) i)).drop
        (n + d).toNat).reverse := by
  apply List.ext_getElem
  · simp only [removedKeys, List.length_map, List.length_range, List.length_reverse,
      List.length_drop]
    omega
  · intro k hk hk'
    simp only [removedKeys, List.length_map, List.length_range] at hk
    simp only [removedKeys, List.getElem_map, List.getElem_range, List.getElem_reverse,
      List.getElem_drop, List.length_drop, List.length_map, List.length_range, Prod.mk.injEq,
      true_and]
    congr 1
    omega

/-- Of the Pilots of all replicas those of the highest ordinals are removed. -/
theorem filterMap_removedKeys {pilots : List Pilot} (hlow : 0 ≤ n) (hd : -n ≤ d)
    (hnames : pilots.map nameOf = (List.range n.toNat).map fun (i : Nat) =>
      pilotNameForStatefulSetReplica (nameOf set) i)
    (hnamespace : ∀ p ∈ pilots, namespaceOf p = namespaceOf set) :
    ((removedKeys set n d).filterMap fun key => pilots.find? fun p => Resource.key p = key) =
      (pilots.drop (n + d).toNat).reverse := by
  have hkeys : pilots.map Resource.key = (List.range n.toNat).map fun (i : Nat) =>
      (namespaceOf set, pilotNameForStatefulSetReplica (nameOf set) i) := by
    have hpairs : pilots.map Resource.key = (pilots.map nameOf).map (namespaceOf set, ·) := by
      rw [List.map_map]
      apply List.map_congr_left
      intro p hp
      exact Prod.ext (hnamespace p hp) rfl
    rw [hpairs, hnames, List.map_map]
    rfl
  have hdistinct : (pilots.map Resource.key).Nodup := by
    rw [hkeys]
    apply List.nodup_range.map
    intro i j hij
    exact Int.ofNat_inj.mp (pilotNameForStatefulSetReplica_injective (Prod.mk.inj hij).2)
  rw [removedKeys_eq hlow hd, ← hkeys, ← List.map_drop, ← List.map_reverse]
  apply filterMap_find?_map hdistinct
  intro p hp
  exact List.mem_of_mem_drop (List.mem_reverse.mp hp)

/-- The Pilots to be removed are those of the ordinals from `n + d` on: of the
Pilots found for the set the last ones in falling order, and of any list those
of the set's namespace with such a name, once for each name. -/
theorem pilots_to_be_removed (state : State) (t : Target) (hn : set.spec.replicas = some n)
    (hlow : 0 ≤ n) (hhigh : n < 2 ^ 31) (hd : -n ≤ d) :
    (∀ pilots, pilotsForStatefulSet state t set = .ok pilots →
      pilots.length = n.toNat ∧
      (∀ i : Nat, i < n.toNat → ∃ p, pilots[i]? = some p ∧
        nameOf p = pilotNameForStatefulSetReplica (nameOf set) i) ∧
      (t.namespaceName ≠ "" → namespaceOf set = t.namespaceName →
        determinePilotsToBeRemoved pilots set d =
          .ok (if 0 ≤ d then [] else (pilots.drop (n + d).toNat).reverse))) ∧
    ∀ listed, ∃ removed, determinePilotsToBeRemoved listed set d = .ok removed ∧
      removed ⊆ listed ∧
      removed.map Resource.key =
        (removedKeys set n d).filter (fun key => key ∈ listed.map Resource.key) ∧
      ((listed.map Resource.key).Nodup → ∀ p, p ∈ removed ↔ p ∈ listed ∧
        namespaceOf p = namespaceOf set ∧
          ∃ i, n + d ≤ i ∧ i < n ∧ nameOf p = pilotNameForStatefulSetReplica (nameOf set) i) := by
  constructor
  · intro pilots hpilots
    have hnames := map_nameOf_pilotsForStatefulSet hpilots hn
    have hlength : pilots.length = n.toNat := by
      simpa using congrArg List.length hnames
    refine ⟨hlength, ?_, ?_⟩
    · intro i hi
      have hentry := congrArg (fun names => names[i]?) hnames
      simp only [List.getElem?_map, List.getElem?_range hi, Option.map_some,
        Option.map_eq_some_iff] at hentry
      exact hentry
    · intro hnamespace hset
      rw [determinePilotsToBeRemoved_eq pilots hn hhigh hd, filterMap_removedKeys hlow hd hnames]
      · congr 1
        split
        · rw [List.drop_eq_nil_of_le (by omega)]
          rfl
        · rfl
      · intro p hp
        exact (pilotsForStatefulSet_subset hpilots hnamespace hp).2.trans hset.symm
  · intro listed
    refine ⟨_, determinePilotsToBeRemoved_eq listed hn hhigh hd, ?_, map_filterMap_find?, ?_⟩
    · intro p hp
      obtain ⟨key, _, hfind⟩ := List.mem_filterMap.mp hp
      exact List.mem_of_find?_eq_some hfind
    · intro hdistinct p
      rw [mem_filterMap_find? hdistinct, mem_removedKeys_iff]

end

namespace RemovedPilotsWitness

def target : Target :=
  ⟨sampleCluster "db" "uid-db" (release 6 1 1) [samplePool "data" 10 [.data]],
    samplePool "data" 10 [.data]⟩

/-- The set still has twelve replicas. -/
def set : StatefulSet where
  metadata := { name := "es-db-data", namespaceName := "default" }
  spec := { replicas := some 12 }

def pilot (i : Nat) : Pilot where
  metadata :=
    { name := pilotNameForStatefulSetReplica "es-db-data" i
      namespaceName := "default"
      labels := StringMap.ofList
        [(elasticsearchClusterNameLabel, "db"), (elasticsearchNodePoolNameLabel, "data")] }

def state : State where
  statefulSetLister := { items := [set] }
  configMapLister := { items := [] }
  pilotLister := { items := (List.range 12).map pilot }
  podLister := { items := [] }

/-- Replica 1 is kept and the replicas 11 and 10 go. -/
theorem pilots_to_be_removed_two :
    pilotsForStatefulSet state target set = .ok ((List.range 12).map pilot) ∧
      determinePilotsToBeRemoved ((List.range 12).map pilot) set (-2) =
        .ok [pilot 11, pilot 10] := by
  have hpilots : pilotsForStatefulSet state target set = .ok ((List.range 12).map pilot) := by
    decide +kernel
  have hspec := pilots_to_be_removed state target (show set.spec.replicas = some 12 from rfl)
    (by decide) (by decide) (show -12 ≤ (-2 : Int) by decide)
  have hremoved := (hspec.1 _ hpilots).2.2 (by decide) rfl
  exact ⟨hpilots, hremoved⟩

/-- The same set in a namespace that is not the cluster's. -/
def elsewhere : StatefulSet := { set with metadata := { set.metadata with namespaceName := "other" } }

/-- Another Pilot under the key of one. -/
def twin (i : Nat) : Pilot :=
  { pilot i with metadata := { (pilot i).metadata with resourceVersion := 1 } }

/-- The Pilots of a set are looked for in the cluster's namespace and removed in the
set's: where the two differ none is removed.  Of two Pilots under one key the first
is. -/
theorem pilots_to_be_removed_missed :
    pilotsForStatefulSet state target elsewhere = .ok ((List.range 12).map pilot) ∧
      determinePilotsToBeRemoved ((List.range 12).map pilot) elsewhere (-2) = .ok [] ∧
      determinePilotsToBeRemoved [pilot 11, twin 11] set (-1) = .ok [pilot 11] ∧
      twin 11 ≠ pilot 11 := by
  decide +kernel

end RemovedPilotsWitness

end Elasticsearch

end Navigator
