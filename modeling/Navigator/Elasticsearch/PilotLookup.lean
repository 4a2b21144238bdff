/-
How the actions find the Pilots of a pool: by label and by name, in ordinal
order, all of them or none.
-/
import Navigator.Elasticsearch.Actions

namespace Navigator

open ControlLoop

namespace Elasticsearch

theorem pilotNameForStatefulSetReplica_injective {setName : String} {i j : Int}
    (h : pilotNameForStatefulSetReplica setName i = pilotNameForStatefulSetReplica setName j) :
    i = j := by
  have hlists := congrArg String.toList h
  simp only [pilotNameForStatefulSetReplica, String.toList_append] at hlists
  exact decimal_injective (String.toList_inj.mp (List.append_cancel_left hlists))

/-- Where the Pilot of a replica is stored. -/
def pilotKey (c : Cluster) (np : NodePool) (i : Nat) : String × String :=
  (c.metadata.namespaceName, pilotNameForStatefulSetReplica (nodePoolResourceName c np) i)

/-- Where a lookup finds every element, dropping the elements not found drops
nothing. -/
theorem filterMap_eq_iff_of_isSome {α β : Type} {f : α → Option β} {items : List α}
    (hfound : ∀ item ∈ items, (f item).isSome = true) {results : List β} :
    items.filterMap f = results ↔ items.map f = results.map some := by
  induction items generalizing results with
  | nil =>
      cases results with
      | nil => simp
      | cons first others => simp
  | cons item rest ih =>
      obtain ⟨result, hresult⟩ := Option.isSome_iff_exists.mp (hfound item List.mem_cons_self)
      have hrest := @ih fun other hother => hfound other (List.mem_cons_of_mem item hother)
      rw [List.filterMap_cons_some hresult, List.map_cons, hresult]
      cases results with
      | nil => simp
      | cons first others => simp [hrest]

/-- The Pilot of the replica `i` among those listed. -/
def pilotOfReplica (listed : List Pilot) (setName : String) (i : Int) : Option Pilot :=
  listed.find? fun p => nameOf p = pilotNameForStatefulSetReplica setName i

/-- The lookup succeeds exactly when the selector is valid and every replica has
a Pilot among those it lists, and returns these in ordinal order. -/
theorem pilotsForStatefulSet_eq_ok_iff {state : State} {t : Target} {set : StatefulSet}
    {pilots : List Pilot} :
    pilotsForStatefulSet state t set = .ok pilots ↔
      ∃ replicas selector listed, set.spec.replicas = some replicas ∧
        selectorForNodePool t.cluster.metadata.name t.nodePool.name = .ok selector ∧
        state.pilotLister.list t.namespaceName selector = .ok listed ∧
        (List.range replicas.toNat).map (fun (i : Nat) => pilotOfReplica listed (nameOf set) i) =
          pilots.map some := by
  unfold pilotsForStatefulSet
  cases hreplicas : set.spec.replicas with
  | none => simp
  | some replicas =>
      cases hselector : selectorForNodePool t.cluster.metadata.name t.nodePool.name with
      | error e => simp [bind, Except.bind]
      | ok selector =>
          cases hlisted : state.pilotLister.list t.namespaceName selector with
          | error e => simp [bind, Except.bind, hlisted]
          | ok listed =>
              simp only [bind, Except.bind, hlisted, Option.some.injEq, Except.ok.injEq,
                exists_and_left, exists_eq_left']
              generalize hnames : (List.range replicas.toNat).map (fun (i : Nat) =>
                pilotNameForStatefulSetReplica (nameOf set) (i : Int)) = names
              have hmap : (List.range replicas.toNat).map
                  (fun (i : Nat) => pilotOfReplica listed (nameOf set) (i : Int)) =
                  names.map fun pilotName => listed.find? fun p => nameOf p = pilotName := by
                rw [← hnames, List.map_map]
                rfl
              rw [hmap]
              by_cases hmissing : ∀ pilotName ∈ names,
                  (listed.find? fun p => nameOf p = pilotName).isSome = true
              · have hnone : (names.filter fun pilotName =>
                    (listed.find? fun p => nameOf p = pilotName).isNone) = [] := by
                  apply List.filter_eq_nil_iff.mpr
                  intro pilotName hmem
                  rw [Option.isNone_iff_eq_none, ← Option.not_isSome_iff_eq_none]
                  exact not_not.mpr (hmissing pilotName hmem)
                rw [if_neg (not_not.mpr hnone), Except.ok.injEq]
                exact filterMap_eq_iff_of_isSome hmissing
              · push Not at hmissing
                obtain ⟨pilotName, hmem, habsent⟩ := hmissing
                have hsome : (names.filter fun pilotName =>
                    (listed.find? fun p => nameOf p = pilotName).isNone) ≠ [] := by
                  intro hnil
                  exact List.filter_eq_nil_iff.mp hnil pilotName hmem (by simpa using habsent)
                rw [if_pos hsome]
                simp only [reduceCtorEq, false_iff]
                intro hall
                have hin : (listed.find? fun p => nameOf p = pilotName) ∈ pilots.map some :=
                  hall ▸ List.mem_map_of_mem hmem
                obtain ⟨p, _, hp⟩ := List.mem_map.mp hin
                rw [← hp] at habsent
                exact habsent rfl

/-- The Pilots found are cached ones of the cluster's namespace. -/
theorem pilotsForStatefulSet_subset {state : State} {t : Target} {set : StatefulSet}
    {pilots : List Pilot} (h : pilotsForStatefulSet state t set = .ok pilots)
    (hnamespace : t.namespaceName ≠ "") {p : Pilot} (hp : p ∈ pilots) :
    p ∈ state.pilotLister.items ∧ namespaceOf p = t.namespaceName := by
  obtain ⟨replicas, selector, listed, _, _, hlisted, hmap⟩ :=
    pilotsForStatefulSet_eq_ok_iff.mp h
  have hmem : some p ∈ pilots.map some := List.mem_map_of_mem hp
  rw [← hmap] at hmem
  obtain ⟨i, _, hfind⟩ := List.mem_map.mp hmem
  obtain ⟨hitem, hns, _⟩ := (Lister.mem_list hlisted).mp (List.mem_of_find?_eq_some hfind)
  exact ⟨hitem, hns.resolve_left hnamespace⟩

/-- A cached Pilot with the name of a replica is the one the lookup returns for
that replica, when names are unique in the cache. -/
theorem mem_pilotsForStatefulSet {state : State} {t : Target} {set : StatefulSet}
    {pilots : List Pilot} (h : pilotsForStatefulSet state t set = .ok pilots)
    (hnamespace : t.namespaceName ≠ "")
    (hkeys : (state.pilotLister.items.map Resource.key).Nodup) {replicas i : Int}
    (hreplicas : set.spec.replicas = some replicas) (hi : 0 ≤ i ∧ i < replicas) {p : Pilot}
    (hp : p ∈ state.pilotLister.items)
    (hkey : Resource.key p =
      (t.namespaceName, pilotNameForStatefulSetReplica (nameOf set) i)) : p ∈ pilots := by
  obtain ⟨found, selector, listed, hfound, _, hlisted, hmap⟩ :=
    pilotsForStatefulSet_eq_ok_iff.mp h
  rw [hreplicas] at hfound
  cases hfound
  have hrange : i.toNat ∈ List.range replicas.toNat := by
    rw [List.mem_range]
    omega
  have hmem : pilotOfReplica listed (nameOf set) (i.toNat : Int) ∈ pilots.map some := by
    rw [← hmap]
    exact List.mem_map_of_mem (f := fun (j : Nat) => pilotOfReplica listed (nameOf set) (j : Int))
      hrange
  rw [Int.toNat_of_nonneg hi.1] at hmem
  obtain ⟨q, hq, hfind⟩ := List.mem_map.mp hmem
  -- the Pilot found has the same key, so it is the same
  obtain ⟨hitem, hns⟩ := pilotsForStatefulSet_subset h hnamespace hq
  have hname : nameOf q = pilotNameForStatefulSetReplica (nameOf set) i := by
    simpa using List.find?_some hfind.symm
  have hsame : Resource.key q = Resource.key p := by
    rw [hkey]
    exact Prod.ext hns hname
  exact List.inj_on_of_nodup_map hkeys hitem hp hsame ▸ hq

/-- A scale down to `desired` replicas looks at the Pilot of every ordinal from
there on. -/
theorem mem_determinePilotsToBeRemoved {allPilots toRemove : List Pilot} {set : StatefulSet}
    {current desired i : Int}
    (h : determinePilotsToBeRemoved allPilots set (desired - current) = .ok toRemove)
    (hcurrent : set.spec.replicas = some current) (hdesired : int32 desired = desired)
    (hi : desired ≤ i ∧ i < current) {p : Pilot}
    (hfind : (allPilots.find? fun p => pilotNameForStatefulSetReplica (nameOf set) i = nameOf p ∧
      namespaceOf set = namespaceOf p) = some p) : p ∈ toRemove := by
  have hnegative : ¬ desired - current ≥ 0 := by omega
  have hsum : current + (desired - current) = desired := by omega
  simp only [determinePilotsToBeRemoved, if_neg hnegative, hcurrent, hsum, hdesired,
    Except.ok.injEq] at h
  rw [← h]
  apply List.mem_filterMap.mpr
  refine ⟨i, ?_, hfind⟩
  apply List.mem_map.mpr
  refine ⟨(current - 1 - i).toNat, ?_, ?_⟩
  · rw [List.mem_range]
    omega
  · omega

namespace UpdateVersion

/-- With counters in range, the next partition is one below the first replica
that is already updated. -/
theorem nextPartition_eq {replicas updated : Int} (hlow : 0 ≤ updated)
    (hhigh : updated ≤ replicas) (hrange : replicas < 2 ^ 31) :
    nextPartition replicas updated = max 0 (replicas - updated - 1) := by
  unfold nextPartition
  rw [int32_of_range (by omega) (by omega)]
  by_cases hall : replicas - updated - 1 = -1
  · simp [hall]
  · rw [if_neg hall]
    omega

/-- The check of the last Pilot passes when there is none to check, or when it is
cached and up to date. -/
theorem lastPilotError_eq_none_iff {state : State} {t : Target} {set : StatefulSet}
    {replicas partition : Int} (hlow : 0 ≤ partition) (hhigh : partition < 2 ^ 31 - 1) :
    lastPilotError state t set replicas partition = .ok none ↔
      (partition + 1 < replicas → ∃ p, state.pilotLister.get "pilot.navigator.jetstack.io"
        t.namespaceName (pilotNameForStatefulSetReplica (nameOf set) (partition + 1)) = .ok p ∧
          pilotVersionUpToDate t.cluster.spec p.status = true) := by
  unfold lastPilotError
  rw [int32_of_range (by omega) (by omega)]
  by_cases hlast : partition + 1 < replicas
  · simp only [hlast, forall_const]
    cases hget : state.pilotLister.get "pilot.navigator.jetstack.io" t.namespaceName
        (pilotNameForStatefulSetReplica (nameOf set) (partition + 1)) with
    | error e => simp [bind, Except.bind]
    | ok p =>
        by_cases hup : pilotVersionUpToDate t.cluster.spec p.status = true
        · simp [bind, Except.bind, pure, Except.pure, hup]
        · simp [bind, Except.bind, pure, Except.pure, hup]
  · simp [hlast, pure, Except.pure]

/-- Every replica has a Pilot with the labels of the pool, and it reports the
version of the spec. -/
def Reported (state : State) (t : Target) (set : StatefulSet) (replicas : Int) : Prop :=
  ∃ selector listed, selectorForNodePool t.cluster.metadata.name t.nodePool.name = .ok selector ∧
    state.pilotLister.list t.namespaceName selector = .ok listed ∧
    ∀ i < replicas.toNat, ∃ p, pilotOfReplica listed (nameOf set) (i : Nat) = some p ∧
      pilotVersionUpToDate t.cluster.spec p.status = true

theorem pilotsUpToDate_eq_none_iff {state : State} {t : Target} {set : StatefulSet}
    {replicas : Int} (hreplicas : set.spec.replicas = some replicas) :
    pilotsUpToDate state t set = none ↔ Reported state t set replicas := by
  constructor
  · intro h
    unfold pilotsUpToDate at h
    split at h
    · cases h
    · rename_i pilots hpilots
      rw [Option.map_eq_none_iff] at h
      obtain ⟨n, selector, listed, hn, hselector, hlisted, hmap⟩ :=
        pilotsForStatefulSet_eq_ok_iff.mp hpilots
      rw [hreplicas] at hn
      cases hn
      refine ⟨selector, listed, hselector, hlisted, ?_⟩
      intro i hi
      have hmem : pilotOfReplica listed (nameOf set) (i : Int) ∈ pilots.map some := by
        rw [← hmap]
        exact List.mem_map_of_mem
          (f := fun (j : Nat) => pilotOfReplica listed (nameOf set) (j : Int))
          (List.mem_range.mpr hi)
      obtain ⟨p, hp, hfind⟩ := List.mem_map.mp hmem
      exact ⟨p, hfind.symm, by simpa using List.find?_eq_none.mp h p hp⟩
  · rintro ⟨selector, listed, hselector, hlisted, hreported⟩
    have hpilots : pilotsForStatefulSet state t set =
        .ok ((List.range replicas.toNat).filterMap fun (i : Nat) =>
          pilotOfReplica listed (nameOf set) (i : Int)) := by
      refine pilotsForStatefulSet_eq_ok_iff.mpr
        ⟨replicas, selector, listed, hreplicas, hselector, hlisted, ?_⟩
      apply (filterMap_eq_iff_of_isSome _).mp rfl
      intro i hi
      obtain ⟨p, hp, _⟩ := hreported i (List.mem_range.mp hi)
      exact Option.isSome_iff_exists.mpr ⟨p, hp⟩
    simp only [pilotsUpToDate, hpilots, Option.map_eq_none_iff]
    apply List.find?_eq_none.mpr
    intro p hp
    obtain ⟨i, hi, hfind⟩ := List.mem_filterMap.mp hp
    obtain ⟨found, hfound, hup⟩ := hreported i (List.mem_range.mp hi)
    rw [hfind] at hfound
    cases hfound
    simp [hup]

/-- When the Pilots are up to date, every replica has a cached Pilot that is. -/
theorem pilots_of_upToDate {state : State} {t : Target} {set : StatefulSet}
    (h : pilotsUpToDate state t set = none) (hnamespace : t.namespaceName ≠ "") {replicas : Nat}
    (hreplicas : set.spec.replicas = some (replicas : Int)) {i : Nat} (hi : i < replicas) :
    ∃ p ∈ state.pilotLister.items,
      Resource.key p = (t.namespaceName, pilotNameForStatefulSetReplica (nameOf set) i) ∧
        pilotVersionUpToDate t.cluster.spec p.status = true := by
  obtain ⟨selector, listed, _, hlisted, hreported⟩ := (pilotsUpToDate_eq_none_iff hreplicas).mp h
  obtain ⟨p, hfind, hup⟩ := hreported i (by simpa using hi)
  obtain ⟨hitem, hns, _⟩ := (Lister.mem_list hlisted).mp (List.mem_of_find?_eq_some hfind)
  have hname : nameOf p = pilotNameForStatefulSetReplica (nameOf set) i := by
    simpa using List.find?_some hfind
  exact ⟨p, hitem, Prod.ext (hns.resolve_left hnamespace) hname, hup⟩

end UpdateVersion

end Elasticsearch

end Navigator
