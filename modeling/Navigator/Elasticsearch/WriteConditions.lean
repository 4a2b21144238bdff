/-
Exactly when `Scale` and `UpdateVersion` write, and what they write, in terms of
the caches they read.
-/
import Navigator.Base.FirstMatch
import Navigator.Elasticsearch.ActionSpecs
import Navigator.Elasticsearch.Labels
import Navigator.Elasticsearch.PilotLookup

namespace Navigator

open ControlLoop

namespace Elasticsearch

/-- What the informer and the API server promise of the cache of Pilots: it
answers, it holds one Pilot under a key, and the label values were validated
when the Pilot was stored. -/
structure PilotCache (lister : Lister Pilot) : Prop where
  works : lister.failure = none
  keys : (lister.items.map Resource.key).Nodup
  labels : ∀ p ∈ lister.items, ∀ key value,
    StringMap.get? p.metadata.labels key = some value → ValidLabelValue value

instance (lister : Lister Pilot) : Decidable (PilotCache lister) :=
  decidable_of_iff (lister.failure = none ∧ (lister.items.map Resource.key).Nodup ∧
      ∀ p ∈ lister.items, ∀ entry ∈ StringMap.entries p.metadata.labels, ValidLabelValue entry.2)
    ⟨fun h => ⟨h.1, h.2.1, fun p hp _ _ hget => h.2.2 p hp _ (StringMap.mem_entries_iff.mpr hget)⟩,
      fun h => ⟨h.works, h.keys, fun p hp _ hentry =>
        h.labels p hp _ _ (StringMap.mem_entries_iff.mp hentry)⟩⟩

/-- A cached Pilot of the replica `i` of the set, with the labels of the pool. -/
structure IsPilotOf (state : State) (t : Target) (set : StatefulSet) (i : Int) (p : Pilot) :
    Prop where
  cached : p ∈ state.pilotLister.items
  key : Resource.key p = (t.namespaceName, pilotNameForStatefulSetReplica (nameOf set) i)
  cluster : StringMap.get? p.metadata.labels elasticsearchClusterNameLabel =
    some t.cluster.metadata.name
  pool : StringMap.get? p.metadata.labels elasticsearchNodePoolNameLabel = some t.nodePool.name

section Lookup

variable {state : State} {t : Target} {set : StatefulSet}

/-- The Pilots that the selector of the pool lists. -/
theorem mem_listed_iff {selector : Selector} {listed : List Pilot}
    (hselector : selectorForNodePool t.cluster.metadata.name t.nodePool.name = .ok selector)
    (hlisted : state.pilotLister.list t.namespaceName selector = .ok listed)
    (hnamespace : t.namespaceName ≠ "") {i : Int} {p : Pilot} :
    (p ∈ listed ∧ nameOf p = pilotNameForStatefulSetReplica (nameOf set) i) ↔
      IsPilotOf state t set i p := by
  obtain ⟨_, _, rfl⟩ := selectorForNodePool_eq_ok_iff.mp hselector
  rw [Lister.mem_list hlisted]
  simp only [Selector.matchesLabels, Requirement.matchesLabels, List.all_cons, List.all_nil,
    Bool.and_true, Bool.and_eq_true, decide_eq_true_eq]
  constructor
  · rintro ⟨⟨hitem, hns, hcluster, hpool⟩, hname⟩
    exact ⟨hitem, Prod.ext (hns.resolve_left hnamespace) hname, hcluster, hpool⟩
  · rintro ⟨hitem, hkey, hcluster, hpool⟩
    exact ⟨⟨hitem, Or.inr (congrArg Prod.fst hkey), hcluster, hpool⟩, congrArg Prod.snd hkey⟩

/-- The keys of the cache being distinct, a replica has at most one Pilot. -/
theorem IsPilotOf.unique (hcache : PilotCache state.pilotLister) {i : Int} {p q : Pilot}
    (hp : IsPilotOf state t set i p) (hq : IsPilotOf state t set i q) : p = q :=
  List.inj_on_of_nodup_map hcache.keys hp.cached hq.cached (hp.key.trans hq.key.symm)

theorem pilotOfReplica_eq_some_iff {selector : Selector} {listed : List Pilot}
    (hselector : selectorForNodePool t.cluster.metadata.name t.nodePool.name = .ok selector)
    (hlisted : state.pilotLister.list t.namespaceName selector = .ok listed)
    (hcache : PilotCache state.pilotLister) (hnamespace : t.namespaceName ≠ "")
    {i : Int} {p : Pilot} :
    pilotOfReplica listed (nameOf set) i = some p ↔ IsPilotOf state t set i p := by
  have hmem : ∀ q, (q ∈ listed ∧ nameOf q = pilotNameForStatefulSetReplica (nameOf set) i) ↔
      IsPilotOf state t set i q := fun q => mem_listed_iff hselector hlisted hnamespace
  constructor
  · intro hfind
    exact (hmem p).mp ⟨List.mem_of_find?_eq_some hfind, by simpa using List.find?_some hfind⟩
  · intro hp
    obtain ⟨hlistedp, hname⟩ := (hmem p).mpr hp
    apply find?_eq_some_of_unique hlistedp (by simpa using hname)
    intro q hq hqname
    exact (hmem q).mp ⟨hq, by simpa using hqname⟩ |>.unique hcache hp

/-- Of a pool with replicas, all Pilots are found exactly when each replica has
one: a Pilot that carries the labels shows that the selector is valid. -/
theorem exists_pilotsForStatefulSet_iff (hcache : PilotCache state.pilotLister)
    (hnamespace : t.namespaceName ≠ "") {n : Int} (hn : set.spec.replicas = some n)
    (hpos : 0 < n) :
    (∃ pilots, pilotsForStatefulSet state t set = .ok pilots) ↔
      ∀ i, 0 ≤ i → i < n → ∃ p, IsPilotOf state t set i p := by
  constructor
  · rintro ⟨pilots, hpilots⟩ i hlow hhigh
    obtain ⟨replicas, selector, listed, hreplicas, hselector, hlisted, hmap⟩ :=
      pilotsForStatefulSet_eq_ok_iff.mp hpilots
    cases hn.symm.trans hreplicas
    have hrange : i.toNat ∈ List.range n.toNat := by
      rw [List.mem_range]
      omega
    have hmem := List.mem_map_of_mem
      (f := fun (j : Nat) => pilotOfReplica listed (nameOf set) (j : Int)) hrange
    rw [hmap, Int.toNat_of_nonneg hlow] at hmem
    obtain ⟨p, _, hfind⟩ := List.mem_map.mp hmem
    exact ⟨p, (pilotOfReplica_eq_some_iff hselector hlisted hcache hnamespace).mp hfind.symm⟩
  · intro hall
    obtain ⟨first, hfirst⟩ := hall 0 le_rfl hpos
    have hselector := selectorForNodePool_eq_ok_iff.mpr
      ⟨hcache.labels _ hfirst.cached _ _ hfirst.cluster,
        hcache.labels _ hfirst.cached _ _ hfirst.pool, rfl⟩
    have hlisted := Lister.list_of_works hcache.works t.namespaceName
      [⟨elasticsearchClusterNameLabel, t.cluster.metadata.name⟩,
        ⟨elasticsearchNodePoolNameLabel, t.nodePool.name⟩]
    refine ⟨_, pilotsForStatefulSet_eq_ok_iff.mpr ⟨n, _, _, hn, hselector, hlisted,
      (filterMap_eq_iff_of_isSome ?_).mp rfl⟩⟩
    intro i hi
    obtain ⟨p, hp⟩ := hall i (Int.natCast_nonneg i) (by rw [List.mem_range] at hi; omega)
    exact Option.isSome_iff_exists.mpr
      ⟨p, (pilotOfReplica_eq_some_iff hselector hlisted hcache hnamespace).mpr hp⟩

theorem mem_pilotsForStatefulSet_iff (hcache : PilotCache state.pilotLister)
    (hnamespace : t.namespaceName ≠ "") {n : Int} (hn : set.spec.replicas = some n)
    {pilots : List Pilot} (hpilots : pilotsForStatefulSet state t set = .ok pilots) {p : Pilot} :
    p ∈ pilots ↔ ∃ i, 0 ≤ i ∧ i < n ∧ IsPilotOf state t set i p := by
  obtain ⟨replicas, selector, listed, hreplicas, hselector, hlisted, hmap⟩ :=
    pilotsForStatefulSet_eq_ok_iff.mp hpilots
  cases hn.symm.trans hreplicas
  have hsome : p ∈ pilots ↔ some p ∈ pilots.map some := by simp
  rw [hsome, ← hmap, List.mem_map]
  simp only [pilotOfReplica_eq_some_iff hselector hlisted hcache hnamespace, List.mem_range]
  constructor
  · rintro ⟨i, hi, hp⟩
    exact ⟨i, Int.natCast_nonneg i, by omega, hp⟩
  · rintro ⟨i, hlow, hhigh, hp⟩
    refine ⟨i.toNat, by omega, ?_⟩
    rwa [Int.toNat_of_nonneg hlow]

/-- A scale down from `n` to `r` replicas removes the Pilots of the ordinals from
`r` on. -/
theorem mem_determinePilotsToBeRemoved_iff (hcache : PilotCache state.pilotLister)
    (hnamespace : t.namespaceName ≠ "") (hset : namespaceOf set = t.namespaceName) {n r : Int}
    (hn : set.spec.replicas = some n) (hr : 0 ≤ r) (hdown : r < n) (hrange : n < 2 ^ 31)
    {pilots toRemove : List Pilot} (hpilots : pilotsForStatefulSet state t set = .ok pilots)
    (hremove : determinePilotsToBeRemoved pilots set (r - n) = .ok toRemove) {p : Pilot} :
    p ∈ toRemove ↔ ∃ i, r ≤ i ∧ i < n ∧ IsPilotOf state t set i p := by
  have hmem := fun q => mem_pilotsForStatefulSet_iff hcache hnamespace hn hpilots (p := q)
  have hfind : ∀ i, 0 ≤ i → i < n → ((pilots.find? fun q =>
      pilotNameForStatefulSetReplica (nameOf set) i = nameOf q ∧
        namespaceOf set = namespaceOf q) = some p ↔ IsPilotOf state t set i p) := by
    intro i hlow hhigh
    have hkey : ∀ q ∈ pilots, pilotNameForStatefulSetReplica (nameOf set) i = nameOf q →
        IsPilotOf state t set i q := by
      intro q hq hname
      obtain ⟨j, _, _, hj⟩ := (hmem q).mp hq
      have hij := pilotNameForStatefulSetReplica_injective
        (hname.trans (congrArg Prod.snd hj.key))
      exact hij ▸ hj
    constructor
    · intro hfound
      have hname := List.find?_some hfound
      simp only [decide_eq_true_eq] at hname
      exact hkey p (List.mem_of_find?_eq_some hfound) hname.1
    · intro hp
      apply find?_eq_some_of_unique ((hmem p).mpr ⟨i, hlow, hhigh, hp⟩)
      · simp only [decide_eq_true_eq]
        exact ⟨(congrArg Prod.snd hp.key).symm, hset.trans (congrArg Prod.fst hp.key).symm⟩
      · intro q hq hqname
        simp only [decide_eq_true_eq] at hqname
        exact (hkey q hq hqname.1).unique hcache hp
  have hnegative : ¬ r - n ≥ 0 := by omega
  have hsum : n + (r - n) = r := by omega
  simp only [determinePilotsToBeRemoved, if_neg hnegative, hn, hsum,
    int32_of_range (show -2 ^ 31 ≤ r by omega) (show r < 2 ^ 31 by omega),
    Except.ok.injEq] at hremove
  rw [← hremove, List.mem_filterMap]
  constructor
  · rintro ⟨i, hi, hfound⟩
    obtain ⟨k, hk, rfl⟩ := List.mem_map.mp hi
    rw [List.mem_range] at hk
    exact ⟨_, by omega, by omega, (hfind _ (by omega) (by omega)).mp hfound⟩
  · rintro ⟨i, hlow, hhigh, hp⟩
    refine ⟨i, List.mem_map.mpr ⟨(n - 1 - i).toNat, ?_, ?_⟩,
      (hfind i (by omega) hhigh).mpr hp⟩
    · rw [List.mem_range]
      omega
    · omega

end Lookup

namespace Scale

variable {state : State} {t : Target} {set : StatefulSet}

/-- The Pilot has reported that it holds no documents. -/
def HoldsNone (p : Pilot) : Prop :=
  ∃ documents ∈ p.status.elasticsearch.bind ElasticsearchPilotStatus.documents, documents ≤ 0

theorem pilotsEmpty_eq_ret {pilots : List Pilot} (h : Drained pilots) :
    pilotsEmpty pilots = .ret true := by
  induction pilots with
  | nil => rfl
  | cons p rest ih =>
      obtain ⟨documents, hdocuments, hnone⟩ := h p List.mem_cons_self
      simp only [pilotsEmpty, Option.mem_def.mp hdocuments, gt_iff_lt, not_lt.mpr hnone, if_false]
      exact ih fun q hq => h q (List.mem_cons_of_mem p hq)

/-- An allowed change is let through without a request. -/
theorem canScaleNodePool_eq_ret {replicaDiff : Int} (h : Allowed state t set replicaDiff) :
    canScaleNodePool state t set replicaDiff = .ret true := by
  unfold canScaleNodePool
  by_cases hup : replicaDiff ≥ 0
  · rw [if_pos hup]
  · rw [if_neg hup]
    rcases h with hup' | hdata | ⟨allPilots, toRemove, hpilots, hremove, hdrained⟩
    · exact absurd hup' hup
    · rw [hdata]
      rfl
    · simp only [hpilots, hremove, pilotsEmpty_eq_ret hdrained, ite_self]

/-- With the keys unique and the counts in range, a change to `r` replicas is
allowed for the reasons that the comment of `canScaleNodePool` gives. -/
theorem allowed_iff (hcache : PilotCache state.pilotLister) (hnamespace : t.namespaceName ≠ "")
    (hset : namespaceOf set = t.namespaceName) {n r : Int} (hn : set.spec.replicas = some n)
    (hr : 0 ≤ r) (hrange : n < 2 ^ 31) :
    Allowed state t set (r - n) ↔ n ≤ r ∨ .data ∉ t.nodePool.roles ∨
      ∀ i, 0 ≤ i → i < n → (∃ p, IsPilotOf state t set i p) ∧
        ∀ p, r ≤ i → IsPilotOf state t set i p → HoldsNone p := by
  by_cases hup : n ≤ r
  · exact iff_of_true (Or.inl (by omega)) (Or.inl hup)
  · have hdata : containsElasticsearchRole t.nodePool.roles .data = false ↔
        .data ∉ t.nodePool.roles := by
      rw [← Bool.not_eq_true, containsElasticsearchRole_iff]
    have hnegative : ¬ r - n ≥ 0 := by omega
    have hpos : 0 < n := by omega
    rw [Allowed, hdata, or_iff_right hnegative, or_iff_right hup]
    apply or_congr_right
    constructor
    · rintro ⟨pilots, toRemove, hpilots, hremove, hdrained⟩ i hlow hhigh
      refine ⟨(exists_pilotsForStatefulSet_iff hcache hnamespace hn hpos).mp ⟨pilots, hpilots⟩
        i hlow hhigh, ?_⟩
      intro p hi hp
      exact hdrained p ((mem_determinePilotsToBeRemoved_iff hcache hnamespace hset hn hr
        (not_le.mp hup) hrange hpilots hremove).mpr ⟨i, hi, hhigh, hp⟩)
    · intro hall
      obtain ⟨pilots, hpilots⟩ := (exists_pilotsForStatefulSet_iff hcache hnamespace hn hpos).mpr
        fun i hlow hhigh => (hall i hlow hhigh).1
      obtain ⟨toRemove, hremove⟩ : ∃ toRemove,
          determinePilotsToBeRemoved pilots set (r - n) = .ok toRemove := by
        simp only [determinePilotsToBeRemoved, if_neg hnegative, hn]
        exact ⟨_, rfl⟩
      refine ⟨pilots, toRemove, hpilots, hremove, ?_⟩
      intro p hp
      obtain ⟨i, hi, hhigh, hp⟩ := (mem_determinePilotsToBeRemoved_iff hcache hnamespace hset hn
        hr (not_le.mp hup) hrange hpilots hremove).mp hp
      exact (hall i (hr.trans hi) hhigh).2 p hi hp

variable {σ : Type} {serve : σ → Request → Option Err × σ}

/-- An allowed change is written, whatever the server answers. -/
theorem update_mem_calls {n r : Int}
    (hcached : state.statefulSetLister.get "statefulset.apps" t.namespaceName
      t.statefulSetName = .ok set)
    (hn : set.spec.replicas = some n) (hdiffers : int32 (r - n) ≠ 0)
    (hallowed : Allowed state t set (int32 (r - n))) (server : σ) :
    (server, .updateStatefulSet (set.withReplicas r)) ∈
      (execute state t r).calls serve server := by
  simp only [execute, hcached, hn, if_neg hdiffers, canScaleNodePool_eq_ret hallowed]
  exact Prog.mem_calls_bind_right rfl (Prog.mem_calls_bind_left List.mem_cons_self)

/-- `Scale` writes the cached StatefulSet with `r` replicas exactly when that is a
change that loses no data, and nothing else but events. -/
theorem execute_writes_iff (state : State) (t : Target) (set : StatefulSet) (n r : Int)
    (hcached : state.statefulSetLister.get "statefulset.apps" t.namespaceName
      t.statefulSetName = .ok set)
    (hn : set.spec.replicas = some n) (hrange : 0 ≤ n ∧ n < 2 ^ 31) (hr : 0 ≤ r ∧ r < 2 ^ 31)
    (hcache : PilotCache state.pilotLister) (hnamespace : t.namespaceName ≠ "")
    {σ : Type} (serve : σ → Request → Option Err × σ) (server : σ) :
    ((∃ met written, (met, .updateStatefulSet written) ∈ (execute state t r).calls serve server) ↔
      r ≠ n ∧ (n < r ∨ .data ∉ t.nodePool.roles ∨
        ∀ i, 0 ≤ i → i < n → (∃ p, IsPilotOf state t set i p) ∧
          ∀ p, r ≤ i → IsPilotOf state t set i p → HoldsNone p)) ∧
    ∀ met request, (met, request) ∈ (execute state t r).calls serve server →
      IsEvent request ∨ request = .updateStatefulSet
        { set with spec := { set.spec with replicas := some r } } := by
  have hset : namespaceOf set = t.namespaceName :=
    congrArg Prod.fst (Lister.get_ok hcached).2
  have hdiff : int32 (r - n) = r - n := int32_of_range (by omega) (by omega)
  have hallowed := allowed_iff hcache hnamespace hset hn hr.1 hrange.2
  -- what a request can be, from the inversion of the action
  have hgood : ∀ met request, (met, request) ∈ (execute state t r).calls serve server →
      UpdatesOnly (Writes state t r) request := fun met request hcall =>
    Prog.good_of_mem_calls (execute_all state t r) hcall
  have hwritten : ∀ written, Writes state t r written → written = set.withReplicas r ∧
      r ≠ n ∧ Allowed state t set (r - n) := by
    rintro _ ⟨hget, hcurrent, hdiffers, hok⟩
    cases hcached.symm.trans hget
    cases hn.symm.trans hcurrent
    rw [hdiff] at hdiffers hok
    exact ⟨rfl, by omega, hok⟩
  refine ⟨⟨?_, ?_⟩, ?_⟩
  · rintro ⟨met, written, hcall⟩
    rcases hgood met _ hcall with _ | ⟨hwrites⟩
    obtain ⟨_, hne, hok⟩ := hwritten written hwrites
    refine ⟨hne, (hallowed.mp hok).imp_left ?_⟩
    intro hle
    omega
  · rintro ⟨hne, hreason⟩
    refine ⟨server, set.withReplicas r, update_mem_calls hcached hn ?_ ?_ server⟩
    · omega
    · rw [hdiff]
      exact hallowed.mpr (hreason.imp_left le_of_lt)
  · intro met request hcall
    rcases hgood met request hcall with event | ⟨hwrites⟩
    · exact Or.inl ⟨event, rfl⟩
    · exact Or.inr (congrArg Request.updateStatefulSet (hwritten _ hwrites).1)

end Scale

namespace UpdateVersion

/-- The Pilot has reported the version of the spec. -/
def ReportsVersion (t : Target) (p : Pilot) : Prop :=
  ∃ version ∈ p.status.elasticsearch.bind ElasticsearchPilotStatus.version,
    version.equal t.cluster.spec.version = true

theorem pilotVersionUpToDate_iff {t : Target} {p : Pilot} :
    pilotVersionUpToDate t.cluster.spec p.status = true ↔ ReportsVersion t p := by
  unfold pilotVersionUpToDate ReportsVersion
  cases p.status.elasticsearch.bind ElasticsearchPilotStatus.version with
  | none => simp
  | some version => simp

/-- Without a Pilot of a negative ordinal, the check of the last Pilot fails for
every partition below zero. -/
theorem nonneg_of_lastPilotError {state : State} {t : Target} {set : StatefulSet}
    (hordinals : ∀ p ∈ state.pilotLister.items, ∀ i < 0,
      nameOf p ≠ pilotNameForStatefulSetReplica (nameOf set) i)
    {n partition : Int} (hn : 0 ≤ n) (hlow : -2 ^ 31 ≤ partition) (hne : partition ≠ -1)
    (hlast : lastPilotError state t set n partition = .ok none) : 0 ≤ partition := by
  by_contra hnegative
  have hbelow : partition + 1 < n := by omega
  simp only [lastPilotError, int32_of_range (show -2 ^ 31 ≤ partition + 1 by omega)
    (show partition + 1 < 2 ^ 31 by omega), if_pos hbelow] at hlast
  obtain ⟨p, hget, _⟩ := bind_eq_ok hlast
  obtain ⟨hitem, hkey⟩ := Lister.get_ok hget
  exact hordinals p hitem (partition + 1) (by omega) (congrArg Prod.snd hkey)

theorem nextPartition_bounds {n updated : Int} (hn : 0 ≤ n ∧ n < 2 ^ 31)
    (hupdated : 0 ≤ updated ∧ updated < 2 ^ 31) :
    -2 ^ 31 ≤ nextPartition n updated ∧ nextPartition n updated ≠ -1 ∧
      nextPartition n updated ≤ max (n - 1) 0 := by
  unfold nextPartition
  rw [int32_of_range (by omega) (by omega)]
  by_cases hall : n - updated - 1 = -1
  · simp [hall]
  · rw [if_neg hall]
    omega

/-- Whatever the counters of the status say, an update that the action writes
either declares the upgrade complete, once all Pilots report the version, or
lowers the partition to an ordinal of the set, once the Pilot above it reports
the version. -/
theorem execute_writes_safe (state : State) (t : Target) (set : StatefulSet) (n : Int)
    (hcached : state.statefulSetLister.get "statefulset.apps" t.namespaceName
      t.statefulSetName = .ok set)
    (hn : set.spec.replicas = some n) (hrange : 0 ≤ n ∧ n < 2 ^ 31)
    (hupdated : 0 ≤ set.status.updatedReplicas ∧ set.status.updatedReplicas < 2 ^ 31)
    (hordinals : ∀ p ∈ state.pilotLister.items, ∀ i < 0,
      nameOf p ≠ pilotNameForStatefulSetReplica (nameOf set) i)
    (hnamespace : t.namespaceName ≠ "")
    {σ : Type} (serve : σ → Request → Option Err × σ) (server met : σ) (written : StatefulSet)
    (hcall : (met, .updateStatefulSet written) ∈ (execute state t).calls serve server) :
    (∃ health, t.cluster.status.health = some health ∧ health ≠ .red) ∧
    set.status.readyReplicas = n ∧
    (∃ text version, StringMap.get? set.metadata.annotations
      elasticsearchNodePoolVersionAnnotation = some text ∧
        Version.parse text = .ok version ∧ t.cluster.spec.version.equal version = false) ∧
    (((∀ i, 0 ≤ i → i < n → ∃ p, IsPilotOf state t set i p ∧ ReportsVersion t p) ∧
        written = { set with metadata := { set.metadata with
          annotations := StringMap.set set.metadata.annotations
            elasticsearchNodePoolVersionAnnotation t.cluster.spec.version.string } }) ∨
      ∃ partition image, esImageToUse t.cluster.spec = .ok image ∧
        0 ≤ partition ∧ partition ≤ max (n - 1) 0 ∧
        (partition + 1 < n → ∃ p ∈ state.pilotLister.items, Resource.key p =
          (t.namespaceName, pilotNameForStatefulSetReplica (nameOf set) (partition + 1)) ∧
            ReportsVersion t p) ∧
        written = { set with spec := { set.spec with
          updateStrategy := { set.spec.updateStrategy with
            rollingUpdate := some (some partition) }
          template := { set.spec.template with spec := { set.spec.template.spec with
            containers := set.spec.template.spec.containers.modifyHead
              fun container => { container with image := image.reference } } } } }) := by
  have hgood := Prog.good_of_mem_calls (execute_all state t) hcall
  rcases hgood with _ | ⟨hwrites⟩
  cases hwrites with
  | complete hproceeds hup =>
      cases hcached.symm.trans hproceeds.cached
      cases hn.symm.trans hproceeds.desired
      refine ⟨hproceeds.healthy, hproceeds.ready.symm, hproceeds.outdated, Or.inl ⟨?_, rfl⟩⟩
      intro i hlow hhigh
      obtain ⟨selector, listed, hselector, hlisted, hreported⟩ :=
        (pilotsUpToDate_eq_none_iff hn).mp hup
      obtain ⟨p, hfind, hversion⟩ := hreported i.toNat (by omega)
      rw [Int.toNat_of_nonneg hlow] at hfind
      exact ⟨p, (mem_listed_iff hselector hlisted hnamespace).mp
          ⟨List.mem_of_find?_eq_some hfind, by simpa using List.find?_some hfind⟩,
        pilotVersionUpToDate_iff.mp hversion⟩
  | advance hproceeds _ _ hlast =>
      cases hcached.symm.trans hproceeds.cached
      cases hn.symm.trans hproceeds.desired
      obtain ⟨hlow, hne, hhigh⟩ := nextPartition_bounds hrange hupdated
      have hnonneg := nonneg_of_lastPilotError hordinals hrange.1 hlow hne hlast
      refine ⟨hproceeds.healthy, hproceeds.ready.symm, hproceeds.outdated,
        Or.inr ⟨_, _, hproceeds.toUse, hnonneg, hhigh, ?_, rfl⟩⟩
      intro hbelow
      obtain ⟨p, hget, hversion⟩ :=
        (lastPilotError_eq_none_iff hnonneg (by omega)).mp hlast hbelow
      obtain ⟨hitem, hkey⟩ := Lister.get_ok hget
      exact ⟨p, hitem, hkey, pilotVersionUpToDate_iff.mp hversion⟩

end UpdateVersion

namespace WriteConditionsWitness

/-- A healthy cluster with one pool, of the version given. -/
def cluster (version : Version) : Cluster :=
  { sampleCluster "db" "uid-db" version [samplePool "data" 1 [.data]] with
    status := { health := some .green } }

/-- The pool is to have one replica at 6.2.0. -/
def target : Target := ⟨cluster (release 6 2 0), samplePool "data" 1 [.data]⟩

/-- The StatefulSet was created with two replicas at 6.1.1, and both are ready. -/
def stored : StatefulSet :=
  ((nodePoolStatefulSet (cluster (release 6 1 1)) (samplePool "data" 2 [.data])).toOption.map
    fun set => { set with status := { readyReplicas := 2, updatedReplicas := 1 } }).getD {}

/-- The Pilot of a replica, which has no documents left. -/
def pilot (name : String) (version : Version) : Pilot where
  metadata :=
    { name := name
      namespaceName := "default"
      labels := StringMap.ofList
        [(elasticsearchClusterNameLabel, "db"), (elasticsearchNodePoolNameLabel, "data")] }
  status := { elasticsearch := some { documents := some 0, version := some version } }

/-- The second replica has been updated. -/
def state : State where
  statefulSetLister := { items := [stored] }
  configMapLister := { items := [] }
  pilotLister :=
    { items := [pilot "es-db-data-0" (release 6 1 1), pilot "es-db-data-1" (release 6 2 0)] }
  podLister := { items := [] }

/-- A server that accepts everything. -/
def accept (_ : Unit) (_ : Request) : Option Err × Unit := (none, ())

/-- The pool is scaled down, so its second Pilot is drained. -/
theorem execute_writes_iff_drained :
    ((), Request.updateStatefulSet (stored.withReplicas 1)) ∈
        (Scale.execute state target 1).calls accept () ∧
      ∀ i, 0 ≤ i → i < 2 → (∃ p, IsPilotOf state target stored i p) ∧
        ∀ p, 1 ≤ i → IsPilotOf state target stored i p → Scale.HoldsNone p := by
  have hfacts : state.statefulSetLister.get "statefulset.apps" target.namespaceName
        target.statefulSetName = .ok stored ∧
      PilotCache state.pilotLister ∧
      ((), Request.updateStatefulSet (stored.withReplicas 1)) ∈
        (Scale.execute state target 1).calls accept () := by decide +kernel
  have hreason := ((Scale.execute_writes_iff state target stored 2 1 hfacts.1 (by decide +kernel)
    (by decide) (by decide) hfacts.2.1 (by decide) accept ()).1.mp ⟨(), _, hfacts.2.2⟩).2
  exact ⟨hfacts.2.2, (hreason.resolve_left (by decide)).resolve_left (by decide)⟩

/-- Both Pilots have the names of their replicas, so none has a negative ordinal. -/
theorem ordinals_nonneg : ∀ p ∈ state.pilotLister.items, ∀ i < 0,
    nameOf p ≠ pilotNameForStatefulSetReplica (nameOf stored) i := by
  have hnames : ∀ p ∈ state.pilotLister.items,
      nameOf p = pilotNameForStatefulSetReplica (nameOf stored) 0 ∨
        nameOf p = pilotNameForStatefulSetReplica (nameOf stored) 1 := by decide +kernel
  intro p hp i hnegative hname
  rcases hnames p hp with hzero | hone
  · have := pilotNameForStatefulSetReplica_injective (hzero.symm.trans hname)
    omega
  · have := pilotNameForStatefulSetReplica_injective (hone.symm.trans hname)
    omega

/-- The first replica may update, since the Pilot of the second reports 6.2.0. -/
theorem execute_writes_safe_advance :
    ∃ partition, 0 ≤ partition ∧ partition ≤ max (2 - 1) 0 ∧
      (partition + 1 < 2 → ∃ p ∈ state.pilotLister.items, Resource.key p =
        (target.namespaceName, pilotNameForStatefulSetReplica (nameOf stored) (partition + 1)) ∧
          UpdateVersion.ReportsVersion target p) := by
  have hfacts : state.statefulSetLister.get "statefulset.apps" target.namespaceName
        target.statefulSetName = .ok stored ∧
      ((), Request.updateStatefulSet (UpdateVersion.advanced stored 0
          (defaultElasticsearchImageRepository ++ ":6.2.0"))) ∈
        (UpdateVersion.execute state target).calls accept () ∧
      UpdateVersion.advanced stored 0 (defaultElasticsearchImageRepository ++ ":6.2.0") ≠
        UpdateVersion.completed target stored := by decide +kernel
  obtain ⟨_, _, _, ⟨_, hcomplete⟩ | ⟨partition, _, _, hlow, hhigh, hlast, _⟩⟩ :=
    UpdateVersion.execute_writes_safe state target stored 2 hfacts.1 (by decide +kernel)
      (by decide) (by decide +kernel) ordinals_nonneg (by decide) accept () () _ hfacts.2.1
  · exact absurd hcomplete hfacts.2.2
  · exact ⟨partition, hlow, hhigh, hlast⟩

end WriteConditionsWitness

end Elasticsearch

end Navigator
