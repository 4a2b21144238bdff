/-
Garbage collection of node pools.  `reconcileNodePools` keeps one StatefulSet
for each pool of the spec, the first it lists, and deletes every other one that
the cluster controls, whether or not its pool is in the spec.
-/
import Navigator.Accepted
import Navigator.Base.FirstMatch
import Navigator.Elasticsearch.ClusterControl
import Navigator.Elasticsearch.Labels

namespace Navigator

open ControlLoop

namespace Elasticsearch

def deleteRequest (set : StatefulSet) : Request :=
  .deleteStatefulSet (namespaceOf set) (nameOf set)

/-- The requests of a run, in order. -/
def requestsOf {α : Type} (program : Program α) (api : ApiServer) : List Request :=
  (program.calls ApiServer.serve api).map Prod.snd

/-- The cluster controls the StatefulSet and has no pool of the name it carries. -/
def IsOrphan (c : Cluster) (set : StatefulSet) : Prop :=
  isControlledBy set c = true ∧ ∀ np ∈ c.spec.nodePools,
    StringMap.get set.metadata.labels elasticsearchNodePoolNameLabel ≠ np.name

instance (c : Cluster) (set : StatefulSet) : Decidable (IsOrphan c set) :=
  inferInstanceAs (Decidable (_ ∧ _))

/-- Of the StatefulSets that carry the name of one pool, the cluster controls
none but possibly the first listed. -/
def OnlyFirstControlled (c : Cluster) (sets : List StatefulSet) : Prop :=
  sets.Pairwise fun first later =>
    (∃ np ∈ c.spec.nodePools, claims np first = true ∧ claims np later = true) →
      isControlledBy later c = false

instance (c : Cluster) (sets : List StatefulSet) : Decidable (OnlyFirstControlled c sets) :=
  inferInstanceAs (Decidable (List.Pairwise _ _))

theorem claims_name {np np' : NodePool} {set : StatefulSet} (h : claims np set = true)
    (h' : claims np' set = true) : np.name = np'.name := by
  simp only [claims, Bool.and_eq_true, decide_eq_true_eq] at h h'
  exact h.2.symm.trans h'.2

theorem claims_congr {np np' : NodePool} (h : np.name = np'.name) (set : StatefulSet) :
    claims np set = claims np' set := by
  simp [claims, h]

theorem mem_of_mem_unclaimed {pools : List NodePool} {sets : List StatefulSet}
    {set : StatefulSet} (h : set ∈ unclaimed pools sets) : set ∈ sets := by
  induction pools generalizing sets with
  | nil => exact h
  | cons np rest ih => exact List.mem_of_mem_eraseP (ih h)

/-- With distinct pool names, what is left of the list is everything but the
first StatefulSet of each pool. -/
theorem mem_unclaimed_iff {pools : List NodePool} {sets : List StatefulSet}
    (hnames : (pools.map ElasticsearchClusterNodePool.name).Nodup) (hsets : sets.Nodup)
    {set : StatefulSet} :
    set ∈ unclaimed pools sets ↔
      set ∈ sets ∧ ∀ np ∈ pools, sets.find? (claims np) ≠ some set := by
  apply mem_foldl_eraseP_iff hsets
  apply (List.pairwise_map.mp hnames).imp
  intro np np' hne other hclaims
  rw [Bool.eq_false_iff]
  exact fun hclaims' => hne (claims_name hclaims hclaims')

/-- A run of the deletes that does not fail issues one delete for each
StatefulSet that the cluster controls, in order. -/
theorem requestsOf_deleteIfControlled {c : Cluster} {sets : List StatefulSet}
    {api : ApiServer}
    (hrun : ((Prog.forEach sets (deleteIfControlled c)).run ApiServer.serve api).1 = .ok ()) :
    requestsOf (Prog.forEach sets (deleteIfControlled c)) api =
      (sets.filter fun set => isControlledBy set c).map deleteRequest := by
  induction sets generalizing api with
  | nil => rfl
  | cons set rest ih =>
      simp only [requestsOf] at ih ⊢
      by_cases hcontrolled : isControlledBy set c = true
      · have hbody : deleteIfControlled c set = issue (deleteRequest set) := by
          simp [deleteIfControlled, hcontrolled, deleteRequest]
        rw [List.filter_cons_of_pos (p := fun set => isControlledBy set c) hcontrolled,
          List.map_cons]
        simp only [Prog.forEach, hbody] at hrun ⊢
        rw [Prog.run_bind] at hrun
        rw [Prog.calls_bind]
        simp only [issue, Prog.run, Prog.calls] at hrun ⊢
        cases hserve : (ApiServer.serve api (deleteRequest set)).1 with
        | some e =>
            rw [hserve] at hrun
            simp only [Prog.run] at hrun
            cases hrun
        | none =>
            rw [hserve] at hrun
            simp only [Prog.run, Prog.calls] at hrun ⊢
            rw [List.map_append, ih hrun]
            rfl
      · have hbody : deleteIfControlled c set = .ret () := by
          simp [deleteIfControlled, hcontrolled]
        rw [List.filter_cons_of_neg (p := fun set => isControlledBy set c) hcontrolled]
        simp only [Prog.forEach, hbody] at hrun ⊢
        exact ih hrun

theorem reconcileNodePools_eq {state : State} {c : Cluster} {selector : Selector}
    {sets : List StatefulSet} (hselector : selectorForCluster c.metadata.name = .ok selector)
    (hlist : state.statefulSetLister.list c.metadata.namespaceName selector = .ok sets) :
    reconcileNodePools state c =
      Prog.forEach (unclaimed c.spec.nodePools sets) (deleteIfControlled c) := by
  simp only [reconcileNodePools, hselector, hlist]

/-- The StatefulSets matching the cluster's selector have labels. -/
theorem claims_iff_of_listed {state : State} {c : Cluster} {selector : Selector}
    {sets : List StatefulSet} (hselector : selectorForCluster c.metadata.name = .ok selector)
    (hlist : state.statefulSetLister.list c.metadata.namespaceName selector = .ok sets)
    {set : StatefulSet} (hset : set ∈ sets) (np : NodePool) :
    claims np set = true ↔
      StringMap.get set.metadata.labels elasticsearchNodePoolNameLabel = np.name := by
  obtain ⟨_, rfl⟩ := selectorForCluster_eq_ok_iff.mp hselector
  obtain ⟨_, _, hmatches⟩ := (Lister.mem_list hlist).mp hset
  have hlabels : set.metadata.labels.isSome = true := by
    cases hnone : set.metadata.labels with
    | none =>
        change Selector.matchesLabels _ set.metadata.labels = true at hmatches
        simp [hnone, Selector.matchesLabels, Requirement.matchesLabels, StringMap.get?] at hmatches
    | some labels => rfl
  simp [claims, hlabels]

/-- When no delete fails, `reconcileNodePools` deletes exactly the orphans if
and only if no pool has a second StatefulSet that the cluster controls. -/
theorem reconcileNodePools_deletes_orphans_iff {state : State} {c : Cluster}
    {selector : Selector} {sets : List StatefulSet} {api : ApiServer}
    (hnames : (c.spec.nodePools.map ElasticsearchClusterNodePool.name).Nodup)
    (hselector : selectorForCluster c.metadata.name = .ok selector)
    (hlist : state.statefulSetLister.list c.metadata.namespaceName selector = .ok sets)
    (hkeys : (sets.map Resource.key).Nodup)
    (hrun : ((reconcileNodePools state c).run ApiServer.serve api).1 = .ok ()) :
    (∀ request, request ∈ requestsOf (reconcileNodePools state c) api ↔
      ∃ set ∈ sets, IsOrphan c set ∧ request = deleteRequest set) ↔
        OnlyFirstControlled c sets := by
  have hsets : sets.Nodup := List.Nodup.of_map _ hkeys
  rw [reconcileNodePools_eq hselector hlist] at hrun ⊢
  rw [requestsOf_deleteIfControlled hrun]
  -- what is deleted, by the first matches of the pools
  have hdeleted : ∀ request,
      request ∈ ((unclaimed c.spec.nodePools sets).filter
        fun set => isControlledBy set c).map deleteRequest ↔
      ∃ set ∈ sets, ((∀ np ∈ c.spec.nodePools, sets.find? (claims np) ≠ some set) ∧
        isControlledBy set c = true) ∧ request = deleteRequest set := by
    intro request
    simp only [List.mem_map, List.mem_filter, mem_unclaimed_iff hnames hsets]
    constructor
    · rintro ⟨set, ⟨⟨hset, hfirst⟩, hcontrolled⟩, rfl⟩
      exact ⟨set, hset, ⟨hfirst, hcontrolled⟩, rfl⟩
    · rintro ⟨set, hset, ⟨hfirst, hcontrolled⟩, rfl⟩
      exact ⟨set, ⟨⟨hset, hfirst⟩, hcontrolled⟩, rfl⟩
  simp only [hdeleted]
  constructor
  · intro hexact
    apply List.pairwise_iff_getElem.mpr
    rintro i j hi hj hij ⟨np, hnp, hfirst, hlater⟩
    by_contra hcontrolled
    rw [Bool.not_eq_false] at hcontrolled
    -- the later one is no first match, so it is deleted although its pool exists
    have hnotFirst : ∀ np' ∈ c.spec.nodePools, sets.find? (claims np') ≠ some sets[j] := by
      intro np' hnp' hfind
      obtain ⟨hclaims', k, hk, hget, hbefore⟩ := List.find?_eq_some_iff_getElem.mp hfind
      have hjk : k = j := hsets.getElem_inj_iff.mp hget
      have hnot := hbefore i (hjk ▸ hij)
      rw [claims_congr (claims_name hclaims' hlater), hfirst] at hnot
      exact absurd hnot (by simp)
    obtain ⟨set, hset, horphan, hrequest⟩ := (hexact (deleteRequest sets[j])).mp
      ⟨sets[j], List.getElem_mem hj, ⟨hnotFirst, hcontrolled⟩, rfl⟩
    have hkey : Resource.key sets[j] = Resource.key set := by
      simp only [deleteRequest, Request.deleteStatefulSet.injEq] at hrequest
      exact Prod.ext hrequest.1 hrequest.2
    have hsame : sets[j] = set := List.inj_on_of_nodup_map hkeys (List.getElem_mem hj) hset hkey
    subst hsame
    exact horphan.2 np hnp
      ((claims_iff_of_listed hselector hlist (List.getElem_mem hj) np).mp hlater)
  · intro hfirstOnly request
    apply exists_congr
    intro set
    apply and_congr_right
    intro hset
    apply and_congr_left
    intro _
    constructor
    · rintro ⟨hnotFirst, hcontrolled⟩
      refine ⟨hcontrolled, ?_⟩
      intro np hnp hlabel
      have hclaims := (claims_iff_of_listed hselector hlist hset np).mpr hlabel
      cases hfind : sets.find? (claims np) with
      | none => exact absurd hclaims (by simpa using List.find?_eq_none.mp hfind set hset)
      | some first =>
          obtain ⟨hfirst, before, after, hsplit, hbefore⟩ :=
            List.find?_eq_some_iff_append.mp hfind
          have hne : set ≠ first := fun heq => hnotFirst np hnp (heq ▸ hfind)
          have hafter : set ∈ after := by
            rw [hsplit, List.mem_append, List.mem_cons] at hset
            rcases hset with hset | hset | hset
            · exact absurd hclaims (by simpa using hbefore set hset)
            · exact absurd hset hne
            · exact hset
          have hpairs : (first :: after).Pairwise _ :=
            (List.pairwise_append.mp (hsplit ▸ hfirstOnly)).2.1
          have hforeign := (List.pairwise_cons.mp hpairs).1 set hafter
            ⟨np, hnp, hfirst, hclaims⟩
          rw [hcontrolled] at hforeign
          cases hforeign
    · rintro ⟨hcontrolled, hnone⟩
      refine ⟨?_, hcontrolled⟩
      intro np hnp hfind
      have hclaims : claims np set = true := List.find?_some hfind
      exact hnone np hnp ((claims_iff_of_listed hselector hlist hset np).mp hclaims)

/-- Where name and label agree on every StatefulSet listed, that of a pool of the
spec is the first match of the pool. -/
theorem not_mem_unclaimed {state : State} {c : Cluster} {selector : Selector}
    {sets : List StatefulSet} (haccepted : c.Accepted)
    (hkeys : (state.statefulSetLister.items.map Resource.key).Nodup)
    (hselector : selectorForCluster c.metadata.name = .ok selector)
    (hlist : state.statefulSetLister.list c.metadata.namespaceName selector = .ok sets)
    (hnamed : ∀ other ∈ sets, ∃ poolName, NamedAfterPool c poolName other)
    {np : NodePool} (hnp : np ∈ c.spec.nodePools) {set : StatefulSet}
    (hname : nameOf set = nodePoolResourceName c np) :
    set ∉ unclaimed c.spec.nodePools sets := by
  intro hrest
  have hkeys : (sets.map Resource.key).Nodup :=
    ((Lister.list_sublist hlist).map Resource.key).nodup hkeys
  obtain ⟨hset, hnotFirst⟩ :=
    (mem_unclaimed_iff haccepted.distinct (List.Nodup.of_map _ hkeys)).mp hrest
  have hclaims : ∀ other ∈ sets, claims np other = true ↔ nameOf other = nameOf set := by
    intro other hother
    obtain ⟨poolName, hpool⟩ := hnamed other hother
    rw [claims_iff_of_listed hselector hlist hother, StringMap.get, hpool.2, Option.getD_some]
    constructor
    · rintro rfl
      exact hpool.1.trans hname.symm
    · exact fun hnames => hpool.poolName_eq (hnames.trans hname)
  have hlistedIn : ∀ item ∈ sets, namespaceOf item = c.metadata.namespaceName := fun item hitem =>
    ((Lister.mem_list hlist).mp hitem).2.1.resolve_left haccepted.namespaced
  apply hnotFirst np hnp
  apply find?_eq_some_of_unique hset ((hclaims set hset).mpr rfl)
  intro other hother hother'
  apply List.inj_on_of_nodup_map hkeys hother hset
  exact Prod.ext ((hlistedIn other hother).trans (hlistedIn set hset).symm)
    ((hclaims other hother).mp hother')

namespace OrphanWitness

def cluster : Cluster :=
  sampleCluster "db" "uid-db" (release 6 1 1) [samplePool "all" 3 [.master, .data]]

/-- The StatefulSet of the pool, as the controller creates it. -/
def own : StatefulSet :=
  match nodePoolStatefulSet cluster (samplePool "all" 3 [.master, .data]) with
  | .ok set => set
  | .error _ => {}

/-- A StatefulSet of another owner that carries the labels of the pool. -/
def foreign : StatefulSet :=
  { own with metadata := { own.metadata with name := "copy-of-db-all", ownerReferences := [] } }

def state (sets : List StatefulSet) : State where
  statefulSetLister := { items := sets }
  configMapLister := { items := [] }
  pilotLister := { items := [] }
  podLister := { items := [] }

def api : ApiServer :=
  { statefulSets := (ObjectStore.empty.put own).put foreign }

/-- Listed the other way round, the same StatefulSets are reconciled correctly. -/
theorem reconcileNodePools_deletes_orphans_own_first :
    (∀ request, request ∈ requestsOf (reconcileNodePools (state [own, foreign]) cluster) api ↔
      ∃ set ∈ [own, foreign], IsOrphan cluster set ∧ request = deleteRequest set) ↔
        OnlyFirstControlled cluster [own, foreign] :=
  reconcileNodePools_deletes_orphans_iff (by decide)
    (selectorForCluster_eq_ok_iff.mpr ⟨by decide, rfl⟩) (by decide +kernel) (by decide +kernel)
    (by decide +kernel)

/-- The foreign StatefulSet is listed first, so the live one is deleted although
its pool is in the spec. -/
theorem reconcileNodePools_deletes_live_pool :
    ((reconcileNodePools (state [foreign, own]) cluster).run ApiServer.serve api).1 = .ok () ∧
      requestsOf (reconcileNodePools (state [foreign, own]) cluster) api =
        [deleteRequest own] ∧
      StringMap.get own.metadata.labels elasticsearchNodePoolNameLabel = "all" ∧
      ¬ IsOrphan cluster own ∧ ¬ OnlyFirstControlled cluster [foreign, own] := by
  decide +kernel

end OrphanWitness

end Elasticsearch

end Navigator
