/-
Nodes that join one after the other.  The pools are scaled out in the order of
the spec, so while a pool waits for a node every pool before it has all it asks
for.  An edit that raises a pool before the one that waits breaks this order.
-/
import Navigator.Accepted
import Navigator.Cassandra.ScaleOut

namespace Navigator

open ControlLoop

namespace Cassandra

/-- All replicas of the StatefulSet are ready. -/
def AllReady (set : StatefulSet) : Prop := set.spec.replicas = some set.status.readyReplicas

instance (set : StatefulSet) : Decidable (AllReady set) :=
  inferInstanceAs (Decidable (_ = _))

section Series

variable {c : Cluster} {sets : ObjectStore StatefulSet} {np : NodePool}

/-- No node of the pool is joining. -/
def Settled (c : Cluster) (sets : ObjectStore StatefulSet) (np : NodePool) : Prop :=
  ∀ set ∈ sets.get (setKey c np.name), AllReady set

instance (c : Cluster) (sets : ObjectStore StatefulSet) (np : NodePool) :
    Decidable (Settled c sets np) :=
  inferInstanceAs (Decidable (∀ set ∈ sets.get (setKey c np.name), AllReady set))

/-- The pool has as many ready replicas as it asks for. -/
def Served (c : Cluster) (sets : ObjectStore StatefulSet) (np : NodePool) : Prop :=
  ∃ set desired, sets.get (setKey c np.name) = some set ∧ np.replicas = some desired ∧
    desired ≤ set.status.readyReplicas

/-- The StatefulSet is that of the pool, waits for at most one node, and has no
more replicas than the pool asks for. -/
structure PoolSet (c : Cluster) (np : NodePool) (set : StatefulSet) : Prop where
  key : Resource.key set = setKey c np.name
  label : StringMap.get set.metadata.labels cassandraNodePoolNameLabel = np.name
  counts : ∃ replicas, set.spec.replicas = some replicas ∧ 0 ≤ set.status.readyReplicas ∧
    set.status.readyReplicas ≤ replicas ∧ replicas ≤ set.status.readyReplicas + 1 ∧
    replicas ≤ max 0 (np.replicas.getD 0)

/-- The invariant: every StatefulSet is that of a pool, and when a pool waits for
a node, every pool before it has what it asks for. -/
structure Serial (c : Cluster) (sets : ObjectStore StatefulSet) : Prop where
  typed : WellTyped c.spec
  distinct : (c.spec.nodePools.map CassandraClusterNodePool.name).Nodup
  own : ∀ set ∈ sets.objects, ∃ np ∈ c.spec.nodePools, PoolSet c np set
  series : c.spec.nodePools.Pairwise fun earlier later =>
    Settled c sets later ∨ Served c sets earlier

theorem Serial.eq_of_name (h : Serial c sets) {np' : NodePool} (hnp : np ∈ c.spec.nodePools)
    (hnp' : np' ∈ c.spec.nodePools) (hname : np.name = np'.name) : np = np' := by
  exact List.inj_on_of_nodup_map h.distinct hnp hnp' hname

theorem Serial.poolSet (h : Serial c sets) (hnp : np ∈ c.spec.nodePools) {set : StatefulSet}
    (hget : sets.get (setKey c np.name) = some set) : PoolSet c np set := by
  obtain ⟨hmem, hkey⟩ := sets.get_eq_some_iff.mp hget
  obtain ⟨np', hnp', hset⟩ := h.own set hmem
  have hname : np.name = np'.name := setKey_injective (hkey.symm.trans hset.key)
  rw [h.eq_of_name hnp hnp' hname]
  exact hset

/-- A pool that has what it asks for waits for no node. -/
theorem Serial.settled_of_served (h : Serial c sets) (hnp : np ∈ c.spec.nodePools)
    (hserved : Served c sets np) : Settled c sets np := by
  intro set hset
  obtain ⟨set', desired, hget, hdesired, hle⟩ := hserved
  obtain rfl : set' = set := Option.some.inj (hget.symm.trans hset)
  obtain ⟨replicas, hreplicas, hnonneg, hready, _, hbound⟩ := (h.poolSet hnp hget).counts
  rw [hdesired, Option.getD_some] at hbound
  rw [AllReady, hreplicas]
  congr 1
  omega

/-- Of two pools at most one waits for a node. -/
theorem Serial.settled_or (h : Serial c sets) {np' : NodePool} (hnp : np ∈ c.spec.nodePools)
    (hnp' : np' ∈ c.spec.nodePools) (hne : np ≠ np') :
    Settled c sets np ∨ Settled c sets np' := by
  have hpairs : c.spec.nodePools.Pairwise fun left right =>
      Settled c sets left ∨ Settled c sets right := by
    apply h.series.imp_of_mem
    intro earlier later hearlier _ hpair
    exact hpair.symm.imp_left (h.settled_of_served hearlier)
  have hsymm : Std.Symm fun left right : NodePool =>
      Settled c sets left ∨ Settled c sets right := ⟨fun _ _ => Or.symm⟩
  exact hpairs.forall hnp hnp' hne

/-- At most one StatefulSet waits for a node, and for one node only. -/
theorem Serial.eq_of_joining (h : Serial c sets) {set set' : StatefulSet}
    (hset : set ∈ sets.objects) (hset' : set' ∈ sets.objects) (hjoining : ¬ AllReady set)
    (hjoining' : ¬ AllReady set') :
    set = set' ∧ set.spec.replicas = some (set.status.readyReplicas + 1) := by
  obtain ⟨np, hnp, hpool⟩ := h.own set hset
  obtain ⟨np', hnp', hpool'⟩ := h.own set' hset'
  have hget := sets.get_eq_some_iff.mpr ⟨hset, hpool.key⟩
  have hget' := sets.get_eq_some_iff.mpr ⟨hset', hpool'.key⟩
  have hsame : np = np' := by
    by_contra hne
    rcases h.settled_or hnp hnp' hne with hsettled | hsettled
    · exact hjoining (hsettled set hget)
    · exact hjoining' (hsettled set' hget')
  subst hsame
  refine ⟨Option.some.inj (hget.symm.trans hget'), ?_⟩
  obtain ⟨replicas, hreplicas, _, hready, hgap, _⟩ := hpool.counts
  rw [AllReady, hreplicas, Option.some.injEq] at hjoining
  rw [hreplicas]
  congr 1
  omega

/-- Writing the StatefulSet of one pool does not touch another pool. -/
theorem get_put_of_ne {new : StatefulSet} (hnew : PoolSet c np new) {other : NodePool}
    (hne : other.name ≠ np.name) :
    (sets.put new).get (setKey c other.name) = sets.get (setKey c other.name) := by
  rw [ObjectStore.get_put, if_neg]
  rw [hnew.key]
  exact fun heq => hne (setKey_injective heq)

theorem get_put_self {new : StatefulSet} (hnew : PoolSet c np new) :
    (sets.put new).get (setKey c np.name) =
      some (Resource.withVersion new sets.nextVersion) := by
  rw [ObjectStore.get_put, if_pos hnew.key.symm]

/-- The invariant after a write: the pool written keeps what it asks for, if it
had it, and it waits for no node unless the pools before it have what they ask
for. -/
theorem Serial.put (h : Serial c sets) (hnp : np ∈ c.spec.nodePools) {new : StatefulSet}
    (hnew : PoolSet c np new) (hkeep : Served c sets np → Served c (sets.put new) np)
    (hturn : c.spec.nodePools.Pairwise fun earlier later => later.name = np.name →
      Settled c (sets.put new) np ∨ Served c sets earlier) : Serial c (sets.put new) := by
  have hserved : ∀ other ∈ c.spec.nodePools, Served c sets other →
      Served c (sets.put new) other := by
    intro other hother hserved
    by_cases hname : other.name = np.name
    · rw [h.eq_of_name hother hnp hname] at hserved ⊢
      exact hkeep hserved
    · unfold Served
      rw [get_put_of_ne hnew hname]
      exact hserved
  refine ⟨h.typed, h.distinct, ?_, ?_⟩
  · intro set hset
    rcases List.mem_cons.mp hset with rfl | hset
    · exact ⟨np, hnp, ⟨(Resource.key_withVersion new _).trans hnew.key, hnew.label,
        hnew.counts⟩⟩
    · exact h.own set (List.mem_of_mem_filter hset)
  · apply (h.series.and hturn).imp_of_mem
    intro earlier later hearlier hlater hpair
    by_cases hname : later.name = np.name
    · rw [h.eq_of_name hlater hnp hname]
      exact (hpair.2 hname).imp_right (hserved earlier hearlier)
    · apply hpair.1.imp ?_ (hserved earlier hearlier)
      intro hsettled
      unfold Settled
      rw [get_put_of_ne hnew hname]
      exact hsettled

/-- What is known of the pools before one holds for every pair that ends in it. -/
theorem pairwise_of_before {pools before after : List NodePool} {P : NodePool → Prop}
    (hsplit : pools = before ++ np :: after)
    (hdistinct : (pools.map CassandraClusterNodePool.name).Nodup)
    (hbefore : ∀ other ∈ before, P other) :
    pools.Pairwise fun earlier later => later.name = np.name → P earlier := by
  subst hsplit
  rw [List.map_append, List.map_cons, List.nodup_append, List.nodup_cons] at hdistinct
  obtain ⟨_, ⟨hafter, _⟩, _⟩ := hdistinct
  -- a pair of pools behind this one never ends in it
  have hrest : ∀ later ∈ after, later.name ≠ np.name := fun later hlater hname =>
    hafter (hname ▸ List.mem_map_of_mem hlater)
  rw [List.pairwise_append, List.pairwise_cons]
  refine ⟨?_, ⟨?_, ?_⟩, ?_⟩
  · exact List.pairwise_of_forall_mem_list fun earlier hearlier _ _ _ => hbefore earlier hearlier
  · exact fun later hlater hname => absurd hname (hrest later hlater)
  · exact List.pairwise_of_forall_mem_list fun _ _ later hlater hname =>
      absurd hname (hrest later hlater)
  · exact fun earlier hearlier _ _ _ => hbefore earlier hearlier

end Series

section Statuses

variable {state : State} {c : Cluster} {sets : ObjectStore StatefulSet}

/-- On a current cache the status of a pool is that of its stored StatefulSet. -/
theorem Serial.get_of_status (h : Serial c sets)
    (hcurrent : sets.Current state.statefulSetLister.items)
    {statuses : Std.ExtTreeMap String NodePoolStatus}
    (hcounted : nodePoolStatuses state c = .ok statuses) {np : NodePool}
    (hsome : (statuses[np.name]?).isSome = true) :
    ∃ set, sets.get (setKey c np.name) = some set ∧
      ((statuses[np.name]?).getD ({} : NodePoolStatus)).readyReplicas =
        set.status.readyReplicas := by
  obtain ⟨status, hstatus⟩ := Option.isSome_iff_exists.mp hsome
  obtain ⟨set, hown, hlabel, hready⟩ := nodePoolStatuses_sound hcounted hstatus
  have hmem : set ∈ sets.objects := hcurrent.mem_iff.mp hown.cached
  obtain ⟨np', _, hpool⟩ := h.own set hmem
  have hname : np'.name = np.name := hpool.label.symm.trans hlabel
  refine ⟨set, sets.get_eq_some_iff.mpr ⟨hmem, hname ▸ hpool.key⟩, ?_⟩
  rw [hstatus]
  exact hready

/-- The pool chosen for a scale out on a current cache: every pool before it has
what it asks for, and it does not. -/
theorem Serial.turn (h : Serial c sets)
    (hcurrent : sets.Current state.statefulSetLister.items)
    {statuses : Std.ExtTreeMap String NodePoolStatus} {np : NodePool}
    (hcounted : nodePoolStatuses state c = .ok statuses)
    (hchosen : nextAction (withNodePoolStatuses c statuses) =
      .ok (some (.scaleOut ⟨withNodePoolStatuses c statuses, np⟩))) :
    ∃ before after, c.spec.nodePools = before ++ np :: after ∧
      (∀ other ∈ before, Served c sets other) ∧ ¬ Served c sets np := by
  rcases nextAction_eq_some hchosen with ⟨_, _, _, haction⟩ | ⟨hall, hscale⟩
  · cases haction
  · obtain ⟨before, np', after, desired, hsplit, haction, hbefore, hdesired, hless⟩ :=
      nextScaleOut_eq_some hscale
    cases haction
    have hsplit : c.spec.nodePools = before ++ np :: after := hsplit
    refine ⟨before, after, hsplit, ?_, ?_⟩
    · intro other hother
      obtain ⟨wanted, hwanted, hle⟩ := hbefore other hother
      have hmem : other ∈ c.spec.nodePools := hsplit ▸ List.mem_append_left _ hother
      obtain ⟨set, hget, hready⟩ := h.get_of_status hcurrent hcounted (hall other hmem)
      exact ⟨set, wanted, hget, hwanted, hready ▸ hle⟩
    · rintro ⟨set, desired', hget, hdesired', hle⟩
      obtain rfl : desired = desired' := Option.some.inj (hdesired.symm.trans hdesired')
      have hmem : np ∈ c.spec.nodePools :=
        hsplit ▸ List.mem_append_right _ List.mem_cons_self
      obtain ⟨set', hget', hready⟩ := h.get_of_status hcurrent hcounted (hall np hmem)
      obtain rfl : set' = set := Option.some.inj (hget'.symm.trans hget)
      have hless' : set'.status.readyReplicas < desired := hready ▸ hless
      omega

end Statuses

/-- What a request of a `Sync` on current caches leaves, when it is performed. -/
theorem Serial.effect {state : State} {c : Cluster} {request : Request} {api api' : ApiServer}
    (h : Serial c api.statefulSets) (hrequest : SyncRequest state c request)
    (hcurrent : api.statefulSets.Current state.statefulSetLister.items)
    (heffect : ApiServer.Effect api request api') : Serial c api'.statefulSets := by
  cases hrequest with
  | event =>
      cases heffect
      exact h
  | @create statuses np set counted pool missing built =>
      cases heffect with
      | createStatefulSet fresh =>
          obtain ⟨hname, hnamespace, hlabels, _, hreplicas, hstatus⟩ :=
            statefulSetForCluster_eq_ok built
          have hkey : Resource.key set = setKey c np.name := Prod.ext hnamespace hname
          have hpool : PoolSet c np set := by
            refine ⟨hkey, ?_, 0, hreplicas, ?_⟩
            · rw [StringMap.get, hlabels, get?_nodePoolLabels_poolName]
              rfl
            · simp [hstatus]
          apply h.put pool hpool
          · rintro ⟨stored, _, hget, _⟩
            rw [hkey, hget] at fresh
            cases fresh
          · have hsettled : Settled c (api.statefulSets.put set) np := by
              intro stored hstored
              rw [get_put_self hpool] at hstored
              cases hstored
              change set.spec.replicas = some set.status.readyReplicas
              rw [hreplicas, hstatus]
            exact List.pairwise_of_forall fun _ _ _ => Or.inl hsettled
  | @grow statuses np set current desired counted chosen cached replicas wanted fewer ready =>
      cases heffect with
      | @updateStatefulSet _ stored found unchanged =>
          obtain ⟨before, after, hsplit, hbefore, hunserved⟩ :=
            h.turn hcurrent counted chosen
          have hnp : np ∈ c.spec.nodePools :=
            hsplit ▸ List.mem_append_right _ List.mem_cons_self
          have hget := Lister.get_of_current hcurrent cached
          have hpool := h.poolSet hnp hget
          obtain ⟨_, hreplicas, hnonneg, _⟩ := hpool.counts
          have hhigh := (h.typed np hnp desired wanted).2
          have hnext : int32 (current + 1) = current + 1 :=
            int32_of_range (by omega) (by omega)
          have hgrown : PoolSet c np (grown set current) := by
            refine ⟨hpool.key, hpool.label, current + 1, congrArg some hnext, ?_⟩
            change 0 ≤ set.status.readyReplicas ∧ set.status.readyReplicas ≤ current + 1 ∧
              current + 1 ≤ set.status.readyReplicas + 1 ∧
              current + 1 ≤ max 0 (np.replicas.getD 0)
            rw [wanted, Option.getD_some]
            omega
          apply h.put hnp hgrown
          · exact fun hserved => absurd hserved hunserved
          · apply (pairwise_of_before hsplit h.distinct hbefore).imp
            exact fun hpair hname => Or.inr (hpair hname)

/-- When the request of a `Sync` on a current cache changes the replicas of a
StatefulSet, no pool waits for a node: not the pools before, which have what
they ask for, not the pool itself, and not the pools behind, which would have
had to wait for it. -/
theorem Serial.allReady_of_change {state : State} {c : Cluster} {request : Request}
    {api api' : ApiServer} (heffect : ApiServer.Effect api request api')
    (h : Serial c api.statefulSets) (hrequest : SyncRequest state c request)
    (hcurrent : api.statefulSets.Current state.statefulSetLister.items)
    {key : String × String} {old new : StatefulSet} (hold : api.statefulSets.get key = some old)
    (hnew : api'.statefulSets.get key = some new)
    (hchanged : new.spec.replicas ≠ old.spec.replicas) :
    ∀ set ∈ api.statefulSets.objects, AllReady set := by
  cases hrequest with
  | event =>
      cases heffect
      cases hold.symm.trans hnew
      exact absurd rfl hchanged
  | @create statuses np set counted pool missing built =>
      cases heffect with
      | createStatefulSet fresh =>
          have hne : key ≠ Resource.key set := by
            rintro rfl
            rw [hold] at fresh
            cases fresh
          rw [ObjectStore.get_put, if_neg hne, hold] at hnew
          cases hnew
          exact absurd rfl hchanged
  | @grow statuses np cached current desired counted chosen hcached replicas wanted fewer ready =>
      obtain ⟨before, after, hsplit, hbefore, hunserved⟩ := h.turn hcurrent counted chosen
      intro set hset
      obtain ⟨other, hother, hpool⟩ := h.own set hset
      have hget := api.statefulSets.get_eq_some_iff.mpr ⟨hset, hpool.key⟩
      have hsettled : Settled c api.statefulSets other := by
        have hposition := hsplit ▸ hother
        rcases List.mem_append.mp hposition with hearlier | hrest
        · exact h.settled_of_served hother (hbefore other hearlier)
        · rcases List.mem_cons.mp hrest with rfl | hlater
          · intro stored hstored
            cases (Lister.get_of_current hcurrent hcached).symm.trans hstored
            rw [AllReady, replicas, ready]
          · have hseries := h.series
            rw [hsplit, List.pairwise_append, List.pairwise_cons] at hseries
            exact (hseries.2.1.1 other hlater).resolve_right hunserved
      exact hsettled set hget

/-- The invariant does not look at the status of the cluster. -/
theorem Serial.of_eq {c c' : Cluster} {sets : ObjectStore StatefulSet} (h : Serial c sets)
    (hmetadata : c'.metadata = c.metadata) (hspec : c'.spec = c.spec) : Serial c' sets := by
  have hkey : ∀ name, setKey c' name = setKey c name := by
    intro name
    simp [setKey, resourceBaseName, hmetadata]
  refine ⟨hspec ▸ h.typed, hspec ▸ h.distinct, ?_, ?_⟩
  · intro set hset
    obtain ⟨np, hnp, hpool⟩ := h.own set hset
    exact ⟨np, hspec ▸ hnp, hpool.key.trans (hkey np.name).symm, hpool.label, hpool.counts⟩
  · simp only [Settled, Served, hkey, hspec]
    exact h.series

section Edit

variable {c : Cluster} {sets : ObjectStore StatefulSet}

/-- The new pool is the old one with at least as many replicas. -/
def Raises (np np' : NodePool) : Prop :=
  np' = { np with replicas := np'.replicas } ∧
    (np'.replicas = np.replicas ∨
      ∃ replicas ∈ np.replicas, ∃ replicas' ∈ np'.replicas, replicas < replicas')

instance (np np' : NodePool) : Decidable (Raises np np') :=
  inferInstanceAs (Decidable (_ ∧ _))

/-- The edit changes nothing but replicas, and only raises these. -/
def OnlyRaises (old new : CassandraClusterSpec) : Prop :=
  new = { old with nodePools := new.nodePools } ∧
    List.Forall₂ Raises old.nodePools new.nodePools

instance (old new : CassandraClusterSpec) : Decidable (OnlyRaises old new) :=
  inferInstanceAs (Decidable (_ ∧ _))

/-- A pool is raised only while every later pool is ready. -/
def RaisesInOrder (ready : NodePool → Prop) : List NodePool → List NodePool → Prop
  | np :: rest, np' :: rest' =>
      (np'.replicas ≠ np.replicas → ∀ later ∈ rest, ready later) ∧
        RaisesInOrder ready rest rest'
  | _, _ => True

instance decidableRaisesInOrder (ready : NodePool → Prop) [DecidablePred ready] :
    (old new : List NodePool) → Decidable (RaisesInOrder ready old new)
  | np :: rest, np' :: rest' =>
      have := decidableRaisesInOrder ready rest rest'
      inferInstanceAs (Decidable ((np'.replicas ≠ np.replicas → ∀ later ∈ rest, ready later) ∧
        RaisesInOrder ready rest rest'))
  | [], _ => isTrue trivial
  | _ :: _, [] => isTrue trivial

theorem Raises.name {np np' : NodePool} (h : Raises np np') : np'.name = np.name := by
  rw [h.1]

theorem Raises.getD_le {np np' : NodePool} (h : Raises np np') :
    max 0 (np.replicas.getD 0) ≤ max 0 (np'.replicas.getD 0) := by
  rcases h.2 with hsame | ⟨replicas, hreplicas, replicas', hreplicas', hless⟩
  · rw [hsame]
  · rw [hreplicas, hreplicas', Option.getD_some, Option.getD_some]
    omega

theorem exists_raised {old new : List NodePool} (h : List.Forall₂ Raises old new)
    {np : NodePool} (hnp : np ∈ old) : ∃ np' ∈ new, Raises np np' := by
  induction h with
  | nil => exact absurd hnp List.not_mem_nil
  | @cons first first' rest rest' hfirst _ ih =>
      rcases List.mem_cons.mp hnp with rfl | hnp
      · exact ⟨first', List.mem_cons_self, hfirst⟩
      · obtain ⟨np', hnp', hraises⟩ := ih hnp
        exact ⟨np', List.mem_cons_of_mem first' hnp', hraises⟩

theorem exists_raised_from {old new : List NodePool} (h : List.Forall₂ Raises old new)
    {np' : NodePool} (hnp' : np' ∈ new) : ∃ np ∈ old, Raises np np' := by
  induction h with
  | nil => exact absurd hnp' List.not_mem_nil
  | @cons first first' rest rest' hfirst _ ih =>
      rcases List.mem_cons.mp hnp' with rfl | hnp'
      · exact ⟨first, List.mem_cons_self, hfirst⟩
      · obtain ⟨np, hnp, hraises⟩ := ih hnp'
        exact ⟨np, List.mem_cons_of_mem first hnp, hraises⟩

theorem map_name_of_raises {old new : List NodePool} (h : List.Forall₂ Raises old new) :
    new.map CassandraClusterNodePool.name = old.map CassandraClusterNodePool.name := by
  induction h with
  | nil => rfl
  | cons hfirst _ ih => rw [List.map_cons, List.map_cons, hfirst.name, ih]

/-- A raised pool may lose what it asked for, so then no later pool may be
waiting. -/
theorem series_of_raises {old new : List NodePool} (h : List.Forall₂ Raises old new)
    (horder : RaisesInOrder (Settled c sets) old new)
    (hseries : old.Pairwise fun earlier later => Settled c sets later ∨ Served c sets earlier) :
    new.Pairwise fun earlier later => Settled c sets later ∨ Served c sets earlier := by
  induction h with
  | nil => exact .nil
  | @cons np np' rest rest' hraises hrest ih =>
      rw [List.pairwise_cons] at hseries ⊢
      refine ⟨?_, ih horder.2 hseries.2⟩
      intro later' hlater'
      obtain ⟨later, hlater, hlaterRaises⟩ := exists_raised_from hrest hlater'
      have hsettled : Settled c sets later → Settled c sets later' := by
        unfold Settled
        rw [hlaterRaises.name]
        exact fun h => h
      by_cases hsame : np'.replicas = np.replicas
      · apply (hseries.1 later hlater).imp hsettled
        unfold Served
        rw [hraises.name, hsame]
        exact fun h => h
      · exact Or.inl (hsettled (horder.1 hsame later hlater))

theorem Serial.edit {new : Cluster} (h : Serial c sets) (hidentity : SameIdentity c new)
    (htyped : WellTyped new.spec)
    (hraises : List.Forall₂ Raises c.spec.nodePools new.spec.nodePools)
    (horder : RaisesInOrder (Settled c sets) c.spec.nodePools new.spec.nodePools) :
    Serial new sets := by
  have hkey : ∀ name, setKey new name = setKey c name := by
    intro name
    simp [setKey, resourceBaseName, hidentity.1, hidentity.2.1]
  refine ⟨htyped, map_name_of_raises hraises ▸ h.distinct, ?_, ?_⟩
  · intro set hset
    obtain ⟨np, hnp, hpool⟩ := h.own set hset
    obtain ⟨np', hnp', hnew⟩ := exists_raised hraises hnp
    obtain ⟨replicas, hreplicas, hnonneg, hready, hgap, hbound⟩ := hpool.counts
    refine ⟨np', hnp', ?_, hnew.name ▸ hpool.label, replicas, hreplicas, hnonneg, hready, hgap,
      hbound.trans hnew.getD_le⟩
    rw [hkey, hnew.name]
    exact hpool.key
  · simp only [Settled, Served, hkey]
    exact series_of_raises hraises horder h.series

end Edit

namespace World

/-- The steps of a run: accepted edits that only raise replicas, Syncs of the
cluster as it is on a current cache, and pods that become ready. -/
def Permitted (w : World) : Step → Prop
  | .edit new => validateCassandraClusterUpdate w.cluster new = .ok [] ∧
      OnlyRaises w.cluster.spec new.spec
  | .sync seen _ env _ => seen = w.cluster ∧
      w.api.statefulSets.Current env.state.statefulSetLister.items
  | .status key status => ∀ set ∈ w.api.statefulSets.get key,
      set.status.readyReplicas ≤ status.readyReplicas ∧
        ∀ replicas ∈ set.spec.replicas, status.readyReplicas ≤ replicas

instance (w : World) : (event : Step) → Decidable (w.Permitted event)
  | .edit _ => inferInstanceAs (Decidable (_ ∧ _))
  | .sync _ _ _ _ => inferInstanceAs (Decidable (_ ∧ _))
  | .status key status => inferInstanceAs (Decidable (∀ set ∈ w.api.statefulSets.get key,
      set.status.readyReplicas ≤ status.readyReplicas ∧
        ∀ replicas ∈ set.spec.replicas, status.readyReplicas ≤ replicas))

/-- No edit raises a pool while a later one waits for a node. -/
def InOrder (w : World) : Step → Prop
  | .edit new => RaisesInOrder (Settled w.cluster w.api.statefulSets) w.cluster.spec.nodePools
      new.spec.nodePools
  | _ => True

instance (w : World) : (event : Step) → Decidable (w.InOrder event)
  | .edit _ => decidableRaisesInOrder _ _ _
  | .sync _ _ _ _ => isTrue trivial
  | .status _ _ => isTrue trivial

/-- A cluster just accepted, in a namespace without StatefulSets. -/
def Created (w : World) : Prop :=
  validateCassandraCluster w.cluster = .ok [] ∧ WellTyped w.cluster.spec ∧
    w.api.statefulSets = .empty

/-- Runs of a new cluster. -/
def newCluster : Machine World Step where
  init := Created
  step := step

end World

theorem Serial.start {w : World} (h : w.Created) : Serial w.cluster w.api.statefulSets := by
  obtain ⟨hvalid, htyped, hempty⟩ := h
  rw [hempty]
  refine ⟨htyped, (validateCassandraCluster_eq_ok_iff.mp hvalid).2.distinct, ?_, ?_⟩
  · exact fun set hset => absurd hset List.not_mem_nil
  · apply List.pairwise_of_forall
    intro earlier later
    exact Or.inl fun set hset => by cases hset

/-- A `Sync` on a current cache keeps the invariant. -/
theorem Serial.syncRun {w : World} (h : Serial w.cluster w.api.statefulSets)
    {status : CassandraClusterStatus} {env : Environment} {faults : List (Option Fault)}
    (hcurrent : w.api.statefulSets.Current env.state.statefulSetLister.items) :
    Serial w.cluster (w.syncRun w.cluster status env faults).2.statefulSets := by
  -- the one write meets the stores as the `Sync` found them
  refine Prog.Once.run_preserves (fun api : ApiServer => api.statefulSets = w.api.statefulSets)
    (fun api : ApiServer => Serial w.cluster api.statefulSets) ?_ ?_ ?_ ?_ (sync_once env _) rfl
  · exact fun api hapi => hapi ▸ h
  · intro api request hapi hevent
    rw [hevent.serve]
    exact hapi
  · intro api request hapi hevent
    rw [hevent.serve]
    exact hapi
  · intro api request hapi hrequest
    have hserial : Serial (withPausedConditions env.now (withStatus w.cluster status))
        api.statefulSets := by
      rw [hapi]
      exact h.of_eq rfl rfl
    obtain ⟨faults', hsame | heffect⟩ := api.serve_cases request
    · rw [hsame]
      exact hserial.of_eq rfl rfl
    · have hcurrent' : api.statefulSets.Current env.state.statefulSetLister.items := by
        rw [hapi]
        exact hcurrent
      have hfaulted : Serial (withPausedConditions env.now (withStatus w.cluster status))
          ({ api with faults := faults' } : ApiServer).statefulSets := hserial
      exact (hfaulted.effect hrequest hcurrent' heffect).of_eq rfl rfl

theorem Serial.status {c : Cluster} {sets : ObjectStore StatefulSet} (h : Serial c sets)
    {key : String × String} {set : StatefulSet} (hget : sets.get key = some set)
    {status : StatefulSetStatus} (hmore : set.status.readyReplicas ≤ status.readyReplicas)
    (hmost : ∀ replicas ∈ set.spec.replicas, status.readyReplicas ≤ replicas) :
    Serial c (sets.put { set with status := status }) := by
  obtain ⟨hmem, hkey⟩ := sets.get_eq_some_iff.mp hget
  obtain ⟨np, hnp, hpool⟩ := h.own set hmem
  rw [← hkey, hpool.key] at hget
  obtain ⟨replicas, hreplicas, hnonneg, hready, hgap, hbound⟩ := hpool.counts
  have hnew : PoolSet c np { set with status := status } := by
    have hle := hmost replicas hreplicas
    refine ⟨hpool.key, hpool.label, replicas, hreplicas, ?_⟩
    change 0 ≤ status.readyReplicas ∧ status.readyReplicas ≤ replicas ∧
      replicas ≤ status.readyReplicas + 1 ∧ replicas ≤ max 0 (np.replicas.getD 0)
    omega
  apply h.put hnp hnew
  · rintro ⟨stored, desired, hstored, hdesired, hle⟩
    obtain rfl : stored = set := Option.some.inj (hstored.symm.trans hget)
    exact ⟨_, desired, get_put_self hnew, hdesired, hle.trans hmore⟩
  · -- a pool that waited for no node has all replicas ready still
    apply (h.series).imp_of_mem
    intro earlier later _ hlater hpair hname
    rw [h.eq_of_name hlater hnp hname] at hpair
    apply hpair.imp_left
    intro hsettled stored hstored
    rw [get_put_self hnew] at hstored
    cases hstored
    have hall : set.spec.replicas = some set.status.readyReplicas := hsettled set hget
    have hle := hmost _ hall
    change set.spec.replicas = some status.readyReplicas
    rw [hall]
    congr 1
    omega

namespace World

theorem serial_of_reachable {w : World}
    (hreach : newCluster.Reachable (fun w event => w.Permitted event ∧ w.InOrder event) w) :
    Serial w.cluster w.api.statefulSets := by
  apply hreach.invariant fun w => Serial w.cluster w.api.statefulSets
  · exact fun _ => Serial.start
  · intro w event w' hserial hok hstep
    rcases step_cases hstep with ⟨new, rfl, hidentity, htyped, rfl⟩ |
      ⟨seen, status, env, faults, rfl, _, rfl⟩ | ⟨key, status, set, rfl, hget, rfl⟩
    · exact hserial.edit hidentity htyped hok.1.2.2 hok.2
    · obtain ⟨rfl, hcurrent⟩ := hok.1
      exact hserial.syncRun hcurrent
    · obtain ⟨hmore, hmost⟩ := hok.1 set hget
      exact hserial.status hget hmore hmost

end World

/-- In every run of a new cluster in which no edit raises a pool while a later
one waits for a node, at most one node is joining in every state reached, and
when a `Sync` changes the replicas of a StatefulSet, all replicas of all
StatefulSets are ready at that moment. -/
theorem nodes_join_in_series {w : World}
    (hreach : World.newCluster.Reachable
      (fun w event => w.Permitted event ∧ w.InOrder event) w) :
    (∀ set ∈ w.api.statefulSets.objects, ∀ set' ∈ w.api.statefulSets.objects,
      ¬ AllReady set → ¬ AllReady set' →
        set = set' ∧ set.spec.replicas = some (set.status.readyReplicas + 1)) ∧
    ∀ (status : CassandraClusterStatus) (env : Environment) (faults : List (Option Fault))
      (met : ApiServer) (request : Request) (key : String × String) (old new : StatefulSet),
      w.api.statefulSets.Current env.state.statefulSetLister.items →
      (met, request) ∈ w.syncCalls w.cluster status env faults →
      met.statefulSets.get key = some old →
      (met.serve request).2.statefulSets.get key = some new →
      new.spec.replicas ≠ old.spec.replicas → ∀ set ∈ met.statefulSets.objects, AllReady set := by
  have hserial := World.serial_of_reachable hreach
  refine ⟨fun set hset set' hset' => hserial.eq_of_joining hset hset', ?_⟩
  intro status env faults met request key old new hcurrent hcall hold hnew hchanged
  have honce : IsEvent request ∨
      SyncRequest env.state (withPausedConditions env.now (withStatus w.cluster status)) request ∧
        met.statefulSets = w.api.statefulSets := by
    refine Prog.Once.of_mem_calls (fun api : ApiServer => api.statefulSets = w.api.statefulSets)
      ?_ (sync_once env _) ?_ hcall
    · intro api request hapi hevent
      rw [hevent.serve]
      exact hapi
    · rfl
  rcases honce with hevent | ⟨hrequest, hmet⟩
  · rw [hevent.serve, hold] at hnew
    cases hnew
    exact absurd rfl hchanged
  · have hseen : Serial (withPausedConditions env.now (withStatus w.cluster status))
        met.statefulSets := by
      rw [hmet]
      exact hserial.of_eq rfl rfl
    rw [← hmet] at hcurrent
    obtain ⟨faults', hsame | heffect⟩ := met.serve_cases request
    · rw [hsame] at hnew
      cases hold.symm.trans hnew
      exact absurd rfl hchanged
    · have hall := Serial.allReady_of_change heffect hseen hrequest hcurrent hold hnew hchanged
      exact hall

namespace JoinInSeriesWitness

def cluster (replicasA replicasB : Int) : Cluster :=
  sampleCluster [samplePool "rack-a" replicasA, samplePool "rack-b" replicasB]

def start : World := { cluster := cluster 1 1, api := {} }

def after (events : List World.Step) : World :=
  (World.newCluster.exec start events).getD start

/-- Append a `Sync` on a current cache. -/
def thenSync (events : List World.Step) : List World.Step :=
  events ++ [.sync (after events).cluster {} (currentEnv (after events).api) []]

/-- Both StatefulSets are created, and the node of the first rack joins. -/
def firstJoined : List World.Step :=
  thenSync (thenSync (thenSync [])) ++
    [.status (setKey (cluster 1 1) "rack-a") { readyReplicas := 1 }]

/-- The second rack is raised to two nodes before any of them joins. -/
def raisedLater : List World.Step := firstJoined ++ [.edit (cluster 1 2)]

/-- The first rack is raised while the node of the second one joins. -/
def raisedEarlier : List World.Step := thenSync firstJoined ++ [.edit (cluster 2 1)]

/-- The replica counts of the StatefulSets, with how many are ready. -/
def counts (api : ApiServer) : List (Option Int × Int) :=
  [(setKey (cluster 1 1) "rack-a"), (setKey (cluster 1 1) "rack-b")].map fun key =>
    ((api.statefulSets.get key).bind fun set => set.spec.replicas,
      ((api.statefulSets.get key).map fun set => set.status.readyReplicas).getD 0)

theorem created : start.Created := by
  have hvalid : validateCassandraCluster start.cluster = .ok [] ∧
      WellTyped start.cluster.spec := by
    decide +kernel
  exact ⟨hvalid.1, hvalid.2, rfl⟩

/-- The first node of the second rack joins when that of the first is ready. -/
theorem nodes_join_in_series_second :
    ∃ met request, (met, request) ∈ (after raisedLater).syncCalls (after raisedLater).cluster {}
        (currentEnv (after raisedLater).api) [] ∧
      counts met = [(some 1, 1), (some 0, 0)] ∧
      counts (met.serve request).2 = [(some 1, 1), (some 1, 0)] ∧
      ∀ set ∈ met.statefulSets.objects, AllReady set := by
  have hfacts : World.newCluster.Meets (fun w event => w.Permitted event ∧ w.InOrder event) start
        raisedLater ∧
      (World.newCluster.exec start raisedLater).isSome = true ∧
      ∃ call ∈ (after raisedLater).syncCalls (after raisedLater).cluster {}
          (currentEnv (after raisedLater).api) [],
        counts call.1 = [(some 1, 1), (some 0, 0)] ∧
        counts (call.1.serve call.2).2 = [(some 1, 1), (some 1, 0)] ∧
        ∃ old ∈ call.1.statefulSets.get (setKey (cluster 1 1) "rack-b"),
          ∃ new ∈ (call.1.serve call.2).2.statefulSets.get (setKey (cluster 1 1) "rack-b"),
            new.spec.replicas ≠ old.spec.replicas := by
    decide +kernel
  obtain ⟨hmeets, henabled, ⟨met, request⟩, hcall, hbefore, hafter, old, hold, new, hnew,
    hchanged⟩ := hfacts
  have hreach : World.newCluster.Reachable (fun w event => w.Permitted event ∧ w.InOrder event)
      (after raisedLater) := by
    unfold after
    exact Machine.Reachable.getD_exec (.start created) hmeets henabled
  exact ⟨met, request, hcall, hbefore, hafter, (nodes_join_in_series hreach).2 {}
    (currentEnv (after raisedLater).api) [] met request (setKey (cluster 1 1) "rack-b") old new
    (current_currentEnv _) hcall hold hnew hchanged⟩

/-- The first rack is raised while the node of the second one joins: the next
`Sync` adds a node to the first rack, so that two nodes join at a time. -/
theorem nodes_join_in_parallel :
    World.newCluster.Reachable World.Permitted (after raisedEarlier) ∧
      ∃ met request, (met, request) ∈
          (after raisedEarlier).syncCalls (after raisedEarlier).cluster {}
            (currentEnv (after raisedEarlier).api) [] ∧
        counts met = [(some 1, 1), (some 1, 0)] ∧
        counts (met.serve request).2 = [(some 2, 1), (some 1, 0)] := by
  have hfacts : World.newCluster.Meets World.Permitted start raisedEarlier ∧
      (World.newCluster.exec start raisedEarlier).isSome = true ∧
      ∃ call ∈ (after raisedEarlier).syncCalls (after raisedEarlier).cluster {}
          (currentEnv (after raisedEarlier).api) [],
        counts call.1 = [(some 1, 1), (some 1, 0)] ∧
        counts (call.1.serve call.2).2 = [(some 2, 1), (some 1, 0)] := by
    decide +kernel
  obtain ⟨hmeets, henabled, ⟨met, request⟩, hcall, hcounts⟩ := hfacts
  refine ⟨?_, met, request, hcall, hcounts⟩
  unfold after
  exact Machine.Reachable.getD_exec (.start created) hmeets henabled

end JoinInSeriesWitness

end Cassandra

end Navigator
