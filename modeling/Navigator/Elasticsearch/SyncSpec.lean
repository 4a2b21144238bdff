/-
What a `Sync` may ask of the API server, and which action it chooses.
-/
import Navigator.Elasticsearch.Orphans

namespace Navigator

open ControlLoop

namespace Elasticsearch

/-- The requests an action may issue. -/
def Action.Issues (state : State) : Action → Request → Prop
  | createNodePool t => CreatesOnly t
  | scale t replicas => UpdatesOnly (Scale.Writes state t replicas)
  | updateVersion t => UpdatesOnly (UpdateVersion.Writes state t)

theorem Action.execute_all (state : State) (action : Action) :
    (action.execute state).All (action.Issues state) := by
  cases action with
  | createNodePool t => exact createNodePool_all t
  | scale t replicas => exact Scale.execute_all state t replicas
  | updateVersion t => exact UpdateVersion.execute_all state t

/-- The requests of a `Sync` of the cluster `c`. -/
inductive SyncRequest (state : State) (c : Cluster) : Request → Prop where
  | event (event : Event) : SyncRequest state c (.recordEvent event)
  | ensure {np : NodePool} {configMap : ConfigMap} (pool : np ∈ c.spec.nodePools)
      (built : esConfigConfigMap c np = .ok configMap) :
      SyncRequest state c (.createConfigMap configMap)
  | act {action : Action} {request : Request}
      (chosen : nextAction state c = .ok (some action))
      (issues : action.Issues state request) : SyncRequest state c request
  | collect {selector : Selector} {sets : List StatefulSet} {set : StatefulSet}
      (idle : nextAction state c = .ok none)
      (selects : selectorForCluster c.metadata.name = .ok selector)
      (listed : state.statefulSetLister.list c.metadata.namespaceName selector = .ok sets)
      (rest : set ∈ unclaimed c.spec.nodePools sets)
      (controlled : isControlledBy set c = true) :
      SyncRequest state c (deleteRequest set)

/-- The action chosen is the one the first pool in need of one needs. -/
theorem nextActionFrom_eq_some {state : State} {c : Cluster} {pools : List NodePool}
    {action : Action} (h : nextActionFrom state c pools = .ok (some action)) :
    ∃ before np after, pools = before ++ np :: after ∧
      (∀ other ∈ before, nextActionForNodePool state ⟨c, other⟩ = .ok none) ∧
      nextActionForNodePool state ⟨c, np⟩ = .ok (some action) := by
  induction pools with
  | nil => cases h
  | cons np rest ih =>
      simp only [nextActionFrom] at h
      cases hnp : nextActionForNodePool state ⟨c, np⟩ with
      | error e =>
          rw [hnp] at h
          cases h
      | ok outcome =>
          rw [hnp] at h
          cases outcome with
          | some chosen =>
              cases h
              refine ⟨[], np, rest, rfl, ?_, hnp⟩
              intro other hother
              exact absurd hother List.not_mem_nil
          | none =>
              obtain ⟨before, np', after, hsplit, hbefore, hchosen⟩ := ih h
              refine ⟨np :: before, np', after, by rw [hsplit, List.cons_append], ?_, hchosen⟩
              intro other hother
              rcases List.mem_cons.mp hother with rfl | hother
              · exact hnp
              · exact hbefore other hother

/-- The action for a pool targets that pool, and says in which state of the
cache it is chosen. -/
theorem nextActionForNodePool_eq_some {state : State} {t : Target} {action : Action}
    (h : nextActionForNodePool state t = .ok (some action)) :
    (action = .createNodePool t) ∨
      ∃ set text, state.statefulSetLister.get "statefulset.apps" t.namespaceName
        t.statefulSetName = .ok set ∧
        StringMap.get? set.metadata.annotations elasticsearchNodePoolVersionAnnotation =
          some text ∧
        ((action = .updateVersion t ∧ t.cluster.spec.version.string ≠ text) ∨
          ∃ current replicas, action = .scale t replicas ∧
            t.cluster.spec.version.string = text ∧ set.spec.replicas = some current ∧
            t.nodePool.replicas = some replicas ∧ current ≠ replicas) := by
  unfold nextActionForNodePool at h
  split at h
  · split at h
    · cases h
      exact Or.inl rfl
    · cases h
  · rename_i set hget
    split at h
    · cases h
    · rename_i text htext
      right
      refine ⟨set, text, hget, htext, ?_⟩
      by_cases hversion : t.cluster.spec.version.string ≠ text
      · rw [if_pos hversion] at h
        cases h
        exact Or.inl ⟨rfl, hversion⟩
      · rw [if_neg hversion] at h
        split at h
        · cases h
        · rename_i current hcurrent
          split at h
          · cases h
          · rename_i replicas hreplicas
            by_cases hdiffer : current ≠ replicas
            · rw [if_pos hdiffer] at h
              cases h
              exact Or.inr ⟨current, replicas, rfl, not_not.mp hversion, hcurrent, hreplicas,
                hdiffer⟩
            · rw [if_neg hdiffer] at h
              cases h

/-- A pool that needs no action is at the version and at the replicas of the spec. -/
theorem nextActionForNodePool_eq_none {state : State} {t : Target}
    (h : nextActionForNodePool state t = .ok none) :
    ∃ set, state.statefulSetLister.get "statefulset.apps" t.namespaceName
        t.statefulSetName = .ok set ∧
      StringMap.get? set.metadata.annotations elasticsearchNodePoolVersionAnnotation =
        some t.cluster.spec.version.string ∧ set.spec.replicas = t.nodePool.replicas := by
  unfold nextActionForNodePool at h
  split at h
  · split at h
    · cases h
    · cases h
  · rename_i set hget
    split at h
    · cases h
    · rename_i text htext
      by_cases hversion : t.cluster.spec.version.string = text
      · rw [if_neg (not_not.mpr hversion)] at h
        split at h
        · cases h
        · rename_i current hcurrent
          split at h
          · cases h
          · rename_i replicas hreplicas
            by_cases hdiffer : current = replicas
            · exact ⟨set, hget, hversion ▸ htext, by rw [hcurrent, hreplicas, hdiffer]⟩
            · rw [if_pos hdiffer] at h
              cases h
      · rw [if_pos hversion] at h
        cases h

/-- The target of the chosen action is a pool of the cluster. -/
theorem nextAction_target {state : State} {c : Cluster} {action : Action}
    (h : nextAction state c = .ok (some action)) :
    action.target.cluster = c ∧ action.target.nodePool ∈ c.spec.nodePools := by
  obtain ⟨before, np, after, hsplit, _, hchosen⟩ := nextActionFrom_eq_some h
  have hmem : np ∈ c.spec.nodePools := by
    rw [hsplit]
    exact List.mem_append_right before List.mem_cons_self
  have htarget : action.target = ⟨c, np⟩ := by
    rcases nextActionForNodePool_eq_some hchosen with
      rfl | ⟨set, text, _, _, ⟨rfl, _⟩ | ⟨current, replicas, rfl, _⟩⟩
    · rfl
    · rfl
    · rfl
  rw [htarget]
  exact ⟨rfl, hmem⟩

/-- An upgrade is chosen for the first pool that is not at the version of the
spec. -/
theorem nextAction_updateVersion {state : State} {c : Cluster} {t : Target}
    (h : nextAction state c = .ok (some (.updateVersion t))) :
    ∃ before after, c.spec.nodePools = before ++ t.nodePool :: after ∧
      (∀ other ∈ before, nextActionForNodePool state ⟨c, other⟩ = .ok none) ∧
      t.cluster = c ∧ ∃ set text, state.statefulSetLister.get "statefulset.apps"
          t.namespaceName t.statefulSetName = .ok set ∧
        StringMap.get? set.metadata.annotations elasticsearchNodePoolVersionAnnotation =
          some text ∧ c.spec.version.string ≠ text := by
  obtain ⟨before, np, after, hsplit, hbefore, hchosen⟩ := nextActionFrom_eq_some h
  rcases nextActionForNodePool_eq_some hchosen with
    hcreate | ⟨set, text, hget, htext, ⟨hupdate, hdiffers⟩ | ⟨current, desired, hscale, _⟩⟩
  · cases hcreate
  · cases hupdate
    exact ⟨before, after, hsplit, hbefore, rfl, set, text, hget, htext, hdiffers⟩
  · cases hscale

/-- A scale is chosen to reach the replicas of the spec. -/
theorem nextAction_scale {state : State} {c : Cluster} {t : Target} {replicas : Int}
    (h : nextAction state c = .ok (some (.scale t replicas))) :
    t.nodePool.replicas = some replicas := by
  obtain ⟨before, np, after, _, _, hchosen⟩ := nextActionFrom_eq_some h
  rcases nextActionForNodePool_eq_some hchosen with
    hcreate | ⟨set, text, _, _, ⟨hupdate, _⟩ | ⟨current, desired, hscale, _, _, hdesired, _⟩⟩
  · cases hcreate
  · cases hupdate
  · cases hscale
    exact hdesired

theorem syncConfigMaps_all (state : State) (c : Cluster) :
    (syncConfigMaps state c).All (SyncRequest state c) := by
  apply Prog.all_forEach
  intro np hnp
  unfold ensureNodePoolConfigMap
  split
  · trivial
  · rename_i configMap hbuilt
    apply Prog.safe_mapFail
    unfold ensureConfigMap
    split
    · trivial
    · split
      · exact safe_issue.mpr ⟨.ensure hnp hbuilt, trivial⟩
      · trivial

theorem reconcileNodePools_all {state : State} {c : Cluster}
    (hidle : nextAction state c = .ok none) :
    (reconcileNodePools state c).All (SyncRequest state c) := by
  unfold reconcileNodePools
  split
  · trivial
  · rename_i selector hselector
    split
    · trivial
    · rename_i sets hlist
      apply Prog.all_forEach
      intro set hset
      unfold deleteIfControlled
      by_cases hcontrolled : isControlledBy set c = true
      · rw [if_pos hcontrolled]
        exact safe_issue.mpr ⟨.collect hidle hselector hlist hset hcontrolled, trivial⟩
      · rw [if_neg hcontrolled]
        trivial

theorem syncNodePools_all (state : State) (c : Cluster) :
    (syncNodePools state c).All (SyncRequest state c) := by
  unfold syncNodePools
  split
  · trivial
  · apply Prog.all_bind
    · exact safe_record.mpr ⟨.event _, trivial⟩
    · exact fun _ => trivial
  · rename_i hidle
    exact handling_all (reconcileNodePools_all hidle) fun _ => trivial
  · rename_i action hchosen
    apply handling_all
    · exact (action.execute_all state).mono (fun _ h => .act hchosen h) (fun _ h => h)
    · exact fun e => safe_record.mpr ⟨.event _, trivial⟩

theorem syncStages_all (env : Environment) (c : Cluster) :
    (syncStages env c).All (SyncRequest env.state c) := by
  have hevent : ∀ event, SyncRequest env.state c (.recordEvent event) := .event
  apply subControl_all hevent
  apply subControl_all hevent
  apply subControl_all hevent
  apply subControl_all hevent
  apply Prog.all_bind
  · exact handling_all (syncConfigMaps_all env.state c) fun e =>
      safe_record.mpr ⟨.event _, trivial⟩
  · intro outcome
    cases outcome with
    | none => exact syncNodePools_all env.state c
    | some e => trivial

/-- Every request of a `Sync` is one of those, for the copy it works on. -/
theorem sync_all (env : Environment) (c : Cluster) :
    (sync env c).All (SyncRequest env.state (withPausedConditions env.now c)) := by
  unfold sync
  by_cases hpaused :
      (withPausedConditions env.now c).spec.navigatorClusterConfig.paused = true
  · rw [if_pos hpaused]
    trivial
  · rw [if_neg hpaused]
    apply Prog.safe_bind (syncStages_all env _)
    exact fun _ _ => trivial

end Elasticsearch

end Navigator
