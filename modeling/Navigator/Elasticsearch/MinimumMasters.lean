/-
The minimum number of masters across edits.  The ConfigMap of a pool is written
once, when the pool is first seen; a `Sync` never changes it.  So the stored
minimum is the one of the current spec exactly when it already was before the
`Sync`, and edits that change it leave the cluster with the old one.
-/
import Navigator.Elasticsearch.World

namespace Navigator

open ControlLoop

namespace Elasticsearch

/-- The configuration stored in the ConfigMap sets `minimum_master_nodes` to `m`. -/
def HasMinimum (configMap : ConfigMap) (m : Int) : Prop :=
  StringMap.get? configMap.data configFileName = some (renderConfig m)

instance (configMap : ConfigMap) (m : Int) : Decidable (HasMinimum configMap m) :=
  inferInstanceAs (Decidable (_ = _))

/-- The text determines the number. -/
theorem HasMinimum.unique {configMap : ConfigMap} {m n : Int} (hm : HasMinimum configMap m)
    (hn : HasMinimum configMap n) : m = n := by
  have htext : renderConfig m = renderConfig n := by
    rw [HasMinimum, hn] at hm
    exact (Option.some.inj hm).symm
  have hlists := congrArg String.toList htext
  simp only [renderConfig, String.toList_append, List.append_cancel_right_eq,
    List.append_cancel_left_eq, String.toList_inj] at hlists
  exact decimal_injective hlists

/-- The key of a pool's ConfigMap. -/
def configMapKey (c : Cluster) (np : NodePool) : String × String :=
  (c.metadata.namespaceName, configMapName c np)

theorem esConfigConfigMap_eq_ok {c : Cluster} {np : NodePool} {configMap : ConfigMap}
    {m : Int} (hm : minimumMasterNodes c.spec = .ok m)
    (h : esConfigConfigMap c np = .ok configMap) :
    Resource.key configMap = configMapKey c np ∧ HasMinimum configMap m := by
  simp only [esConfigConfigMap, generateConfig, hm, Except.map, bind, Except.bind, pure,
    Except.pure, Except.ok.injEq] at h
  subst h
  refine ⟨rfl, ?_⟩
  simp [HasMinimum, StringMap.get?, StringMap.ofList]

/-- Every pool of the spec has a ConfigMap, and it sets the minimum to `m`. -/
def AllHaveMinimum (c : Cluster) (api : ApiServer) (m : Int) : Prop :=
  ∀ np ∈ c.spec.nodePools, ∃ configMap,
    api.configMaps.get (configMapKey c np) = some configMap ∧ HasMinimum configMap m

/-- No ConfigMap stored for a pool of the spec sets another minimum than `m`. -/
def NoOtherMinimum (c : Cluster) (api : ApiServer) (m : Int) : Prop :=
  ∀ np ∈ c.spec.nodePools, ∀ configMap,
    api.configMaps.get (configMapKey c np) = some configMap → HasMinimum configMap m

/-- The ConfigMap cache is up to date. -/
def ConfigMapsCurrent (api : ApiServer) (state : State) : Prop :=
  state.configMapLister.failure = none ∧
    api.configMaps.Current state.configMapLister.items

/-- No request changes a ConfigMap that exists. -/
theorem get_configMaps_serve {api : ApiServer} {request : Request} {key : String × String}
    {configMap : ConfigMap} (hget : api.configMaps.get key = some configMap) :
    (api.serve request).2.configMaps.get key = some configMap := by
  apply ApiServer.serve_preserves fun api => api.configMaps.get key = some configMap
  · exact fun _ _ h => h
  · intro api api' hget heffect
    cases heffect with
    | createConfigMap hfresh => exact ObjectStore.get_put_of_fresh hget hfresh
    | _ => exact hget
  · exact hget

/-- No program changes a ConfigMap that exists. -/
theorem get_configMaps_run {α : Type} {program : Program α} {api : ApiServer}
    {key : String × String} {configMap : ConfigMap}
    (hget : api.configMaps.get key = some configMap) :
    (program.run ApiServer.serve api).2.configMaps.get key = some configMap := by
  induction program generalizing api with
  | ret value => exact hget
  | fail error => exact hget
  | call request next ih => exact ih _ (get_configMaps_serve hget)

/-- Every pool of the spec has a ConfigMap. -/
def AllHaveConfigMap (c : Cluster) (api : ApiServer) : Prop :=
  ∀ np ∈ c.spec.nodePools, (api.configMaps.get (configMapKey c np)).isSome = true

theorem isSome_get_configMaps_run {α : Type} {program : Program α} {api : ApiServer}
    {key : String × String} (hsome : (api.configMaps.get key).isSome = true) :
    ((program.run ApiServer.serve api).2.configMaps.get key).isSome = true := by
  obtain ⟨configMap, hget⟩ := Option.isSome_iff_exists.mp hsome
  rw [get_configMaps_run hget]
  rfl

theorem SyncRequest.configMap_built {state : State} {c : Cluster} {configMap : ConfigMap}
    (h : SyncRequest state c (.createConfigMap configMap)) :
    ∃ np ∈ c.spec.nodePools, esConfigConfigMap c np = .ok configMap := by
  cases h with
  | ensure pool built => exact ⟨_, pool, built⟩
  | @act action _ chosen issues =>
      cases action with
      | createNodePool t => cases issues
      | scale t replicas => cases issues
      | updateVersion t => cases issues

/-- A `Sync` stores no ConfigMap with another minimum than the one of the spec. -/
theorem NoOtherMinimum.serve {c : Cluster} {state : State} {m : Int} {api : ApiServer}
    {request : Request} (hm : minimumMasterNodes c.spec = .ok m)
    (hinv : NoOtherMinimum c api m) (hrequest : SyncRequest state c request) :
    NoOtherMinimum c (api.serve request).2 m := by
  apply ApiServer.serve_preserves fun api => NoOtherMinimum c api m
  · exact fun _ _ h => h
  · intro api api' hinv heffect
    cases heffect with
    | @createConfigMap created hfresh =>
        intro np hnp configMap hget
        obtain ⟨np', _, hbuilt⟩ := hrequest.configMap_built
        obtain ⟨hkey, hminimum⟩ := esConfigConfigMap_eq_ok hm hbuilt
        simp only [ObjectStore.get_put] at hget
        split at hget
        · exact Option.some.inj hget ▸ hminimum
        · exact hinv np hnp configMap hget
    | _ => exact hinv
  · exact hinv

/-- When it ends well on a cache whose objects exist, `ensureConfigMap` leaves a
ConfigMap of the name it was given. -/
theorem ensureConfigMap_yields {state : State} {configMap : ConfigMap} {api : ApiServer}
    (hcache : ∀ cached ∈ state.configMapLister.items,
      (api.configMaps.get (Resource.key cached)).isSome = true) :
    (ensureConfigMap state configMap).Yields ApiServer.serve
      (fun _ api' => (api'.configMaps.get (Resource.key configMap)).isSome = true) api := by
  unfold ensureConfigMap
  split
  · rename_i cached hcached
    obtain ⟨hmem, hkey⟩ := Lister.get_ok hcached
    intro value _
    have hstored := hcache cached hmem
    rw [hkey] at hstored
    exact hstored
  · rename_i e herror
    by_cases hnotFound : e.isNotFound = true
    · rw [if_pos hnotFound]
      intro value hvalue
      simp only [issue, Prog.run] at hvalue ⊢
      cases hanswer : (api.serve (.createConfigMap configMap)).1 with
      | some refusal =>
          rw [hanswer] at hvalue
          cases hvalue
      | none =>
          obtain ⟨faults, heffect⟩ := ApiServer.effect_of_serve_none hanswer
          generalize (api.serve (.createConfigMap configMap)).2 = api' at heffect ⊢
          cases heffect with
          | createConfigMap hfresh => simp [Prog.run, ObjectStore.get_put]
    · rw [if_neg hnotFound]
      intro value hvalue
      cases hvalue

/-- The ConfigMap loop, when it ends well on a cache whose objects exist, leaves
every pool with a ConfigMap. -/
theorem syncConfigMaps_yields {c : Cluster} {state : State} {api : ApiServer}
    (hcache : ∀ configMap ∈ state.configMapLister.items,
      (api.configMaps.get (Resource.key configMap)).isSome = true) :
    (syncConfigMaps state c).Yields ApiServer.serve (fun _ api' => AllHaveConfigMap c api')
      api := by
  have hloop : (syncConfigMaps state c).Yields ApiServer.serve _ api :=
    Prog.yields_forEach
      (fun api => ∀ configMap ∈ state.configMapLister.items,
        (api.configMaps.get (Resource.key configMap)).isSome = true)
      (fun np api => (api.configMaps.get (configMapKey c np)).isSome = true) ?_ hcache
  · intro value hvalue
    exact (hloop value hvalue).2.1
  · intro np _ api hinv
    have hdone : (ensureNodePoolConfigMap state c np).Yields ApiServer.serve
        (fun _ api' => (api'.configMaps.get (configMapKey c np)).isSome = true) api := by
      unfold ensureNodePoolConfigMap
      split
      · intro value hvalue
        cases hvalue
      · rename_i configMap hbuilt
        have hkey : Resource.key configMap = configMapKey c np := by
          simp only [esConfigConfigMap, bind, Except.bind] at hbuilt
          split at hbuilt
          · cases hbuilt
          · exact Except.ok.inj hbuilt ▸ rfl
        rw [← hkey]
        exact Prog.yields_mapFail (ensureConfigMap_yields hinv)
    intro value hvalue
    exact ⟨fun configMap hmem => isSome_get_configMaps_run (hinv configMap hmem),
      hdone value hvalue, fun other hother => isSome_get_configMaps_run hother⟩

/-- `handling` returns no error only when the routine ended well. -/
theorem handling_yields {program : Program Unit} {tell : Err → Program Unit}
    {post : ApiServer → Prop} {api : ApiServer}
    (h : program.Yields ApiServer.serve (fun _ api' => post api') api) :
    (handling program tell).Yields ApiServer.serve
      (fun err api' => err = none → post api') api := by
  refine Prog.yields_bind (Prog.yields_attempt h) ?_
  intro outcome api' hpost
  split
  · intro _ _ _
    exact hpost _ rfl
  · intro err herr
    cases herr
  · rename_i e _
    have htell : (tell e).Yields ApiServer.serve (fun _ _ => True) api' := fun _ _ => trivial
    refine Prog.yields_bind htell ?_
    intro _ _ _ err herr hnone
    cases herr
    cases hnone

theorem subControl_yields {outcome : Option Err} {message : String}
    {rest : Program (Option Err)} {post : ApiServer → Prop} {api : ApiServer}
    (h : rest.Yields ApiServer.serve (fun err api' => err = none → post api') api) :
    (subControl outcome message rest).Yields ApiServer.serve
      (fun err api' => err = none → post api') api := by
  cases outcome with
  | none => exact h
  | some e =>
      intro err herr hnone
      have hsome : err = some e := (Except.ok.inj herr).symm
      rw [hnone] at hsome
      cases hsome

/-- A `Sync` without error on a cache whose ConfigMaps exist leaves every pool of
the spec with a ConfigMap. -/
theorem syncRun_allHaveConfigMap {w : World} {env : Environment}
    {faults : List (Option Fault)} {status : ElasticsearchClusterStatus}
    (hunpaused : w.cluster.spec.navigatorClusterConfig.paused = false)
    (hcache : ∀ configMap ∈ env.state.configMapLister.items,
      (w.api.configMaps.get (Resource.key configMap)).isSome = true)
    (hok : (w.syncRun env faults).1 = .ok (status, none)) :
    AllHaveConfigMap w.cluster (w.syncRun env faults).2 := by
  have hstages : (syncStages env (withPausedConditions env.now w.cluster)).Yields
      ApiServer.serve (fun err api' => err = none → AllHaveConfigMap w.cluster api')
      { w.api with faults := faults } := by
    apply subControl_yields
    apply subControl_yields
    apply subControl_yields
    apply subControl_yields
    refine Prog.yields_bind (handling_yields (syncConfigMaps_yields hcache)) ?_
    intro outcome api' hpost
    cases outcome with
    | some e =>
        intro err herr hnone
        rw [hnone] at herr
        cases herr
    | none =>
        intro err _ _ np hnp
        exact isSome_get_configMaps_run (hpost rfl np hnp)
  have hsync : (Elasticsearch.sync env w.cluster).Yields ApiServer.serve
      (fun outcome api' => outcome.2 = none → AllHaveConfigMap w.cluster api')
      { w.api with faults := faults } := by
    unfold Elasticsearch.sync
    simp only [withPausedConditions_spec, hunpaused, Bool.false_eq_true, if_false]
    refine Prog.yields_bind hstages ?_
    intro err api' hpost outcome houtcome hnone
    cases houtcome
    exact hpost hnone
  exact hsync _ hok rfl

theorem NoOtherMinimum.syncRun {w : World} {env : Environment}
    {faults : List (Option Fault)} {m : Int}
    (hm : minimumMasterNodes w.cluster.spec = .ok m)
    (hinv : NoOtherMinimum w.cluster w.api m) :
    NoOtherMinimum w.cluster (w.syncRun env faults).2 m := by
  apply syncRun_preserves fun api => NoOtherMinimum w.cluster api m
  · intro api request hinv hrequest
    have hserved : NoOtherMinimum (withPausedConditions env.now w.cluster)
        (api.serve request).2 m := NoOtherMinimum.serve hm hinv hrequest
    exact hserved
  · exact hinv

/-- One `Sync`: unpaused, without error and on a current ConfigMap cache, it ends
with the minimum of the spec in every ConfigMap if and only if no ConfigMap with
another minimum was stored for a pool of the spec before. -/
theorem syncRun_allHaveMinimum_iff {w : World} {env : Environment}
    {faults : List (Option Fault)} {status : ElasticsearchClusterStatus} {m : Int}
    (hunpaused : w.cluster.spec.navigatorClusterConfig.paused = false)
    (hcurrent : ConfigMapsCurrent w.api env.state)
    (hm : minimumMasterNodes w.cluster.spec = .ok m)
    (hok : (w.syncRun env faults).1 = .ok (status, none)) :
    AllHaveMinimum w.cluster (w.syncRun env faults).2 m ↔
      NoOtherMinimum w.cluster w.api m := by
  constructor
  · intro hafter np hnp configMap hget
    obtain ⟨configMap', hget', hminimum⟩ := hafter np hnp
    have hkept : (w.syncRun env faults).2.configMaps.get (configMapKey w.cluster np) =
        some configMap := get_configMaps_run hget
    rw [hkept] at hget'
    exact Option.some.inj hget' ▸ hminimum
  · intro hbefore np hnp
    have hcache : ∀ configMap ∈ env.state.configMapLister.items,
        (w.api.configMaps.get (Resource.key configMap)).isSome = true := by
      intro configMap hmem
      have hstored := hcurrent.2.mem_iff.mp hmem
      rw [(ObjectStore.get_eq_some_iff _).mpr ⟨hstored, rfl⟩]
      rfl
    obtain ⟨configMap, hget⟩ := Option.isSome_iff_exists.mp
      (syncRun_allHaveConfigMap hunpaused hcache hok np hnp)
    exact ⟨configMap, hget, hbefore.syncRun hm np hnp configMap hget⟩

/-- An edit that changes the minimum of the spec comes before the ConfigMaps of
the pools, not after them. -/
def editsKeepMinimum (w : World) : World.Step → Prop
  | .edit new => ∀ m, minimumMasterNodes new.spec = .ok m → NoOtherMinimum new w.api m
  | _ => True

/-- In a run whose edits keep the minimum, no ConfigMap stored for a pool of the
spec ever sets another minimum than that of the spec. -/
theorem noOtherMinimum_of_reachable {w : World}
    (hreach : World.machine.Reachable editsKeepMinimum w) :
    ∀ m, minimumMasterNodes w.cluster.spec = .ok m → NoOtherMinimum w.cluster w.api m := by
  apply Machine.Reachable.invariant (fun w : World =>
    ∀ m, minimumMasterNodes w.cluster.spec = .ok m → NoOtherMinimum w.cluster w.api m) _ _ hreach
  · intro w hcreated m _ np _ configMap hget
    obtain ⟨_, _, _, hempty⟩ := hcreated
    rw [hempty] at hget
    cases hget
  · intro w event w' hinv hkeeps hstep m hm
    rcases World.step_cases hstep with
      ⟨new, rfl, _, _, _, rfl⟩ | ⟨env, faults, rfl, _, rfl⟩ | ⟨key, status, set, rfl, _, rfl⟩
    · exact hkeeps m hm
    · have hsynced : NoOtherMinimum w.cluster (w.syncRun env faults).2 m :=
        (hinv m hm).syncRun hm
      exact hsynced
    · exact hinv m hm

/-- Whole runs: every `Sync` that is unpaused, returns no error and reads a
current ConfigMap cache ends with the minimum of the current spec in every
ConfigMap exactly when no stored one sets another; and in a run whose edits keep
the minimum, it always does. -/
theorem minimumMasters_across_edits {w : World} {env : Environment}
    {faults : List (Option Fault)} {status : ElasticsearchClusterStatus} {m : Int}
    (hunpaused : w.cluster.spec.navigatorClusterConfig.paused = false)
    (hcurrent : ConfigMapsCurrent w.api env.state)
    (hm : minimumMasterNodes w.cluster.spec = .ok m)
    (hok : (w.syncRun env faults).1 = .ok (status, none)) :
    (AllHaveMinimum w.cluster (w.syncRun env faults).2 m ↔
        NoOtherMinimum w.cluster w.api m) ∧
      (World.machine.Reachable editsKeepMinimum w →
        AllHaveMinimum w.cluster (w.syncRun env faults).2 m) := by
  have hiff := syncRun_allHaveMinimum_iff hunpaused hcurrent hm hok
  refine ⟨hiff, ?_⟩
  intro hreach
  exact hiff.mpr (noOtherMinimum_of_reachable hreach m hm)

namespace MinimumWitness

def cluster (masters : Int) : Cluster :=
  sampleCluster "db" "uid-db" (release 6 1 1) [samplePool "all" masters [.master, .data]]

def start : World := { cluster := cluster 1, api := {} }

/-- Create the ConfigMap and the pool, then ask for three masters. -/
def edited : World :=
  (World.machine.exec start [.sync (World.currentEnv {} []) [], .edit (cluster 3)]).getD start

theorem minimumMasters_across_edits_first_sync :
    AllHaveMinimum start.cluster (start.syncRun (World.currentEnv {} []) []).2 1 :=
  (minimumMasters_across_edits (by decide)
    (show ConfigMapsCurrent start.api (World.currentEnv {} []).state from ⟨rfl, List.Perm.refl []⟩)
    (by decide +kernel)
    (show (start.syncRun (World.currentEnv {} []) []).1 = .ok ({}, none) by decide +kernel)).2
    (.start ⟨by decide +kernel, by decide +kernel, rfl, rfl⟩)

/-- The edit from one master to three is accepted, the next `Sync` reads current
caches and returns no error, and the ConfigMap still sets the minimum to 1 where
the spec asks for a quorum of 2. -/
theorem minimumMasters_stale_after_edit :
    validateElasticsearchCluster start.cluster = .ok [] ∧
      (World.machine.exec start
        [.sync (World.currentEnv {} []) [], .edit (cluster 3)]).isSome = true ∧
      validateElasticsearchClusterUpdate (cluster 1) (cluster 3) = .ok [] ∧
      minimumMasterNodes edited.cluster.spec = .ok 2 ∧
      ((edited.syncRun (World.currentEnv edited.api []) []).1 = .ok ({}, none)) ∧
      (((edited.syncRun (World.currentEnv edited.api []) []).2.configMaps.get
        (configMapKey (cluster 3) (samplePool "all" 3 [.master, .data]))).map
          fun configMap => StringMap.get? configMap.data configFileName) =
            some (some (renderConfig 1)) ∧
      renderConfig 1 ≠ renderConfig 2 := by
  decide +kernel

end MinimumWitness

end Elasticsearch

end Navigator
