/-
The status that a `Sync` reports.  The update of the node pool statuses is
deferred: it runs when the results of `Sync` are already evaluated, on the
caches of that moment.
-/
import Navigator.Elasticsearch.ClusterControl

namespace Navigator

open ControlLoop

namespace Elasticsearch

/-- `Sync` with the caches that the deferred update reads: informers go on
filling the caches while `Sync` runs. -/
def syncDeferring (env : Environment) (later : State) (cluster : Cluster) :
    Program (ElasticsearchClusterStatus × Option Err) :=
  let c := withPausedConditions env.now cluster
  if c.spec.navigatorClusterConfig.paused then .ret (c.status, none)
  else do
    let err ← syncStages env c
    pure (returnedStatus later c, err)

/-- On caches that stand still this is `Sync`. -/
theorem syncDeferring_self (env : Environment) (c : Cluster) :
    syncDeferring env env.state c = sync env c := rfl

/-- The lookup of a pool's StatefulSet. -/
def lookup (state : State) (c : Cluster) (np : NodePool) : Except Err StatefulSet :=
  state.statefulSetLister.get "statefulset.apps" c.metadata.namespaceName
    (nodePoolResourceName c np)

/-- `updateClusterStatus`, which allocates the map when it is nil. -/
def updateClusterStatus (state : State) (c : Cluster) : Cluster × Option Err :=
  let updated := updateNodePoolStatuses state c c.spec.nodePools (c.status.nodePools.getD ∅)
  ({ c with status := { c.status with nodePools := some updated.1 } }, updated.2)

/-- `status.NodePools[name].ReadyReplicas`; a missing entry reads as zero. -/
def reportedReady (status : ElasticsearchClusterStatus) (name : String) : Int :=
  ((status.nodePools.getD ∅).getD name {}).readyReplicas

/-- The status agrees with the cached StatefulSets. -/
def ReportsCache (state : State) (c : Cluster) (status : ElasticsearchClusterStatus) : Prop :=
  ∀ np ∈ c.spec.nodePools, ∀ set, lookup state c np = .ok set →
    reportedReady status np.name = set.status.readyReplicas

/-- No lookup fails for another reason than a missing StatefulSet. -/
def LookupsWork (state : State) (c : Cluster) : Prop :=
  ∀ np ∈ c.spec.nodePools, ∀ e, lookup state c np = .error e → e.isNotFound = true

theorem lookup_congr {state : State} {c : Cluster} {np np' : NodePool}
    (h : np.name = np'.name) : lookup state c np = lookup state c np' := by
  unfold lookup nodePoolResourceName
  rw [h]

/-- The update ends without an error exactly when all lookups work. -/
theorem updateNodePoolStatuses_error_iff {state : State} {c : Cluster} {pools : List NodePool}
    {statuses : Std.ExtTreeMap String NodePoolStatus} :
    (updateNodePoolStatuses state c pools statuses).2 = none ↔
      ∀ np ∈ pools, ∀ e, lookup state c np = .error e → e.isNotFound = true := by
  induction pools generalizing statuses with
  | nil => simp [updateNodePoolStatuses]
  | cons pool rest ih =>
      rw [List.forall_mem_cons]
      unfold updateNodePoolStatuses
      cases hlookup : lookup state c pool with
      | ok set =>
          rw [lookup] at hlookup
          simp only [hlookup, ih, reduceCtorEq, false_implies, implies_true, true_and]
      | error e =>
          rw [lookup] at hlookup
          by_cases hmissing : e.isNotFound = true
          · simp only [hlookup, hmissing, if_true, ih, Except.error.injEq, forall_eq', true_and]
          · simp only [hlookup, hmissing, if_false, Except.error.injEq, forall_eq', false_and,
              reduceCtorEq]

theorem updateClusterStatus_error_iff {state : State} {c : Cluster} :
    (updateClusterStatus state c).2 = none ↔ LookupsWork state c :=
  updateNodePoolStatuses_error_iff

/-- An entry that is right already, or whose pool is still to come, is right in
the end: pools of one name have one StatefulSet. -/
theorem getElem?_updateNodePoolStatuses {state : State} {c : Cluster} {np : NodePool}
    {set : StatefulSet} (hset : lookup state c np = .ok set) {pools : List NodePool}
    (statuses : Std.ExtTreeMap String NodePoolStatus)
    (h : statuses[np.name]? = some (⟨set.status.readyReplicas⟩ : NodePoolStatus) ∨ np ∈ pools) :
    (updateNodePoolStatuses state c pools statuses).1[np.name]? =
      some ⟨set.status.readyReplicas⟩ := by
  induction pools generalizing statuses with
  | nil => exact h.resolve_right List.not_mem_nil
  | cons pool rest ih =>
      unfold updateNodePoolStatuses
      cases hlookup : lookup state c pool with
      | error e =>
          have hmissing : e.isNotFound = true := Lister.isNotFound_of_get_ok hset hlookup
          have hother : np ≠ pool := by
            rintro rfl
            rw [hset] at hlookup
            cases hlookup
          rw [lookup] at hlookup
          simp only [hlookup, if_pos hmissing]
          exact ih statuses (h.imp_right fun hmem => (List.mem_cons.mp hmem).resolve_left hother)
      | ok found =>
          have hfound := hlookup
          rw [lookup] at hlookup
          simp only [hlookup]
          apply ih
          by_cases hname : pool.name = np.name
          · left
            rw [lookup_congr hname, hset] at hfound
            rw [Std.ExtTreeMap.getElem?_insert, if_pos (hname ▸ Std.ReflCmp.compare_self),
              Except.ok.inj hfound]
          · rw [Std.ExtTreeMap.getElem?_insert,
              if_neg fun hcompare => hname (Std.LawfulEqCmp.eq_of_compare hcompare)]
            exact h.imp_right fun hmem =>
              (List.mem_cons.mp hmem).resolve_left fun heq => hname (heq ▸ rfl)

/-- What `Sync` returns when it returns. -/
theorem syncDeferring_run_eq_ok {env : Environment} {later : State} {c : Cluster}
    {api : ApiServer} {status : ElasticsearchClusterStatus} {err : Option Err}
    (hactive : c.spec.navigatorClusterConfig.paused = false)
    (hrun : ((syncDeferring env later c).run ApiServer.serve api).1 = .ok (status, err)) :
    status = returnedStatus later (withPausedConditions env.now c) ∧
      ((syncStages env (withPausedConditions env.now c)).run ApiServer.serve api).1 = .ok err := by
  have hunpaused : ¬ (withPausedConditions env.now c).spec.navigatorClusterConfig.paused = true := by
    change ¬ c.spec.navigatorClusterConfig.paused = true
    rw [hactive]
    exact Bool.false_ne_true
  unfold syncDeferring at hrun
  simp only [if_neg hunpaused, Prog.run_bind] at hrun
  cases hstages : (syncStages env (withPausedConditions env.now c)).run ApiServer.serve api with
  | mk outcome after =>
      rw [hstages] at hrun
      cases outcome with
      | error e => cases hrun
      | ok value =>
          cases hrun
          exact ⟨rfl, rfl⟩

/-- The returned status agrees with the caches exactly when there was a map to
update, or nothing to report. -/
theorem returnedStatus_reportsCache_iff {state : State} {c : Cluster} :
    ReportsCache state c (returnedStatus state c) ↔
      c.status.nodePools ≠ none ∨ ∀ np ∈ c.spec.nodePools, ∀ set,
        lookup state c np = .ok set → set.status.readyReplicas = 0 := by
  cases hpools : c.status.nodePools with
  | none =>
      have hreported : ∀ name, reportedReady (returnedStatus state c) name = 0 := by
        intro name
        simp [returnedStatus, hpools, reportedReady]
      simp only [ReportsCache, hreported, ne_eq, not_true_eq_false, false_or]
      exact forall₂_congr fun np hnp => forall₂_congr fun set hset => eq_comm
  | some statuses =>
      simp only [ne_eq, reduceCtorEq, not_false_eq_true, true_or, iff_true]
      intro np hnp set hset
      have hentry := getElem?_updateNodePoolStatuses hset statuses (Or.inr hnp)
      simp only [returnedStatus, hpools, reportedReady, Option.getD_some,
        Std.ExtTreeMap.getD_eq_getD_getElem?, hentry]

section Requests

/-- The server refuses one of the requests, which come in this order. -/
def Refuses (api : ApiServer) : List Request → Prop
  | [] => False
  | request :: rest => (api.serve request).1 ≠ none ∨ Refuses (api.serve request).2 rest

/-- The server after the requests. -/
def served (api : ApiServer) (requests : List Request) : ApiServer :=
  requests.foldl (fun api request => (api.serve request).2) api

theorem refuses_append {api : ApiServer} {first second : List Request} :
    Refuses api (first ++ second) ↔ Refuses api first ∨ Refuses (served api first) second := by
  induction first generalizing api with
  | nil => exact (or_iff_right id).symm
  | cons request rest ih =>
      rw [List.cons_append, Refuses, Refuses, ih, or_assoc]
      rfl

/-- A part of a `Sync` that issues at most one request, whose answer decides how it
ends. -/
structure Asks (program : Program Unit) (request : Option Request) : Prop where
  ends : ∀ api, (program.run ApiServer.serve api).1 = .ok () ↔ ¬ Refuses api request.toList
  leaves : ∀ api, (program.run ApiServer.serve api).2 = served api request.toList

theorem asks_ret : Asks (.ret ()) none :=
  ⟨fun _ => iff_of_true rfl id, fun _ => rfl⟩

theorem error_ne_ok {ε α : Type} {e : ε} {a : α} : (.error e : Except ε α) ≠ .ok a := by
  simp

theorem asks_issue (request : Request) : Asks (issue request) (some request) := by
  have hrun : ∀ api, (issue request).run ApiServer.serve api =
      ((api.serve request).1.elim (.ok ()) .error, (api.serve request).2) := by
    intro api
    simp only [issue, Prog.run]
    cases (api.serve request).1 with
    | none => rfl
    | some e => rfl
  refine ⟨fun api => ?_, fun api => congrArg Prod.snd (hrun api)⟩
  simp only [hrun, Option.toList_some, Refuses, or_false, ne_eq, not_not]
  cases (api.serve request).1 with
  | none => exact iff_of_true rfl rfl
  | some e => exact iff_of_false error_ne_ok (Option.some_ne_none e)

theorem run_mapFail {rewrite : Err → Err} (program : Program Unit) (api : ApiServer) :
    (program.mapFail rewrite).run ApiServer.serve api =
      ((program.run ApiServer.serve api).1.mapError rewrite,
        (program.run ApiServer.serve api).2) := by
  induction program generalizing api with
  | ret value => rfl
  | fail e => rfl
  | call request next ih => exact ih _ _

theorem Asks.mapFail {rewrite : Err → Err} {program : Program Unit} {request : Option Request}
    (h : Asks program request) : Asks (program.mapFail rewrite) request := by
  refine ⟨fun api => ?_, fun api => ?_⟩
  · rw [run_mapFail, ← h.ends api]
    cases (program.run ApiServer.serve api).1 with
    | ok value => exact Iff.rfl
    | error e => exact iff_of_false error_ne_ok error_ne_ok
  · rw [run_mapFail, h.leaves]

variable {β : Type} {items : List β} {body : β → Program Unit}
  {request : β → Except Err (Option Request)}

/-- The requests of a loop whose rounds each have a request, or none, or fail. -/
def loopRequests (request : β → Except Err (Option Request)) (items : List β) : List Request :=
  items.filterMap fun item => (request item).toOption.join

theorem loopRequests_cons {item : β} {asked : Option Request} (h : request item = .ok asked)
    (rest : List β) :
    loopRequests request (item :: rest) = asked.toList ++ loopRequests request rest := by
  cases asked with
  | none => simp [loopRequests, h, Except.toOption]
  | some r => simp [loopRequests, h, Except.toOption]

/-- The loop ends well exactly when no round fails and no request is refused. -/
theorem run_forEach_eq_ok_iff
    (hasks : ∀ item ∈ items, ∀ asked, request item = .ok asked → Asks (body item) asked)
    (hfails : ∀ item ∈ items, ∀ e, request item = .error e → ∀ api,
      ((body item).run ApiServer.serve api).1 ≠ .ok ()) (api : ApiServer) :
    (((Prog.forEach items body).run ApiServer.serve api).1 = .ok () ↔
      (∀ item ∈ items, ∀ e, request item ≠ .error e) ∧
        ¬ Refuses api (loopRequests request items)) ∧
    (((Prog.forEach items body).run ApiServer.serve api).1 = .ok () →
      ((Prog.forEach items body).run ApiServer.serve api).2 =
        served api (loopRequests request items)) := by
  induction items generalizing api with
  | nil =>
      have hnone : (∀ item ∈ ([] : List β), ∀ e, request item ≠ .error e) ∧
          ¬ Refuses api (loopRequests request []) :=
        ⟨fun _ h => absurd h List.not_mem_nil, id⟩
      exact ⟨iff_of_true rfl hnone, fun _ => rfl⟩
  | cons item rest ih =>
      obtain ⟨hitem, hrest⟩ := List.forall_mem_cons.mp hasks
      obtain ⟨hitem', hrest'⟩ := List.forall_mem_cons.mp hfails
      have hrun := Prog.run_bind ApiServer.serve (body item)
        (fun _ => Prog.forEach rest body) api
      rw [Prog.forEach, hrun, List.forall_mem_cons]
      cases hrequest : request item with
      | error e =>
          have hfailed := hitem' e hrequest api
          generalize (body item).run ApiServer.serve api = outcome at hfailed ⊢
          obtain ⟨⟨e'⟩ | ⟨⟩, api'⟩ := outcome
          · exact ⟨iff_of_false error_ne_ok fun h => h.1.1 e rfl, fun h => absurd h error_ne_ok⟩
          · exact absurd rfl hfailed
      | ok asked =>
          have hends := (hitem asked hrequest).ends api
          have hleaves := (hitem asked hrequest).leaves api
          rw [loopRequests_cons hrequest, refuses_append, not_or, ← hends, ← hleaves,
            and_iff_right fun e => error_ne_ok.symm]
          generalize (body item).run ApiServer.serve api = outcome at hleaves ⊢
          obtain ⟨⟨e'⟩ | ⟨⟩, api'⟩ := outcome
          · exact ⟨iff_of_false error_ne_ok fun h => error_ne_ok h.2.1,
              fun h => absurd h error_ne_ok⟩
          · obtain ⟨hiff, hstate⟩ := ih hrest hrest' api'
            refine ⟨hiff.trans (and_congr_right fun _ => (and_iff_right rfl).symm), fun h => ?_⟩
            rw [served, List.foldl_append]
            exact (hstate h).trans (congrArg (served · (loopRequests request rest)) hleaves)

end Requests

section Stages

/-- The request for the ConfigMap of a pool: none if it is cached, and an error if the
cache cannot be read. -/
def configMapRequest (state : State) (c : Cluster) (np : NodePool) :
    Except Err (Option Request) :=
  match esConfigConfigMap c np with
  | .error _ => .error .nilDereference
  | .ok configMap =>
      match state.configMapLister.get "configmap" (namespaceOf configMap) (nameOf configMap) with
      | .ok _ => .ok none
      | .error e => if e.isNotFound then .ok (some (.createConfigMap configMap)) else .error e

/-- The requests for the ConfigMaps that are missing. -/
def configMapRequests (state : State) (c : Cluster) : List Request :=
  loopRequests (configMapRequest state c) c.spec.nodePools

/-- The StatefulSets of the cluster that no pool claims. -/
def orphans (state : State) (c : Cluster) : Except Err (List StatefulSet) := do
  let selector ← selectorForCluster c.metadata.name
  let sets ← state.statefulSetLister.list c.metadata.namespaceName selector
  pure (unclaimed c.spec.nodePools sets)

/-- The request for such a StatefulSet. -/
def orphanRequest (c : Cluster) (set : StatefulSet) : Option Request :=
  if isControlledBy set c then some (.deleteStatefulSet (namespaceOf set) (nameOf set)) else none

variable {state : State} {c : Cluster}

theorem asks_ensureNodePoolConfigMap {np : NodePool} {asked : Option Request}
    (h : configMapRequest state c np = .ok asked) :
    Asks (ensureNodePoolConfigMap state c np) asked := by
  unfold configMapRequest at h
  unfold ensureNodePoolConfigMap ensureConfigMap
  cases hbuilt : esConfigConfigMap c np with
  | error e => simp only [hbuilt, reduceCtorEq] at h
  | ok configMap =>
      simp only [hbuilt] at h ⊢
      cases hget : state.configMapLister.get "configmap" (namespaceOf configMap)
          (nameOf configMap) with
      | ok cached =>
          simp only [hget, Except.ok.injEq] at h ⊢
          exact h ▸ asks_ret.mapFail
      | error e =>
          simp only [hget] at h ⊢
          split_ifs at h ⊢
          exact Except.ok.inj h ▸ (asks_issue _).mapFail

theorem ensureNodePoolConfigMap_fails {np : NodePool} {e : Err}
    (h : configMapRequest state c np = .error e) (api : ApiServer) :
    ((ensureNodePoolConfigMap state c np).run ApiServer.serve api).1 ≠ .ok () := by
  unfold configMapRequest at h
  unfold ensureNodePoolConfigMap ensureConfigMap
  cases hbuilt : esConfigConfigMap c np with
  | error e => exact error_ne_ok
  | ok configMap =>
      simp only [hbuilt] at h ⊢
      cases hget : state.configMapLister.get "configmap" (namespaceOf configMap)
          (nameOf configMap) with
      | ok cached => simp only [hget, reduceCtorEq] at h
      | error e =>
          simp only [hget] at h ⊢
          split_ifs at h ⊢
          exact error_ne_ok

theorem asks_deleteIfControlled (set : StatefulSet) :
    Asks (deleteIfControlled c set) (orphanRequest c set) := by
  unfold deleteIfControlled orphanRequest
  split
  · exact asks_issue _
  · exact asks_ret

/-- `handling` returns no error exactly when the routine ends well. -/
theorem run_handling_eq_ok {program : Program Unit} {tell : Err → Program Unit}
    {api : ApiServer} {err : Option Err}
    (h : ((handling program tell).run ApiServer.serve api).1 = .ok err) :
    (err = none ↔ (program.run ApiServer.serve api).1 = .ok ()) ∧
      (err = none → ((handling program tell).run ApiServer.serve api).2 =
        (program.run ApiServer.serve api).2) := by
  unfold handling at h ⊢
  rw [Prog.run_bind, Prog.run_attempt] at h ⊢
  generalize program.run ApiServer.serve api = outcome at h ⊢
  obtain ⟨e | ⟨⟩, api'⟩ := outcome
  · have hsome : err ≠ none := by
      rintro rfl
      cases e with
      | nilDereference => cases h
      | _ =>
          simp only [Prog.run_bind] at h
          split at h
          · cases h
          · cases h
    exact ⟨iff_of_false hsome error_ne_ok, fun hnone => absurd hnone hsome⟩
  · cases h
    exact ⟨iff_of_true rfl rfl, fun _ => rfl⟩

theorem subControl_error_iff {outcome : Option Err} {message : String}
    {rest : Program (Option Err)} {api : ApiServer} {err : Option Err} {fails : Prop}
    (hrest : (rest.run ApiServer.serve api).1 = .ok err → (err ≠ none ↔ fails))
    (h : ((subControl outcome message rest).run ApiServer.serve api).1 = .ok err) :
    err ≠ none ↔ outcome ≠ none ∨ fails := by
  cases outcome with
  | none => exact (hrest h).trans (or_iff_right (not_not.mpr rfl)).symm
  | some e =>
      cases h
      exact iff_of_true (Option.some_ne_none _) (.inl (Option.some_ne_none e))

/-- What ends the ConfigMap stage with an error. -/
inductive ConfigMapsFail (state : State) (c : Cluster) (api : ApiServer) : Prop where
  | cache {np : NodePool} {e : Err} (pool : np ∈ c.spec.nodePools)
      (failed : configMapRequest state c np = .error e)
  | refused (refuses : Refuses api (configMapRequests state c))

theorem run_syncConfigMaps (state : State) (c : Cluster) (api : ApiServer) :
    (((syncConfigMaps state c).run ApiServer.serve api).1 = .ok () ↔ ¬ ConfigMapsFail state c api) ∧
      (((syncConfigMaps state c).run ApiServer.serve api).1 = .ok () →
        ((syncConfigMaps state c).run ApiServer.serve api).2 =
          served api (configMapRequests state c)) := by
  have hasks : ∀ np ∈ c.spec.nodePools, ∀ asked, configMapRequest state c np = .ok asked →
      Asks (ensureNodePoolConfigMap state c np) asked :=
    fun np _ asked h => asks_ensureNodePoolConfigMap h
  have hloop := run_forEach_eq_ok_iff hasks
    (fun np _ _ h => ensureNodePoolConfigMap_fails h) api
  refine ⟨hloop.1.trans ⟨?_, ?_⟩, hloop.2⟩
  · rintro ⟨hcache, haccepts⟩ (⟨hpool, hfailed⟩ | hrefuses)
    · exact hcache _ hpool _ hfailed
    · exact haccepts hrefuses
  · intro hworks
    exact ⟨fun np hnp e h => hworks (.cache hnp h), fun h => hworks (.refused h)⟩

/-- What ends the work on the node pools with an error. -/
inductive NodePoolsFail (state : State) (c : Cluster) (api : ApiServer) : Prop where
  /-- The caches do not tell the next action. -/
  | planning {e : Err} (failed : nextAction state c = .error e)
  | action {action : Action} {e : Err} (chosen : nextAction state c = .ok (some action))
      (failed : ((action.execute state).run ApiServer.serve api).1 = .error e)
  /-- The StatefulSets that are left over cannot be listed. -/
  | cache {e : Err} (idle : nextAction state c = .ok none) (failed : orphans state c = .error e)
  | refused {sets : List StatefulSet} (idle : nextAction state c = .ok none)
      (listed : orphans state c = .ok sets)
      (refuses : Refuses api (sets.filterMap (orphanRequest c)))

theorem run_reconcileNodePools (state : State) (c : Cluster) (api : ApiServer) :
    ((reconcileNodePools state c).run ApiServer.serve api).1 = .ok () ↔
      ∃ sets, orphans state c = .ok sets ∧
        ¬ Refuses api (sets.filterMap (orphanRequest c)) := by
  unfold reconcileNodePools orphans
  cases selectorForCluster c.metadata.name with
  | error e => exact iff_of_false error_ne_ok fun h => error_ne_ok h.choose_spec.1
  | ok selector =>
      simp only [bind, Except.bind]
      cases state.statefulSetLister.list c.metadata.namespaceName selector with
      | error e => exact iff_of_false error_ne_ok fun h => error_ne_ok h.choose_spec.1
      | ok sets =>
          have hasks : ∀ set ∈ unclaimed c.spec.nodePools sets, ∀ asked,
              (.ok (orphanRequest c set) : Except Err (Option Request)) = .ok asked →
                Asks (deleteIfControlled c set) asked :=
            fun set _ asked h => Except.ok.inj h ▸ asks_deleteIfControlled set
          have hall : ∀ set ∈ unclaimed c.spec.nodePools sets, ∀ e,
              (.ok (orphanRequest c set) : Except Err (Option Request)) ≠ .error e :=
            fun _ _ _ => error_ne_ok.symm
          have hloop := (run_forEach_eq_ok_iff hasks
            (fun set hset e he => absurd he (hall set hset e)) api).1
          rw [and_iff_right hall] at hloop
          refine hloop.trans ⟨fun h => ⟨_, rfl, h⟩, ?_⟩
          rintro ⟨_, hlisted, haccepts⟩
          cases hlisted
          exact haccepts

theorem syncNodePools_error_iff {api : ApiServer} {err : Option Err}
    (h : ((syncNodePools state c).run ApiServer.serve api).1 = .ok err) :
    err ≠ none ↔ NodePoolsFail state c api := by
  unfold syncNodePools at h
  cases hnext : nextAction state c with
  | error e =>
      have hsome : err ≠ none := by
        rintro rfl
        rw [hnext] at h
        cases e with
        | nilDereference => cases h
        | _ => cases h
      exact iff_of_true hsome (.planning hnext)
  | ok chosen =>
      rw [hnext] at h
      cases chosen with
      | some action =>
          rw [ne_eq, (run_handling_eq_ok h).1]
          cases hrun : ((action.execute state).run ApiServer.serve api).1 with
          | error e => exact iff_of_true error_ne_ok (.action hnext hrun)
          | ok value =>
              refine iff_of_false (not_not.mpr rfl) ?_
              rintro (hfailed | ⟨hchosen, hfailed⟩ | ⟨hidle, _⟩ | ⟨hidle, _, _⟩)
              · cases hnext.symm.trans hfailed
              · cases hnext.symm.trans hchosen
                cases hrun.symm.trans hfailed
              · cases hnext.symm.trans hidle
              · cases hnext.symm.trans hidle
      | none =>
          rw [ne_eq, (run_handling_eq_ok h).1, run_reconcileNodePools]
          constructor
          · intro hnot
            cases horphans : orphans state c with
            | error e => exact .cache hnext horphans
            | ok sets =>
                refine .refused hnext horphans ?_
                by_contra haccepts
                exact hnot ⟨sets, horphans, haccepts⟩
          · rintro (hfailed | ⟨hchosen, _⟩ | ⟨_, hfailed⟩ | ⟨_, hlisted, hrefuses⟩)
              ⟨sets, horphans, haccepts⟩
            · cases hnext.symm.trans hfailed
            · cases hnext.symm.trans hchosen
            · cases horphans.symm.trans hfailed
            · cases horphans.symm.trans hlisted
              exact haccepts hrefuses

/-- What ends a `Sync` with an error before the deferred update: a sub-controller, the
ConfigMaps, or the node pools, which come when the ConfigMaps are created. -/
inductive EarlierFailure (env : Environment) (c : Cluster) (api : ApiServer) : Prop where
  | serviceAccount (failed : env.serviceAccount ≠ none)
  | service (failed : env.service ≠ none)
  | role (failed : env.role ≠ none)
  | roleBinding (failed : env.roleBinding ≠ none)
  | configMaps (fails : ConfigMapsFail env.state c api)
  | nodePools (fails : NodePoolsFail env.state c (served api (configMapRequests env.state c)))

theorem syncStages_error_iff {env : Environment} {api : ApiServer} {err : Option Err}
    (h : ((syncStages env c).run ApiServer.serve api).1 = .ok err) :
    err ≠ none ↔ EarlierFailure env c api := by
  have hstages : err ≠ none ↔ env.serviceAccount ≠ none ∨ env.service ≠ none ∨ env.role ≠ none ∨
      env.roleBinding ≠ none ∨ ConfigMapsFail env.state c api ∨
        NodePoolsFail env.state c (served api (configMapRequests env.state c)) := by
    refine subControl_error_iff (fun h => ?_) h
    refine subControl_error_iff (fun h => ?_) h
    refine subControl_error_iff (fun h => ?_) h
    refine subControl_error_iff (fun h => ?_) h
    obtain ⟨hends, hleaves⟩ := run_syncConfigMaps env.state c api
    rw [Prog.run_bind] at h
    cases hhandled : (handling (syncConfigMaps env.state c) fun e => record .warning errorSync
        ("Error syncing config map: " ++ e.error)).run ApiServer.serve api with
    | mk outcome api' =>
        rw [hhandled] at h
        cases outcome with
        | error e => cases h
        | ok first =>
            obtain ⟨hnone, hafter⟩ := run_handling_eq_ok (congrArg Prod.fst hhandled)
            rw [hhandled] at hafter
            cases first with
            | some e =>
                cases h
                have hfails : ConfigMapsFail env.state c api := by
                  by_contra hworks
                  cases hnone.mpr (hends.mpr hworks)
                exact iff_of_true (Option.some_ne_none _) (.inl hfails)
            | none =>
                have hok := hnone.mp rfl
                obtain rfl : api' = served api (configMapRequests env.state c) :=
                  (hafter rfl).trans (hleaves hok)
                rw [or_iff_right (hends.mp hok)]
                exact syncNodePools_error_iff h
  rw [hstages]
  constructor
  · rintro (h | h | h | h | h | h)
    · exact .serviceAccount h
    · exact .service h
    · exact .role h
    · exact .roleBinding h
    · exact .configMaps h
    · exact .nodePools h
  · rintro (h | h | h | h | h | h)
    · exact .inl h
    · exact .inr (.inl h)
    · exact .inr (.inr (.inl h))
    · exact .inr (.inr (.inr (.inl h)))
    · exact .inr (.inr (.inr (.inr (.inl h))))
    · exact .inr (.inr (.inr (.inr (.inr h))))

end Stages

/-- A `Sync` that returns reports the ready replicas of the cached StatefulSets
and the error of the deferred update, exactly when the cluster has a node pool
map already or no pool has a ready replica, and when the update has no error or
an earlier part of `Sync` had one. -/
theorem sync_reports_iff {env : Environment} {later : State} {c : Cluster} {api : ApiServer}
    {status : ElasticsearchClusterStatus} {err : Option Err}
    (hactive : c.spec.navigatorClusterConfig.paused = false)
    (hrun : ((syncDeferring env later c).run ApiServer.serve api).1 = .ok (status, err)) :
    (ReportsCache later c status ∧ ((updateClusterStatus later c).2 ≠ none → err ≠ none)) ↔
      (c.status.nodePools ≠ none ∨ ∀ np ∈ c.spec.nodePools, ∀ set,
        lookup later c np = .ok set → set.status.readyReplicas = 0) ∧
      (LookupsWork later c ∨ EarlierFailure env (withPausedConditions env.now c) api) := by
  obtain ⟨rfl, hstages⟩ := syncDeferring_run_eq_ok hactive hrun
  apply and_congr
  · exact returnedStatus_reportsCache_iff (c := withPausedConditions env.now c)
  · rw [syncStages_error_iff hstages, ne_eq, updateClusterStatus_error_iff, or_iff_not_imp_left]

namespace ReportedStatusWitness

def pool : NodePool := samplePool "all" 1 [.master, .data]

/-- A cluster at the version of its StatefulSet, with the map given. -/
def cluster (nodePools : Option (Std.ExtTreeMap String NodePoolStatus)) : Cluster :=
  { sampleCluster "db" "uid-db" (release 6 1 1) [pool] with status := { nodePools := nodePools } }

/-- Caches with the StatefulSet of the pool, whose replica is ready. -/
def caches (failure : Option Err) : State where
  statefulSetLister :=
    { items := (nodePoolStatefulSet (cluster none) pool).toOption.toList.map fun set =>
        { set with status := { set.status with readyReplicas := 1 } }
      failure := failure }
  configMapLister := { items := [] }
  pilotLister := { items := [] }
  podLister := { items := [] }

def env : Environment := { state := caches none }

/-- What a `Sync` on an empty server returns. -/
def result (later : State) (c : Cluster) :
    Except Err (ElasticsearchClusterStatus × Option Err) :=
  ((syncDeferring env later c).run ApiServer.serve {}).1

def reported : ElasticsearchClusterStatus where
  nodePools := some ((∅ : Std.ExtTreeMap String NodePoolStatus).insert "all" ⟨1⟩)

theorem sync_reports_iff_ready :
    result (caches none) (cluster (some ∅)) = .ok (reported, none) ∧
      ReportsCache (caches none) (cluster (some ∅)) reported := by
  have hrun : result (caches none) (cluster (some ∅)) = .ok (reported, none) := by
    decide +kernel
  have hworks : LookupsWork (caches none) (cluster (some ∅)) :=
    updateClusterStatus_error_iff.mp (by decide +kernel)
  exact ⟨hrun, ((sync_reports_iff rfl hrun).mpr ⟨Or.inl (by decide), Or.inl hworks⟩).1⟩

/-- The status of a cluster without a map stays without one although a replica
is ready; and the error of the update is lost. -/
theorem sync_reports_neither :
    (result (caches none) (cluster none) = .ok ({}, none) ∧
      ∃ set, lookup (caches none) (cluster none) pool = .ok set ∧
        set.status.readyReplicas = 1 ∧ reportedReady {} pool.name = 0) ∧
    result (caches (some (.plain "cache"))) (cluster (some ∅)) =
      .ok ({ nodePools := some ∅ }, none) ∧
      (updateClusterStatus (caches (some (.plain "cache"))) (cluster (some ∅))).2 =
        some (.plain "cache") := by
  refine ⟨⟨by decide +kernel, ?_⟩, by decide +kernel⟩
  exact ⟨_, rfl, by decide +kernel⟩

end ReportedStatusWitness

end Elasticsearch

end Navigator
