/-
The pilot controller: it creates a Pilot for every pod of the cache that has
none.
-/
import Navigator.Base.Machine
import Navigator.Client

namespace Navigator

open ControlLoop

namespace PilotController

/-- `cache.SplitMetaNamespaceKey`. -/
def splitMetaNamespaceKey (key : String) : Except Err (String × String) :=
  match split '/' key with
  | [name] => .ok ("", name)
  | [namespaceName, name] => .ok (namespaceName, name)
  | _ => .error (.plain ("unexpected key format: " ++ quoted key))

def successSync : String := "SuccessSync"

def messageSuccessSync : String := "Successfully synced pods"

/-- The Pilot is owned by its pod. -/
def pilotForPod (pod : Pod) : Pilot where
  metadata :=
    { name := nameOf pod
      namespaceName := namespaceOf pod
      ownerReferences := [newControllerRef "v1" "Pod" pod] }

def createPilot (pod : Pod) : Program Unit := do
  match ← (issue (.createPilot (pilotForPod pod))).attempt with
  | .ok _ => pure ()
  | .error e =>
      if e.isAlreadyExists then pure () else .fail (e.wrap "unable to create pilot")

/-- `sync`.  A key that cannot be parsed is dropped. -/
def sync (state : State) (key : String) : Program Unit :=
  match splitMetaNamespaceKey key with
  | .error _ => .ret ()
  | .ok (namespaceName, name) =>
      match state.podLister.get "pod" namespaceName name with
      | .error e => if e.isNotFound then .ret () else .fail (e.wrap "unable to get pod")
      | .ok pod =>
          if pod.metadata.deleted then .ret ()
          else match state.pilotLister.get "pilot.navigator.jetstack.io" namespaceName name with
            | .ok _ => .ret ()
            | .error e =>
                if e.isNotFound then do
                  createPilot pod
                  record .normal successSync messageSuccessSync
                else .fail (e.wrap "unable to get pilot")

/-- The requests of a `sync`. -/
inductive Creates : Request → Prop where
  | event (event : Event) : Creates (.recordEvent event)
  | pilot (pod : Pod) : Creates (.createPilot (pilotForPod pod))

theorem createPilot_all (pod : Pod) : (createPilot pod).All Creates := by
  have hissue : (issue (.createPilot (pilotForPod pod))).All Creates :=
    safe_issue.mpr ⟨.pilot pod, trivial⟩
  apply Prog.safe_bind ((Prog.safe_attempt hissue).mono (fun _ h => h) (fun _ _ => trivial))
  intro outcome _
  split
  · trivial
  · split
    · trivial
    · trivial

theorem sync_all (state : State) (key : String) : (sync state key).All Creates := by
  unfold sync
  split
  · trivial
  · split
    · split
      · trivial
      · trivial
    · split
      · trivial
      · split
        · trivial
        · split
          · apply Prog.all_bind (createPilot_all _)
            intro _
            exact safe_record.mpr ⟨.event _, trivial⟩
          · trivial

section Store

variable {api : ApiServer} {key : String × String} {pilot : Pilot}

/-- No request changes a Pilot that exists. -/
theorem get_pilots_serve {request : Request} (hget : api.pilots.get key = some pilot) :
    (api.serve request).2.pilots.get key = some pilot := by
  apply ApiServer.serve_preserves fun api => api.pilots.get key = some pilot
  · exact fun _ _ h => h
  · intro api api' hget heffect
    cases heffect with
    | createPilot hfresh => exact ObjectStore.get_put_of_fresh hget hfresh
    | _ => exact hget
  · exact hget

/-- No program changes a Pilot that exists. -/
theorem get_pilots_run {α : Type} {program : Program α} (hget : api.pilots.get key = some pilot) :
    (program.run ApiServer.serve api).2.pilots.get key = some pilot := by
  induction program generalizing api with
  | ret value => exact hget
  | fail error => exact hget
  | call request next ih => exact ih _ (get_pilots_serve hget)

theorem isSome_get_pilots_run {α : Type} {program : Program α}
    (hsome : (api.pilots.get key).isSome = true) :
    ((program.run ApiServer.serve api).2.pilots.get key).isSome = true := by
  obtain ⟨pilot, hget⟩ := Option.isSome_iff_exists.mp hsome
  rw [get_pilots_run hget]
  rfl

/-- A create of a Pilot that succeeds, or is refused since the name is taken,
leaves a Pilot of the name. -/
theorem isSome_get_of_create
    (h : ∀ e, (api.serve (.createPilot pilot)).1 = some e → e.isAlreadyExists = true) :
    ((api.serve (.createPilot pilot)).2.pilots.get (Resource.key pilot)).isSome = true := by
  cases hget : api.pilots.get (Resource.key pilot) with
  | some stored =>
      rw [get_pilots_serve hget]
      rfl
  | none =>
      cases hanswer : (api.serve (.createPilot pilot)).1 with
      | none =>
          obtain ⟨faults, heffect⟩ := ApiServer.effect_of_serve_none hanswer
          generalize (api.serve (.createPilot pilot)).2 = api' at heffect ⊢
          cases heffect with
          | createPilot hfresh => simp [ObjectStore.get_put]
      | some e =>
          -- the name is free, so the error is that of a fault
          have hexists := h e hanswer
          have hcreate : api.pilots.create pilot = .ok (api.pilots.put pilot) :=
            ObjectStore.create_eq_ok_iff.mpr ⟨hget, rfl⟩
          have htimeout : e = ApiServer.timeout := by
            rw [ApiServer.serve_write (by simp)] at hanswer
            simp only [ApiServer.perform, hcreate] at hanswer
            split at hanswer
            · exact (Option.some.inj hanswer).symm
            · split at hanswer
              · exact (Option.some.inj hanswer).symm
              · cases hanswer
          subst htimeout
          cases hexists

end Store

/-- Every Pilot in the cache exists. -/
def CachedExist (api : ApiServer) (state : State) : Prop :=
  ∀ cached ∈ state.pilotLister.items, (api.pilots.get (Resource.key cached)).isSome = true

instance (api : ApiServer) (state : State) : Decidable (CachedExist api state) :=
  inferInstanceAs (Decidable (∀ cached ∈ state.pilotLister.items,
    (api.pilots.get (Resource.key cached)).isSome = true))

theorem createPilot_yields {pod : Pod} {api : ApiServer} :
    (createPilot pod).Yields ApiServer.serve
      (fun _ api' => (api'.pilots.get (Resource.key pod)).isSome = true) api := by
  intro value hvalue
  unfold createPilot at hvalue ⊢
  rw [Prog.run_bind, Prog.run_attempt] at hvalue ⊢
  simp only [issue, Prog.run] at hvalue ⊢
  cases hanswer : (api.serve (.createPilot (pilotForPod pod))).1 with
  | none =>
      apply isSome_get_of_create
      intro e he
      rw [hanswer] at he
      cases he
  | some e =>
      simp only [hanswer, Prog.run] at hvalue ⊢
      by_cases hexists : e.isAlreadyExists = true
      · simp only [hexists, if_true]
        apply isSome_get_of_create
        intro other hother
        rw [hanswer] at hother
        exact Option.some.inj hother ▸ hexists
      · simp only [hexists] at hvalue
        cases hvalue

/-- A `sync` that ends well for a pod of the cache that is not being deleted
leaves the pod with a Pilot. -/
theorem sync_yields {state : State} {key namespaceName name : String} {pod : Pod}
    {api : ApiServer} (hkey : splitMetaNamespaceKey key = .ok (namespaceName, name))
    (hpod : state.podLister.get "pod" namespaceName name = .ok pod)
    (hlive : pod.metadata.deleted = false) (hcached : CachedExist api state) :
    (sync state key).Yields ApiServer.serve
      (fun _ api' => (api'.pilots.get (namespaceName, name)).isSome = true) api := by
  unfold sync
  simp only [hkey, hpod, hlive, Bool.false_eq_true, if_false]
  split
  · rename_i cached hfound
    obtain ⟨hitem, hcachedKey⟩ := Lister.get_ok hfound
    intro _ _
    exact hcachedKey ▸ hcached cached hitem
  · split
    · have hpodKey : Resource.key pod = (namespaceName, name) := (Lister.get_ok hpod).2
      refine Prog.yields_bind createPilot_yields ?_
      intro _ api' hsome _ _
      rw [hpodKey] at hsome
      exact isSome_get_pilots_run hsome
    · intro value hvalue
      cases hvalue

/-- One run of `sync`: the caches it reads, its key and the faults it meets. -/
structure Round where
  state : State
  key : String
  faults : List (Option Fault) := []

/-- A round that ends well, on a cache whose Pilots exist. -/
def syncRound (api : ApiServer) (round : Round) : Option ApiServer :=
  if CachedExist api round.state then
    match (sync round.state round.key).run ApiServer.serve { api with faults := round.faults } with
    | (.ok _, api') => some api'
    | (.error _, _) => none
  else none

/-- Successful rounds one after the other, for any pods in any order. -/
def machine : Machine ApiServer Round where
  init _ := True
  step := syncRound

theorem syncRound_eq_some {api api' : ApiServer} {round : Round}
    (h : syncRound api round = some api') :
    CachedExist api round.state ∧ (sync round.state round.key).run ApiServer.serve
      { api with faults := round.faults } = (.ok (), api') := by
  unfold syncRound at h
  split at h
  · rename_i hcached
    split at h
    · rename_i value final hrun
      cases h
      exact ⟨hcached, hrun⟩
    · cases h
  · cases h

/-- What the rounds leave: the Pilots that were there as they were, and beside
them only Pilots without labels. -/
theorem get_pilots_exec {api api' : ApiServer} {rounds : List Round}
    (h : machine.exec api rounds = some api') (key : String × String) (pilot : Pilot) :
    (api.pilots.get key = some pilot → api'.pilots.get key = some pilot) ∧
      (api'.pilots.get key = some pilot →
        api.pilots.get key = some pilot ∨ pilot.metadata.labels = none) := by
  induction rounds generalizing api with
  | nil =>
      simp only [Machine.exec, Option.some.injEq] at h
      subst h
      exact ⟨fun hget => hget, Or.inl⟩
  | cons round rest ih =>
      obtain ⟨next, hround, hrest⟩ := Option.bind_eq_some_iff.mp h
      obtain ⟨hforward, hback⟩ := ih hrest
      obtain ⟨_, hrun⟩ := syncRound_eq_some hround
      have hnext : next = ((sync round.state round.key).run ApiServer.serve
          { api with faults := round.faults }).2 := by rw [hrun]
      constructor
      · intro hget
        apply hforward
        rw [hnext]
        exact get_pilots_run hget
      · intro hget
        rcases hback hget with hmid | hunlabelled
        · have hinv : ∀ pilot, next.pilots.get key = some pilot →
              api.pilots.get key = some pilot ∨ pilot.metadata.labels = none := by
            rw [hnext]
            refine Prog.run_preserves (fun other : ApiServer => ∀ pilot,
              other.pilots.get key = some pilot →
                api.pilots.get key = some pilot ∨ pilot.metadata.labels = none)
              ?_ (sync_all round.state round.key) fun _ => Or.inl
            intro other request hother hcreates
            apply ApiServer.serve_preserves (fun other : ApiServer => ∀ pilot,
              other.pilots.get key = some pilot →
                api.pilots.get key = some pilot ∨ pilot.metadata.labels = none)
            · exact fun _ _ h => h
            · intro before after hbefore heffect
              cases hcreates with
              | event =>
                  cases heffect
                  exact hbefore
              | pilot pod =>
                  cases heffect with
                  | createPilot hfresh =>
                      intro pilot hpilot
                      simp only [ObjectStore.get_put] at hpilot
                      split at hpilot
                      · exact Or.inr (Option.some.inj hpilot ▸ rfl)
                      · exact hbefore pilot hpilot
            · exact hother
          exact hinv pilot hmid
        · exact Or.inr hunlabelled

/-- Every pod that one of the rounds was about has a Pilot in the end. -/
theorem isSome_get_exec {api api' : ApiServer} {rounds : List Round}
    (h : machine.exec api rounds = some api') {round : Round} (hround : round ∈ rounds)
    {namespaceName name : String} {pod : Pod}
    (hkey : splitMetaNamespaceKey round.key = .ok (namespaceName, name))
    (hpod : round.state.podLister.get "pod" namespaceName name = .ok pod)
    (hlive : pod.metadata.deleted = false) :
    (api'.pilots.get (namespaceName, name)).isSome = true := by
  induction rounds generalizing api with
  | nil => exact absurd hround List.not_mem_nil
  | cons first rest ih =>
      obtain ⟨next, hfirst, hrest⟩ := Option.bind_eq_some_iff.mp h
      rcases List.mem_cons.mp hround with rfl | hround
      · obtain ⟨hcached, hrun⟩ := syncRound_eq_some hfirst
        have hfaulted : CachedExist { api with faults := round.faults } round.state := hcached
        have hsome := sync_yields hkey hpod hlive hfaulted () (by rw [hrun])
        rw [hrun] at hsome
        obtain ⟨pilot, hget⟩ := Option.isSome_iff_exists.mp hsome
        rw [(get_pilots_exec hrest (namespaceName, name) pilot).1 hget]
        rfl
      · exact ih hrest hround

end PilotController

end Navigator
