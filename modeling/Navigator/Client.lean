/-
The requests of the controllers and the API server that answers them.  A write
may be rejected without effect, or be performed and its answer lost, so that
the caller sees an error either way.
-/
import Navigator.Base.Prog
import Navigator.Types

namespace Navigator

open ControlLoop

inductive EventType where
  | normal
  | warning
deriving DecidableEq

/-- An event for the user. -/
structure Event where
  type : EventType
  reason : String
  message : String
deriving DecidableEq

inductive Request where
  | createConfigMap (configMap : ConfigMap)
  | createStatefulSet (set : StatefulSet)
  | updateStatefulSet (set : StatefulSet)
  | deleteStatefulSet (namespaceName name : String)
  | createPilot (pilot : Pilot)
  | recordEvent (event : Event)
deriving DecidableEq

/-- A controller routine: it issues requests, each answered by an error or
none, and returns a value or an error. -/
abbrev Program (α : Type) := Prog Request (Option Err) Err α

/-- Issue a write and return its error. -/
def issue (request : Request) : Program Unit :=
  .call request fun answer => match answer with
    | none => .ret ()
    | some e => .fail e

/-- `Recorder.Event`. -/
def record (type : EventType) (reason message : String) : Program Unit :=
  .call (.recordEvent ⟨type, reason, message⟩) fun _ => .ret ()

@[simp] theorem safe_issue {good : Request → Prop} {post : Unit → Prop}
    {request : Request} :
    (issue request).Safe good post ↔ good request ∧ post () := by
  simp only [issue, Prog.safe_call]
  constructor
  · exact fun h => ⟨h.1, h.2 none⟩
  · rintro ⟨hgood, hpost⟩
    refine ⟨hgood, ?_⟩
    intro answer
    cases answer with
    | none => exact hpost
    | some e => trivial

@[simp] theorem safe_record {good : Request → Prop} {post : Unit → Prop}
    {type : EventType} {reason message : String} :
    (record type reason message).Safe good post ↔
      good (.recordEvent ⟨type, reason, message⟩) ∧ post () := by
  simp [record]

/-- `controllers.State`: the caches an action reads. -/
structure State where
  statefulSetLister : Lister StatefulSet
  configMapLister : Lister ConfigMap
  pilotLister : Lister Pilot
  podLister : Lister Pod

/-- What may go wrong with a write on the way. -/
inductive Fault where
  | rejected
  | lost
deriving DecidableEq

/-- The objects the API server stores, and what will happen to the coming
writes; a write beyond the end of the list goes through. -/
structure ApiServer where
  statefulSets : ObjectStore StatefulSet := .empty
  configMaps : ObjectStore ConfigMap := .empty
  pilots : ObjectStore Pilot := .empty
  faults : List (Option Fault) := []
deriving DecidableEq

namespace ApiServer

def refusalError (resource name : String) : Refusal → Err
  | .alreadyExists => newAlreadyExists resource name
  | .notFound => newNotFound resource name
  | .conflict => .status .conflict
      ("Operation cannot be fulfilled on " ++ resource ++ " " ++ quoted name ++
        ": the object has been modified; please apply your changes to the latest version and try again")

/-- Perform a request on the stores. -/
def perform (api : ApiServer) (request : Request) : Except Err ApiServer :=
  match request with
  | .createConfigMap configMap =>
      match api.configMaps.create configMap with
      | .ok store => .ok { api with configMaps := store }
      | .error refusal => .error (refusalError "configmaps" (nameOf configMap) refusal)
  | .createStatefulSet set =>
      match api.statefulSets.create set with
      | .ok store => .ok { api with statefulSets := store }
      | .error refusal => .error (refusalError "statefulsets.apps" (nameOf set) refusal)
  | .updateStatefulSet set =>
      match api.statefulSets.update set with
      | .ok store => .ok { api with statefulSets := store }
      | .error refusal => .error (refusalError "statefulsets.apps" (nameOf set) refusal)
  | .deleteStatefulSet namespaceName name =>
      match api.statefulSets.delete (namespaceName, name) with
      | .ok store => .ok { api with statefulSets := store }
      | .error refusal => .error (refusalError "statefulsets.apps" name refusal)
  | .createPilot pilot =>
      match api.pilots.create pilot with
      | .ok store => .ok { api with pilots := store }
      | .error refusal => .error (refusalError "pilots.navigator.jetstack.io" (nameOf pilot) refusal)
  | .recordEvent _ => .ok api

/-- What a request does to the stores when it is performed. -/
inductive Effect (api : ApiServer) : Request → ApiServer → Prop where
  | createConfigMap {configMap : ConfigMap}
      (fresh : api.configMaps.get (Resource.key configMap) = none) :
      Effect api (.createConfigMap configMap)
        { api with configMaps := api.configMaps.put configMap }
  | createStatefulSet {set : StatefulSet}
      (fresh : api.statefulSets.get (Resource.key set) = none) :
      Effect api (.createStatefulSet set)
        { api with statefulSets := api.statefulSets.put set }
  | updateStatefulSet {set stored : StatefulSet}
      (found : api.statefulSets.get (Resource.key set) = some stored)
      (unchanged : Resource.version set = Resource.version stored) :
      Effect api (.updateStatefulSet set)
        { api with statefulSets := api.statefulSets.put set }
  | deleteStatefulSet {namespaceName name : String} {stored : StatefulSet}
      (found : api.statefulSets.get (namespaceName, name) = some stored) :
      Effect api (.deleteStatefulSet namespaceName name)
        { api with statefulSets := api.statefulSets.remove (namespaceName, name) }
  | createPilot {pilot : Pilot} (fresh : api.pilots.get (Resource.key pilot) = none) :
      Effect api (.createPilot pilot) { api with pilots := api.pilots.put pilot }
  | recordEvent {event : Event} : Effect api (.recordEvent event) api

theorem effect_of_perform {api api' : ApiServer} {request : Request}
    (h : api.perform request = .ok api') : Effect api request api' := by
  cases request with
  | createConfigMap configMap =>
      simp only [perform] at h
      split at h
      · rename_i store hstore
        obtain ⟨hfresh, rfl⟩ := ObjectStore.create_eq_ok_iff.mp hstore
        exact Except.ok.inj h ▸ .createConfigMap hfresh
      · cases h
  | createStatefulSet set =>
      simp only [perform] at h
      split at h
      · rename_i store hstore
        obtain ⟨hfresh, rfl⟩ := ObjectStore.create_eq_ok_iff.mp hstore
        exact Except.ok.inj h ▸ .createStatefulSet hfresh
      · cases h
  | updateStatefulSet set =>
      simp only [perform] at h
      split at h
      · rename_i store hstore
        obtain ⟨⟨stored, hfound, hunchanged⟩, rfl⟩ := ObjectStore.update_eq_ok_iff.mp hstore
        exact Except.ok.inj h ▸ .updateStatefulSet hfound hunchanged
      · cases h
  | deleteStatefulSet namespaceName name =>
      simp only [perform] at h
      split at h
      · rename_i store hstore
        obtain ⟨hfound, rfl⟩ := ObjectStore.delete_eq_ok_iff.mp hstore
        obtain ⟨stored, hstored⟩ := Option.isSome_iff_exists.mp hfound
        exact Except.ok.inj h ▸ .deleteStatefulSet hstored
      · cases h
  | createPilot pilot =>
      simp only [perform] at h
      split at h
      · rename_i store hstore
        obtain ⟨hfresh, rfl⟩ := ObjectStore.create_eq_ok_iff.mp hstore
        exact Except.ok.inj h ▸ .createPilot hfresh
      · cases h
  | recordEvent event => exact Except.ok.inj h ▸ .recordEvent

def timeout : Err := .status .other "the server was unable to return a response in the time allotted"

/-- Answer a request: the next fault decides whether it reaches the stores and
whether the caller learns of it.  Events have no effect and never fail. -/
def serve (api : ApiServer) (request : Request) : Option Err × ApiServer :=
  match request with
  | .recordEvent _ => (none, api)
  | request =>
      let fault := api.faults.head?.join
      let api := { api with faults := api.faults.tail }
      if fault = some .rejected then (some timeout, api)
      else match api.perform request with
        | .ok api' => (if fault = some .lost then some timeout else none, api')
        | .error e => (some e, api)

/-- The general case of `serve`, a write. -/
theorem serve_write {api : ApiServer} {request : Request}
    (h : ∀ event, request ≠ .recordEvent event) :
    api.serve request =
      if api.faults.head?.join = some .rejected then
        (some timeout, { api with faults := api.faults.tail })
      else match ({ api with faults := api.faults.tail } : ApiServer).perform request with
        | .ok api' =>
            (if api.faults.head?.join = some .lost then some timeout else none, api')
        | .error e => (some e, { api with faults := api.faults.tail }) := by
  cases request with
  | recordEvent event => exact absurd rfl (h event)
  | _ => rfl

/-- Serving either leaves the stores as they are or performs the request. -/
theorem serve_cases (api : ApiServer) (request : Request) :
    ∃ faults, (api.serve request).2 = { api with faults := faults } ∨
      Effect { api with faults := faults } request (api.serve request).2 := by
  by_cases hevent : ∃ event, request = .recordEvent event
  · obtain ⟨event, rfl⟩ := hevent
    exact ⟨api.faults, Or.inl rfl⟩
  · refine ⟨api.faults.tail, ?_⟩
    rw [serve_write (fun event heq => hevent ⟨event, heq⟩)]
    by_cases hrejected : api.faults.head?.join = some .rejected
    · rw [if_pos hrejected]
      exact Or.inl rfl
    · rw [if_neg hrejected]
      cases hperform : ({ api with faults := api.faults.tail } : ApiServer).perform request with
      | ok api' => exact Or.inr (effect_of_perform hperform)
      | error e => exact Or.inl rfl

/-- A request answered without an error was performed. -/
theorem effect_of_serve_none {api : ApiServer} {request : Request}
    (h : (api.serve request).1 = none) :
    ∃ faults, Effect { api with faults := faults } request (api.serve request).2 := by
  by_cases hevent : ∃ event, request = .recordEvent event
  · obtain ⟨event, rfl⟩ := hevent
    exact ⟨api.faults, .recordEvent⟩
  · refine ⟨api.faults.tail, ?_⟩
    rw [serve_write (fun event heq => hevent ⟨event, heq⟩)] at h ⊢
    by_cases hrejected : api.faults.head?.join = some .rejected
    · rw [if_pos hrejected] at h
      cases h
    · rw [if_neg hrejected] at h ⊢
      cases hperform : ({ api with faults := api.faults.tail } : ApiServer).perform request with
      | ok api' => exact effect_of_perform hperform
      | error e =>
          rw [hperform] at h
          cases h

/-- The step rule for invariants of the stores: faults do not matter, so it is
enough to look at what requests do when performed. -/
theorem serve_preserves (Inv : ApiServer → Prop) {api : ApiServer} {request : Request}
    (hfaults : ∀ api faults, Inv api → Inv { api with faults := faults })
    (heffect : ∀ api api', Inv api → Effect api request api' → Inv api')
    (hinv : Inv api) : Inv (api.serve request).2 := by
  obtain ⟨faults, hsame | hperformed⟩ := api.serve_cases request
  · rw [hsame]
    exact hfaults api faults hinv
  · exact heffect _ _ (hfaults api faults hinv) hperformed

/-- The StatefulSet that a request writes. -/
inductive WritesSet : Request → StatefulSet → Prop where
  | create (set : StatefulSet) : WritesSet (.createStatefulSet set) set
  | update (set : StatefulSet) : WritesSet (.updateStatefulSet set) set

/-- Only a write of a StatefulSet adds to the history of the StatefulSets. -/
theorem Effect.mem_history {api api' : ApiServer} {request : Request}
    (h : Effect api request api') {set : StatefulSet}
    (hset : set ∈ api'.statefulSets.history) :
    set ∈ api.statefulSets.history ∨
      ∃ written version, WritesSet request written ∧
        set = Resource.withVersion written version := by
  cases h with
  | createConfigMap => exact Or.inl hset
  | createPilot => exact Or.inl hset
  | recordEvent => exact Or.inl hset
  | deleteStatefulSet => exact Or.inl hset
  | @createStatefulSet written =>
      rcases List.mem_cons.mp hset with rfl | hset
      · exact Or.inr ⟨written, _, .create written, rfl⟩
      · exact Or.inl hset
  | @updateStatefulSet written =>
      rcases List.mem_cons.mp hset with rfl | hset
      · exact Or.inr ⟨written, _, .update written, rfl⟩
      · exact Or.inl hset

/-- The history only grows. -/
theorem Effect.history_subset {api api' : ApiServer} {request : Request}
    (h : Effect api request api') {set : StatefulSet} (hset : set ∈ api.statefulSets.history) :
    set ∈ api'.statefulSets.history := by
  cases h with
  | createConfigMap => exact hset
  | createPilot => exact hset
  | recordEvent => exact hset
  | deleteStatefulSet => exact hset
  | createStatefulSet => exact List.mem_cons_of_mem _ hset
  | updateStatefulSet => exact List.mem_cons_of_mem _ hset

/-- A property of all StatefulSets ever stored is preserved by a request that
writes only such StatefulSets. -/
theorem serve_history (P : StatefulSet → Prop) {api : ApiServer} {request : Request}
    (hwritten : ∀ set version, WritesSet request set → P (Resource.withVersion set version))
    (hhistory : ∀ set ∈ api.statefulSets.history, P set) :
    ∀ set ∈ (api.serve request).2.statefulSets.history, P set := by
  apply serve_preserves fun api => ∀ set ∈ api.statefulSets.history, P set
  · exact fun _ _ h => h
  · intro api api' h heffect set hset
    rcases heffect.mem_history hset with hset | ⟨written, version, hwrites, rfl⟩
    · exact h set hset
    · exact hwritten written version hwrites
  · exact hhistory

theorem serve_history_subset {api : ApiServer} {request : Request} {set : StatefulSet}
    (hset : set ∈ api.statefulSets.history) :
    set ∈ (api.serve request).2.statefulSets.history := by
  apply serve_preserves fun api => set ∈ api.statefulSets.history
  · exact fun _ _ h => h
  · exact fun _ _ h heffect => heffect.history_subset h
  · exact hset

end ApiServer

end Navigator
