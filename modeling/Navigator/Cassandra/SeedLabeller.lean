/-
The seed labeller.  The pods that the lister returns share their label maps with
the informer cache, and the labeller edits the map of the pod before it makes the
copy that it sends.  When the update fails, the cache shows a label that the API
server does not have, and the next `Sync` leaves the pod alone.
-/
import Navigator.Base.Memory
import Navigator.Cassandra.ScaleOut

namespace Navigator

open ControlLoop

namespace Cassandra

def seedLabelKey : String := "navigator.jetstack.io/cassandra-seed"
def seedLabelValue : String := "true"

def HasSeedLabel (pod : Pod) : Prop :=
  StringMap.get pod.metadata.labels seedLabelKey = seedLabelValue

instance (pod : Pod) : Decidable (HasSeedLabel pod) := inferInstanceAs (Decidable (_ = _))

abbrev LabelMap := Std.ExtTreeMap String String

/-- A pod as a pointer to it shows it: its label map is an address, and none is the
nil map. -/
structure CachedPod where
  metadata : ObjectMeta
  labels : Option Nat

namespace CachedPod

def key (pod : CachedPod) : String × String :=
  (pod.metadata.namespaceName, pod.metadata.name)

/-- The label map as it is now. -/
def labelsIn (memory : Memory LabelMap) (pod : CachedPod) : StringMap :=
  pod.labels.bind memory.load

/-- `DeepCopy`: the pod with a copy of its label map. -/
def deepCopy (memory : Memory LabelMap) (pod : CachedPod) : Pod :=
  { metadata := { pod.metadata with labels := pod.labelsIn memory } }

end CachedPod

/-- The informer cache: the pods, and the memory that their label maps are in. -/
structure PodCache where
  memory : Memory LabelMap
  pods : List CachedPod
  allocated : ∀ pod ∈ pods, ∀ address ∈ pod.labels, address < memory.size

namespace PodCache

/-- What the cache shows. -/
def content (cache : PodCache) : List Pod := cache.pods.map (CachedPod.deepCopy cache.memory)

/-- `Get` of the lister. -/
def get (cache : PodCache) (namespaceName name : String) : Option CachedPod :=
  cache.pods.find? fun pod => pod.key = (namespaceName, name)

/-- The map that is to get the label: a nil map is replaced by a new one. -/
def labelMap (cache : PodCache) (pod : CachedPod) : Nat × Memory LabelMap :=
  match pod.labels with
  | none => cache.memory.alloc ∅
  | some address => (address, cache.memory)

/-- The memory once the label is written. -/
def labelled (cache : PodCache) (pod : CachedPod) : Memory LabelMap :=
  (cache.labelMap pod).2.modify (cache.labelMap pod).1 fun labels =>
    labels.insert seedLabelKey seedLabelValue

theorem size_le_labelled (cache : PodCache) (pod : CachedPod) :
    cache.memory.size ≤ (cache.labelled pod).size := by
  unfold labelled labelMap
  split
  · simp
  · simp

/-- The cache once the label is written. -/
def withSeedLabel (cache : PodCache) (pod : CachedPod) : PodCache where
  memory := cache.labelled pod
  pods := cache.pods
  allocated other hother address haddress :=
    Nat.lt_of_lt_of_le (cache.allocated other hother address haddress)
      (cache.size_le_labelled pod)

/-- The copy that is sent: it has the map that the label was written to. -/
def podCopy (cache : PodCache) (pod : CachedPod) : Pod :=
  { pod with labels := some (cache.labelMap pod).1 }.deepCopy (cache.labelled pod)

end PodCache

/-- A routine that asks for updates of pods. -/
abbrev PodProgram (α : Type) := Prog Pod (Option Err) Empty α

/-- The pod that the labeller looks up for a StatefulSet. -/
def seedPod (cache : PodCache) (c : Cluster) (set : StatefulSet) : Option CachedPod :=
  cache.get c.metadata.namespaceName (nameOf set ++ "-" ++ decimal 0)

/-- `labelSeedNodes`: the cache it leaves and the error. -/
def labelSeedNodes (c : Cluster) (set : StatefulSet) (cache : PodCache) :
    PodProgram (PodCache × Option Err) :=
  match seedPod cache c set with
  | none => .ret (cache, none)
  | some pod =>
      if StringMap.get (pod.labelsIn cache.memory) seedLabelKey = seedLabelValue then
        .ret (cache, none)
      else .call (cache.podCopy pod) fun answer => .ret (cache.withSeedLabel pod, answer)

/-- Go on unless there was an error. -/
def unlessFailed (rest : PodCache → PodProgram (PodCache × Option Err)) :
    PodCache × Option Err → PodProgram (PodCache × Option Err)
  | (cache, some e) => .ret (cache, some e)
  | (cache, none) => rest cache

/-- The loop of `Sync`, which ends at the first error. -/
def labelSets (c : Cluster) : List StatefulSet → PodCache → PodProgram (PodCache × Option Err)
  | [], cache => .ret (cache, none)
  | set :: rest, cache => labelSeedNodes c set cache >>= unlessFailed (labelSets c rest)

/-- `Sync` of the seed labeller: the cache it leaves and the error. -/
def labelSeeds (state : State) (c : Cluster) (cache : PodCache) :
    PodProgram (PodCache × Option Err) :=
  match statefulSetsForCluster state c with
  | .error e => .ret (cache, some e)
  | .ok sets => labelSets c sets cache

namespace PodCache

variable {cache cache' : PodCache} {pod : CachedPod} {c : Cluster} {set : StatefulSet}

/-- The two caches are of the same pods and show the same of them. -/
structure Same (cache cache' : PodCache) : Prop where
  pods : cache'.pods = cache.pods
  content : cache'.content = cache.content

theorem Same.refl (cache : PodCache) : cache.Same cache := ⟨rfl, rfl⟩

theorem Same.trans {cache'' : PodCache} (h : cache.Same cache') (h' : cache'.Same cache'') :
    cache.Same cache'' :=
  ⟨h'.pods.trans h.pods, h'.content.trans h.content⟩

theorem Same.deepCopy (h : cache.Same cache') (hpod : pod ∈ cache.pods) :
    pod.deepCopy cache'.memory = pod.deepCopy cache.memory := by
  have hmap := h.content
  unfold PodCache.content at hmap
  rw [h.pods] at hmap
  exact List.map_inj_left.mp hmap pod hpod

theorem Same.seedPod (h : cache.Same cache') :
    Cassandra.seedPod cache' c set = Cassandra.seedPod cache c set := by
  unfold Cassandra.seedPod get
  rw [h.pods]

theorem mem_pods_of_seedPod (h : seedPod cache c set = some pod) : pod ∈ cache.pods :=
  List.mem_of_find?_eq_some h

/-- A label written to a new map is not seen in the cache. -/
theorem same_withSeedLabel (cache : PodCache) (hnil : pod.labels = none) :
    cache.Same (cache.withSeedLabel pod) := by
  refine ⟨rfl, List.map_congr_left ?_⟩
  intro other hother
  have hload : other.labelsIn (cache.labelled pod) = other.labelsIn cache.memory := by
    unfold CachedPod.labelsIn labelled labelMap
    rw [hnil]
    cases hlabels : other.labels with
    | none => rfl
    | some address =>
        exact Memory.load_modify_alloc_of_lt (cache.allocated other hother address hlabels)
  unfold CachedPod.deepCopy
  exact congrArg (fun labels : StringMap => ({ metadata := { other.metadata with
    labels := labels } } : Pod)) hload

/-- The copy that is sent has the label. -/
theorem hasSeedLabel_podCopy (hpod : pod ∈ cache.pods) : HasSeedLabel (cache.podCopy pod) := by
  have hload : ∃ labels, (cache.labelMap pod).2.load (cache.labelMap pod).1 = some labels := by
    unfold labelMap
    split
    · exact ⟨∅, Memory.load_alloc_self⟩
    · rename_i address hlabels
      exact ⟨_, List.getElem?_eq_getElem (cache.allocated pod hpod address hlabels)⟩
  obtain ⟨labels, hlabels⟩ := hload
  have hwritten : (cache.labelled pod).load (cache.labelMap pod).1 =
      some (labels.insert seedLabelKey seedLabelValue) := by
    rw [labelled, Memory.load_modify_self, hlabels]
    rfl
  simp [HasSeedLabel, podCopy, CachedPod.deepCopy, CachedPod.labelsIn, StringMap.get,
    StringMap.get?, hwritten]

/-- A label written to the map of the pod is seen in the cache. -/
theorem hasSeedLabel_withSeedLabel (hpod : pod ∈ cache.pods) (hmap : pod.labels ≠ none) :
    HasSeedLabel (pod.deepCopy (cache.withSeedLabel pod).memory) := by
  obtain ⟨address, hlabels⟩ := Option.ne_none_iff_exists'.mp hmap
  have hsame : ({ pod with labels := some (cache.labelMap pod).1 } : CachedPod) = pod := by
    unfold labelMap
    rw [hlabels, ← hlabels]
  have hcopy := cache.hasSeedLabel_podCopy hpod
  unfold podCopy at hcopy
  rwa [hsame] at hcopy

/-- No map of the cache is in the way: each pod that is to get the label for one of
the StatefulSets has no label map yet. -/
def NilFor (c : Cluster) (sets : List StatefulSet) (cache : PodCache) : Prop :=
  ∀ set ∈ sets, ∀ pod ∈ seedPod cache c set,
    HasSeedLabel (pod.deepCopy cache.memory) ∨ pod.labels = none

instance (c : Cluster) (sets : List StatefulSet) (cache : PodCache) :
    Decidable (NilFor c sets cache) :=
  inferInstanceAs (Decidable (∀ set ∈ sets, ∀ pod ∈ seedPod cache c set,
    HasSeedLabel (pod.deepCopy cache.memory) ∨ pod.labels = none))

theorem Same.nilFor {sets : List StatefulSet} (h : cache.Same cache') :
    NilFor c sets cache' ↔ NilFor c sets cache := by
  have hpod : ∀ set, ∀ pod ∈ Cassandra.seedPod cache c set,
      pod.deepCopy cache'.memory = pod.deepCopy cache.memory :=
    fun set pod hpod => h.deepCopy (mem_pods_of_seedPod hpod)
  unfold NilFor
  simp only [h.seedPod]
  constructor
  · intro hnil set hset pod hseed
    rw [← hpod set pod hseed]
    exact hnil set hset pod hseed
  · intro hnil set hset pod hseed
    rw [hpod set pod hseed]
    exact hnil set hset pod hseed

end PodCache

section Loop

variable {c : Cluster} {set : StatefulSet} {sets : List StatefulSet} {cache : PodCache}

/-- What `labelSeedNodes` does: nothing, or one update of the pod, after which the
label is written whatever the answer. -/
theorem labelSeedNodes_cases (c : Cluster) (set : StatefulSet) (cache : PodCache) :
    (labelSeedNodes c set cache = .ret (cache, none) ∧
      ∀ pod ∈ seedPod cache c set, HasSeedLabel (pod.deepCopy cache.memory)) ∨
    ∃ pod, seedPod cache c set = some pod ∧ ¬ HasSeedLabel (pod.deepCopy cache.memory) ∧
      labelSeedNodes c set cache =
        .call (cache.podCopy pod) fun answer => .ret (cache.withSeedLabel pod, answer) := by
  unfold labelSeedNodes
  cases hseed : seedPod cache c set with
  | none => exact Or.inl ⟨rfl, fun pod hpod => by cases hpod⟩
  | some pod =>
      by_cases hlabel : HasSeedLabel (pod.deepCopy cache.memory)
      · refine Or.inl ⟨if_pos hlabel, ?_⟩
        rintro other ⟨⟩
        exact hlabel
      · exact Or.inr ⟨pod, rfl, hlabel, if_neg hlabel⟩

theorem labelSets_cons (c : Cluster) (set : StatefulSet) (rest : List StatefulSet)
    (cache : PodCache) :
    labelSets c (set :: rest) cache =
      labelSeedNodes c set cache >>= unlessFailed (labelSets c rest) := rfl

/-- Where no map is in the way, only labelled pods are sent and the cache is left as
it was. -/
theorem labelSets_same (hnil : cache.NilFor c sets) :
    (labelSets c sets cache).Safe HasSeedLabel fun result => cache.Same result.1 := by
  induction sets generalizing cache with
  | nil => exact .refl cache
  | cons set rest ih =>
      have hrest : cache.NilFor c rest := fun other hother =>
        hnil other (List.mem_cons_of_mem set hother)
      rw [labelSets_cons]
      rcases labelSeedNodes_cases c set cache with ⟨hret, _⟩ | ⟨pod, hpod, hlacks, hcall⟩
      · rw [hret]
        exact ih hrest
      · have hmap : pod.labels = none :=
          (hnil set List.mem_cons_self pod hpod).resolve_left hlacks
        have hsame := cache.same_withSeedLabel hmap
        rw [hcall]
        refine ⟨cache.hasSeedLabel_podCopy (PodCache.mem_pods_of_seedPod hpod), ?_⟩
        intro answer
        cases answer with
        | some e => exact hsame
        | none => exact (ih (hsame.nilFor.mpr hrest)).mono (fun _ h => h) fun _ h => hsame.trans h

/-- The answers to the updates of a run, one after the other. -/
def script (answers : List (Option Err)) (_ : Pod) : Option Err × List (Option Err) :=
  (answers.headD none, answers.tail)

/-- Where a map is in the way, some update can fail with the label written to it. -/
theorem exists_failure_of_not_nilFor (h : ¬ cache.NilFor c sets) :
    ∃ answers cache' e, ((labelSets c sets cache).run script answers).1 = .ok (cache', some e) ∧
      cache'.content ≠ cache.content := by
  induction sets generalizing cache with
  | nil => exact absurd (fun set hset => absurd hset List.not_mem_nil) h
  | cons set rest ih =>
      -- if the first StatefulSet is harmless, the map in the way is one of the rest
      have hrest : (∀ pod ∈ seedPod cache c set,
          HasSeedLabel (pod.deepCopy cache.memory) ∨ pod.labels = none) →
          ¬ cache.NilFor c rest := by
        intro hset hnil
        apply h
        intro other hother
        rcases List.mem_cons.mp hother with rfl | hother
        · exact hset
        · exact hnil other hother
      rw [labelSets_cons]
      rcases labelSeedNodes_cases c set cache with ⟨hret, hlabelled⟩ | ⟨pod, hpod, hlacks, hcall⟩
      · rw [hret]
        exact ih (hrest fun pod hpod => Or.inl (hlabelled pod hpod))
      · rw [hcall]
        by_cases hmap : pod.labels = none
        · have hsame := cache.same_withSeedLabel hmap
          have hone : ∀ other ∈ seedPod cache c set,
              HasSeedLabel (other.deepCopy cache.memory) ∨ other.labels = none := by
            intro other hother
            rw [hpod] at hother
            cases hother
            exact Or.inr hmap
          obtain ⟨answers, cache', e, hrun, hcontent⟩ :=
            ih (mt hsame.nilFor.mp (hrest hone))
          exact ⟨none :: answers, cache', e, hrun, hsame.content ▸ hcontent⟩
        · have hmem := PodCache.mem_pods_of_seedPod hpod
          refine ⟨[some ApiServer.timeout], cache.withSeedLabel pod, ApiServer.timeout, rfl, ?_⟩
          intro hcontent
          have hsame : cache.Same (cache.withSeedLabel pod) := ⟨rfl, hcontent⟩
          apply hlacks
          rw [← hsame.deepCopy hmem]
          exact cache.hasSeedLabel_withSeedLabel hmem hmap

/-- The loop over two parts of the StatefulSets. -/
theorem labelSets_append (c : Cluster) (before rest : List StatefulSet) (cache : PodCache) :
    labelSets c (before ++ rest) cache =
      labelSets c before cache >>= unlessFailed (labelSets c rest) := by
  induction before generalizing cache with
  | nil => rfl
  | cons set before ih =>
      rw [List.cons_append, labelSets_cons, labelSets_cons]
      rcases labelSeedNodes_cases c set cache with ⟨hret, _⟩ | ⟨pod, _, _, hcall⟩
      · rw [hret]
        exact ih cache
      · rw [hcall]
        change Prog.call _ _ = Prog.call _ _
        congr 1
        funext answer
        cases answer with
        | some e => rfl
        | none => exact ih _

/-- The loop updates the pod of a StatefulSet that it gets to, if the cache does not
show the label. -/
theorem mem_calls_labelSets {σ : Type} {serve : σ → Pod → Option Err × σ} {api api' : σ}
    {before after : List StatefulSet} {cache' : PodCache} {pod : CachedPod}
    (hbefore : (labelSets c before cache).run serve api = (.ok (cache', none), api'))
    (hpod : seedPod cache' c set = some pod)
    (hlacks : ¬ HasSeedLabel (pod.deepCopy cache'.memory)) :
    (api', cache'.podCopy pod) ∈
      (labelSets c (before ++ set :: after) cache).calls serve api := by
  rw [labelSets_append]
  apply Prog.mem_calls_bind_right hbefore
  change _ ∈ (labelSets c (set :: after) cache').calls serve api'
  rw [labelSets_cons]
  rcases labelSeedNodes_cases c set cache' with ⟨_, hlabelled⟩ | ⟨other, hother, _, hcall⟩
  · exact absurd (hlabelled pod hpod) hlacks
  · rw [hpod] at hother
    cases hother
    rw [hcall]
    exact List.mem_cons_self

end Loop

/-- The pods that the API server stores, and what will happen to the coming
updates. -/
structure PodApi where
  pods : ObjectStore Pod := .empty
  faults : List (Option Fault) := []

/-- Answer an update of a pod. -/
def PodApi.update (api : PodApi) (pod : Pod) : Option Err × PodApi :=
  let fault := api.faults.head?.join
  let api := { api with faults := api.faults.tail }
  if fault = some .rejected then (some ApiServer.timeout, api)
  else match api.pods.update pod with
    | .ok pods =>
        (if fault = some .lost then some ApiServer.timeout else none, { api with pods := pods })
    | .error refusal => (some (ApiServer.refusalError "pods" (nameOf pod) refusal), api)

/-- Where the cache shows the label, the API server has it. -/
def PodApi.HasLabelsOf (api : PodApi) (cache : PodCache) : Prop :=
  ∀ pod ∈ cache.content, HasSeedLabel pod →
    ∀ stored ∈ api.pods.get (Resource.key pod), HasSeedLabel stored

instance (api : PodApi) (cache : PodCache) : Decidable (api.HasLabelsOf cache) :=
  inferInstanceAs (Decidable (∀ pod ∈ cache.content, HasSeedLabel pod →
    ∀ stored ∈ api.pods.get (Resource.key pod), HasSeedLabel stored))

/-- An update leaves the pods or stores the one it carries. -/
theorem PodApi.get_update {api : PodApi} {pod stored : Pod} {key : String × String}
    (h : (api.update pod).2.pods.get key = some stored) :
    api.pods.get key = some stored ∨ ∃ version, stored = Resource.withVersion pod version := by
  unfold update at h
  dsimp only at h
  split at h
  · exact Or.inl h
  · split at h
    · rename_i pods hpods
      obtain ⟨_, rfl⟩ := ObjectStore.update_eq_ok_iff.mp hpods
      rw [ObjectStore.get_put] at h
      split at h
      · exact Or.inr ⟨_, (Option.some.inj h).symm⟩
      · exact Or.inl h
    · exact Or.inl h

/-- An update of a labelled pod takes the label from no pod. -/
theorem PodApi.HasLabelsOf.update {api : PodApi} {cache : PodCache} {sent : Pod}
    (h : api.HasLabelsOf cache) (hsent : HasSeedLabel sent) :
    (api.update sent).2.HasLabelsOf cache := by
  intro pod hpod hlabel stored hstored
  rcases get_update hstored with hstored | ⟨version, rfl⟩
  · exact h pod hpod hlabel stored hstored
  · exact hsent

/-- The cache and the API server. -/
structure Seeding where
  cache : PodCache
  api : PodApi

namespace Seeding

/-- A step is a `Sync` of any cluster, with the StatefulSets that the lister shows
at the time and the faults given.  There is no watch event. -/
inductive Step where
  | sync (state : State) (c : Cluster) (faults : List (Option Fault))

/-- What the updates of a `Sync` meet. -/
def withFaults (s : Seeding) (faults : List (Option Fault)) : PodApi :=
  { s.api with faults := faults }

def step (s : Seeding) : Step → Option Seeding
  | .sync state c faults =>
      match (labelSeeds state c s.cache).run PodApi.update (s.withFaults faults) with
      | (.ok (cache, _), api) => some ⟨cache, api⟩
      | (.error never, _) => nomatch never

/-- The cache is not ahead of the API server. -/
def Honest (s : Seeding) : Prop := s.api.HasLabelsOf s.cache

instance (s : Seeding) : Decidable s.Honest :=
  inferInstanceAs (Decidable (s.api.HasLabelsOf s.cache))

def machine : Machine Seeding Step where
  init := Honest
  step := step

/-- Each pod that the `Sync` is to label has no label map yet. -/
def nilLabels (s : Seeding) : Step → Prop
  | .sync state c _ => ∀ sets ∈ (statefulSetsForCluster state c).toOption, s.cache.NilFor c sets

instance (s : Seeding) (event : Step) : Decidable (s.nilLabels event) :=
  match event with
  | .sync state c _ => inferInstanceAs (Decidable
      (∀ sets ∈ (statefulSetsForCluster state c).toOption, s.cache.NilFor c sets))

end Seeding

section Retry

variable {state : State} {c : Cluster} {s : Seeding} {faults : List (Option Fault)}

/-- A `Sync` that ends with an error leaves the cache as it was, whatever the answers
to its updates. -/
def LeavesCacheOnFailure (state : State) (c : Cluster) (cache : PodCache) : Prop :=
  ∀ answers cache' e, ((labelSeeds state c cache).run script answers).1 = .ok (cache', some e) →
    cache'.content = cache.content

/-- A `Sync` that gets to a StatefulSet asks for an update of its seed pod, if the API
server's copy of the pod lacks the label. -/
def Retries (s : Seeding) (state : State) (c : Cluster) (faults : List (Option Fault)) : Prop :=
  ∀ before set after, statefulSetsForCluster state c = .ok (before ++ set :: after) →
    ∀ cache api, (labelSets c before s.cache).run PodApi.update (s.withFaults faults) =
      (.ok (cache, none), api) →
    ∀ pod ∈ seedPod s.cache c set, ∀ stored ∈ s.api.pods.get pod.key, ¬ HasSeedLabel stored →
      ∃ call ∈ (labelSeeds state c s.cache).calls PodApi.update (s.withFaults faults),
        Resource.key call.2 = pod.key

theorem labelSeeds_same (hnil : s.nilLabels (.sync state c faults)) :
    (labelSeeds state c s.cache).Safe HasSeedLabel fun result => s.cache.Same result.1 := by
  unfold labelSeeds
  split
  · exact .refl s.cache
  · rename_i sets hsets
    exact labelSets_same (hnil sets (by rw [hsets]; rfl))

theorem leavesCacheOnFailure_iff :
    LeavesCacheOnFailure state c s.cache ↔ s.nilLabels (.sync state c faults) := by
  constructor
  · intro hleaves sets hsets
    by_contra hnil
    obtain ⟨answers, cache', e, hrun, hcontent⟩ := exists_failure_of_not_nilFor hnil
    apply hcontent
    apply hleaves answers cache' e
    unfold labelSeeds
    cases hfound : statefulSetsForCluster state c with
    | error e =>
        rw [hfound] at hsets
        cases hsets
    | ok found =>
        rw [hfound] at hsets
        cases hsets
        exact hrun
  · intro hnil answers cache' e hrun
    exact ((labelSeeds_same hnil).post_of_run hrun).content

/-- Where no map is in the way, the updates of a `Sync` keep the API server ahead of
the cache. -/
theorem run_hasLabelsOf (hnil : s.nilLabels (.sync state c faults)) {api : PodApi}
    (hapi : api.HasLabelsOf s.cache) :
    ((labelSeeds state c s.cache).run PodApi.update api).2.HasLabelsOf s.cache := by
  have hall : (labelSeeds state c s.cache).All HasSeedLabel :=
    (labelSeeds_same hnil).mono (fun _ h => h) fun _ _ => trivial
  apply Prog.run_preserves (fun api : PodApi => api.HasLabelsOf s.cache) _ hall hapi
  intro api sent h hsent
  exact h.update hsent

theorem Seeding.honest_of_reachable (hreach : machine.Reachable nilLabels s) : s.Honest := by
  apply hreach.invariant Honest
  · exact fun _ h => h
  · intro s event s' hhonest hnil hstep
    cases event with
    | sync state c faults =>
        have hfaults : (s.withFaults faults).HasLabelsOf s.cache := hhonest
        have hserved := run_hasLabelsOf hnil hfaults
        simp only [machine, step] at hstep
        split at hstep
        · rename_i cache err api hrun
          cases hstep
          have hsame : s.cache.Same cache := (labelSeeds_same hnil).post_of_run (by rw [hrun])
          rw [hrun] at hserved
          unfold Honest PodApi.HasLabelsOf
          rw [hsame.content]
          exact hserved
        · rename_i never _ _
          cases never

/-- Seed labels and failing updates.  A `Sync` that ends with an error leaves the cache
as it was exactly where every pod that it is to label has no label map yet; and in
a run of such Syncs every `Sync` that gets to a StatefulSet whose seed pod lacks
the label at the API server asks for the update again. -/
theorem seedLabelling_retried (s : Seeding) (state : State) (c : Cluster)
    (faults : List (Option Fault)) :
    (LeavesCacheOnFailure state c s.cache ↔ s.nilLabels (.sync state c faults)) ∧
      (Seeding.machine.Reachable Seeding.nilLabels s → s.nilLabels (.sync state c faults) →
        Retries s state c faults) := by
  refine ⟨leavesCacheOnFailure_iff, ?_⟩
  intro hreach hnil before set after hsets cache api hbefore pod hpod stored hstored hlacks
  have hhonest := Seeding.honest_of_reachable hreach
  have hcached : ¬ HasSeedLabel (pod.deepCopy s.cache.memory) := fun hlabel =>
    hlacks (hhonest _ (List.mem_map_of_mem (PodCache.mem_pods_of_seedPod hpod)) hlabel
      stored hstored)
  -- what was done for the StatefulSets before this one does not show in the cache
  have hnilBefore : s.cache.NilFor c before := fun other hother =>
    hnil _ (by rw [hsets]; rfl) other (List.mem_append_left _ hother)
  have hsame : s.cache.Same cache := (labelSets_same hnilBefore).post_of_run (by rw [hbefore])
  have hpod' : seedPod cache c set = some pod := hsame.seedPod.trans hpod
  have hcached' : ¬ HasSeedLabel (pod.deepCopy cache.memory) := by
    rw [hsame.deepCopy (PodCache.mem_pods_of_seedPod hpod)]
    exact hcached
  have hlabel : labelSeeds state c s.cache = labelSets c (before ++ set :: after) s.cache := by
    rw [labelSeeds, hsets]
  rw [hlabel]
  exact ⟨_, mem_calls_labelSets hbefore hpod' hcached', rfl⟩

end Retry

namespace SeedLabellerWitness

def cluster : Cluster := sampleCluster [samplePool "rack-a" 1]

/-- The StatefulSet of the pool. -/
def set : StatefulSet :=
  ((statefulSetForCluster cluster (samplePool "rack-a" 1)).toOption).getD {}

def state : State :=
  { statefulSetLister := { items := [set] }
    configMapLister := { items := [] }
    pilotLister := { items := [] }
    podLister := { items := [] } }

def podMeta : ObjectMeta := { name := "cass-db-rack-a-0", namespaceName := "default" }

/-- The API server with the seed pod. -/
def server (labels : StringMap) : PodApi :=
  { pods := ObjectStore.empty.put { metadata := { podMeta with labels := labels } } }

/-- The seed pod without a label map, at the API server and in the cache. -/
def bare : Seeding where
  cache := ⟨{}, [⟨podMeta, none⟩], by simp⟩
  api := server none

/-- The seed pod with a label of its own. -/
def mapped : Seeding where
  cache := ⟨⟨[Std.ExtTreeMap.ofList [("app", "cassandracluster")]]⟩, [⟨podMeta, some 0⟩],
    by simp [Memory.size]⟩
  api := server (StringMap.ofList [("app", "cassandracluster")])

/-- A `Sync` whose update is rejected. -/
def failing : Seeding.Step := .sync state cluster [some .rejected]

def after (s : Seeding) : Seeding := (Seeding.machine.exec s [failing]).getD s

/-- Without a label map the update is tried again. -/
theorem seedLabelling_retried_bare :
    bare.nilLabels failing ∧ Retries (after bare) state cluster [] := by
  have hfacts : bare.Honest ∧ Seeding.machine.Meets Seeding.nilLabels bare [failing] ∧
      (Seeding.machine.exec bare [failing]).isSome = true ∧
      (after bare).nilLabels (.sync state cluster []) := by decide +kernel
  obtain ⟨hhonest, hmeets, henabled, hnil⟩ := hfacts
  have hreach : Seeding.machine.Reachable Seeding.nilLabels (after bare) := by
    unfold after
    exact Machine.Reachable.getD_exec (.start hhonest) hmeets henabled
  exact ⟨hmeets.1, (seedLabelling_retried (after bare) state cluster []).2 hreach hnil⟩

/-- With a label map the failed update leaves the label in the cache, and the next
`Sync` does not ask for an update. -/
theorem seedLabelling_not_retried :
    mapped.Honest ∧ ¬ LeavesCacheOnFailure state cluster mapped.cache ∧
      Seeding.machine.Reachable Machine.anyStep (after mapped) ∧
      ¬ Retries (after mapped) state cluster [] := by
  have hfacts : mapped.Honest ∧ ¬ mapped.nilLabels failing ∧
      (Seeding.machine.exec mapped [failing]).isSome = true ∧
      statefulSetsForCluster state cluster = .ok [set] ∧
      (seedPod (after mapped).cache cluster set).isSome = true ∧
      (∀ pod ∈ seedPod (after mapped).cache cluster set,
        ∃ stored ∈ (after mapped).api.pods.get pod.key, ¬ HasSeedLabel stored) ∧
      ((labelSeeds state cluster (after mapped).cache).calls PodApi.update
        ((after mapped).withFaults [])).isEmpty = true := by decide +kernel
  obtain ⟨hhonest, hmap, henabled, hsets, hseed, hlacks, hcalls⟩ := hfacts
  have hreach : Seeding.machine.Reachable Machine.anyStep (after mapped) := by
    unfold after
    exact Machine.Reachable.getD_exec (.start hhonest) (Machine.meets_anyStep _ _ _) henabled
  obtain ⟨pod, hpod⟩ := Option.isSome_iff_exists.mp hseed
  obtain ⟨stored, hstored, hlabel⟩ := hlacks pod hpod
  refine ⟨hhonest, mt leavesCacheOnFailure_iff.mp hmap, hreach, ?_⟩
  intro hretries
  obtain ⟨call, hcall, _⟩ := hretries [] set [] hsets _ _ rfl pod hpod stored hstored hlabel
  rw [List.isEmpty_iff.mp hcalls] at hcall
  cases hcall

end SeedLabellerWitness

end Cassandra

end Navigator
