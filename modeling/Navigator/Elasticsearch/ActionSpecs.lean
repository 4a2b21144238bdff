/-
What each action may ask of the API server: one inversion for each, from which
the properties of whole runs are derived.
-/
import Navigator.Control
import Navigator.Elasticsearch.Actions

namespace Navigator

open ControlLoop

namespace Elasticsearch

/-- The request is an event or updates a StatefulSet to one satisfying `P`. -/
inductive UpdatesOnly (P : StatefulSet → Prop) : Request → Prop where
  | event (event : Event) : UpdatesOnly P (.recordEvent event)
  | update {set : StatefulSet} : P set → UpdatesOnly P (.updateStatefulSet set)

theorem UpdatesOnly.of_isEvent {P : StatefulSet → Prop} {request : Request}
    (h : IsEvent request) : UpdatesOnly P request := by
  obtain ⟨event, rfl⟩ := h
  exact .event event

/-- `CreateNodePool` only creates the StatefulSet of its pool. -/
inductive CreatesOnly (t : Target) : Request → Prop where
  | event (event : Event) : CreatesOnly t (.recordEvent event)
  | create {set : StatefulSet} : nodePoolStatefulSet t.cluster t.nodePool = .ok set →
      CreatesOnly t (.createStatefulSet set)

theorem createNodePool_all (t : Target) : (createNodePool t).All (CreatesOnly t) := by
  unfold createNodePool
  cases hset : nodePoolStatefulSet t.cluster t.nodePool with
  | error e => trivial
  | ok set =>
      apply Prog.all_bind
      · exact safe_issue.mpr ⟨.create hset, trivial⟩
      · intro _
        exact safe_record.mpr ⟨.event _, trivial⟩

namespace Scale

/-- Every Pilot has reported that it holds no documents. -/
def Drained (pilots : List Pilot) : Prop :=
  ∀ p ∈ pilots,
    ∃ documents ∈ p.status.elasticsearch.bind ElasticsearchPilotStatus.documents,
      documents ≤ 0

instance (pilots : List Pilot) : Decidable (Drained pilots) :=
  inferInstanceAs (Decidable (∀ p ∈ pilots,
    ∃ documents ∈ p.status.elasticsearch.bind ElasticsearchPilotStatus.documents,
      documents ≤ 0))

/-- The reasons for which a scale by `replicaDiff` is allowed. -/
def Allowed (state : State) (t : Target) (set : StatefulSet) (replicaDiff : Int) : Prop :=
  replicaDiff ≥ 0 ∨ containsElasticsearchRole t.nodePool.roles .data = false ∨
    ∃ allPilots toRemove, pilotsForStatefulSet state t set = .ok allPilots ∧
      determinePilotsToBeRemoved allPilots set replicaDiff = .ok toRemove ∧
      Drained toRemove

theorem pilotsEmpty_safe (pilots : List Pilot) :
    (pilotsEmpty pilots).Safe IsEvent fun canScale => canScale = true → Drained pilots := by
  induction pilots with
  | nil =>
      intro _ p hp
      exact absurd hp List.not_mem_nil
  | cons p rest ih =>
      unfold pilotsEmpty
      split
      · apply Prog.all_bind record_all_isEvent
        intro _ hfalse
        cases hfalse
      · rename_i documents hdocuments
        by_cases hpositive : documents > 0
        · rw [if_pos hpositive]
          apply Prog.all_bind record_all_isEvent
          intro _ hfalse
          cases hfalse
        · rw [if_neg hpositive]
          apply ih.mono (fun _ h => h)
          intro canScale hrest htrue q hq
          rcases List.mem_cons.mp hq with rfl | hq
          · exact ⟨documents, hdocuments, not_lt.mp hpositive⟩
          · exact hrest htrue q hq

theorem canScaleNodePool_safe (state : State) (t : Target) (set : StatefulSet)
    (replicaDiff : Int) :
    (canScaleNodePool state t set replicaDiff).Safe IsEvent fun canScale =>
      canScale = true → Allowed state t set replicaDiff := by
  unfold canScaleNodePool
  by_cases hup : replicaDiff ≥ 0
  · rw [if_pos hup]
    exact fun _ => Or.inl hup
  · rw [if_neg hup]
    cases hdata : containsElasticsearchRole t.nodePool.roles .data with
    | false => exact fun _ => Or.inr (Or.inl hdata)
    | true =>
        simp only [Bool.not_true, Bool.false_eq_true, if_false]
        cases hpilots : pilotsForStatefulSet state t set with
        | error e =>
            by_cases hnotFound : e.isNotFound
            · simp only [hnotFound, if_true]
              apply Prog.all_bind record_all_isEvent
              intro _ hfalse
              cases hfalse
            · simp only [hnotFound]
              trivial
        | ok allPilots =>
            cases hremove : determinePilotsToBeRemoved allPilots set replicaDiff with
            | error e =>
                simp only [hremove]
                trivial
            | ok toRemove =>
                simp only [hremove]
                apply (pilotsEmpty_safe toRemove).mono (fun _ h => h)
                intro canScale hdrained htrue
                exact Or.inr (Or.inr ⟨allPilots, toRemove, hpilots, hremove, hdrained htrue⟩)

/-- A StatefulSet that a scale to `replicas` may write: the cached one with
other replicas, when the change is allowed. -/
inductive Writes (state : State) (t : Target) (replicas : Int) : StatefulSet → Prop where
  | scaled {set : StatefulSet} {currentReplicas : Int}
      (cached : state.statefulSetLister.get "statefulset.apps" t.namespaceName
        t.statefulSetName = .ok set)
      (current : set.spec.replicas = some currentReplicas)
      (differs : int32 (replicas - currentReplicas) ≠ 0)
      (allowed : Allowed state t set (int32 (replicas - currentReplicas))) :
      Writes state t replicas (set.withReplicas replicas)

/-- `Scale` writes only the StatefulSet of its pool. -/
theorem Writes.key {state : State} {t : Target} {replicas : Int} {written : StatefulSet}
    (h : Writes state t replicas written) :
    Resource.key written = (t.namespaceName, t.statefulSetName) := by
  obtain ⟨hcached, _, _, _⟩ := h
  exact (Lister.get_ok hcached).2

theorem execute_all (state : State) (t : Target) (replicas : Int) :
    (execute state t replicas).All (UpdatesOnly (Writes state t replicas)) := by
  unfold execute
  cases hget : state.statefulSetLister.get "statefulset.apps" t.namespaceName
      t.statefulSetName with
  | error e =>
      by_cases hnotFound : e.isNotFound
      · simp only [hnotFound, if_true]
        exact safe_record.mpr ⟨.event _, trivial⟩
      · simp only [hnotFound]
        trivial
  | ok set =>
      cases hreplicas : set.spec.replicas with
      | none =>
          simp only [hreplicas]
          trivial
      | some currentReplicas =>
          simp only [hreplicas]
          by_cases hdiff : int32 (replicas - currentReplicas) = 0
          · rw [if_pos hdiff]
            trivial
          · rw [if_neg hdiff]
            apply Prog.safe_bind ((canScaleNodePool_safe state t set _).mono
              (fun _ h => UpdatesOnly.of_isEvent h) (fun _ h => h))
            intro canScale hallowed
            cases canScale with
            | false => trivial
            | true =>
                apply Prog.all_bind
                · exact safe_issue.mpr
                    ⟨.update (.scaled hget hreplicas hdiff (hallowed rfl)), trivial⟩
                · intro _
                  exact safe_record.mpr ⟨.event _, trivial⟩

end Scale

namespace UpdateVersion

/-- The checks that come before the switch of `UpdateVersion.Execute`. -/
structure Proceeds (state : State) (t : Target) (set : StatefulSet) (replicas : Int)
    (existingImage : String) (image : ImageSpec) : Prop where
  cached : state.statefulSetLister.get "statefulset.apps" t.namespaceName
    t.statefulSetName = .ok set
  healthy : ∃ health, t.cluster.status.health = some health ∧ health ≠ .red
  outdated : ∃ text version, StringMap.get? set.metadata.annotations
    elasticsearchNodePoolVersionAnnotation = some text ∧
      Version.parse text = .ok version ∧ t.cluster.spec.version.equal version = false
  toUse : esImageToUse t.cluster.spec = .ok image
  desired : set.spec.replicas = some replicas
  ready : replicas = set.status.readyReplicas
  existing : set.image? = some existingImage

/-- For a cluster whose health is known and not red the comparison is reached. -/
theorem compareVersions_of_healthy {state : State} {t : Target} {set : StatefulSet}
    {health : ElasticsearchClusterHealth} {text : String} {current : Version}
    (hcached : state.statefulSetLister.get "statefulset.apps" t.namespaceName
      t.statefulSetName = .ok set)
    (hhealth : t.cluster.status.health = some health) (hred : health ≠ .red)
    (htext : StringMap.get? set.metadata.annotations elasticsearchNodePoolVersionAnnotation =
      some text)
    (hparse : Version.parse text = .ok current) (equal : Program Unit)
    (differ : StatefulSet → Program Unit) :
    compareVersions state t equal differ =
      if t.cluster.spec.version.equal current then equal else differ set := by
  unfold compareVersions
  cases health with
  | red => exact absurd rfl hred
  | yellow => simp only [hcached, hhealth, htext, hparse]
  | green => simp only [hcached, hhealth, htext, hparse]
  | other name unknown => simp only [hcached, hhealth, htext, hparse]

/-- With every check passed, the action is its switch. -/
theorem Proceeds.execute_eq {state : State} {t : Target} {set : StatefulSet}
    {replicas : Int} {existingImage : String} {image : ImageSpec}
    (h : Proceeds state t set replicas existingImage image) :
    execute state t = decideWrite state t set replicas existingImage image.reference := by
  obtain ⟨health, hhealth, hred⟩ := h.healthy
  obtain ⟨text, version, htext, hversion, houtdated⟩ := h.outdated
  rw [execute, compareVersions_of_healthy h.cached hhealth hred htext hversion, houtdated,
    if_neg Bool.false_ne_true]
  unfold rollOut
  simp only [h.toUse, h.desired, h.ready, ne_eq, not_true_eq_false, if_false, h.existing]

theorem rollOut_cases (state : State) (t : Target) (set : StatefulSet) :
    (∃ replicas existingImage image, esImageToUse t.cluster.spec = .ok image ∧
      set.spec.replicas = some replicas ∧ replicas = set.status.readyReplicas ∧
      set.image? = some existingImage) ∨ (rollOut state t set).All IsEvent := by
  unfold rollOut
  split
  · exact Or.inr (record_all_isEvent)
  · rename_i image himage
    split
    · exact Or.inr trivial
    · rename_i replicas hreplicas
      by_cases hready : replicas = set.status.readyReplicas
      · rw [if_neg (not_not.mpr hready)]
        split
        · exact Or.inr (record_all_isEvent)
        · rename_i existingImage hexisting
          exact Or.inl ⟨replicas, existingImage, image, himage, hreplicas, hready, hexisting⟩
      · rw [if_pos hready]
        exact Or.inr trivial

/-- Either all checks pass, or the action only records an event. -/
theorem execute_cases (state : State) (t : Target) :
    (∃ set replicas existingImage image,
      Proceeds state t set replicas existingImage image) ∨
      (execute state t).All IsEvent := by
  unfold execute compareVersions
  split
  · exact Or.inr trivial
  · rename_i set hget
    split
    · exact Or.inr trivial
    · exact Or.inr (record_all_isEvent)
    · rename_i health hred hhealth
      have hhealthy : ∃ health, t.cluster.status.health = some health ∧ health ≠ .red :=
        ⟨health, hhealth, fun heq => hred (heq ▸ rfl)⟩
      split
      · exact Or.inr (record_all_isEvent)
      · rename_i text htext
        split
        · exact Or.inr (record_all_isEvent)
        · rename_i version hversion
          by_cases hequal : t.cluster.spec.version.equal version = true
          · rw [if_pos hequal]
            exact Or.inr trivial
          · rw [if_neg hequal]
            have houtdated : t.cluster.spec.version.equal version = false := by
              simpa using hequal
            rcases rollOut_cases state t set with
              ⟨replicas, existingImage, image, himage, hreplicas, hready, hexisting⟩ | hevents
            · exact Or.inl ⟨set, replicas, existingImage, image, hget, hhealthy,
                ⟨text, version, htext, hversion, houtdated⟩, himage, hreplicas, hready,
                hexisting⟩
            · exact Or.inr hevents

/-- A StatefulSet that `UpdateVersion` may write, with the checks behind it. -/
inductive Writes (state : State) (t : Target) : StatefulSet → Prop where
  | complete {set : StatefulSet} {replicas : Int} {existingImage : String}
      {image : ImageSpec} (proceeds : Proceeds state t set replicas existingImage image)
      (upToDate : pilotsUpToDate state t set = none) : Writes state t (completed t set)
  | advance {set : StatefulSet} {replicas : Int} {existingImage : String}
      {image : ImageSpec} (proceeds : Proceeds state t set replicas existingImage image)
      (behind : pilotsUpToDate state t set ≠ none)
      (changes : set.partition ≠ nextPartition replicas set.status.updatedReplicas ∨
        existingImage ≠ image.reference)
      (last : lastPilotError state t set replicas
        (nextPartition replicas set.status.updatedReplicas) = .ok none) :
      Writes state t (advanced set (nextPartition replicas set.status.updatedReplicas)
        image.reference)

/-- `UpdateVersion` writes only the StatefulSet of its pool. -/
theorem Writes.key {state : State} {t : Target} {written : StatefulSet}
    (h : Writes state t written) :
    Resource.key written = (t.namespaceName, t.statefulSetName) := by
  rcases h with ⟨hproceeds, _⟩ | ⟨hproceeds, _, _, _⟩
  · exact (Lister.get_ok hproceeds.cached).2
  · exact (Lister.get_ok hproceeds.cached).2

theorem writeBack_all {P : StatefulSet → Prop} {set : StatefulSet} {message : String}
    (h : P set) : (writeBack set message).All (UpdatesOnly P) := by
  apply Prog.all_bind
  · exact safe_issue.mpr ⟨.update h, trivial⟩
  · intro _
    exact safe_record.mpr ⟨.event _, trivial⟩

theorem execute_all (state : State) (t : Target) :
    (execute state t).All (UpdatesOnly (Writes state t)) := by
  rcases execute_cases state t with ⟨set, replicas, existingImage, image, h⟩ | hevents
  · rw [h.execute_eq]
    unfold decideWrite
    cases hpilots : pilotsUpToDate state t set with
    | none => exact writeBack_all (.complete h hpilots)
    | some e =>
        by_cases hchanges : set.partition ≠
            nextPartition replicas set.status.updatedReplicas ∨
              existingImage ≠ image.reference
        · simp only [if_pos hchanges]
          cases hlast : lastPilotError state t set replicas
              (nextPartition replicas set.status.updatedReplicas) with
          | error e => trivial
          | ok outcome =>
              cases outcome with
              | none =>
                  have hbehind : pilotsUpToDate state t set ≠ none := by
                    rw [hpilots]
                    exact Option.some_ne_none e
                  exact writeBack_all (.advance h hbehind hchanges hlast)
              | some message => exact safe_record.mpr ⟨.event _, trivial⟩
        · simp only [if_neg hchanges]
          trivial
  · exact hevents.mono (fun _ h => UpdatesOnly.of_isEvent h) (fun _ h => h)

end UpdateVersion

end Elasticsearch

end Navigator
