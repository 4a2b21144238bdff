/-
When `UpdateVersion` declares the upgrade of a pool complete, and which image
the pods created from then on will run.
-/
import Navigator.Elasticsearch.ActionSpecs
import Navigator.Elasticsearch.PilotLookup

namespace Navigator

open ControlLoop

namespace Elasticsearch

namespace UpdateVersion

/-- The StatefulSet is annotated with the version of the spec. -/
def Declares (t : Target) (set : StatefulSet) : Prop :=
  StringMap.get? set.metadata.annotations elasticsearchNodePoolVersionAnnotation =
    some t.cluster.spec.version.string

/-- The pods created from the template run the image of the spec. -/
def RunsImage (t : Target) (set : StatefulSet) : Prop :=
  ∃ image, esImageToUse t.cluster.spec = .ok image ∧ set.image? = some image.reference

theorem Proceeds.annotations_ne_none {state : State} {t : Target} {set : StatefulSet}
    {replicas : Int} {existingImage : String} {image : ImageSpec}
    (h : Proceeds state t set replicas existingImage image) :
    set.metadata.annotations ≠ none := by
  obtain ⟨text, version, htext, _⟩ := h.outdated
  intro hnone
  rw [hnone] at htext
  cases htext

theorem completed_declares {state : State} {t : Target} {set : StatefulSet}
    {replicas : Int} {existingImage : String} {image : ImageSpec}
    (h : Proceeds state t set replicas existingImage image) :
    Declares t (completed t set) := by
  unfold Declares completed
  rw [StatefulSet.withAnnotation_annotations, StringMap.get?_set h.annotations_ne_none, if_pos rfl]

/-- Completing leaves the template alone. -/
theorem completed_runsImage_iff {state : State} {t : Target} {set : StatefulSet}
    {replicas : Int} {existingImage : String} {image : ImageSpec}
    (h : Proceeds state t set replicas existingImage image) :
    RunsImage t (completed t set) ↔ existingImage = image.reference := by
  unfold RunsImage completed
  simp only [StatefulSet.withAnnotation_image?, h.existing, h.toUse, Except.ok.injEq,
    exists_eq_left', Option.some.injEq]

/-- Advancing writes the image of the spec. -/
theorem advanced_runsImage {state : State} {t : Target} {set : StatefulSet}
    {replicas : Int} {existingImage : String} {image : ImageSpec}
    (h : Proceeds state t set replicas existingImage image) (partition : Int) :
    RunsImage t (advanced set partition image.reference) := by
  refine ⟨image, h.toUse, ?_⟩
  simp only [advanced, StatefulSet.withImage_image?, StatefulSet.withPartition_image?, h.existing,
    Option.map_some]

/-- Once the Pilots of all replicas report the version, the action writes the
annotation. -/
theorem completed_mem_calls {state : State} {t : Target} {set : StatefulSet}
    {replicas : Int} {existingImage : String} {image : ImageSpec}
    (h : Proceeds state t set replicas existingImage image)
    (hreported : Reported state t set replicas) (api : ApiServer) :
    (api, .updateStatefulSet (completed t set)) ∈ (execute state t).calls ApiServer.serve api := by
  have hup := (pilotsUpToDate_eq_none_iff h.desired).mpr hreported
  simp only [h.execute_eq, decideWrite, hup]
  exact Prog.mem_calls_bind_left List.mem_cons_self

/-- Every StatefulSet that the action annotates with the version of the spec
runs the image of the spec, exactly when this is so already for a template
whose pods are all ready and reported at the version.  Of a pool without
replicas no report is asked for. -/
theorem execute_declares_iff (state : State) (t : Target) (api : ApiServer) :
    (∀ met written, (met, .updateStatefulSet written) ∈
        (execute state t).calls ApiServer.serve api →
      Declares t written → RunsImage t written) ↔
    ∀ set replicas existingImage image, Proceeds state t set replicas existingImage image →
      Reported state t set replicas → existingImage = image.reference := by
  constructor
  · intro h set replicas existingImage image hproceeds hreported
    exact (completed_runsImage_iff hproceeds).mp (h api _
      (completed_mem_calls hproceeds hreported api) (completed_declares hproceeds))
  · intro h met written hcall _
    have hgood := Prog.good_of_mem_calls (execute_all state t) hcall
    rcases hgood with _ | ⟨hwrites⟩
    cases hwrites with
    | complete hproceeds hup =>
        exact (completed_runsImage_iff hproceeds).mpr (h _ _ _ _ hproceeds
          ((pilotsUpToDate_eq_none_iff hproceeds.desired).mp hup))
    | advance hproceeds _ _ _ => exact advanced_runsImage hproceeds _

end UpdateVersion

namespace CompletionWitness

open UpdateVersion

def pool (replicas : Int) : NodePool := samplePool "all" replicas [.master, .data]

/-- A healthy cluster of the version given. -/
def cluster (version : Version) (replicas : Int) : Cluster :=
  { sampleCluster "db" "uid-db" version [pool replicas] with status := { health := some .green } }

/-- The cluster is to be upgraded to 6.2.0. -/
def target (replicas : Int) : Target := ⟨cluster (release 6 2 0) replicas, pool replicas⟩

/-- Its StatefulSet was created at 6.1.1; the template has the image of the
version given, and all replicas are ready. -/
def stored (replicas : Int) (templateVersion : Version) : List StatefulSet :=
  (nodePoolStatefulSet (cluster (release 6 1 1) replicas) (pool replicas)).toOption.toList.map
    fun set =>
      { set.withImage (defaultElasticsearchImageRepository ++ ":" ++ templateVersion.string) with
        status := { set.status with readyReplicas := replicas } }

/-- The Pilot of the first replica. -/
def pilot (version : Version) : Pilot where
  metadata :=
    { name := "es-db-all-0"
      namespaceName := "default"
      labels := nodePoolLabels (cluster version 1) "all" [] }
  status := { elasticsearch := some { version := some version } }

def state (sets : List StatefulSet) (pilots : List Pilot) : State where
  statefulSetLister := { items := sets }
  configMapLister := { items := [] }
  pilotLister := { items := pilots }
  podLister := { items := [] }

/-- The sets that the action annotates, with the image of each. -/
def declared (replicas : Int) (templateVersion : Version) (pilots : List Pilot) :
    List (Option String) :=
  ((execute (state (stored replicas templateVersion) pilots) (target replicas)).calls
    ApiServer.serve {}).filterMap fun call =>
      match call.2 with
      | .updateStatefulSet written =>
          if StringMap.get? written.metadata.annotations
              elasticsearchNodePoolVersionAnnotation = some "6.2.0" then
            some written.image?
          else none
      | _ => none

/-- The image of 6.2.0 is to be used.  A pool without replicas is declared
upgraded with the image of 6.1.1; and so is one with the image of 6.3.0, after
an upgrade to that version was called off before it replaced the pod. -/
theorem execute_declares_other_image :
    (esImageToUse (target 0).cluster.spec).map ImageSpec.reference =
        .ok "docker.elastic.co/elasticsearch/elasticsearch:6.2.0" ∧
      declared 0 (release 6 1 1) [] =
        [some "docker.elastic.co/elasticsearch/elasticsearch:6.1.1"] ∧
      declared 1 (release 6 3 0) [pilot (release 6 2 0)] =
        [some "docker.elastic.co/elasticsearch/elasticsearch:6.3.0"] := by
  decide +kernel

end CompletionWitness

end Elasticsearch

end Navigator
