/-
The upgrade of a whole cluster: edits of `spec.version`, Syncs, the StatefulSet
controller and the Pilots of every pool, from the creation of the cluster on.
As long as an edit waits for the rollout before it, every pool is steady or in
a serial rollout, and a pool is in a rollout only when the pools before it are
done.
-/
import Navigator.Elasticsearch.Rollout
import Navigator.Elasticsearch.World

namespace Navigator

open ControlLoop

namespace Elasticsearch

open RollingUpdate

/-- The cluster with another `spec.version`. -/
def withVersion (c : Cluster) (version : Version) : Cluster :=
  { c with spec := { c.spec with version := version } }

def replicasOf (np : NodePool) : Nat := (np.replicas.getD 0).toNat

def annotationOf (set : StatefulSet) : Option String :=
  StringMap.get? set.metadata.annotations elasticsearchNodePoolVersionAnnotation

/-- The image of another version of the cluster. -/
def imageFor (spec : ElasticsearchClusterSpec) (version : Version) : Except Err ImageSpec :=
  esImageToUse { spec with version := version }

/-- The image of the version in the annotation. -/
def annotatedImage (spec : ElasticsearchClusterSpec) (set : StatefulSet) : Option String :=
  (annotationOf set).bind fun text =>
    (Version.parse text).toOption.bind fun version =>
      (imageFor spec version).toOption.map ImageSpec.reference

/-- A default image runs the version it is tagged with. -/
def TagsRun (imageVersion : String → Version) : Prop :=
  ∀ version image, defaultElasticsearchImageForVersion version = .ok image →
    (imageVersion image.reference).equal version = true

/-- The cluster, the stores, and the pods of each pool by the pool's name. -/
structure Upgrade where
  cluster : Cluster
  api : ApiServer
  fleets : String → Fleet String Version := fun _ => {}

namespace Upgrade

inductive Step where
  | edit (version : Version)
  | sync (env : Environment) (status : ElasticsearchClusterStatus) (faults : List (Option Fault))
  | observe (poolName : String) (status : StatefulSetStatus)
  | run (poolName : String) (step : RollingUpdate.Step)

/-- What a `Sync` starts from, with the status the cluster has then. -/
def world (s : Upgrade) (status : ElasticsearchClusterStatus) : World :=
  { cluster := withStatus s.cluster status, api := s.api }

variable (imageVersion : String → Version)

/-- One step.  A `Sync` may read stale caches, and a posted status may lag behind
in any way, as long as no more replicas are updated than there are. -/
def step (s : Upgrade) : Step → Option Upgrade
  | .edit version =>
      if validateElasticsearchClusterUpdate s.cluster (withVersion s.cluster version) = .ok [] then
        some { s with cluster := withVersion s.cluster version }
      else none
  | .sync env status faults =>
      if World.CachesOf s.api env.state then
        some { s with api := ((s.world status).syncRun env faults).2 }
      else none
  | .observe poolName status =>
      (s.api.statefulSets.get (setKey s.cluster poolName)).bind fun set =>
        if 0 ≤ status.updatedReplicas ∧
            status.updatedReplicas ≤ set.spec.replicas.getD 0 then
          some { s with
            api := { s.api with
              statefulSets := s.api.statefulSets.put { set with status := status } } }
        else none
  | .run poolName step =>
      ((s.api.statefulSets.get (setKey s.cluster poolName)).bind planOf).bind fun plan =>
        ((s.fleets poolName).step imageVersion plan step).map fun fleet =>
          { s with fleets := Function.update s.fleets poolName fleet }

/-- A cluster just accepted, with nothing stored and no pods. -/
def Created (s : Upgrade) : Prop :=
  World.Created ⟨s.cluster, s.api⟩ ∧ s.fleets = fun _ => {}

def machine : Machine Upgrade Step where
  init := Created
  step := step imageVersion

/-- The caches show the StatefulSets as they are, with the number of ready pods,
and the Pilots as they reported last. -/
def Fresh (s : Upgrade) (state : State) : Prop :=
  s.api.statefulSets.Current state.statefulSetLister.items ∧
    (∀ np ∈ s.cluster.spec.nodePools, ∀ i < replicasOf np, ∀ p ∈ state.pilotLister.items,
      Resource.key p = pilotKey s.cluster np i →
        p.status.elasticsearch.bind ElasticsearchPilotStatus.version =
          (s.fleets np.name).reported i) ∧
    ∀ np ∈ s.cluster.spec.nodePools,
      ∀ set ∈ s.api.statefulSets.get (setKey s.cluster np.name),
        set.status.readyReplicas = readyCount (s.fleets np.name) (replicasOf np)

instance (s : Upgrade) (state : State) : Decidable (s.Fresh state) :=
  inferInstanceAs (Decidable (_ ∧ _ ∧ _))

/-- No rollout is under way: the annotation of each pool with replicas names the
version of its template, and the StatefulSet controller is through with it. -/
def Idle (s : Upgrade) : Prop :=
  ∀ np ∈ s.cluster.spec.nodePools, ∀ set ∈ s.api.statefulSets.get (setKey s.cluster np.name),
    ∀ plan ∈ planOf set, plan.replicas = 0 ∨
      (annotatedImage s.cluster.spec set = some plan.template ∧
        Settled plan.template (s.fleets np.name))

instance (s : Upgrade) : Decidable s.Idle :=
  inferInstanceAs (Decidable (∀ np ∈ s.cluster.spec.nodePools,
    ∀ set ∈ s.api.statefulSets.get (setKey s.cluster np.name),
    ∀ plan ∈ planOf set, plan.replicas = 0 ∨
      (annotatedImage s.cluster.spec set = some plan.template ∧
        Settled plan.template (s.fleets np.name))))

/-- Syncs read fresh caches. -/
def freshSyncs (s : Upgrade) : Step → Prop
  | .sync env _ _ => s.Fresh env.state
  | _ => True

/-- And edits wait for the rollout before them. -/
def settledEdits (s : Upgrade) : Step → Prop
  | .edit _ => s.Idle
  | event => s.freshSyncs event

instance (s : Upgrade) : (event : Step) → Decidable (s.freshSyncs event)
  | .sync env _ _ => inferInstanceAs (Decidable (s.Fresh env.state))
  | .edit _ => isTrue trivial
  | .observe _ _ => isTrue trivial
  | .run _ _ => isTrue trivial

instance (s : Upgrade) : (event : Step) → Decidable (s.settledEdits event)
  | .sync env _ _ => inferInstanceAs (Decidable (s.Fresh env.state))
  | .edit _ => inferInstanceAs (Decidable s.Idle)
  | .observe _ _ => isTrue trivial
  | .run _ _ => isTrue trivial

end Upgrade

section Phase

variable {spec : ElasticsearchClusterSpec} {turn : Prop} {text : String} {plan : Plan String}
  {fleet fleet' : Fleet String Version} {imageVersion : String → Version}

/-- A report that agrees with the version; with an image of the user's own choice
there is nothing to agree with. -/
def Labelled (spec : ElasticsearchClusterSpec) (version v : Version) : Prop :=
  spec.image = none → v.equal version = true

theorem labelled_image (htags : TagsRun imageVersion) {version : Version} {image : ImageSpec}
    (himage : imageFor spec version = .ok image) :
    Labelled spec version (imageVersion image.reference) := by
  intro hunpinned
  apply htags
  simpa [imageFor, esImageToUse, hunpinned] using himage

/-- Where a pool stands.  `text` is its annotation, and `turn` says that the pools
before it are done. -/
inductive Phase (spec : ElasticsearchClusterSpec) (turn : Prop) (text : String)
    (plan : Plan String) (fleet : Fleet String Version) : Prop where
  | empty (unscaled : plan.replicas = 0)
  | steady (version : Version) (image : ImageSpec) (annotated : text = version.string)
      (running : imageFor spec version = .ok image)
      (steady : Steady (Labelled spec version) image.reference plan fleet)
      (settled : text = spec.version.string ∨ Settled image.reference fleet)
  | rolling (version : Version) (old new : ImageSpec) (annotated : text = version.string)
      (differs : version.equal spec.version = false) (unpinned : spec.image = none)
      (left : imageFor spec version = .ok old) (wanted : esImageToUse spec = .ok new)
      (template : plan.template = new.reference)
      (serial : Serial (UpToDate spec) old.reference new.reference plan fleet) (first : turn)

theorem Phase.mono {turn' : Prop} (h : Phase spec turn text plan fleet) (hturn : turn → turn') :
    Phase spec turn' text plan fleet := by
  rcases h with h | ⟨version, image, h1, h2, h3, h4⟩ |
    ⟨version, old, new, h1, h2, h3, h4, h5, h6, h7, h8⟩
  · exact .empty h
  · exact .steady version image h1 h2 h3 h4
  · exact .rolling version old new h1 h2 h3 h4 h5 h6 h7 (hturn h8)

/-- Another version is not up to date. -/
theorem not_upToDate {version v : Version} (hdiffers : version.equal spec.version = false)
    (hv : v.equal version = true) : ¬ UpToDate spec v := by
  intro hup
  rw [Version.equal_comm] at hv
  rw [Version.equal_trans hv hup] at hdiffers
  cases hdiffers

/-- The reports of the two images of a rollout. -/
theorem images_of_rollout (htags : TagsRun imageVersion) {version : Version} {old new : ImageSpec}
    (hdiffers : version.equal spec.version = false) (hunpinned : spec.image = none)
    (hleft : imageFor spec version = .ok old) (hwanted : esImageToUse spec = .ok new) :
    ¬ UpToDate spec (imageVersion old.reference) ∧
      UpToDate spec (imageVersion new.reference) := by
  have hcurrent : imageFor spec spec.version = .ok new := hwanted
  exact ⟨not_upToDate hdiffers (labelled_image htags hleft hunpinned),
    labelled_image htags hcurrent hunpinned⟩

/-- A step of the controller or of a pod keeps the phase. -/
theorem Phase.move (htags : TagsRun imageVersion) (h : Phase spec turn text plan fleet)
    {step : RollingUpdate.Step} (hmove : fleet.Move imageVersion plan step fleet') :
    Phase spec turn text plan fleet' := by
  rcases h with h | ⟨version, image, htext, hrunning, hsteady, hsettled⟩ |
    ⟨version, old, new, htext, hdiffers, hunpinned, hleft, hwanted, htemplate, hserial, hturn⟩
  · exact .empty h
  · obtain ⟨hsteady', hkept⟩ := hsteady.move (labelled_image htags hrunning) hmove
    exact .steady version image htext hrunning hsteady' (hsettled.imp_right hkept)
  · obtain ⟨hold, hnew⟩ := images_of_rollout htags hdiffers hunpinned hleft hwanted
    exact .rolling version old new htext hdiffers hunpinned hleft hwanted htemplate
      (hserial.move hold hnew hmove) hturn

/-- The write that completes the upgrade ends the rollout. -/
theorem Phase.complete (h : Phase spec turn text plan fleet)
    (hdiffers : ∀ version : Version, text = version.string → version.equal spec.version = false)
    (hsound : Sound plan.replicas fleet)
    (hreports : ∀ i < plan.replicas, Reports (UpToDate spec) fleet i)
    (hready : ∀ i < plan.replicas, ∃ r ∈ fleet.pods i, r.ready = true) :
    Phase spec turn spec.version.string plan fleet := by
  by_cases hscaled : plan.replicas = 0
  · exact .empty hscaled
  rcases h with h | ⟨version, image, htext, hrunning, hsteady, _⟩ |
    ⟨version, old, new, _, _, _, _, hwanted, _, hserial, _⟩
  · exact .empty h
  · -- a default image cannot report another version than its own
    have hpinned : spec.image ≠ none := by
      intro hunpinned
      obtain ⟨v, hv, hup⟩ := hreports 0 (Nat.pos_of_ne_zero hscaled)
      exact not_upToDate (hdiffers version htext) (hsteady.reported 0 v hv hunpinned) hup
    refine .steady spec.version image rfl ?_ ⟨hsteady.template, hsteady.revisions, ?_,
      hsteady.calm, hsteady.current⟩ (Or.inl rfl)
    · obtain ⟨chosen, hchosen⟩ := Option.ne_none_iff_exists'.mp hpinned
      simpa [imageFor, esImageToUse, hchosen] using hrunning
    · exact fun _ _ _ hunpinned => absurd hunpinned hpinned
  · have hsteady := Steady.of_serial hserial hsound hscaled hreports hready
    exact .steady spec.version new rfl hwanted ⟨hsteady.template, hsteady.revisions,
      fun i v hv _ => hsteady.reported i v hv, hsteady.calm, hsteady.current⟩ (Or.inl rfl)

/-- The write that lets one more pod update starts the rollout or keeps it
serial. -/
theorem Phase.advance (htags : TagsRun imageVersion) (h : Phase spec turn text plan fleet)
    (hdiffers : ∀ version : Version, text = version.string → version.equal spec.version = false)
    (hsound : Sound plan.replicas fleet)
    (hready : ∀ i < plan.replicas, ∃ r ∈ fleet.pods i, r.ready = true) {image : ImageSpec}
    (hwanted : esImageToUse spec = .ok image) (hturn : turn) {next : Nat}
    (hlast : next + 1 < plan.replicas → Reports (UpToDate spec) fleet (next + 1)) :
    Phase spec turn text { plan with template := image.reference, partition := next } fleet := by
  by_cases hscaled : plan.replicas = 0
  · exact .empty hscaled
  rcases h with h | ⟨version, old, htext, hrunning, hsteady, hsettled⟩ |
    ⟨version, old, new, htext, hdiffer, hunpinned, hleft, hnew, _, hserial, _⟩
  · exact .empty h
  · have hdiffer := hdiffers version htext
    cases hpinned : spec.image with
    | some chosen =>
        -- the image is the user's own, so there is nothing to roll out
        have hsame : imageFor spec version = esImageToUse spec := by
          simp [imageFor, esImageToUse, hpinned]
        have himage : old = image := Except.ok.inj (hrunning.symm.trans (hsame.trans hwanted))
        subst himage
        exact .steady version old htext hrunning
          ⟨rfl, hsteady.revisions, hsteady.reported, hsteady.calm, hsteady.current⟩ hsettled
    | none =>
        obtain ⟨hold, hnew⟩ := images_of_rollout htags hdiffer hpinned hrunning hwanted
        have hne : old.reference ≠ image.reference := fun heq => hold (heq ▸ hnew)
        obtain ⟨r, hr, _⟩ := hready 0 (Nat.pos_of_ne_zero hscaled)
        have hsettled : Settled old.reference fleet := by
          refine hsettled.resolve_left fun heq => ?_
          rw [Version.string_injective (htext.symm.trans heq), Version.equal_refl] at hdiffer
          cases hdiffer
        have hcurrent : fleet.current = some old.reference :=
          hsettled.resolve_left (hsound.adopted 0 r hr)
        have hserial : Serial (UpToDate spec) old.reference image.reference plan fleet :=
          Serial.of_steady hsteady hcurrent
            (fun v hv => not_upToDate hdiffer (hv hpinned)) hne
        exact .rolling version old image htext hdiffer hpinned hrunning hwanted rfl
          (hserial.advance hne hlast) hturn
  · have hsame : new = image := Except.ok.inj (hnew.symm.trans hwanted)
    subst hsame
    obtain ⟨hold, hup⟩ := images_of_rollout htags hdiffer hunpinned hleft hwanted
    have hne : old.reference ≠ new.reference := fun heq => hold (heq ▸ hup)
    exact .rolling version old new htext hdiffer hunpinned hleft hwanted rfl
      (hserial.advance hne hlast) hturn

/-- An edit while the pool is idle finds it steady. -/
theorem Phase.edit (htags : TagsRun imageVersion) (h : Phase spec turn text plan fleet)
    {set : StatefulSet} (hannotated : annotationOf set = some text)
    (hidle : plan.replicas = 0 ∨
      (annotatedImage spec set = some plan.template ∧ Settled plan.template fleet))
    (version : Version) (turn' : Prop) :
    Phase { spec with version := version } turn' text plan fleet := by
  rcases hidle with hscaled | ⟨hnamed, hsettled⟩
  · exact .empty hscaled
  have hnamedBy : ∀ (a : Version) (image : ImageSpec), text = a.string →
      imageFor spec a = .ok image → plan.template = image.reference := by
    intro a image htext himage
    rw [annotatedImage, hannotated, htext, Option.bind_some, Version.parse_string] at hnamed
    simp only [Except.toOption, Option.bind_some, himage, Option.map_some,
      Option.some.injEq] at hnamed
    exact hnamed.symm
  rcases h with h | ⟨a, image, htext, hrunning, hsteady, _⟩ |
    ⟨a, old, new, htext, hdiffers, hunpinned, hleft, hwanted, htemplate, _, _⟩
  · exact .empty h
  · refine .steady a image htext hrunning hsteady (Or.inr ?_)
    rwa [← hnamedBy a image htext hrunning]
  · -- in a rollout the template is already that of another version
    obtain ⟨hold, hnew⟩ := images_of_rollout htags hdiffers hunpinned hleft hwanted
    rw [← htemplate, hnamedBy a old htext hleft] at hnew
    exact absurd hnew hold

end Phase

theorem drop_reference (repository tag : String) :
    (repository ++ ":" ++ tag).toList.drop (repository.length + 1) = tag.toList := by
  have hlists : (repository ++ ":" ++ tag).toList =
      (repository.toList ++ [':']) ++ tag.toList := by simp [String.toList_append]
  rw [hlists]
  exact List.drop_left' (by simp [String.length_toList])

theorem reference_of_default {version : Version} {image : ImageSpec}
    (h : defaultElasticsearchImageForVersion version = .ok image) :
    image.reference = defaultElasticsearchImageRepository ++ ":" ++ version.string := by
  unfold defaultElasticsearchImageForVersion at h
  generalize defaultElasticsearchImageRepository = repository at h ⊢
  split at h
  · cases h
  · rw [← Except.ok.inj h]
    rfl

/-- Reading the tag of a default image is such an assignment of versions. -/
theorem tagsRun_tagVersion : TagsRun RolloutWitness.tagVersion := by
  intro version image himage
  rw [reference_of_default himage]
  unfold RolloutWitness.tagVersion
  generalize defaultElasticsearchImageRepository = repository
  simp only [drop_reference, String.ofList_toList, Version.parse_string, Version.equal_refl]

end Elasticsearch

end Navigator
