/-
The upgrade of one node pool: `UpdateVersion.Execute` on caches that may be
stale, the StatefulSet controller, readiness changes and Pilot reports in any
order.  Only one pod of the pool is in transit at a time.
-/
import Navigator.Base.Machine
import Navigator.Base.RollingUpdate
import Navigator.Elasticsearch.ActionSpecs
import Navigator.Elasticsearch.PilotLookup

namespace Navigator

open ControlLoop

namespace Elasticsearch

open RollingUpdate

/-- What the StatefulSet controller reads of a StatefulSet. -/
def planOf (set : StatefulSet) : Option (Plan String) :=
  set.spec.replicas.bind fun replicas =>
    set.image?.map fun image => ⟨replicas.toNat, image, set.partition⟩

/-- The same pool with another status of its cluster. -/
def Target.withStatus (t : Target) (status : ElasticsearchClusterStatus) : Target :=
  { t with cluster := { t.cluster with status := status } }

/-- A report of the version that the spec asks for. -/
def UpToDate (spec : ElasticsearchClusterSpec) (v : Version) : Prop :=
  v.equal spec.version = true

instance (spec : ElasticsearchClusterSpec) : DecidablePred (UpToDate spec) :=
  fun v => inferInstanceAs (Decidable (v.equal spec.version = true))

/-- The pool of a run: its target, the number of replicas, and the version that
the Elasticsearch of an image reports. -/
structure Setup where
  target : Target
  replicas : Nat
  imageVersion : String → Version

namespace Setup

def spec (setup : Setup) : ElasticsearchClusterSpec := setup.target.cluster.spec

def key (setup : Setup) : String × String :=
  (setup.target.namespaceName, setup.target.statefulSetName)

def pilotKey (setup : Setup) (i : Nat) : String × String :=
  (setup.target.namespaceName, pilotNameForStatefulSetReplica setup.target.statefulSetName i)

end Setup

structure Rollout where
  api : ApiServer
  fleet : Fleet String Version

namespace Rollout

inductive Step where
  | execute (state : State) (status : ElasticsearchClusterStatus) (faults : List (Option Fault))
  | observe (status : StatefulSetStatus)
  | run (step : RollingUpdate.Step)

variable (setup : Setup)

/-- The StatefulSets in the cache are or were stored, and a cached Pilot that is
up to date has reported so, and keeps reporting it. -/
def Sees (s : Rollout) (state : State) : Prop :=
  s.api.statefulSets.Cache state.statefulSetLister.items ∧
    ∀ p ∈ state.pilotLister.items, ∀ i < setup.replicas, Resource.key p = setup.pilotKey i →
      pilotVersionUpToDate setup.spec p.status = true →
        Reports (UpToDate setup.spec) s.fleet i

instance (s : Rollout) (state : State) : Decidable (s.Sees setup state) :=
  inferInstanceAs (Decidable (_ ∧ _))

/-- One step.  The counters of a posted status may lag behind in any way, as
long as no more replicas are updated than there are. -/
def step (s : Rollout) : Step → Option Rollout
  | .execute state status faults =>
      if s.Sees setup state then
        some { s with
          api := ((UpdateVersion.execute state (setup.target.withStatus status)).run
            ApiServer.serve { s.api with faults := faults }).2 }
      else none
  | .observe status =>
      (s.api.statefulSets.get setup.key).bind fun set =>
        if 0 ≤ status.updatedReplicas ∧ status.updatedReplicas ≤ setup.replicas then
          some { s with
            api := { s.api with
              statefulSets := s.api.statefulSets.put { set with status := status } } }
        else none
  | .run step =>
      ((s.api.statefulSets.get setup.key).bind planOf).bind fun plan =>
        (s.fleet.step setup.imageVersion plan step).map fun fleet => { s with fleet := fleet }

/-- The stored StatefulSet of the pool. -/
structure Stored (sets : ObjectStore StatefulSet) (set : StatefulSet) (image : String) :
    Prop where
  get : sets.get setup.key = some set
  replicas : set.spec.replicas = some (setup.replicas : Int)
  image : set.image? = some image
  updated : 0 ≤ set.status.updatedReplicas ∧ set.status.updatedReplicas ≤ setup.replicas

/-- All pods run an image of `v1`, and all Pilots report `v1`. -/
def StartsAt (v1 : Version) (s : Rollout) : Prop :=
  ∃ set old, Stored setup s.api.statefulSets set old ∧ (setup.imageVersion old).equal v1 = true ∧
    s.fleet.current = some old ∧
    (∀ i, s.fleet.pods i = if i < setup.replicas then some ⟨old, true⟩ else none) ∧
    (∀ i, ∀ v ∈ s.fleet.reported i, v.equal v1 = true) ∧ ∀ i, s.fleet.restarting i = false

def machine (v1 : Version) : Machine Rollout Step where
  init := StartsAt setup v1
  step := step setup

section Invariant

variable {setup : Setup} {old new : String} {s s' : Rollout}

/-- The invariant: the stored StatefulSet and the pods are in a serial rollout. -/
def Serial (setup : Setup) (old new : String) (sets : ObjectStore StatefulSet)
    (fleet : Fleet String Version) : Prop :=
  ∃ set image, Stored setup sets set image ∧
    RollingUpdate.Serial (UpToDate setup.spec) old new
      ⟨setup.replicas, image, set.partition⟩ fleet

theorem Serial.observe (h : Serial setup old new s.api.statefulSets s.fleet)
    {status : StatefulSetStatus} (hstep : s.step setup (.observe status) = some s') :
    Serial setup old new s'.api.statefulSets s'.fleet := by
  obtain ⟨set, image, hstored, hserial⟩ := h
  simp only [step, hstored.get, Option.bind_some, Option.ite_none_right_eq_some,
    Option.some.injEq] at hstep
  obtain ⟨hupdated, rfl⟩ := hstep
  have hset : Resource.key set = setup.key := ObjectStore.key_of_get hstored.get
  have hkey : Resource.key ({ set with status := status } : StatefulSet) = setup.key := hset
  refine ⟨Resource.withVersion { set with status := status } s.api.statefulSets.nextVersion,
    image, ⟨?_, hstored.replicas, hstored.image, hupdated⟩, hserial⟩
  simp only [ObjectStore.get_put, hkey, if_true]

theorem Serial.run (h : Serial setup old new s.api.statefulSets s.fleet)
    (hold : ¬ UpToDate setup.spec (setup.imageVersion old))
    (hnew : UpToDate setup.spec (setup.imageVersion new)) {event : RollingUpdate.Step}
    (hstep : s.step setup (.run event) = some s') :
    Serial setup old new s'.api.statefulSets s'.fleet := by
  obtain ⟨set, image, hstored, hserial⟩ := h
  have hplan : planOf set = some ⟨setup.replicas, image, set.partition⟩ := by
    simp [planOf, hstored.replicas, hstored.image]
  simp only [step, hstored.get, Option.bind_some, hplan, Option.map_eq_some_iff] at hstep
  obtain ⟨fleet, hfleet, rfl⟩ := hstep
  exact ⟨set, image, hstored, hserial.move hold hnew (Fleet.move_of_step hfleet)⟩

/-- What `UpdateVersion` may write on top of the stored StatefulSet keeps the
rollout serial. -/
theorem Serial.of_writes {image : ImageSpec} (hrange : (setup.replicas : Int) < 2 ^ 31)
    (himage : esImageToUse setup.spec = .ok image) (hne : old ≠ image.reference)
    {state : State} {status : ElasticsearchClusterStatus} {fleet : Fleet String Version}
    (hsees : ∀ p ∈ state.pilotLister.items, ∀ i < setup.replicas,
      Resource.key p = setup.pilotKey i → pilotVersionUpToDate setup.spec p.status = true →
        Reports (UpToDate setup.spec) fleet i)
    {sets : ObjectStore StatefulSet} {set : StatefulSet} {template : String}
    (hstored : Stored setup sets set template)
    (hserial : RollingUpdate.Serial (UpToDate setup.spec) old image.reference
      ⟨setup.replicas, template, set.partition⟩ fleet)
    {written : StatefulSet}
    (hwrites : UpdateVersion.Writes state (setup.target.withStatus status) written)
    (hsame : ∀ cached ∈ state.statefulSetLister.items,
      Resource.version written = Resource.version cached → cached = set) :
    ∃ template', written.spec.replicas = some (setup.replicas : Int) ∧
      written.image? = some template' ∧ written.status = set.status ∧
      RollingUpdate.Serial (UpToDate setup.spec) old image.reference
        ⟨setup.replicas, template', written.partition⟩ fleet := by
  cases hwrites with
  | complete hproceeds _ =>
      have hcached := hsame _ (Lister.get_ok hproceeds.cached).1 (by simp [UpdateVersion.completed])
      subst hcached
      exact ⟨template, hstored.replicas, hstored.image, rfl, hserial⟩
  | @advance cached replicas existing toUse hproceeds _ _ hlast =>
      have hcached := hsame _ (Lister.get_ok hproceeds.cached).1 (by simp [UpdateVersion.advanced])
      subst hcached
      have htoUse : esImageToUse setup.spec = .ok toUse := hproceeds.toUse
      rw [himage] at htoUse
      cases htoUse
      have hreplicas : replicas = (setup.replicas : Int) :=
        Option.some.inj (hproceeds.desired.symm.trans hstored.replicas)
      subst hreplicas
      obtain ⟨hlow, hhigh⟩ := hstored.updated
      have hpartition := UpdateVersion.nextPartition_eq hlow hhigh hrange
      obtain ⟨p, hp⟩ := Int.eq_ofNat_of_zero_le
        (show 0 ≤ UpdateVersion.nextPartition setup.replicas cached.status.updatedReplicas by
          rw [hpartition]
          exact le_max_left _ _)
      rw [hp] at hlast ⊢
      refine ⟨image.reference, hstored.replicas, ?_, rfl, ?_⟩
      · simp [UpdateVersion.advanced, hstored.image]
      · -- the pod above the new partition has reported
        have hnext : p + 1 < setup.replicas → Reports (UpToDate setup.spec) fleet (p + 1) := by
          intro hbound
          obtain ⟨pilot, hget, hup⟩ := (UpdateVersion.lastPilotError_eq_none_iff (by omega)
            (by omega)).mp hlast (by omega)
          obtain ⟨hitem, hkey⟩ := Lister.get_ok hget
          refine hsees pilot hitem (p + 1) hbound ?_ hup
          have hname : nameOf cached = setup.target.statefulSetName :=
            congrArg Prod.snd (Lister.get_ok hproceeds.cached).2
          rw [hkey, hname]
          rfl
        exact hserial.advance hne hnext

/-- A request of `UpdateVersion` keeps the rollout serial: an update that is
accepted was built from the stored StatefulSet. -/
theorem Serial.serve {image : ImageSpec} (hrange : (setup.replicas : Int) < 2 ^ 31)
    (himage : esImageToUse setup.spec = .ok image) (hne : old ≠ image.reference)
    {state : State} {status : ElasticsearchClusterStatus} (hsees : s.Sees setup state)
    (api : ApiServer) (request : Request)
    (hinv : Serial setup old image.reference api.statefulSets s.fleet ∧
      ∀ set ∈ s.api.statefulSets.history, set ∈ api.statefulSets.history)
    (hrequest : UpdatesOnly
      (UpdateVersion.Writes state (setup.target.withStatus status)) request) :
    Serial setup old image.reference (api.serve request).2.statefulSets s.fleet ∧
      ∀ set ∈ s.api.statefulSets.history, set ∈ (api.serve request).2.statefulSets.history := by
  apply ApiServer.serve_preserves fun api =>
    Serial setup old image.reference api.statefulSets s.fleet ∧
      ∀ set ∈ s.api.statefulSets.history, set ∈ api.statefulSets.history
  · exact fun api faults h => h
  · intro api api' h heffect
    refine ⟨?_, fun set hset => heffect.history_subset (h.2 set hset)⟩
    obtain ⟨⟨set, template, hstored, hserial⟩, hsubset⟩ := h
    cases hrequest with
    | event =>
        cases heffect
        exact ⟨set, template, hstored, hserial⟩
    | @update written hwrites =>
        cases heffect with
        | @updateStatefulSet _ stored hfound hunchanged =>
            have hcached : ∀ cached ∈ state.statefulSetLister.items,
                Resource.version written = Resource.version cached → cached = stored := by
              intro cached hmem hversion
              exact api.statefulSets.history_unique cached (hsubset cached (hsees.1.2 cached hmem))
                stored (ObjectStore.mem_history_of_get hfound) (hversion.symm.trans hunchanged)
            have hkeys := hwrites.key
            have hkey : Resource.key written = setup.key := hkeys
            have hsame : stored = set := by
              rw [hkey] at hfound
              exact Option.some.inj (hfound.symm.trans hstored.get)
            subst hsame
            obtain ⟨template', hreplicas, htemplate, hstatus, hserial'⟩ :=
              Serial.of_writes hrange himage hne hsees.2 hstored hserial hwrites hcached
            refine ⟨Resource.withVersion written api.statefulSets.nextVersion, template',
              ⟨?_, hreplicas, htemplate, ?_⟩, hserial'⟩
            · simp only [ObjectStore.get_put, hkey, if_true]
            · have hupdated := hstored.updated
              rw [← hstatus] at hupdated
              exact hupdated
  · exact hinv

/-- Every step of a run keeps the rollout serial. -/
theorem Serial.step {image : ImageSpec} (hrange : (setup.replicas : Int) < 2 ^ 31)
    (himage : esImageToUse setup.spec = .ok image)
    (hold : ¬ UpToDate setup.spec (setup.imageVersion old))
    (hnew : UpToDate setup.spec (setup.imageVersion image.reference))
    (h : Serial setup old image.reference s.api.statefulSets s.fleet) {event : Step}
    (hstep : Rollout.step setup s event = some s') :
    Serial setup old image.reference s'.api.statefulSets s'.fleet := by
  have hne : old ≠ image.reference := fun heq => hold (heq ▸ hnew)
  cases event with
  | observe status => exact h.observe hstep
  | run event => exact h.run hold hnew hstep
  | execute state status faults =>
      simp only [Rollout.step, Option.ite_none_right_eq_some, Option.some.injEq] at hstep
      obtain ⟨hsees, rfl⟩ := hstep
      refine (Prog.run_preserves
        (fun api : ApiServer => Serial setup old image.reference api.statefulSets s.fleet ∧
          ∀ set ∈ s.api.statefulSets.history, set ∈ api.statefulSets.history)
        (Serial.serve hrange himage hne hsees)
        (UpdateVersion.execute_all state (setup.target.withStatus status)) ?_).1
      exact ⟨h, fun _ hset => hset⟩

/-- At the start the pool is steady at the old version. -/
theorem StartsAt.serial {v1 : Version} (h : StartsAt setup v1 s)
    (hdiffers : v1.equal setup.spec.version = false)
    (hnew : UpToDate setup.spec (setup.imageVersion new)) :
    ∃ old, ¬ UpToDate setup.spec (setup.imageVersion old) ∧
      Serial setup old new s.api.statefulSets s.fleet := by
  obtain ⟨set, old, hstored, hv1, hcurrent, hpods, hreported, hcalm⟩ := h
  -- a version that is `v1` is not the new one
  have hdisjoint : ∀ v : Version, v.equal v1 = true → ¬ UpToDate setup.spec v := by
    intro v hv hup
    rw [Version.equal_comm] at hv
    have hequal := Version.equal_trans hv hup
    rw [hdiffers] at hequal
    cases hequal
  have hold := hdisjoint _ hv1
  have hne : old ≠ new := fun heq => hold (heq ▸ hnew)
  have hsteady : Steady (fun v : Version => v.equal v1 = true) old
      ⟨setup.replicas, old, set.partition⟩ s.fleet := by
    refine ⟨rfl, ?_, hreported, hcalm, Or.inl (Or.inr hcurrent)⟩
    intro i r hr
    rw [hpods i] at hr
    split at hr
    · exact Option.some.inj hr ▸ rfl
    · cases hr
  exact ⟨old, hold, set, old, hstored,
    RollingUpdate.Serial.of_steady hsteady hcurrent hdisjoint hne⟩

end Invariant

end Rollout

/-- One pod at a time: in every state of every run, when the template asks for
the new image, every pod above one that exists from the partition on runs the
new version and has reported it. -/
theorem updateVersion_one_pod_at_a_time {setup : Setup} {v1 : Version} {image : ImageSpec}
    {s : Rollout} (hrange : setup.replicas < 2 ^ 31)
    (himage : esImageToUse setup.spec = .ok image)
    (hruns : (setup.imageVersion image.reference).equal setup.spec.version = true)
    (hdiffers : v1.equal setup.spec.version = false)
    (hreach : (Rollout.machine setup v1).Reachable Machine.anyStep s)
    {set : StatefulSet} (hset : s.api.statefulSets.get setup.key = some set)
    (htemplate : set.image? = some image.reference) {i j : Nat} (hi : set.partition ≤ i)
    (_hexists : (s.fleet.pods i).isSome = true) (hij : i < j) (hj : j < setup.replicas) :
    (∃ r ∈ s.fleet.pods j, (setup.imageVersion r.revision).equal setup.spec.version = true) ∧
      ∃ v ∈ s.fleet.reported j, v.equal setup.spec.version = true := by
  have hinv : ∃ old, ¬ UpToDate setup.spec (setup.imageVersion old) ∧
      Rollout.Serial setup old image.reference s.api.statefulSets s.fleet := by
    apply Machine.Reachable.invariant (fun s : Rollout =>
      ∃ old, ¬ UpToDate setup.spec (setup.imageVersion old) ∧
        Rollout.Serial setup old image.reference s.api.statefulSets s.fleet) _ _ hreach
    · exact fun s hstart => hstart.serial hdiffers hruns
    · rintro s event s' ⟨old, hold, hserial⟩ _ hstep
      exact ⟨old, hold, hserial.step (by exact_mod_cast hrange) himage hold hruns hstep⟩
  obtain ⟨old, hold, stored, template, hstored, hserial⟩ := hinv
  have hsame : stored = set := Option.some.inj (hstored.get.symm.trans hset)
  subst hsame
  have hnew : template = image.reference :=
    Option.some.inj (hstored.image.symm.trans htemplate)
  obtain ⟨⟨r, hr, hrevision⟩, hreports⟩ := hserial.partition hnew j (by
    change stored.partition < j
    omega) hj
  exact ⟨⟨r, hr, by rw [hrevision, hruns]⟩, hreports⟩

namespace RolloutWitness

def pool : NodePool := samplePool "all" 3 [.master, .data]

def cluster (version : Version) : Cluster := sampleCluster "db" "uid-db" version [pool]

/-- The version in the tag of a default image. -/
def tagVersion (image : String) : Version :=
  match Version.parse (String.ofList
      (image.toList.drop (defaultElasticsearchImageRepository.length + 1))) with
  | .ok version => version
  | .error _ => emptySemver

/-- A pool of three replicas that is upgraded from 6.1.1 to 6.2.0. -/
def setup : Setup where
  target := ⟨cluster (release 6 2 0), pool⟩
  replicas := 3
  imageVersion := tagVersion

def oldImage : String := "docker.elastic.co/elasticsearch/elasticsearch:6.1.1"

def start : Rollout where
  api :=
    { statefulSets := match nodePoolStatefulSet (cluster (release 6 1 1)) pool with
        | .ok set => ObjectStore.empty.put set
        | .error _ => .empty }
  fleet :=
    { current := some oldImage
      pods := fun i => if i < 3 then some ⟨oldImage, true⟩ else none
      reported := fun i => if i < 3 then some (release 6 1 1) else none }

def execute (s : Rollout) (pilots : List Pilot) : Rollout.Step :=
  .execute
    { statefulSetLister := { items := s.api.statefulSets.objects }
      configMapLister := { items := [] }
      pilotLister := { items := pilots }
      podLister := { items := [] } } { health := some .green } []

def after (events : List Rollout.Step) : Rollout :=
  ((Rollout.machine setup (release 6 1 1)).exec start events).getD start

/-- The first write, and the replacement of the last pod. -/
def firstPod : List Rollout.Step :=
  [.observe { readyReplicas := 3, currentReplicas := 3, updatedReplicas := 0 },
    execute (after [.observe
      { readyReplicas := 3, currentReplicas := 3, updatedReplicas := 0 }]) [],
    .run (.replace 2), .run (.start 2), .run (.ready 2 true), .run (.report 2),
    .observe { readyReplicas := 3, currentReplicas := 2, updatedReplicas := 1 }]

/-- The Pilot of the last pod as it reports the new version. -/
def pilot : Pilot where
  metadata := { name := "es-db-all-2", namespaceName := "default" }
  status := { elasticsearch := some { version := some (release 6 2 0) } }

/-- The second write lets the next pod follow. -/
def events : List Rollout.Step := firstPod ++ [execute (after firstPod) [pilot]]

theorem start_startsAt : Rollout.StartsAt setup (release 6 1 1) start := by
  refine ⟨(start.api.statefulSets.get setup.key).getD {}, oldImage,
    ⟨by decide +kernel, by decide +kernel, by decide +kernel, by decide +kernel⟩,
    by decide +kernel, rfl, fun _ => rfl, ?_, fun _ => rfl⟩
  intro i v hv
  simp only [start, Option.mem_def, Option.ite_none_right_eq_some, Option.some.injEq] at hv
  rw [← hv.2]
  exact Version.equal_refl _

def newImage : ImageSpec := ⟨defaultElasticsearchImageRepository, "6.2.0", pullIfNotPresent⟩

/-- The StatefulSet after the second write. -/
def reachedSet : StatefulSet := ((after events).api.statefulSets.get setup.key).getD {}

/-- After the second write pod 1 is next, and pod 2 runs and reports 6.2.0. -/
theorem updateVersion_one_pod_at_a_time_second_pod :
    (∃ r ∈ (after events).fleet.pods 2,
      (setup.imageVersion r.revision).equal setup.spec.version = true) ∧
      ∃ v ∈ (after events).fleet.reported 2, v.equal setup.spec.version = true := by
  have hfacts : ((Rollout.machine setup (release 6 1 1)).exec start events).isSome = true ∧
      (after events).api.statefulSets.get setup.key = some reachedSet ∧
      reachedSet.image? = some newImage.reference ∧ reachedSet.partition ≤ (1 : Nat) ∧
      ((after events).fleet.pods 1).isSome = true := by decide +kernel
  have hreach : (Rollout.machine setup (release 6 1 1)).Reachable Machine.anyStep
      (after events) := by
    unfold after
    exact Machine.Reachable.getD_exec (.start start_startsAt) (Machine.meets_anyStep _ _ _)
      hfacts.1
  have himage : esImageToUse setup.spec = .ok newImage := by decide +kernel
  have hversions : (setup.imageVersion newImage.reference).equal setup.spec.version = true ∧
      (release 6 1 1).equal setup.spec.version = false := by decide +kernel
  obtain ⟨_, hset, hreached, hpartition, hpod⟩ := hfacts
  have hbounds : setup.replicas < 2 ^ 31 ∧ 2 < setup.replicas := by decide
  exact updateVersion_one_pod_at_a_time hbounds.1 himage hversions.1 hversions.2 hreach
    hset hreached hpartition hpod (Nat.lt_succ_self 1) hbounds.2

end RolloutWitness

end Elasticsearch

end Navigator
