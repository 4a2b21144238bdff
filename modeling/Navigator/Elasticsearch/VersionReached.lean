/-
When the version of a node pool counts as reached.  The planner compares the
text of the annotation with the rendered version of the spec; the action parses
the text and compares versions, which leaves out the build metadata.
-/
import Navigator.Elasticsearch.World

namespace Navigator

open ControlLoop

namespace Elasticsearch

/-- The health of the cluster is known and not red. -/
def Healthy (t : Target) : Prop :=
  ∃ health, t.cluster.status.health = some health ∧ health ≠ .red

/-- `UpdateVersion.Execute` takes its exit for a version that is reached: whatever
stood there would be what it does. -/
def TakesExit (state : State) (t : Target) : Prop :=
  ∀ equal differ, UpdateVersion.compareVersions state t equal differ = equal

section Agreement

variable {state : State} {t : Target} {set : StatefulSet} {text : String} {annotated : Version}

/-- Without the health, or with a red one, the action ends before its comparison. -/
theorem compareVersions_of_not_healthy
    (hcached : state.statefulSetLister.get "statefulset.apps" t.namespaceName
      t.statefulSetName = .ok set) (hhealth : ¬ Healthy t) (equal equal' : Program Unit)
    (differ differ' : StatefulSet → Program Unit) :
    UpdateVersion.compareVersions state t equal differ =
      UpdateVersion.compareVersions state t equal' differ' := by
  unfold UpdateVersion.compareVersions
  cases hstatus : t.cluster.status.health with
  | none => simp only [hcached]
  | some health =>
      obtain rfl : health = .red := by
        by_contra hred
        exact hhealth ⟨health, hstatus, hred⟩
      simp only [hcached]

/-- The exit is for a cluster that is healthy enough to come so far, at the version
of the spec. -/
theorem takesExit_iff
    (hcached : state.statefulSetLister.get "statefulset.apps" t.namespaceName
      t.statefulSetName = .ok set)
    (htext : StringMap.get? set.metadata.annotations elasticsearchNodePoolVersionAnnotation =
      some text)
    (hparse : Version.parse text = .ok annotated) :
    TakesExit state t ↔ Healthy t ∧ t.cluster.spec.version.equal annotated = true := by
  constructor
  · intro hexit
    have hhealthy : Healthy t := by
      by_contra hhealth
      have hsame : (.ret () : Program Unit) = .fail .nilDereference :=
        calc (.ret () : Program Unit)
            = UpdateVersion.compareVersions state t (.ret ()) fun _ => .ret () := (hexit _ _).symm
          _ = UpdateVersion.compareVersions state t (.fail .nilDereference) fun _ => .ret () :=
              compareVersions_of_not_healthy hcached hhealth _ _ _ _
          _ = .fail .nilDereference := hexit _ _
      cases hsame
    refine ⟨hhealthy, ?_⟩
    obtain ⟨health, hhealth, hred⟩ := hhealthy
    by_contra hdiffers
    have hrun := hexit (.ret ()) fun _ => .fail .nilDereference
    rw [UpdateVersion.compareVersions_of_healthy hcached hhealth hred htext hparse,
      if_neg hdiffers] at hrun
    cases hrun
  · rintro ⟨⟨health, hhealth, hred⟩, hequal⟩ equal differ
    rw [UpdateVersion.compareVersions_of_healthy hcached hhealth hred htext hparse, if_pos hequal]

/-- The planner looks only at the text. -/
theorem nextActionForNodePool_updateVersion_iff
    (hcached : state.statefulSetLister.get "statefulset.apps" t.namespaceName
      t.statefulSetName = .ok set)
    (htext : StringMap.get? set.metadata.annotations elasticsearchNodePoolVersionAnnotation =
      some text) :
    nextActionForNodePool state t = .ok (some (.updateVersion t)) ↔
      t.cluster.spec.version.string ≠ text := by
  constructor
  · intro h
    rcases nextActionForNodePool_eq_some h with hcreate | ⟨set', text', hget, hannotation,
      ⟨_, hdiffers⟩ | ⟨_, _, hscale, _⟩⟩
    · cases hcreate
    · cases hcached.symm.trans hget
      cases htext.symm.trans hannotation
      exact hdiffers
    · cases hscale
  · intro hdiffers
    simp only [nextActionForNodePool, hcached, htext, if_pos hdiffers]

/-- Once the texts are the same, only the replicas decide. -/
theorem nextActionForNodePool_of_text
    (hcached : state.statefulSetLister.get "statefulset.apps" t.namespaceName
      t.statefulSetName = .ok set)
    (htext : StringMap.get? set.metadata.annotations elasticsearchNodePoolVersionAnnotation =
      some t.cluster.spec.version.string) {n r : Int}
    (hn : set.spec.replicas = some n) (hr : t.nodePool.replicas = some r) :
    nextActionForNodePool state t = .ok (if n ≠ r then some (.scale t r) else none) := by
  simp only [nextActionForNodePool, hcached, htext, ne_eq, not_true_eq_false, if_false, hn, hr]
  split <;> rfl

end Agreement

/-- The planner and the action agree on the pool: the planner returns
`UpdateVersion` exactly when the action does not take its exit, and a pool for which
it does is considered for scaling and, at its replicas, lets the pools after it have
their turn. -/
def PlannerAgrees (state : State) (t : Target) (set : StatefulSet) : Prop :=
  (nextActionForNodePool state t = .ok (some (.updateVersion t)) ↔ ¬ TakesExit state t) ∧
    (TakesExit state t → ∀ n r, set.spec.replicas = some n → t.nodePool.replicas = some r →
      (n ≠ r → nextActionForNodePool state t = .ok (some (.scale t r))) ∧
      (n = r → ∀ rest, nextActionFrom state t.cluster (t.nodePool :: rest) =
        nextActionFrom state t.cluster rest))

/-- A version of the same release renders to the text exactly when it also has
the build metadata, and the text is how its version renders. -/
theorem string_eq_iff_of_equal {v annotated : Version} {text : String}
    (hparse : Version.parse text = .ok annotated) (hequal : v.equal annotated = true) :
    v.string = text ↔ v.metadata = annotated.metadata ∧ text = annotated.string := by
  constructor
  · intro htext
    rw [← htext, Version.parse_string] at hparse
    cases hparse
    exact ⟨rfl, htext.symm⟩
  · rintro ⟨hmetadata, hcanonical⟩
    obtain ⟨hmajor, hminor, hpatch, hpre⟩ := (Version.equal_iff v annotated).mp hequal
    rw [hcanonical, Version.string, Version.string, hmajor, hminor, hpatch, hpre, hmetadata]

/-- The two agree exactly when, for an annotation of the same release as the spec,
the cluster is healthy if and only if the annotation also has the build metadata of
the spec and is written as versions are rendered.  The action of a healthy cluster
ends at its exit if the releases are equal and rolls out the version otherwise; that
of another cluster ends before it compares them. -/
theorem plannerAgrees_iff (state : State) (t : Target) (set : StatefulSet) (text : String)
    (annotated : Version)
    (hcached : state.statefulSetLister.get "statefulset.apps" t.namespaceName
      t.statefulSetName = .ok set)
    (htext : StringMap.get? set.metadata.annotations elasticsearchNodePoolVersionAnnotation =
      some text)
    (hparse : Version.parse text = .ok annotated) :
    (PlannerAgrees state t set ↔
      (t.cluster.spec.version.major = annotated.major ∧
        t.cluster.spec.version.minor = annotated.minor ∧
        t.cluster.spec.version.patch = annotated.patch ∧
        t.cluster.spec.version.preRelease = annotated.preRelease →
      (Healthy t ↔
        t.cluster.spec.version.metadata = annotated.metadata ∧ text = annotated.string))) ∧
    (Healthy t → UpdateVersion.execute state t =
      if t.cluster.spec.version.equal annotated then .ret ()
      else UpdateVersion.rollOut state t set) ∧
    (¬ Healthy t → ∀ equal differ,
      UpdateVersion.compareVersions state t equal differ = UpdateVersion.execute state t) := by
  have hexit := takesExit_iff hcached htext hparse
  have hplanner := nextActionForNodePool_updateVersion_iff hcached htext
  refine ⟨?_, ?_, fun hhealth _ _ => compareVersions_of_not_healthy hcached hhealth _ _ _ _⟩
  · rw [← Version.equal_iff]
    constructor
    · rintro ⟨hiff, _⟩ hequal
      have hstring := string_eq_iff_of_equal hparse hequal
      rw [hplanner, hexit, and_iff_left hequal, not_iff_not, hstring] at hiff
      exact hiff.symm
    · intro hcondition
      have hsame : TakesExit state t → t.cluster.spec.version.string = text := by
        intro h
        obtain ⟨hhealthy, hequal⟩ := hexit.mp h
        exact (string_eq_iff_of_equal hparse hequal).mpr ((hcondition hequal).mp hhealthy)
      refine ⟨⟨fun haction h => hplanner.mp haction (hsame h), ?_⟩, ?_⟩
      · intro hstays
        apply hplanner.mpr
        intro heq
        -- The same text is the same release, for which health and text go together.
        have hequal : t.cluster.spec.version.equal annotated = true := by
          rw [← heq, Version.parse_string] at hparse
          cases hparse
          exact Version.equal_refl _
        have hwritten := (string_eq_iff_of_equal hparse hequal).mp heq
        exact hstays (hexit.mpr ⟨(hcondition hequal).mpr hwritten, hequal⟩)
      · intro h n r hn hr
        have hnext := nextActionForNodePool_of_text hcached (hsame h ▸ htext) hn hr
        refine ⟨?_, ?_⟩
        · intro hne
          rw [hnext, if_pos hne]
        · intro heq rest
          rw [if_neg (not_not.mpr heq)] at hnext
          simp only [nextActionFrom, hnext]
  · rintro ⟨health, hhealth, hred⟩
    exact UpdateVersion.compareVersions_of_healthy hcached hhealth hred htext hparse _ _

namespace VersionReachedWitness

/-- A healthy cluster of the version given. -/
def cluster (version : Version) (pools : List NodePool) : Cluster :=
  { sampleCluster "db" "uid-db" version pools with status := { health := some .green } }

def first (replicas : Int) : NodePool := samplePool "all" replicas [.master, .data]

/-- The version 6.1.1 with build metadata. -/
def rebuilt : Version := { release 6 1 1 with metadata := "b1" }

def start : World := { cluster := cluster (release 6 1 1) [first 1], api := {} }

/-- The pool is created at 6.1.1; then the spec moves to 6.1.1+b1, to two
replicas, and to a second pool. -/
def run : List World.Step :=
  [.sync (World.currentEnv {} []) [],
    .edit (cluster rebuilt [first 2, samplePool "more" 1 [.data]])]

def edited : World := (World.machine.exec start run).getD start

/-- What the coming Syncs read. -/
def env : Environment := World.currentEnv edited.api []

def target : Target := ⟨edited.cluster, first 2⟩

/-- The StatefulSet of the pool. -/
def stored : StatefulSet := (edited.api.statefulSets.get ("default", "es-db-all")).getD {}

/-- The run is one of the machine, and its pool is annotated with the text 6.1.1. -/
theorem edited_facts :
    (World.machine.exec start run).isSome = true ∧
      env.state.statefulSetLister.get "statefulset.apps" target.namespaceName
        target.statefulSetName = .ok stored ∧
      StringMap.get? stored.metadata.annotations elasticsearchNodePoolVersionAnnotation =
        some "6.1.1" ∧
      Version.parse "6.1.1" = .ok (release 6 1 1) := by decide +kernel

/-- The planner returns `UpdateVersion` for a version that the action takes as
reached.  So the Sync writes no StatefulSet: the pool is not scaled to its two
replicas, the second pool is not created, and the next Sync meets the same. -/
theorem planner_disagrees :
    nextAction env.state edited.cluster = .ok (some (.updateVersion target)) ∧
      TakesExit env.state target ∧
      UpdateVersion.execute env.state target = .ret () ∧
      stored.spec.replicas = some 1 ∧ target.nodePool.replicas = some 2 ∧
      edited.api.statefulSets.get ("default", "es-db-more") = none ∧
      (edited.syncRun env []).2.statefulSets.objects = edited.api.statefulSets.objects := by
  obtain ⟨_, hcached, htext, hparse⟩ := edited_facts
  have hexit : TakesExit env.state target := (takesExit_iff hcached htext hparse).mpr
    ⟨⟨.green, by decide +kernel, by decide⟩, by decide +kernel⟩
  have hfacts : nextAction env.state edited.cluster = .ok (some (.updateVersion target)) ∧
      stored.spec.replicas = some 1 ∧ target.nodePool.replicas = some 2 ∧
      edited.api.statefulSets.get ("default", "es-db-more") = none ∧
      (edited.syncRun env []).2.statefulSets.objects = edited.api.statefulSets.objects := by
    decide +kernel
  exact ⟨hfacts.1, hexit, hexit _ _, hfacts.2.1, hfacts.2.2⟩

/-- The cluster at 6.1.1 itself. -/
def released : Target := ⟨cluster (release 6 1 1) [first 2], first 2⟩

/-- Without the build metadata the two agree: the version is reached, so the action
would stop at its exit, and the pool is scaled next. -/
theorem plannerAgrees_iff_release :
    PlannerAgrees env.state released stored ∧
      UpdateVersion.execute env.state released = .ret () := by
  have hhealthy : Healthy released := ⟨.green, rfl, by decide⟩
  obtain ⟨hagrees, hexecute, _⟩ := plannerAgrees_iff env.state released stored "6.1.1"
    (release 6 1 1) edited_facts.2.1 edited_facts.2.2.1 edited_facts.2.2.2
  constructor
  · exact hagrees.mpr fun _ => iff_of_true hhealthy ⟨rfl, by decide +kernel⟩
  · exact (hexecute hhealthy).trans (if_pos (by decide +kernel))

end VersionReachedWitness

end Elasticsearch

end Navigator
