/-
What the controller can build of an accepted cluster: the selectors of its
objects, and for each pool a StatefulSet whose labels the API server takes.
-/
import Navigator.Accepted
import Navigator.Elasticsearch.Labels

namespace Navigator

namespace Elasticsearch

/-- Every value of the labels is a label value. -/
def LabelsValid (labels : StringMap) : Prop :=
  ∀ key value, StringMap.get? labels key = some value → ValidLabelValue value

/-- The controller can select the objects of the cluster and of the pool, and
build the StatefulSet of the pool. -/
structure Buildable (c : Cluster) (np : NodePool) : Prop where
  clusterSelector : ∃ selector, selectorForCluster c.metadata.name = .ok selector
  poolSelector : ∃ selector, selectorForNodePool c.metadata.name np.name = .ok selector
  statefulSet : ∃ set, nodePoolStatefulSet c np = .ok set ∧
    LabelsValid set.metadata.labels ∧ LabelsValid set.spec.template.labels

theorem esImageToUse_eq_ok_iff {spec : ElasticsearchClusterSpec} :
    (∃ image, esImageToUse spec = .ok image) ↔
      spec.image ≠ none ∨
        ¬ (spec.version.major = 0 ∧ spec.version.minor = 0 ∧ spec.version.patch = 0) := by
  unfold esImageToUse
  cases spec.image with
  | some image => simp
  | none =>
      unfold defaultElasticsearchImageForVersion
      by_cases hzero : spec.version.major = 0 ∧ spec.version.minor = 0 ∧ spec.version.patch = 0
      · simp [hzero]
      · simp [hzero]

/-- The StatefulSet and its template carry the same labels, and they can be built
when there is an image. -/
theorem nodePoolStatefulSet_labels_iff {c : Cluster} {np : NodePool} {P : StringMap → Prop} :
    (∃ set, nodePoolStatefulSet c np = .ok set ∧ P set.metadata.labels ∧
      P set.spec.template.labels) ↔
        (∃ image, esImageToUse c.spec = .ok image) ∧ P (podLabels c np) := by
  unfold nodePoolStatefulSet elasticsearchPodTemplateSpec
  cases himage : esImageToUse c.spec with
  | error e => simp [bind, Except.bind]
  | ok image => simp [bind, Except.bind, pure, Except.pure]

/-- The labels of a pool hold two names; the other values are fixed. -/
theorem labelsValid_podLabels_iff {c : Cluster} {np : NodePool} (hname : np.name ≠ "") :
    LabelsValid (podLabels c np) ↔ ValidLabelValue c.metadata.name ∧ ValidLabelValue np.name := by
  constructor
  · intro h
    have hrole : ¬ ∃ role ∈ np.roles, roleLabel role = elasticsearchClusterNameLabel := by
      rintro ⟨role, _, heq⟩
      exact roleLabel_ne (by decide) heq
    refine ⟨h elasticsearchClusterNameLabel _ ?_,
      h elasticsearchNodePoolNameLabel _ (podLabels_poolName c np hname)⟩
    rw [get?_podLabels c np hname, if_neg (by decide), if_neg hrole, if_neg (by decide),
      get?_clusterLabels, if_pos rfl]
  · rintro ⟨hcluster, hpool⟩ key value hvalue
    rw [get?_podLabels c np hname, get?_clusterLabels] at hvalue
    -- the pilot label, a role, the pool name, the cluster name
    split_ifs at hvalue
    · exact Option.some.inj hvalue ▸ (by decide)
    · exact Option.some.inj hvalue ▸ (by decide)
    · exact Option.some.inj hvalue ▸ hpool
    · exact Option.some.inj hvalue ▸ hcluster

/-- Of an accepted cluster the controller can build every pool, exactly when the
two names fit a label value and there is an image for the version. -/
theorem buildable_iff {c : Cluster} (haccepted : validateElasticsearchCluster c = .ok [])
    {np : NodePool} (hnp : np ∈ c.spec.nodePools) :
    Buildable c np ↔ byteLength c.metadata.name ≤ 63 ∧ byteLength np.name ≤ 63 ∧
      (c.spec.image ≠ none ∨
        ¬ (c.spec.version.major = 0 ∧ c.spec.version.minor = 0 ∧ c.spec.version.patch = 0)) := by
  obtain ⟨hmeta, hspec⟩ := validateElasticsearchCluster_eq_ok_iff.mp haccepted
  obtain ⟨i, hi⟩ := List.mem_iff_getElem?.mp hnp
  have hpool := invalidEach_eq_nil_iff.mp (hspec.nodePools i np hi).name
  have hname := (hspec.nodePools i np hi).named
  rw [← validLabelValue_iff_of_dns1123Subdomain (validateObjectMeta_eq_nil hmeta).1,
    ← validLabelValue_iff_of_dns1123Subdomain hpool, ← esImageToUse_eq_ok_iff]
  constructor
  · intro h
    obtain ⟨himage, hlabels⟩ := nodePoolStatefulSet_labels_iff.mp h.statefulSet
    obtain ⟨hclusterName, hpoolName⟩ := (labelsValid_podLabels_iff hname).mp hlabels
    exact ⟨hclusterName, hpoolName, himage⟩
  · rintro ⟨hclusterName, hpoolName, himage⟩
    exact ⟨⟨_, selectorForCluster_eq_ok_iff.mpr ⟨hclusterName, rfl⟩⟩,
      ⟨_, selectorForNodePool_eq_ok_iff.mpr ⟨hclusterName, hpoolName, rfl⟩⟩,
      nodePoolStatefulSet_labels_iff.mpr
        ⟨himage, (labelsValid_podLabels_iff hname).mpr ⟨hclusterName, hpoolName⟩⟩⟩

namespace BuildableWitness

def pool : NodePool := samplePool "all" 3 [.master, .data]

def cluster : Cluster := sampleCluster "db" "uid-db" (release 6 1 1) [pool]

theorem buildable_iff_short :
    validateElasticsearchCluster cluster = .ok [] ∧ Buildable cluster pool := by
  have haccepted : validateElasticsearchCluster cluster = .ok [] := by decide +kernel
  exact ⟨haccepted, (buildable_iff haccepted List.mem_cons_self).mpr (by decide)⟩

/-- A name of 64 characters, in two DNS labels. -/
def longName : String := String.ofList (List.replicate 32 'a' ++ '.' :: List.replicate 31 'b')

def longNamed : Cluster := sampleCluster longName "uid-db" (release 6 1 1) [pool]

/-- A pre-release of the version that the validator takes for a missing one. -/
def preRelease : Cluster :=
  sampleCluster "db" "uid-db"
    { emptySemver with preRelease := "alpha", plus_not_mem := by decide } [pool]

/-- Both clusters are accepted.  Of the first nothing can be selected, of the
second no StatefulSet can be built. -/
theorem accepted_not_buildable :
    validateElasticsearchCluster longNamed = .ok [] ∧
      (selectorForCluster longNamed.metadata.name).toOption = none ∧
      StringMap.get? (podLabels longNamed pool) elasticsearchClusterNameLabel = some longName ∧
      ¬ ValidLabelValue longName ∧
    validateElasticsearchCluster preRelease = .ok [] ∧
      (nodePoolStatefulSet preRelease pool).toOption = none := by
  decide +kernel

end BuildableWitness

end Elasticsearch

end Navigator
