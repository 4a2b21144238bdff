/-
What a cluster that passes its validator satisfies, and what an accepted update
leaves as it was.
-/
import Navigator.ValidationExact

namespace Navigator

theorem validateObjectMeta_eq_nil {m : ObjectMeta} {path : Path}
    (h : validateObjectMeta m path = .ok []) :
    isDNS1123Subdomain m.name = [] ∧ m.namespaceName ≠ "" := by
  obtain ⟨generateNameErrs, _, h⟩ := bind_eq_ok h
  obtain ⟨nameErrs, hnameErrs, h⟩ := bind_eq_ok h
  have hnil := Except.ok.inj h
  simp only [List.append_eq_nil_iff] at hnil
  obtain ⟨⟨⟨⟨⟨⟨⟨⟨_, rfl⟩, hnamespace⟩, _⟩, _⟩, _⟩, _⟩, _⟩, _⟩ := hnil
  constructor
  · unfold validateName at hnameErrs
    split at hnameErrs
    · cases hnameErrs
    · exact invalidEach_eq_nil_iff.mp (Except.ok.inj hnameErrs)
  · intro hempty
    rw [if_pos hempty] at hnamespace
    cases hnamespace

theorem dns1123SubdomainRegexp_ne_empty {s : String} (h : dns1123SubdomainRegexp s = true) :
    s ≠ "" := by
  rintro rfl
  revert h
  decide

/-- The facts about an accepted Elasticsearch cluster. -/
structure ElasticsearchCluster.Accepted (c : ElasticsearchCluster) : Prop where
  namespaced : c.metadata.namespaceName ≠ ""
  distinct : (c.spec.nodePools.map ElasticsearchClusterNodePool.name).Nodup
  poolNamed : ∀ np ∈ c.spec.nodePools, np.name ≠ ""
  nonneg : ∀ np ∈ c.spec.nodePools, ∀ replicas ∈ np.replicas, 0 ≤ replicas
  counted : ∃ masters, countElasticsearchMasters c.spec.nodePools = .ok masters

theorem ElasticsearchCluster.Accepted.eq_of_name {c : ElasticsearchCluster} (h : c.Accepted)
    {np np' : ElasticsearchClusterNodePool} (hnp : np ∈ c.spec.nodePools)
    (hnp' : np' ∈ c.spec.nodePools) (hname : np.name = np'.name) : np = np' := by
  exact List.inj_on_of_nodup_map h.distinct hnp hnp' hname

theorem ElasticsearchClusterNodePool.ChecksPass.named {np : ElasticsearchClusterNodePool}
    {path : Path} (h : np.ChecksPass path) : np.name ≠ "" := by
  have hvalid := isDNS1123Subdomain_eq_nil_iff.mp (invalidEach_eq_nil_iff.mp h.name)
  exact dns1123SubdomainRegexp_ne_empty hvalid.2

theorem ElasticsearchCluster.accepted {c : ElasticsearchCluster}
    (h : validateElasticsearchCluster c = .ok []) : c.Accepted := by
  obtain ⟨hmeta, hspec⟩ := validateElasticsearchCluster_eq_ok_iff.mp h
  obtain ⟨numMasters, hcounted, _⟩ := hspec.masters
  refine ⟨(validateObjectMeta_eq_nil hmeta).2, hspec.distinct, ?_, ?_, numMasters, hcounted⟩
  · intro np hnp
    obtain ⟨i, hi⟩ := List.mem_iff_getElem?.mp hnp
    exact (hspec.nodePools i np hi).named
  · intro np hnp
    obtain ⟨i, hi⟩ := List.mem_iff_getElem?.mp hnp
    exact (hspec.nodePools i np hi).replicas

/-- An accepted update: the new cluster is accepted, and a pool that keeps its
name keeps its roles. -/
theorem ElasticsearchCluster.accepted_update {old new : ElasticsearchCluster}
    (hold : old.Accepted) (h : validateElasticsearchClusterUpdate old new = .ok []) :
    new.Accepted ∧ ∀ np ∈ old.spec.nodePools, ∀ np' ∈ new.spec.nodePools,
      np'.name = np.name → np'.roles = np.roles := by
  obtain ⟨hall, hkept⟩ := (validateElasticsearchClusterUpdate_eq_ok_iff hold.distinct).mp h
  refine ⟨ElasticsearchCluster.accepted hall, ?_⟩
  intro np hnp np' hnp' hname
  have hrestored : restoredElasticsearchNodePool np' np = np := (hkept np' hnp' np hnp hname).1
  calc np'.roles = (restoredElasticsearchNodePool np' np).roles := rfl
    _ = np.roles := by rw [hrestored]

end Navigator
