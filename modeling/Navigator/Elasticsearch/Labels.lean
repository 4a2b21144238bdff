/-
What the labels and the name of a pool's StatefulSet say about the pool.
-/
import Navigator.Elasticsearch.Resources

namespace Navigator

open ControlLoop

namespace Elasticsearch

theorem nodePoolResourceName_injective {c : Cluster} {np np' : NodePool}
    (h : nodePoolResourceName c np = nodePoolResourceName c np') : np.name = np'.name := by
  have hlists := congrArg String.toList h
  simp only [nodePoolResourceName, String.toList_append] at hlists
  exact String.toList_inj.mp (List.append_cancel_left hlists)

/-- Where the StatefulSet of a pool is stored. -/
def setKey (c : Cluster) (poolName : String) : String × String :=
  (c.metadata.namespaceName, resourceBaseName c ++ "-" ++ poolName)

theorem setKey_injective {c : Cluster} {poolName poolName' : String}
    (h : setKey c poolName = setKey c poolName') : poolName = poolName' := by
  have hlists := congrArg String.toList (congrArg Prod.snd h)
  simp only [setKey, String.toList_append] at hlists
  exact String.toList_inj.mp (List.append_cancel_left hlists)

/-- A role label is none of the other labels, whatever the role. -/
theorem roleLabel_ne {role : ElasticsearchClusterRole} {key : String}
    (hkey : key.toList.take elasticsearchRoleLabelPrefix.length ≠
      elasticsearchRoleLabelPrefix.toList) : roleLabel role ≠ key := by
  intro heq
  apply hkey
  rw [← heq, roleLabel, String.toList_append]
  exact List.take_left' (String.length_toList)

theorem roleLabel_injective {r s : ElasticsearchClusterRole}
    (h : roleLabel r = roleLabel s) : r = s := by
  have hlists := congrArg String.toList h
  simp only [roleLabel, String.toList_append] at hlists
  exact ElasticsearchClusterRole.string_injective
    (String.toList_inj.mp (List.append_cancel_left hlists))

theorem foldl_roles_ne_none {labels : StringMap} (hlabels : labels ≠ none)
    (roles : List ElasticsearchClusterRole) :
    roles.foldl (fun labels role => StringMap.set labels (roleLabel role) "true") labels ≠
      none := by
  induction roles generalizing labels with
  | nil => exact hlabels
  | cons role rest ih => exact ih (StringMap.set_ne_none.mpr hlabels)

/-- Adding the role labels sets them to true and leaves every other label. -/
theorem get?_foldl_roles {labels : StringMap} (hlabels : labels ≠ none)
    (roles : List ElasticsearchClusterRole) (key : String) :
    StringMap.get? (roles.foldl (fun labels role =>
      StringMap.set labels (roleLabel role) "true") labels) key =
        if ∃ role ∈ roles, roleLabel role = key then some "true"
        else StringMap.get? labels key := by
  induction roles generalizing labels with
  | nil => simp
  | cons role rest ih =>
      rw [List.foldl_cons, ih (StringMap.set_ne_none.mpr hlabels), StringMap.get?_set hlabels]
      by_cases hrest : ∃ role ∈ rest, roleLabel role = key
      · have hall : ∃ other ∈ role :: rest, roleLabel other = key := by
          obtain ⟨other, hother, heq⟩ := hrest
          exact ⟨other, List.mem_cons_of_mem role hother, heq⟩
        rw [if_pos hrest, if_pos hall]
      · rw [if_neg hrest]
        by_cases hrole : key = roleLabel role
        · rw [if_pos hrole, if_pos ⟨role, List.mem_cons_self, hrole.symm⟩]
        · have hnone : ¬ ∃ other ∈ role :: rest, roleLabel other = key := by
            rintro ⟨other, hother, heq⟩
            rcases List.mem_cons.mp hother with rfl | hother
            · exact hrole heq.symm
            · exact hrest ⟨other, hother, heq⟩
          rw [if_neg hrole, if_neg hnone]

/-- The labels of a pool before its roles are added. -/
theorem nodePoolLabels_eq (c : Cluster) (np : NodePool) (hname : np.name ≠ "") :
    nodePoolLabels c np.name np.roles =
      np.roles.foldl (fun labels role => StringMap.set labels (roleLabel role) "true")
        (StringMap.set (clusterLabels c) elasticsearchNodePoolNameLabel np.name) := by
  simp [nodePoolLabels, hname]

theorem clusterLabels_ne_none (c : Cluster) : clusterLabels c ≠ none := by
  simp [clusterLabels, StringMap.ofList]

theorem get?_clusterLabels (c : Cluster) (key : String) :
    StringMap.get? (clusterLabels c) key =
      if key = elasticsearchClusterNameLabel then some c.metadata.name else none := by
  simp only [clusterLabels, StringMap.ofList, StringMap.get?, Option.bind_some]
  split
  · subst key
    simp
  · rename_i hother
    exact Std.ExtTreeMap.getElem?_ofList_of_contains_eq_false (by simp [hother])

/-- The lookup of a label of a pool's pods: the pilot label, the roles, the pool
name and the cluster name, in this order. -/
theorem get?_podLabels (c : Cluster) (np : NodePool) (hname : np.name ≠ "") (key : String) :
    StringMap.get? (podLabels c np) key =
      if key = pilotLabel then some ""
      else if ∃ role ∈ np.roles, roleLabel role = key then some "true"
      else if key = elasticsearchNodePoolNameLabel then some np.name
      else StringMap.get? (clusterLabels c) key := by
  have hcluster := clusterLabels_ne_none c
  have hpool : StringMap.set (clusterLabels c) elasticsearchNodePoolNameLabel np.name ≠ none :=
    StringMap.set_ne_none.mpr hcluster
  rw [podLabels, nodePoolLabels_eq c np hname,
    StringMap.get?_set (foldl_roles_ne_none hpool np.roles), get?_foldl_roles hpool,
    StringMap.get?_set hcluster]

theorem podLabels_poolName (c : Cluster) (np : NodePool) (hname : np.name ≠ "") :
    StringMap.get? (podLabels c np) elasticsearchNodePoolNameLabel = some np.name := by
  have hrole : ¬ ∃ role ∈ np.roles, roleLabel role = elasticsearchNodePoolNameLabel := by
    rintro ⟨role, _, heq⟩
    exact roleLabel_ne (by decide) heq
  rw [get?_podLabels c np hname, if_neg (by decide), if_neg hrole, if_pos rfl]

/-- The data label is there exactly for the pools with the data role. -/
theorem podLabels_data_iff (c : Cluster) (np : NodePool) (hname : np.name ≠ "") :
    StringMap.get? (podLabels c np) (roleLabel .data) = some "true" ↔ .data ∈ np.roles := by
  rw [get?_podLabels c np hname, if_neg (by decide)]
  constructor
  · intro h
    by_contra hdata
    have hrole : ¬ ∃ role ∈ np.roles, roleLabel role = roleLabel .data := by
      rintro ⟨role, hmem, heq⟩
      exact hdata (roleLabel_injective heq ▸ hmem)
    rw [if_neg hrole, if_neg (by decide), get?_clusterLabels, if_neg (by decide)] at h
    cases h
  · intro hdata
    rw [if_pos ⟨.data, hdata, rfl⟩]

theorem containsElasticsearchRole_iff {roles : List ElasticsearchClusterRole}
    {role : ElasticsearchClusterRole} :
    containsElasticsearchRole roles role = true ↔ role ∈ roles := by
  simp [containsElasticsearchRole]

/-- Name and label of the StatefulSet agree on the pool it belongs to. -/
def NamedAfterPool (c : Cluster) (poolName : String) (set : StatefulSet) : Prop :=
  nameOf set = resourceBaseName c ++ "-" ++ poolName ∧
    StringMap.get? set.metadata.labels elasticsearchNodePoolNameLabel = some poolName

theorem NamedAfterPool.poolName_eq {c : Cluster} {poolName : String} {set : StatefulSet}
    (h : NamedAfterPool c poolName set) {np : NodePool}
    (hname : nameOf set = nodePoolResourceName c np) : poolName = np.name := by
  have hnames : nodePoolResourceName c { np with name := poolName } =
      nodePoolResourceName c np := h.1.symm.trans hname
  exact nodePoolResourceName_injective hnames

/-- The fields of a pool's StatefulSet that identify it. -/
theorem nodePoolStatefulSet_eq_ok {c : Cluster} {np : NodePool} {set : StatefulSet}
    (h : nodePoolStatefulSet c np = .ok set) :
    nameOf set = nodePoolResourceName c np ∧ namespaceOf set = c.metadata.namespaceName ∧
      set.metadata.labels = podLabels c np ∧
      set.metadata.ownerReferences = [newClusterRef c] ∧
      set.spec.replicas = np.replicas := by
  unfold nodePoolStatefulSet at h
  split at h
  · cases h
  · rename_i template htemplate
    have hlabels : template.labels = podLabels c np := by
      simp only [elasticsearchPodTemplateSpec, bind, Except.bind] at htemplate
      split at htemplate
      · cases htemplate
      · exact Except.ok.inj htemplate ▸ rfl
    cases h
    exact ⟨rfl, rfl, hlabels, rfl, rfl⟩

end Elasticsearch

end Navigator
