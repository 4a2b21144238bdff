/-
The number of masters that a configuration asks for, compared with the exact
number of masters of the spec.  Both master counters add in 32 bits, so they
agree with the exact sum only as long as it fits.
-/
import Navigator.Elasticsearch.Resources
import Navigator.ValidationExact

namespace Navigator

namespace Elasticsearch

/-- The replicas of the pools with the master role, as an unbounded integer. -/
def exactMasters : List NodePool → Int
  | [] => 0
  | np :: rest =>
      (if containsElasticsearchRole np.roles .master then np.replicas.getD 0 else 0) +
        exactMasters rest

/-- The counters compute the exact number of masters modulo `2 ^ 32`. -/
theorem countMastersFrom_eq {pools : List NodePool}
    (hsome : ∀ np ∈ pools, np.replicas ≠ none) (masters : Int) :
    countMastersFrom (int32 masters) pools = .ok (int32 (masters + exactMasters pools)) := by
  induction pools generalizing masters with
  | nil => simp [countMastersFrom, exactMasters]
  | cons np rest ih =>
      have hrest := ih fun other hother => hsome other (List.mem_cons_of_mem np hother)
      obtain ⟨replicas, hreplicas⟩ := Option.ne_none_iff_exists'.mp (hsome np List.mem_cons_self)
      by_cases hmaster : containsElasticsearchRole np.roles .master = true
      · have hwrap : int32 (int32 masters + replicas) = int32 (masters + replicas) :=
          Int.bmod_add_bmod
        simp only [countMastersFrom, exactMasters, if_pos hmaster, hreplicas, hwrap, hrest,
          Option.getD_some, add_assoc]
      · simp only [countMastersFrom, exactMasters, if_neg hmaster, hrest, zero_add]

theorem countElasticsearchMasters_eq {pools : List NodePool}
    (hsome : ∀ np ∈ pools, np.replicas ≠ none) :
    countElasticsearchMasters pools = .ok (int32 (exactMasters pools)) := by
  have hcount := countMastersFrom_eq hsome 0
  rwa [zero_add] at hcount

theorem exactMasters_nonneg {pools : List NodePool}
    (hnonneg : ∀ np ∈ pools, ∀ replicas ∈ np.replicas, 0 ≤ replicas) :
    0 ≤ exactMasters pools := by
  induction pools with
  | nil => exact le_refl 0
  | cons np rest ih =>
      have hrest := ih fun other hother => hnonneg other (List.mem_cons_of_mem np hother)
      have hfirst : 0 ≤ if containsElasticsearchRole np.roles .master then np.replicas.getD 0
          else 0 := by
        split
        · cases hreplicas : np.replicas with
          | none => exact le_refl 0
          | some replicas => exact hnonneg np List.mem_cons_self replicas hreplicas
        · exact le_refl 0
      exact add_nonneg hfirst hrest

/-- A sum that does not fit is smaller by a multiple of `2 ^ 32` once wrapped. -/
theorem int32_le_sub {n : Int} (h : 2 ^ 31 ≤ n) : int32 n ≤ n - 2 ^ 32 := by
  have hrange := (int32_range n).2
  have hmod : (int32 n - n) % 2 ^ 32 = 0 := by
    unfold int32
    exact Int.emod_eq_zero_of_dvd (Int.dvd_bmod_sub_self)
  omega

/-- Of a positive number the quorum is a majority. -/
theorem calculateQuorum_majority {n : Int} (h : 1 ≤ n) :
    n < 2 * calculateQuorum n ∧ 1 ≤ calculateQuorum n ∧ calculateQuorum n ≤ n := by
  unfold calculateQuorum
  have hdiv : n.tdiv 2 = n / 2 := Int.tdiv_eq_ediv_of_nonneg (by omega)
  split
  · omega
  · split
    · omega
    · rw [hdiv]
      omega

/-- The quorum of any number, also of a negative one, is at most one more than
half of it, or one. -/
theorem calculateQuorum_le (n : Int) : 2 * calculateQuorum n ≤ max 2 (n + 2) := by
  unfold calculateQuorum
  have hdiv : 2 * n.tdiv 2 ≤ max 0 n := by
    rcases Int.le_total 0 n with hnonneg | hnegative
    · rw [Int.tdiv_eq_ediv_of_nonneg hnonneg]
      omega
    · have hneg : (-n).tdiv 2 = -n / 2 := Int.tdiv_eq_ediv_of_nonneg (by omega)
      rw [Int.neg_tdiv] at hneg
      omega
  split
  · omega
  · split
    · omega
    · omega

/-- The number written for an accepted spec: the minimum it gives, between a
quorum and the number of masters counted, or a quorum. -/
theorem minimumMasterNodes_eq {spec : ElasticsearchClusterSpec} {path : Path}
    (hchecks : spec.ChecksPass path) (hsome : ∀ np ∈ spec.nodePools, np.replicas ≠ none) :
    int32 (exactMasters spec.nodePools) ≠ 0 ∧ ∃ m, minimumMasterNodes spec = .ok m ∧
      (m = calculateQuorum (int32 (exactMasters spec.nodePools)) ∨
        calculateQuorum (int32 (exactMasters spec.nodePools)) ≤ m ∧
          m ≤ int32 (exactMasters spec.nodePools)) := by
  have hcount := countElasticsearchMasters_eq hsome
  obtain ⟨numMasters, hcounted, hmasters⟩ := hchecks.masters
  obtain rfl : int32 (exactMasters spec.nodePools) = numMasters :=
    Except.ok.inj (hcount.symm.trans hcounted)
  refine ⟨hmasters.some, ?_⟩
  cases hminimum : spec.minimumMasters with
  | none =>
      refine ⟨_, ?_, Or.inl rfl⟩
      simp only [minimumMasterNodes, hminimum, hcount]
      rfl
  | some minimum =>
      refine ⟨minimum, ?_, Or.inr
        ⟨hmasters.quorum minimum hminimum, hmasters.atMost minimum hminimum⟩⟩
      simp only [minimumMasterNodes, hminimum]

/-- End to end: the number that the configuration of an accepted spec carries is
a majority of the masters, and no more than there are, exactly when the number
of masters fits 32 bits. -/
theorem generateConfig_quorum_iff {c : Cluster} {path : Path}
    (haccepted : validateElasticsearchClusterSpec c.spec path = .ok [])
    (hsome : ∀ np ∈ c.spec.nodePools, np.replicas ≠ none) :
    ∃ m, generateConfig c = .ok (renderConfig m) ∧
      ((exactMasters c.spec.nodePools < 2 * m ∧ 1 ≤ m ∧ m ≤ exactMasters c.spec.nodePools) ↔
        exactMasters c.spec.nodePools < 2 ^ 31) := by
  have hchecks := validateElasticsearchClusterSpec_eq_ok_iff.mp haccepted
  obtain ⟨hnonzero, m, hm, hbounds⟩ := minimumMasterNodes_eq hchecks hsome
  refine ⟨m, by rw [generateConfig, hm]; rfl, ?_⟩
  have hnonneg : 0 ≤ exactMasters c.spec.nodePools := by
    apply exactMasters_nonneg
    intro np hnp
    obtain ⟨i, hi⟩ := List.mem_iff_getElem?.mp hnp
    exact (hchecks.nodePools i np hi).replicas
  generalize exactMasters c.spec.nodePools = masters at *
  constructor
  · -- a wrapped count is too small for a majority of the exact one
    intro hquorum
    by_contra hlarge
    have hwrapped := int32_le_sub (not_lt.mp hlarge)
    have hrange := (int32_range masters).2
    have hhalf := calculateQuorum_le (int32 masters)
    rcases hbounds with rfl | hbounds
    · omega
    · omega
  · intro hsmall
    rw [int32_of_range (by omega) hsmall] at hnonzero hbounds
    have hmajority := calculateQuorum_majority (n := masters) (by omega)
    rcases hbounds with rfl | hbounds
    · omega
    · omega

namespace QuorumWitness

/-- Three masters in two pools, one of which has the role twice. -/
def cluster : Cluster :=
  sampleCluster "db" "uid-db" (release 6 1 1)
    [samplePool "masters" 2 [.master], samplePool "all" 1 [.master, .data, .master]]

theorem generateConfig_quorum_iff_three :
    exactMasters cluster.spec.nodePools = 3 ∧
      ∃ m, generateConfig cluster = .ok (renderConfig m) ∧
        ((exactMasters cluster.spec.nodePools < 2 * m ∧ 1 ≤ m ∧
          m ≤ exactMasters cluster.spec.nodePools) ↔
            exactMasters cluster.spec.nodePools < 2 ^ 31) := by
  have haccepted : validateElasticsearchClusterSpec cluster.spec (Path.new "spec") = .ok [] := by
    decide +kernel
  have hsome : ∀ np ∈ cluster.spec.nodePools, np.replicas ≠ none := by decide
  exact ⟨by decide, generateConfig_quorum_iff haccepted hsome⟩

/-- Two pools of `2 ^ 30` masters each: every replica count fits its type, their
sum does not. -/
def largeCluster : Cluster :=
  sampleCluster "db" "uid-db" (release 6 1 1)
    [samplePool "left" (2 ^ 30) [.master], samplePool "right" (2 ^ 30) [.master]]

/-- The cluster is accepted, and the number written for it is negative. -/
theorem generateConfig_negative :
    validateElasticsearchClusterSpec largeCluster.spec (Path.new "spec") = .ok [] ∧
      (∀ np ∈ largeCluster.spec.nodePools, ∃ replicas ∈ np.replicas, Int32Range replicas) ∧
      exactMasters largeCluster.spec.nodePools = 2 ^ 31 ∧
      generateConfig largeCluster = .ok (renderConfig (-1073741823)) := by
  decide +kernel

end QuorumWitness

end Elasticsearch

end Navigator
