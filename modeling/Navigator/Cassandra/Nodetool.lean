/-
`nodetool status`: what the local Cassandra node says about the members of its
cluster, each with a status and a state.
-/
import Navigator.Base.UnionSize
import Navigator.Meta

namespace Navigator

namespace Cassandra

/-- A `uuid.UUID`, which is a slice of bytes. -/
abbrev UUID := List UInt8

def hexDigit (n : Nat) : Char := "0123456789abcdef".toList.getD n '0'

def hex (bytes : List UInt8) : String :=
  String.ofList (bytes.flatMap fun byte =>
    [hexDigit (byte.toNat / 16), hexDigit (byte.toNat % 16)])

/-- `UUID.String`; what is no UUID has the empty text. -/
def UUID.string (id : UUID) : String :=
  if id.length ≠ 16 then ""
  else "-".intercalate [hex (id.take 4), hex ((id.drop 4).take 2), hex ((id.drop 6).take 2),
    hex ((id.drop 8).take 2), hex (id.drop 10)]

inductive NodeState where
  | unknown
  | normal
  | leaving
  | joining
  | moving
deriving DecidableEq

inductive NodeStatus where
  | unknown
  | up
  | down
deriving DecidableEq

structure Node where
  host : String
  id : UUID
  state : NodeState
  status : NodeStatus
  isLocal : Bool
deriving DecidableEq

/-- The answer of the `StorageService`.  The host map is listed in the order in
which it is visited, which is any order. -/
structure StorageService where
  hostIdMap : List (String × UUID)
  liveNodes : List String
  unreachableNodes : List String
  leavingNodes : List String
  joiningNodes : List String
  movingNodes : List String
  localHostId : UUID
  hosts_nodup : (hostIdMap.map Prod.fst).Nodup

/-- `NodeMap.LocalNode`: the first local node that the visit meets. -/
def localNode (nodes : List Node) : Option Node := nodes.find? Node.isLocal

def setsIntersect (setsToCheck : List (Finset String)) : Bool :=
  let all := setsToCheck.foldl (fun all s => all ∪ s) ∅
  let totalLength := (setsToCheck.map Finset.card).sum
  all.card ≠ totalLength

/-- The state that `Status` gives a member. -/
def stateOf (ssInfo : StorageService) (host : String) : NodeState :=
  if host ∈ ssInfo.leavingNodes then .leaving
  else if host ∈ ssInfo.joiningNodes then .joining
  else if host ∈ ssInfo.movingNodes then .moving
  else .normal

/-- The status that `Status` gives a member. -/
def statusOf (ssInfo : StorageService) (host : String) : NodeStatus :=
  if host ∈ ssInfo.liveNodes then .up
  else if host ∈ ssInfo.unreachableNodes then .down
  else .unknown

/-- `Status`.  The errors of the two assertions also print the sets; the model
leaves these out. -/
def status (client : Except Err StorageService) : Except Err (List Node) :=
  match client with
  | .error e => .error e
  | .ok ssInfo =>
      if setsIntersect [ssInfo.liveNodes.toFinset, ssInfo.unreachableNodes.toFinset] then
        .error (.plain "unexpected state: some nodes were reported in more than one status. ")
      else if setsIntersect [ssInfo.leavingNodes.toFinset, ssInfo.joiningNodes.toFinset,
          ssInfo.movingNodes.toFinset] then
        .error (.plain "unexpected state: some nodes were reported in more than one state. ")
      else
        .ok (ssInfo.hostIdMap.map fun (host, id) =>
          { host := host
            id := id
            state := stateOf ssInfo host
            status := statusOf ssInfo host
            isLocal := ssInfo.localHostId.string = id.string })

/-- Comparing sizes detects exactly that two of the sets share an element. -/
theorem setsIntersect_eq_false_iff (setsToCheck : List (Finset String)) :
    setsIntersect setsToCheck = false ↔ setsToCheck.Pairwise Disjoint := by
  have hcard := ControlLoop.card_foldl_union_eq_iff setsToCheck ∅
  rw [Finset.card_empty, Nat.zero_add] at hcard
  simp [setsIntersect, hcard]

theorem disjoint_toFinset_iff {left right : List String} :
    Disjoint left.toFinset right.toFinset ↔ ∀ host ∈ left, host ∉ right := by
  simp [Finset.disjoint_left]

namespace StorageService

/-- No host is both live and unreachable. -/
def OneStatus (ssInfo : StorageService) : Prop :=
  ∀ host ∈ ssInfo.liveNodes, host ∉ ssInfo.unreachableNodes

/-- No host is in two of the lists of leaving, joining and moving hosts. -/
def OneState (ssInfo : StorageService) : Prop :=
  (∀ host ∈ ssInfo.leavingNodes, host ∉ ssInfo.joiningNodes) ∧
    (∀ host ∈ ssInfo.leavingNodes, host ∉ ssInfo.movingNodes) ∧
    ∀ host ∈ ssInfo.joiningNodes, host ∉ ssInfo.movingNodes

theorem oneStatus_iff (ssInfo : StorageService) : ssInfo.OneStatus ↔
    setsIntersect [ssInfo.liveNodes.toFinset, ssInfo.unreachableNodes.toFinset] = false := by
  rw [setsIntersect_eq_false_iff, List.pairwise_pair, disjoint_toFinset_iff, OneStatus]

theorem oneState_iff (ssInfo : StorageService) : ssInfo.OneState ↔
    setsIntersect [ssInfo.leavingNodes.toFinset, ssInfo.joiningNodes.toFinset,
      ssInfo.movingNodes.toFinset] = false := by
  simp only [setsIntersect_eq_false_iff, List.pairwise_cons, List.forall_mem_cons,
    disjoint_toFinset_iff, OneState]
  simp [and_assoc]

/-- Some host has two statuses or two states. -/
def Overlaps (ssInfo : StorageService) : Prop :=
  (∃ host, host ∈ ssInfo.liveNodes ∧ host ∈ ssInfo.unreachableNodes) ∨
    ∃ host, (host ∈ ssInfo.leavingNodes ∧ host ∈ ssInfo.joiningNodes) ∨
      (host ∈ ssInfo.leavingNodes ∧ host ∈ ssInfo.movingNodes) ∨
      (host ∈ ssInfo.joiningNodes ∧ host ∈ ssInfo.movingNodes)

theorem not_overlaps_iff (ssInfo : StorageService) :
    ¬ ssInfo.Overlaps ↔ ssInfo.OneStatus ∧ ssInfo.OneState := by
  constructor
  · intro h
    exact ⟨fun host hl hu => h (Or.inl ⟨host, hl, hu⟩),
      fun host hl hj => h (Or.inr ⟨host, Or.inl ⟨hl, hj⟩⟩),
      fun host hl hm => h (Or.inr ⟨host, Or.inr (Or.inl ⟨hl, hm⟩)⟩),
      fun host hj hm => h (Or.inr ⟨host, Or.inr (Or.inr ⟨hj, hm⟩)⟩)⟩
  · rintro ⟨hstatus, hleaving, hmoving, hjoining⟩
      (⟨host, hl, hu⟩ | ⟨host, ⟨hl, hj⟩ | ⟨hl, hm⟩ | ⟨hj, hm⟩⟩)
    · exact hstatus host hl hu
    · exact hleaving host hl hj
    · exact hmoving host hl hm
    · exact hjoining host hj hm

/-- The member of the cluster as `Status` describes it. -/
def node (ssInfo : StorageService) (host : String) (id : UUID) : Node where
  host := host
  id := id
  state := stateOf ssInfo host
  status := statusOf ssInfo host
  isLocal := ssInfo.localHostId.string = id.string

/-- The two answers differ only in the order and the repetition of the hosts in
their lists. -/
structure SameHosts (ssInfo other : StorageService) : Prop where
  hostIdMap : other.hostIdMap = ssInfo.hostIdMap
  localHostId : other.localHostId = ssInfo.localHostId
  live : ∀ host, host ∈ other.liveNodes ↔ host ∈ ssInfo.liveNodes
  unreachable : ∀ host, host ∈ other.unreachableNodes ↔ host ∈ ssInfo.unreachableNodes
  leaving : ∀ host, host ∈ other.leavingNodes ↔ host ∈ ssInfo.leavingNodes
  joining : ∀ host, host ∈ other.joiningNodes ↔ host ∈ ssInfo.joiningNodes
  moving : ∀ host, host ∈ other.movingNodes ↔ host ∈ ssInfo.movingNodes

end StorageService

theorem status_of_consistent {ssInfo : StorageService} (hstatus : ssInfo.OneStatus)
    (hstate : ssInfo.OneState) :
    status (.ok ssInfo) = .ok (ssInfo.hostIdMap.map fun (host, id) => ssInfo.node host id) := by
  rw [ssInfo.oneStatus_iff] at hstatus
  rw [ssInfo.oneState_iff] at hstate
  simp only [status, hstatus, hstate, Bool.false_eq_true, if_false]
  rfl

theorem exists_error_of_overlaps {ssInfo : StorageService} (h : ssInfo.Overlaps) :
    ∃ e, status (.ok ssInfo) = .error e := by
  by_contra hnone
  push Not at hnone
  have hconsistent : ssInfo.OneStatus ∧ ssInfo.OneState := by
    rw [ssInfo.oneStatus_iff, ssInfo.oneState_iff]
    simp only [status] at hnone
    split_ifs at hnone with hstatus hstate
    · exact absurd rfl (hnone _)
    · exact absurd rfl (hnone _)
    · exact ⟨by simpa using hstatus, by simpa using hstate⟩
  exact (ssInfo.not_overlaps_iff.mpr hconsistent) h

/-- The status follows the lists, once these are consistent. -/
theorem statusOf_iff {ssInfo : StorageService} (h : ssInfo.OneStatus) (host : String) :
    (statusOf ssInfo host = .up ↔ host ∈ ssInfo.liveNodes) ∧
      (statusOf ssInfo host = .down ↔ host ∈ ssInfo.unreachableNodes) ∧
      (statusOf ssInfo host = .unknown ↔
        host ∉ ssInfo.liveNodes ∧ host ∉ ssInfo.unreachableNodes) := by
  have hboth := h host
  unfold statusOf
  split_ifs <;> simp_all

theorem stateOf_iff {ssInfo : StorageService} (h : ssInfo.OneState) (host : String) :
    (stateOf ssInfo host = .leaving ↔ host ∈ ssInfo.leavingNodes) ∧
      (stateOf ssInfo host = .joining ↔ host ∈ ssInfo.joiningNodes) ∧
      (stateOf ssInfo host = .moving ↔ host ∈ ssInfo.movingNodes) ∧
      (stateOf ssInfo host = .normal ↔ host ∉ ssInfo.leavingNodes ∧
        host ∉ ssInfo.joiningNodes ∧ host ∉ ssInfo.movingNodes) := by
  have hjoining := h.1 host
  have hmoving := h.2.1 host
  have hboth := h.2.2 host
  unfold stateOf
  split_ifs <;> simp_all

theorem status_congr {ssInfo other : StorageService} (h : ssInfo.SameHosts other) :
    status (.ok other) = status (.ok ssInfo) := by
  have hfinset : ∀ {left right : List String}, (∀ host, host ∈ left ↔ host ∈ right) →
      left.toFinset = right.toFinset := fun hsame => by
    ext host
    simp [hsame host]
  simp only [status, hfinset h.live, hfinset h.unreachable, hfinset h.leaving, hfinset h.joining,
    hfinset h.moving, h.hostIdMap, h.localHostId, stateOf, statusOf, h.live, h.unreachable,
    h.leaving, h.joining, h.moving]

/-- `Status` fails exactly when a host has two statuses or two states; otherwise
it describes the members of the host map by the lists that contain them, whatever
the order of these lists and their repetitions. -/
theorem status_exact (ssInfo : StorageService) :
    ((∃ e, status (.ok ssInfo) = .error e) ↔ ssInfo.Overlaps) ∧
    (∀ nodes, status (.ok ssInfo) = .ok nodes →
      nodes.map (fun node => (node.host, node.id)) = ssInfo.hostIdMap ∧
      ∀ node ∈ nodes,
        (node.status = .up ↔ node.host ∈ ssInfo.liveNodes) ∧
        (node.status = .down ↔ node.host ∈ ssInfo.unreachableNodes) ∧
        (node.status = .unknown ↔
          node.host ∉ ssInfo.liveNodes ∧ node.host ∉ ssInfo.unreachableNodes) ∧
        (node.state = .leaving ↔ node.host ∈ ssInfo.leavingNodes) ∧
        (node.state = .joining ↔ node.host ∈ ssInfo.joiningNodes) ∧
        (node.state = .moving ↔ node.host ∈ ssInfo.movingNodes) ∧
        (node.state = .normal ↔ node.host ∉ ssInfo.leavingNodes ∧
          node.host ∉ ssInfo.joiningNodes ∧ node.host ∉ ssInfo.movingNodes) ∧
        (node.isLocal = true ↔ node.id.string = ssInfo.localHostId.string)) ∧
    ∀ other, ssInfo.SameHosts other → status (.ok other) = status (.ok ssInfo) := by
  by_cases hoverlaps : ssInfo.Overlaps
  · obtain ⟨e, herror⟩ := exists_error_of_overlaps hoverlaps
    refine ⟨iff_of_true ⟨e, herror⟩ hoverlaps, ?_, fun other h => status_congr h⟩
    intro nodes hnodes
    cases herror.symm.trans hnodes
  · obtain ⟨hstatus, hstate⟩ := ssInfo.not_overlaps_iff.mp hoverlaps
    have hok := status_of_consistent hstatus hstate
    refine ⟨?_, ?_, fun other h => status_congr h⟩
    · refine iff_of_false ?_ hoverlaps
      rintro ⟨e, herror⟩
      cases hok.symm.trans herror
    · intro nodes hnodes
      cases hok.symm.trans hnodes
      refine ⟨by rw [List.map_map]; exact List.map_id _, ?_⟩
      intro node hnode
      obtain ⟨⟨host, id⟩, _, rfl⟩ := List.mem_map.mp hnode
      obtain ⟨hup, hdown, hunknown⟩ := statusOf_iff hstatus host
      obtain ⟨hleaving, hjoining, hmoving, hnormal⟩ := stateOf_iff hstate host
      exact ⟨hup, hdown, hunknown, hleaving, hjoining, hmoving, hnormal,
        by simp [StorageService.node, eq_comm]⟩

end Cassandra

end Navigator
