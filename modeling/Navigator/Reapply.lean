/-
What is stored of a manifest, and what becomes of one that is submitted again.
A manifest is decoded and defaulted; storage writes the result without its empty
members, and what is read back is defaulted once more.  The update validators
compare the two, and tell a map that is nil from one that is empty.
-/
import Navigator.Defaults
import Navigator.UpdateExact
import Navigator.VersionEncoding

namespace Navigator

open ControlLoop

/-- A fallible loop succeeds when each of its rounds does. -/
theorem mapM_eq_ok_iff {ε α β : Type} {f : α → Except ε β} {xs : List α} {ys : List β} :
    xs.mapM f = .ok ys ↔ List.Forall₂ (fun x y => f x = .ok y) xs ys := by
  induction xs generalizing ys with
  | nil =>
      rw [List.mapM_nil, List.forall₂_nil_left_iff]
      exact ⟨fun h => (Except.ok.inj h).symm, fun h => congrArg Except.ok h.symm⟩
  | cons x xs ih =>
      simp only [List.mapM_cons, bind_eq_ok_iff, List.forall₂_cons_left_iff, ih]
      constructor
      · rintro ⟨y, hy, rest, hrest, h⟩
        exact ⟨y, rest, hy, hrest, (Except.ok.inj h).symm⟩
      · rintro ⟨y, rest, hy, hrest, rfl⟩
        exact ⟨y, hy, rest, hrest, rfl⟩

theorem map_eq_ok_iff {ε α β : Type} {f : α → β} {x : Except ε α} {b : β} :
    x.map f = .ok b ↔ ∃ a, x = .ok a ∧ f a = b := by
  cases x with
  | error e => simp [Except.map]
  | ok a => simp [Except.map]

/-- Two loops one after the other, entry by entry. -/
theorem exists_forall₂_iff {α β γ : Type} {R : α → β → Prop} {S : β → γ → Prop} {xs : List α}
    {zs : List γ} :
    (∃ ys, List.Forall₂ R xs ys ∧ List.Forall₂ S ys zs) ↔
      List.Forall₂ (fun x z => ∃ y, R x y ∧ S y z) xs zs := by
  constructor
  · rintro ⟨ys, hxs, hys⟩
    induction hxs generalizing zs with
    | nil =>
        cases hys
        exact .nil
    | cons hxy _ ih =>
        cases hys with
        | cons hyz hrest => exact .cons ⟨_, hxy, hyz⟩ (ih hrest)
  · intro h
    induction h with
    | nil => exact ⟨[], .nil, .nil⟩
    | cons hxz _ ih =>
        obtain ⟨y, hxy, hyz⟩ := hxz
        obtain ⟨ys, hxs, hys⟩ := ih
        exact ⟨y :: ys, .cons hxy hxs, .cons hyz hys⟩

/-- A fallible loop and a total one after it. -/
theorem exists_mapM_map_iff {ε α β γ : Type} {f : α → Except ε β} {g : β → γ} {xs : List α}
    {zs : List γ} :
    (∃ ys, xs.mapM f = .ok ys ∧ ys.map g = zs) ↔
      List.Forall₂ (fun x z => (f x).map g = .ok z) xs zs := by
  have hmap : ∀ ys : List β, ys.map g = zs ↔ List.Forall₂ (fun y z => g y = z) ys zs := by
    intro ys
    rw [← List.forall₂_map_left_iff (R := fun y z : γ => y = z), List.forall₂_eq_eq_eq]
  simp only [mapM_eq_ok_iff, hmap, exists_forall₂_iff, map_eq_ok_iff]

/-- Two fallible loops. -/
theorem exists_mapM_forall₂_iff {ε α β γ : Type} {f : α → Except ε β} {g : β → Except ε γ}
    {xs : List α} {zs : List γ} :
    (∃ ys, xs.mapM f = .ok ys ∧ List.Forall₂ (fun y z => g y = .ok z) ys zs) ↔
      List.Forall₂ (fun x z => (f x >>= g) = .ok z) xs zs := by
  simp only [mapM_eq_ok_iff, exists_forall₂_iff, bind_eq_ok_iff]

/-- The member of a quantity.  One that is missing leaves the zero value. -/
def Quantity.decode (member : Option String) : Except Err Quantity :=
  match member with
  | none => .ok {}
  | some value => unmarshalJSON value

section OmitEmpty

variable {V : Type}

/-- What an `omitempty` member keeps of a map. -/
def omitEmpty (entries : Option (Std.ExtTreeMap String V)) : Option (Std.ExtTreeMap String V) :=
  entries.filter fun present => !present.isEmpty

theorem omitEmpty_of_ne {entries : Option (Std.ExtTreeMap String V)} (h : entries ≠ some ∅) :
    omitEmpty entries = entries := by
  cases entries with
  | none => rfl
  | some present =>
      have hpresent : present ≠ ∅ := fun hempty => h (congrArg some hempty)
      rw [omitEmpty, Option.filter_some, if_pos]
      rw [Bool.not_eq_true', Bool.eq_false_iff, ne_eq, Std.ExtTreeMap.isEmpty_iff]
      exact hpresent

theorem omitEmpty_empty : omitEmpty (some (∅ : Std.ExtTreeMap String V)) = none := by
  rw [omitEmpty, Option.filter_some, if_neg]
  simp

end OmitEmpty

/-- The default makes up for what storage leaves out of a node selector. -/
theorem defaultNodeSelector_omitEmpty (nodeSelector : StringMap) :
    defaultNodeSelector (omitEmpty (defaultNodeSelector nodeSelector)) =
      defaultNodeSelector nodeSelector := by
  by_cases hempty : defaultNodeSelector nodeSelector = some ∅
  · rw [hempty, omitEmpty_empty]
    rfl
  · rw [omitEmpty_of_ne hempty]
    cases nodeSelector with
    | none => rfl
    | some entries => rfl

/-- A resource list in a document: names, and quantities as they are written. -/
abbrev ResourceListDocument := Option (List (String × String))

section Entries

variable {V : Type}

theorem ofList_toList (entries : Std.ExtTreeMap String V) :
    Std.ExtTreeMap.ofList entries.toList = entries := by
  apply Std.ExtTreeMap.ext_getElem?
  intro name
  cases hentry : entries[name]? with
  | some value =>
      exact Std.ExtTreeMap.getElem?_ofList_of_mem Std.ReflCmp.compare_self
        Std.ExtTreeMap.distinct_keys_toList
        (Std.ExtTreeMap.mem_toList_iff_getElem?_eq_some.mpr hentry)
  | none =>
      apply Std.ExtTreeMap.getElem?_ofList_of_contains_eq_false
      rw [← Bool.not_eq_true, List.contains_iff_mem, List.mem_map]
      rintro ⟨entry, hmem, rfl⟩
      rw [Std.ExtTreeMap.mem_toList_iff_getElem?_eq_some.mp hmem] at hentry
      cases hentry

/-- Under its names, a map is made by its own entries only. -/
theorem eq_toList_of_ofList {entries : Std.ExtTreeMap String V} {read : List (String × V)}
    (hnames : read.map Prod.fst = entries.toList.map Prod.fst)
    (h : Std.ExtTreeMap.ofList read = entries) : read = entries.toList := by
  have hdistinct : read.Pairwise fun a b => ¬ compare a.1 b.1 = .eq := by
    have hkeys := entries.distinct_keys_toList
    rw [← List.pairwise_map (f := Prod.fst) (R := fun a b : String => ¬ compare a b = .eq)]
      at hkeys ⊢
    rwa [hnames]
  have hlength : read.length = entries.toList.length := by
    simpa using congrArg List.length hnames
  apply List.ext_getElem hlength
  intro i hi hi'
  have hname : read[i].1 = entries.toList[i].1 := by
    have hmap := congrArg (fun names => names[i]?) hnames
    simp only [List.getElem?_map, List.getElem?_eq_getElem hi, List.getElem?_eq_getElem hi',
      Option.map_some, Option.some.injEq] at hmap
    exact hmap
  have hread : entries[read[i].1]? = some read[i].2 := by
    rw [← h]
    exact Std.ExtTreeMap.getElem?_ofList_of_mem Std.ReflCmp.compare_self hdistinct
      (List.getElem_mem hi)
  have hentry : entries[entries.toList[i].1]? = some entries.toList[i].2 :=
    Std.ExtTreeMap.mem_toList_iff_getElem?_eq_some.mp (List.getElem_mem hi')
  rw [hname, hentry] at hread
  exact Prod.ext hname (Option.some.inj hread).symm

end Entries

namespace ResourceList

def readEntry (entry : String × String) : Except Err (String × Quantity) := do
  pure (entry.1, ← Quantity.unmarshalJSON entry.2)

def writeEntry (entry : String × Quantity) : Except Err (String × String) := do
  pure (entry.1, ← entry.2.marshalJSON)

def decode (member : ResourceListDocument) : Except Err ResourceList :=
  match member with
  | none => .ok none
  | some entries => do
      let read ← entries.mapM readEntry
      pure (some (Std.ExtTreeMap.ofList read))

def encode (list : ResourceList) : Except Err ResourceListDocument :=
  match omitEmpty list with
  | none => .ok none
  | some entries => do
      let written ← entries.toList.mapM writeEntry
      pure (some written)

/-- If the list is there it has entries, and each of them comes back. -/
def Kept (list : ResourceList) : Prop :=
  ∀ entries ∈ list, entries ≠ ∅ ∧
    ∀ (name : String) (q : Quantity), entries[name]? = some q → q.Kept

theorem writeEntry_eq_ok_iff {entry : String × Quantity} {written : String × String} :
    writeEntry entry = .ok written ↔
      written.1 = entry.1 ∧ entry.2.marshalJSON = .ok written.2 := by
  unfold writeEntry
  rw [bind_eq_ok_iff]
  constructor
  · rintro ⟨text, htext, h⟩
    cases h
    exact ⟨rfl, htext⟩
  · rintro ⟨hname, htext⟩
    exact ⟨written.2, htext, congrArg Except.ok (Prod.ext hname.symm rfl)⟩

theorem readEntry_eq_ok_iff {entry : String × String} {read : String × Quantity} :
    readEntry entry = .ok read ↔
      read.1 = entry.1 ∧ Quantity.unmarshalJSON entry.2 = .ok read.2 := by
  unfold readEntry
  rw [bind_eq_ok_iff]
  constructor
  · rintro ⟨q, hq, h⟩
    cases h
    exact ⟨rfl, hq⟩
  · rintro ⟨hname, hq⟩
    exact ⟨read.2, hq, congrArg Except.ok (Prod.ext hname.symm rfl)⟩

/-- What is read of entries that were written. -/
theorem readBack_entries {entries read : List (String × Quantity)} :
    (∃ written, entries.mapM writeEntry = .ok written ∧ written.mapM readEntry = .ok read) ↔
      List.Forall₂ (fun entry entry' => entry'.1 = entry.1 ∧
        (entry.2.marshalJSON >>= Quantity.unmarshalJSON) = .ok entry'.2) entries read := by
  simp only [mapM_eq_ok_iff, exists_forall₂_iff]
  apply iff_of_eq
  congr 1
  funext entry entry'
  simp only [writeEntry_eq_ok_iff, readEntry_eq_ok_iff, bind_eq_ok_iff]
  apply propext
  constructor
  · rintro ⟨written, ⟨hname, htext⟩, hname', hread⟩
    exact ⟨hname'.trans hname, written.2, htext, hread⟩
  · rintro ⟨hname, text, htext, hread⟩
    exact ⟨(entry.1, text), ⟨rfl, htext⟩, hname, hread⟩

/-- A list survives storage if it is nil, or has entries that all do. -/
theorem readBack_iff {list : ResourceList} : (encode list >>= decode) = .ok list ↔ Kept list := by
  cases list with
  | none => exact iff_of_true rfl fun _ h => nomatch h
  | some entries =>
      by_cases hempty : entries = ∅
      · subst hempty
        refine iff_of_false ?_ fun h => (h ∅ rfl).1 rfl
        rw [encode, omitEmpty_empty]
        exact fun h => nomatch Except.ok.inj h
      · have hback : (encode (some entries) >>= decode) = .ok (some entries) ↔
            ∃ read, (∃ written, entries.toList.mapM writeEntry = .ok written ∧
              written.mapM readEntry = .ok read) ∧ Std.ExtTreeMap.ofList read = entries := by
          rw [encode, omitEmpty_of_ne fun h => hempty (Option.some.inj h)]
          simp only [bind_eq_ok_iff]
          constructor
          · rintro ⟨_, ⟨written, hwritten, h⟩, hread⟩
            cases h
            obtain ⟨read, hread, h⟩ := bind_eq_ok hread
            exact ⟨read, ⟨written, hwritten, hread⟩, Option.some.inj (Except.ok.inj h)⟩
          · rintro ⟨read, ⟨written, hwritten, hread⟩, rfl⟩
            exact ⟨some written, ⟨written, hwritten, rfl⟩, bind_eq_ok_iff.mpr ⟨read, hread, rfl⟩⟩
        rw [hback]
        simp only [readBack_entries]
        constructor
        · rintro ⟨read, hread, hmap⟩ _ ⟨⟩
          have hnames : read.map Prod.fst = entries.toList.map Prod.fst := by
            have hsame : List.Forall₂ (· = ·) (entries.toList.map Prod.fst) (read.map Prod.fst) :=
              List.forall₂_map_left_iff.mpr (List.forall₂_map_right_iff.mpr
                (hread.imp fun _ _ h => h.1.symm))
            rw [List.forall₂_eq_eq_eq] at hsame
            exact hsame.symm
          rw [eq_toList_of_ofList hnames hmap, List.forall₂_same] at hread
          refine ⟨hempty, fun name q hentry => ?_⟩
          exact (hread (name, q) (Std.ExtTreeMap.mem_toList_iff_getElem?_eq_some.mpr hentry)).2
        · intro hkept
          refine ⟨entries.toList, List.forall₂_same.mpr ?_, ofList_toList entries⟩
          intro entry hentry
          exact ⟨rfl, (hkept entries rfl).2 entry.1 entry.2
            (Std.ExtTreeMap.mem_toList_iff_getElem?_eq_some.mp hentry)⟩

end ResourceList

structure ResourceRequirementsDocument where
  limits : ResourceListDocument := none
  requests : ResourceListDocument := none

namespace ResourceRequirements

def decode (member : Option ResourceRequirementsDocument) : Except Err ResourceRequirements :=
  match member with
  | none => .ok {}
  | some d => do
      let limits ← ResourceList.decode d.limits
      let requests ← ResourceList.decode d.requests
      pure { limits := limits, requests := requests }

/-- The member is there even when both lists are left out. -/
def encode (r : ResourceRequirements) : Except Err (Option ResourceRequirementsDocument) := do
  let limits ← ResourceList.encode r.limits
  let requests ← ResourceList.encode r.requests
  pure (some { limits := limits, requests := requests })

/-- Both lists come back. -/
def Kept (r : ResourceRequirements) : Prop :=
  ResourceList.Kept r.limits ∧ ResourceList.Kept r.requests

theorem readBack_iff {r : ResourceRequirements} : (r.encode >>= decode) = .ok r ↔ r.Kept := by
  rw [Kept, ← ResourceList.readBack_iff, ← ResourceList.readBack_iff]
  simp only [encode, bind_eq_ok_iff]
  constructor
  · rintro ⟨_, ⟨limits, hlimits, requests, hrequests, h⟩, hread⟩
    cases h
    obtain ⟨limits', hlimits', hread⟩ := bind_eq_ok hread
    obtain ⟨requests', hrequests', h⟩ := bind_eq_ok hread
    cases h
    exact ⟨⟨limits, hlimits, hlimits'⟩, requests, hrequests, hrequests'⟩
  · rintro ⟨⟨limits, hlimits, hlimits'⟩, requests, hrequests, hrequests'⟩
    refine ⟨_, ⟨limits, hlimits, requests, hrequests, rfl⟩, ?_⟩
    exact bind_eq_ok_iff.mpr ⟨_, hlimits', bind_eq_ok_iff.mpr ⟨_, hrequests', rfl⟩⟩

instance (r : ResourceRequirements) : Decidable r.Kept := decidable_of_iff _ readBack_iff

end ResourceRequirements

structure PersistenceConfigDocument where
  size : Option String
  storageClass : Option String := none

namespace PersistenceConfig

def decode (member : Option PersistenceConfigDocument) : Except Err (Option PersistenceConfig) :=
  match member with
  | none => .ok none
  | some d => do
      let size ← Quantity.decode d.size
      pure (some { size := size, storageClass := d.storageClass })

def encode (cfg : Option PersistenceConfig) : Except Err (Option PersistenceConfigDocument) :=
  match cfg with
  | none => .ok none
  | some cfg => do
      let size ← cfg.size.marshalJSON
      pure (some { size := some size, storageClass := cfg.storageClass })

theorem readBack_iff {cfg : Option PersistenceConfig} :
    (encode cfg >>= decode) = .ok cfg ↔ ∀ disk ∈ cfg, disk.size.Kept := by
  cases cfg with
  | none => exact iff_of_true rfl fun _ h => nomatch h
  | some disk =>
      simp only [Option.mem_some_iff, forall_eq', Quantity.Kept, encode, bind_eq_ok_iff]
      constructor
      · rintro ⟨_, ⟨size, hsize, h⟩, hread⟩
        cases h
        obtain ⟨size', hsize', h⟩ := bind_eq_ok hread
        obtain rfl : size' = disk.size :=
          congrArg PersistenceConfig.size (Option.some.inj (Except.ok.inj h))
        exact ⟨size, hsize, hsize'⟩
      · rintro ⟨size, hsize, hsize'⟩
        exact ⟨_, ⟨size, hsize, rfl⟩, bind_eq_ok_iff.mpr ⟨_, hsize', rfl⟩⟩

/-- What comes back of a volume is a volume. -/
theorem readBack_eq_none {cfg : Option PersistenceConfig}
    (h : (encode cfg >>= decode) = .ok none) : cfg = none := by
  cases cfg with
  | none => rfl
  | some disk =>
      simp only [encode, bind_eq_ok_iff] at h
      obtain ⟨_, ⟨size, _, h⟩, hread⟩ := h
      cases h
      obtain ⟨_, _, h⟩ := bind_eq_ok hread
      cases h

end PersistenceConfig

/-- The two members of a pool that storage may change, as the update check compares
them. -/
theorem readBack_kept_iff {r : ResourceRequirements} {cfg : Option PersistenceConfig} :
    (∃ r' cfg', (r.encode >>= ResourceRequirements.decode) = .ok r' ∧
      (PersistenceConfig.encode cfg >>= PersistenceConfig.decode) = .ok cfg' ∧
      r = r' ∧ (cfg' = none ∨ cfg = cfg')) ↔ r.Kept ∧ ∀ disk ∈ cfg, disk.size.Kept := by
  rw [← ResourceRequirements.readBack_iff, ← PersistenceConfig.readBack_iff]
  constructor
  · rintro ⟨r', cfg', hr, hcfg, rfl, hnone | rfl⟩
    · rw [hnone] at hcfg
      rw [PersistenceConfig.readBack_eq_none hcfg]
      exact ⟨hr, rfl⟩
    · exact ⟨hr, hcfg⟩
  · rintro ⟨hr, hcfg⟩
    exact ⟨r, cfg, hr, hcfg, rfl, .inr rfl⟩

/-- A string as an `omitempty` member. -/
def omitEmptyString (text : String) : Option String := if text = "" then none else some text

theorem getD_omitEmptyString (text : String) : (omitEmptyString text).getD "" = text := by
  unfold omitEmptyString
  split
  · rename_i hempty
    exact hempty.symm
  · rfl

/-- A node pool in a manifest.  A member that is null counts as missing. -/
structure ElasticsearchClusterNodePoolDocument where
  name : Option String
  replicas : Option Int := none
  roles : Option (List ElasticsearchClusterRole) := none
  nodeSelector : StringMap := none
  resources : Option ResourceRequirementsDocument := none
  persistence : Option PersistenceConfigDocument := none
  schedulerName : Option String := none

@[inherit_doc ElasticsearchClusterNodePoolDocument]
structure CassandraClusterNodePoolDocument where
  name : Option String
  replicas : Option Int := none
  persistence : Option PersistenceConfigDocument := none
  nodeSelector : StringMap := none
  rack : Option String := none
  datacenter : Option String := none
  resources : Option ResourceRequirementsDocument := none
  schedulerName : Option String := none

namespace ElasticsearchClusterNodePool

/-- A list of roles that is nil and one that is empty are both `[]` here; no
cluster with either is accepted. -/
def decode (d : ElasticsearchClusterNodePoolDocument) :
    Except Err ElasticsearchClusterNodePool := do
  let resources ← ResourceRequirements.decode d.resources
  let persistence ← PersistenceConfig.decode d.persistence
  pure
    { name := d.name.getD ""
      replicas := d.replicas
      roles := d.roles.getD []
      nodeSelector := d.nodeSelector
      resources := resources
      persistence := persistence
      schedulerName := d.schedulerName.getD "" }

def encode (np : ElasticsearchClusterNodePool) :
    Except Err ElasticsearchClusterNodePoolDocument := do
  let resources ← np.resources.encode
  let persistence ← PersistenceConfig.encode np.persistence
  pure
    { name := some np.name
      replicas := np.replicas
      roles := if np.roles = [] then none else some np.roles
      nodeSelector := omitEmpty np.nodeSelector
      resources := resources
      persistence := persistence
      schedulerName := omitEmptyString np.schedulerName }

/-- A pool of the manifest as the validators get it. -/
def decoded (d : ElasticsearchClusterNodePoolDocument) :
    Except Err ElasticsearchClusterNodePool :=
  (decode d).map setDefaultsElasticsearchClusterNodePool

/-- A pool as it is read back from storage. -/
def stored (np : ElasticsearchClusterNodePool) : Except Err ElasticsearchClusterNodePool :=
  np.encode >>= decoded

/-- Resources and persistence are all that storage can change. -/
theorem stored_eq_ok_iff {d : ElasticsearchClusterNodePoolDocument}
    {np old : ElasticsearchClusterNodePool} (h : decoded d = .ok np) :
    np.stored = .ok old ↔ ∃ r cfg,
      (np.resources.encode >>= ResourceRequirements.decode) = .ok r ∧
      (PersistenceConfig.encode np.persistence >>= PersistenceConfig.decode) = .ok cfg ∧
      old = { np with resources := r, persistence := cfg } := by
  have hroles : (if np.roles = [] then none else some np.roles).getD [] = np.roles := by
    split
    · rename_i hempty
      exact hempty.symm
    · rfl
  have hscheduler := getD_omitEmptyString np.schedulerName
  have hdefaults : some (np.replicas.getD 1) = np.replicas ∧
      defaultNodeSelector (omitEmpty np.nodeSelector) = np.nodeSelector := by
    obtain ⟨decoded, _, rfl⟩ := map_eq_ok_iff.mp h
    exact ⟨rfl, defaultNodeSelector_omitEmpty _⟩
  have hpool : ∀ r cfg, setDefaultsElasticsearchClusterNodePool
      { name := np.name
        replicas := np.replicas
        roles := (if np.roles = [] then none else some np.roles).getD []
        nodeSelector := omitEmpty np.nodeSelector
        resources := r
        persistence := cfg
        schedulerName := (omitEmptyString np.schedulerName).getD "" } =
      { np with resources := r, persistence := cfg } := by
    intro r cfg
    rw [hroles, hscheduler, setDefaultsElasticsearchClusterNodePool, hdefaults.1, hdefaults.2]
  simp only [stored, encode, decoded, decode, bind_eq_ok_iff, map_eq_ok_iff]
  constructor
  · rintro ⟨_, ⟨rDoc, hrDoc, cfgDoc, hcfgDoc, hdoc⟩, _, ⟨r, hr, cfg, hcfg, hnp⟩, rfl⟩
    cases hdoc
    cases hnp
    exact ⟨r, cfg, ⟨rDoc, hrDoc, hr⟩, ⟨cfgDoc, hcfgDoc, hcfg⟩, hpool r cfg⟩
  · rintro ⟨r, cfg, ⟨rDoc, hrDoc, hr⟩, ⟨cfgDoc, hcfgDoc, hcfg⟩, rfl⟩
    exact ⟨_, ⟨rDoc, hrDoc, cfgDoc, hcfgDoc, rfl⟩, _, ⟨r, hr, cfg, hcfg, rfl⟩, hpool r cfg⟩

theorem stored_kept_iff {d : ElasticsearchClusterNodePoolDocument}
    {np : ElasticsearchClusterNodePool} (h : decoded d = .ok np) :
    (∃ old, np.stored = .ok old ∧ np.KeptFrom old) ↔
      np.resources.Kept ∧ ∀ disk ∈ np.persistence, disk.size.Kept := by
  rw [← readBack_kept_iff]
  simp only [stored_eq_ok_iff h]
  constructor
  · rintro ⟨_, ⟨r, cfg, hr, hcfg, rfl⟩, hothers, hdisk⟩
    exact ⟨r, cfg, hr, hcfg, congrArg ElasticsearchClusterNodePool.resources hothers, hdisk⟩
  · rintro ⟨r, cfg, hr, hcfg, rfl, hdisk⟩
    exact ⟨_, ⟨np.resources, cfg, hr, hcfg, rfl⟩, rfl, hdisk⟩

theorem name_of_stored {d : ElasticsearchClusterNodePoolDocument}
    {np old : ElasticsearchClusterNodePool} (h : decoded d = .ok np) (hold : np.stored = .ok old) :
    old.name = np.name := by
  obtain ⟨_, _, _, _, rfl⟩ := (stored_eq_ok_iff h).mp hold
  rfl

end ElasticsearchClusterNodePool

namespace CassandraClusterNodePool

def decode (d : CassandraClusterNodePoolDocument) : Except Err CassandraClusterNodePool := do
  let persistence ← PersistenceConfig.decode d.persistence
  let resources ← ResourceRequirements.decode d.resources
  pure
    { name := d.name.getD ""
      replicas := d.replicas
      persistence := persistence
      nodeSelector := d.nodeSelector
      rack := d.rack
      datacenter := d.datacenter
      resources := resources
      schedulerName := d.schedulerName.getD "" }

/-- A pointer is left out when it is nil, not when it points to an empty string. -/
def encode (np : CassandraClusterNodePool) : Except Err CassandraClusterNodePoolDocument := do
  let persistence ← PersistenceConfig.encode np.persistence
  let resources ← np.resources.encode
  pure
    { name := some np.name
      replicas := np.replicas
      persistence := persistence
      nodeSelector := omitEmpty np.nodeSelector
      rack := np.rack
      datacenter := np.datacenter
      resources := resources
      schedulerName := omitEmptyString np.schedulerName }

@[inherit_doc ElasticsearchClusterNodePool.decoded]
def decoded (d : CassandraClusterNodePoolDocument) : Except Err CassandraClusterNodePool :=
  (decode d).map setDefaultsCassandraClusterNodePool

@[inherit_doc ElasticsearchClusterNodePool.stored]
def stored (np : CassandraClusterNodePool) : Except Err CassandraClusterNodePool :=
  np.encode >>= decoded

theorem stored_eq_ok_iff {d : CassandraClusterNodePoolDocument}
    {np old : CassandraClusterNodePool} (h : decoded d = .ok np) :
    np.stored = .ok old ↔ ∃ r cfg,
      (np.resources.encode >>= ResourceRequirements.decode) = .ok r ∧
      (PersistenceConfig.encode np.persistence >>= PersistenceConfig.decode) = .ok cfg ∧
      old = { np with resources := r, persistence := cfg } := by
  have hscheduler := getD_omitEmptyString np.schedulerName
  have hdefaults : some (np.replicas.getD 1) = np.replicas ∧
      some (np.datacenter.getD cassDefaultDatacenter) = np.datacenter ∧
      some (np.rack.getD np.name) = np.rack ∧
      defaultNodeSelector (omitEmpty np.nodeSelector) = np.nodeSelector := by
    obtain ⟨decoded, _, rfl⟩ := map_eq_ok_iff.mp h
    exact ⟨rfl, rfl, rfl, defaultNodeSelector_omitEmpty _⟩
  have hpool : ∀ r cfg, setDefaultsCassandraClusterNodePool
      { name := np.name
        replicas := np.replicas
        persistence := cfg
        nodeSelector := omitEmpty np.nodeSelector
        rack := np.rack
        datacenter := np.datacenter
        resources := r
        schedulerName := (omitEmptyString np.schedulerName).getD "" } =
      { np with resources := r, persistence := cfg } := by
    intro r cfg
    rw [hscheduler, setDefaultsCassandraClusterNodePool, hdefaults.1, hdefaults.2.1,
      hdefaults.2.2.1, hdefaults.2.2.2]
  simp only [stored, encode, decoded, decode, bind_eq_ok_iff, map_eq_ok_iff]
  constructor
  · rintro ⟨_, ⟨cfgDoc, hcfgDoc, rDoc, hrDoc, hdoc⟩, _, ⟨cfg, hcfg, r, hr, hnp⟩, rfl⟩
    cases hdoc
    cases hnp
    exact ⟨r, cfg, ⟨rDoc, hrDoc, hr⟩, ⟨cfgDoc, hcfgDoc, hcfg⟩, hpool r cfg⟩
  · rintro ⟨r, cfg, ⟨rDoc, hrDoc, hr⟩, ⟨cfgDoc, hcfgDoc, hcfg⟩, rfl⟩
    exact ⟨_, ⟨cfgDoc, hcfgDoc, rDoc, hrDoc, rfl⟩, _, ⟨cfg, hcfg, r, hr, rfl⟩, hpool r cfg⟩

theorem stored_kept_iff {d : CassandraClusterNodePoolDocument} {np : CassandraClusterNodePool}
    (h : decoded d = .ok np) :
    (∃ old, np.stored = .ok old ∧ np.KeptFrom old) ↔
      np.resources.Kept ∧ ∀ disk ∈ np.persistence, disk.size.Kept := by
  rw [← readBack_kept_iff]
  simp only [stored_eq_ok_iff h]
  constructor
  · rintro ⟨_, ⟨r, cfg, hr, hcfg, rfl⟩, hothers, hdisk⟩
    exact ⟨r, cfg, hr, hcfg, congrArg CassandraClusterNodePool.resources hothers, hdisk⟩
  · rintro ⟨r, cfg, hr, hcfg, rfl, hdisk⟩
    exact ⟨_, ⟨np.resources, cfg, hr, hcfg, rfl⟩, rfl, hdisk⟩

theorem name_of_stored {d : CassandraClusterNodePoolDocument}
    {np old : CassandraClusterNodePool} (h : decoded d = .ok np) (hold : np.stored = .ok old) :
    old.name = np.name := by
  obtain ⟨_, _, _, _, rfl⟩ := (stored_eq_ok_iff h).mp hold
  rfl

end CassandraClusterNodePool

theorem exists_right_of_forall₂ {α β : Type} {R : α → β → Prop} {xs : List α} {ys : List β}
    (h : List.Forall₂ R xs ys) {x : α} (hx : x ∈ xs) : ∃ y ∈ ys, R x y := by
  induction h with
  | nil => cases hx
  | cons hxy _ ih =>
      rcases List.mem_cons.mp hx with rfl | hx
      · exact ⟨_, List.mem_cons_self, hxy⟩
      · obtain ⟨y, hy, hR⟩ := ih hx
        exact ⟨y, List.mem_cons_of_mem _ hy, hR⟩

theorem exists_forall₂_of_forall {α β : Type} {R : α → β → Prop} {xs : List α}
    (h : ∀ x ∈ xs, ∃ y, R x y) : ∃ ys, List.Forall₂ R xs ys := by
  induction xs with
  | nil => exact ⟨[], .nil⟩
  | cons x xs ih =>
      obtain ⟨⟨y, hy⟩, hrest⟩ := List.forall_mem_cons.mp h
      obtain ⟨ys, hys⟩ := ih hrest
      exact ⟨y :: ys, .cons hy hys⟩

section Pools

variable {P : Type} {name : P → String} {stored : P → Except Err P} {kept : P → P → Prop}
  {pools : List P}

/-- What is stored of the pools has their names. -/
theorem map_name_of_stored (hname : ∀ np ∈ pools, ∀ old, stored np = .ok old → name old = name np)
    {olds : List P} (h : List.Forall₂ (fun np old => stored np = .ok old) pools olds) :
    olds.map name = pools.map name := by
  induction h with
  | nil => rfl
  | cons hstored _ ih =>
      obtain ⟨hfirst, hrest⟩ := List.forall_mem_cons.mp hname
      rw [List.map_cons, List.map_cons, hfirst _ hstored, ih hrest]

/-- Names being distinct, a pool is compared with what is stored of itself. -/
theorem exists_stored_iff (hname : ∀ np ∈ pools, ∀ old, stored np = .ok old → name old = name np)
    (hdistinct : (pools.map name).Nodup) :
    (∃ olds, List.Forall₂ (fun np old => stored np = .ok old) pools olds ∧
      ∀ newNp ∈ pools, ∀ oldNp ∈ olds, name newNp = name oldNp → kept newNp oldNp) ↔
      ∀ np ∈ pools, ∃ old, stored np = .ok old ∧ kept np old := by
  constructor
  · rintro ⟨olds, hstored, hkept⟩ np hnp
    obtain ⟨old, hold, hnpold⟩ := exists_right_of_forall₂ hstored hnp
    exact ⟨old, hnpold, hkept np hnp old hold (hname np hnp old hnpold).symm⟩
  · intro h
    obtain ⟨olds, hstored⟩ := exists_forall₂_of_forall h
    refine ⟨olds, hstored.imp fun _ _ h => h.1, fun newNp hnew oldNp hold hnames => ?_⟩
    obtain ⟨np, hnp, hnpold⟩ := exists_right_of_forall₂ hstored.flip hold
    obtain rfl : newNp = np :=
      List.inj_on_of_nodup_map hdistinct hnew hnp (hnames.trans (hname np hnp oldNp hnpold.1))
    exact hnpold.2

end Pools

/-- A manifest.  For the members that are not spelled out here a missing one and
an empty one decode alike, so that the document has the decoded value. -/
structure ElasticsearchClusterManifest where
  metadata : ObjectMeta
  navigatorClusterConfig : NavigatorClusterConfig
  version : Version
  plugins : List String := []
  nodePools : List ElasticsearchClusterNodePoolDocument
  image : Option ImageSpec := none
  minimumMasters : Option Int := none

@[inherit_doc ElasticsearchClusterManifest]
structure CassandraClusterManifest where
  metadata : ObjectMeta
  navigatorClusterConfig : NavigatorClusterConfig
  nodePools : List CassandraClusterNodePoolDocument
  image : Option ImageSpec := none
  version : Option Bytes

namespace ElasticsearchCluster

def decode (m : ElasticsearchClusterManifest) : Except Err ElasticsearchCluster := do
  let nodePools ← m.nodePools.mapM ElasticsearchClusterNodePool.decode
  pure
    { metadata := m.metadata
      spec :=
        { navigatorClusterConfig := m.navigatorClusterConfig
          version := m.version
          plugins := m.plugins
          nodePools := nodePools
          image := m.image
          minimumMasters := m.minimumMasters } }

def encode (c : ElasticsearchCluster) : Except Err ElasticsearchClusterManifest := do
  let nodePools ← c.spec.nodePools.mapM ElasticsearchClusterNodePool.encode
  pure
    { metadata := c.metadata
      navigatorClusterConfig := c.spec.navigatorClusterConfig
      version := c.spec.version
      plugins := c.spec.plugins
      nodePools := nodePools
      image := c.spec.image
      minimumMasters := c.spec.minimumMasters }

/-- Defaults are applied on every decode. -/
def decoded (m : ElasticsearchClusterManifest) : Except Err ElasticsearchCluster :=
  (decode m).map setObjectDefaultsElasticsearchCluster

def stored (c : ElasticsearchCluster) : Except Err ElasticsearchCluster :=
  c.encode >>= decoded

/-- The pools are decoded one by one. -/
theorem exists_decoded_iff {m : ElasticsearchClusterManifest}
    {pools : List ElasticsearchClusterNodePool} :
    (∃ c, decoded m = .ok c ∧ c.spec.nodePools = pools) ↔
      List.Forall₂ (fun d np => ElasticsearchClusterNodePool.decoded d = .ok np) m.nodePools
        pools := by
  unfold ElasticsearchClusterNodePool.decoded
  rw [← exists_mapM_map_iff]
  simp only [decoded, decode, map_eq_ok_iff, bind_eq_ok_iff]
  constructor
  · rintro ⟨_, ⟨_, ⟨nodePools, hread, h⟩, rfl⟩, rfl⟩
    cases h
    exact ⟨nodePools, hread, rfl⟩
  · rintro ⟨nodePools, hread, rfl⟩
    exact ⟨_, ⟨_, ⟨nodePools, hread, rfl⟩, rfl⟩, rfl⟩

/-- And so they are stored. -/
theorem exists_stored_iff {c : ElasticsearchCluster} {pools : List ElasticsearchClusterNodePool} :
    (∃ old, c.stored = .ok old ∧ old.spec.nodePools = pools) ↔
      List.Forall₂ (fun np old => np.stored = .ok old) c.spec.nodePools pools := by
  simp only [ElasticsearchClusterNodePool.stored, ← exists_mapM_forall₂_iff]
  constructor
  · rintro ⟨old, hstored, hpools⟩
    obtain ⟨_, hencode, hdecoded⟩ := bind_eq_ok hstored
    obtain ⟨docs, hdocs, h⟩ := bind_eq_ok hencode
    cases h
    exact ⟨docs, hdocs, exists_decoded_iff.mp ⟨old, hdecoded, hpools⟩⟩
  · rintro ⟨docs, hdocs, hdecoded⟩
    obtain ⟨old, hold, hpools⟩ := exists_decoded_iff
      (m := ⟨c.metadata, c.spec.navigatorClusterConfig, c.spec.version, c.spec.plugins, docs,
        c.spec.image, c.spec.minimumMasters⟩).mpr hdecoded
    exact ⟨old, bind_eq_ok_iff.mpr ⟨_, bind_eq_ok_iff.mpr ⟨docs, hdocs, rfl⟩, hold⟩, hpools⟩

theorem read_of_decoded {m : ElasticsearchClusterManifest} {c : ElasticsearchCluster}
    (h : decoded m = .ok c) :
    ∀ np ∈ c.spec.nodePools, ∃ d, ElasticsearchClusterNodePool.decoded d = .ok np := by
  intro np hnp
  have hpools := exists_decoded_iff.mp ⟨c, h, rfl⟩
  obtain ⟨d, _, hd⟩ := exists_right_of_forall₂ hpools.flip hnp
  exact ⟨d, hd⟩

/-- The update check of what is stored, on the pools. -/
theorem acceptedAgain_iff {m : ElasticsearchClusterManifest} {new : ElasticsearchCluster}
    (hdecoded : decoded m = .ok new) (hcreated : validateElasticsearchCluster new = .ok []) :
    (∃ old, new.stored = .ok old ∧ validateElasticsearchClusterUpdate old new = .ok []) ↔
      ∀ np ∈ new.spec.nodePools, ∃ old, np.stored = .ok old ∧ np.KeptFrom old := by
  have hname : ∀ np ∈ new.spec.nodePools, ∀ old, np.stored = .ok old → old.name = np.name := by
    intro np hnp old hold
    obtain ⟨d, hd⟩ := read_of_decoded hdecoded np hnp
    exact ElasticsearchClusterNodePool.name_of_stored hd hold
  have hdistinct := (accepted hcreated).distinct
  have hupdate : ∀ old, List.Forall₂ (fun np old => np.stored = .ok old) new.spec.nodePools
      old.spec.nodePools → (validateElasticsearchClusterUpdate old new = .ok [] ↔
        ∀ newNp ∈ new.spec.nodePools, ∀ oldNp ∈ old.spec.nodePools,
          newNp.name = oldNp.name → newNp.KeptFrom oldNp) := by
    intro old hpools
    have hold := hdistinct
    rw [← map_name_of_stored hname hpools] at hold
    rw [validateElasticsearchClusterUpdate_eq_ok_iff hold, and_iff_right hcreated]
  rw [← Navigator.exists_stored_iff hname hdistinct]
  constructor
  · rintro ⟨old, hold, haccepted⟩
    have hpools := exists_stored_iff.mp ⟨old, hold, rfl⟩
    exact ⟨_, hpools, (hupdate old hpools).mp haccepted⟩
  · rintro ⟨olds, hpools, hkept⟩
    obtain ⟨old, hold, rfl⟩ := exists_stored_iff.mpr hpools
    exact ⟨old, hold, (hupdate old hpools).mpr hkept⟩

end ElasticsearchCluster

/-- A version that is missing is the zero one. -/
def CassandraVersion.decode (member : Option Bytes) : Except Err CassandraVersion :=
  match member with
  | none => .ok zero
  | some data =>
      match zero.unmarshalJSON data with
      | (_, some e) => .error e
      | (v, none) => .ok v

theorem CassandraVersion.decode_marshalJSON {v : CassandraVersion} {member : Option Bytes}
    (u : Printable) (h : decode member = .ok v) (hsome : v.semver ≠ none) :
    decode (some (v.marshalJSON u)) = .ok v := by
  obtain ⟨s, hset⟩ : ∃ s, zero.set s = (v, none) := by
    cases member with
    | none =>
        obtain rfl : zero = v := Except.ok.inj h
        exact absurd rfl hsome
    | some data =>
        simp only [decode, unmarshalJSON] at h
        cases hdata : unquote data with
        | none =>
            rw [hdata] at h
            cases h
        | some s =>
            simp only [hdata] at h
            refine ⟨s, ?_⟩
            split at h
            · cases h
            · rename_i v' hset
              obtain rfl : v' = v := Except.ok.inj h
              exact hset
  simp only [decode, (marshalJSON_of_set u hset).2 zero]

namespace CassandraCluster

def decode (m : CassandraClusterManifest) : Except Err CassandraCluster := do
  let nodePools ← m.nodePools.mapM CassandraClusterNodePool.decode
  let version ← CassandraVersion.decode m.version
  pure
    { metadata := m.metadata
      spec :=
        { navigatorClusterConfig := m.navigatorClusterConfig
          nodePools := nodePools
          image := m.image
          version := version } }

def encode (u : Printable) (c : CassandraCluster) : Except Err CassandraClusterManifest := do
  let nodePools ← c.spec.nodePools.mapM CassandraClusterNodePool.encode
  pure
    { metadata := c.metadata
      navigatorClusterConfig := c.spec.navigatorClusterConfig
      nodePools := nodePools
      image := c.spec.image
      version := some (c.spec.version.marshalJSON u) }

@[inherit_doc ElasticsearchCluster.decoded]
def decoded (m : CassandraClusterManifest) : Except Err CassandraCluster :=
  (decode m).map setObjectDefaultsCassandraCluster

def stored (u : Printable) (c : CassandraCluster) : Except Err CassandraCluster :=
  c.encode u >>= decoded

theorem exists_decoded_iff {m : CassandraClusterManifest}
    {pools : List CassandraClusterNodePool} {version : CassandraVersion} :
    (∃ c, decoded m = .ok c ∧ c.spec.nodePools = pools ∧ c.spec.version = version) ↔
      List.Forall₂ (fun d np => CassandraClusterNodePool.decoded d = .ok np) m.nodePools pools ∧
        CassandraVersion.decode m.version = .ok version := by
  unfold CassandraClusterNodePool.decoded
  rw [← exists_mapM_map_iff]
  simp only [decoded, decode, map_eq_ok_iff, bind_eq_ok_iff]
  constructor
  · rintro ⟨_, ⟨_, ⟨nodePools, hread, version, hversion, h⟩, rfl⟩, rfl, rfl⟩
    cases h
    exact ⟨⟨nodePools, hread, rfl⟩, hversion⟩
  · rintro ⟨⟨nodePools, hread, rfl⟩, hversion⟩
    exact ⟨_, ⟨_, ⟨nodePools, hread, version, hversion, rfl⟩, rfl⟩, rfl, rfl⟩

/-- A version that was decoded, and is there, is read back from storage. -/
theorem exists_stored_iff {m : CassandraClusterManifest} {c : CassandraCluster} (u : Printable)
    (h : decoded m = .ok c) (hsome : c.spec.version.semver ≠ none)
    {pools : List CassandraClusterNodePool} :
    (∃ old, c.stored u = .ok old ∧ old.spec.nodePools = pools ∧
      old.spec.version = c.spec.version) ↔
      List.Forall₂ (fun np old => np.stored = .ok old) c.spec.nodePools pools := by
  have hversion := CassandraVersion.decode_marshalJSON u
    (exists_decoded_iff.mp ⟨c, h, rfl, rfl⟩).2 hsome
  simp only [CassandraClusterNodePool.stored, ← exists_mapM_forall₂_iff]
  constructor
  · rintro ⟨old, hstored, hpools, holdVersion⟩
    obtain ⟨_, hencode, hdecoded⟩ := bind_eq_ok hstored
    obtain ⟨docs, hdocs, h⟩ := bind_eq_ok hencode
    cases h
    exact ⟨docs, hdocs, (exists_decoded_iff.mp ⟨old, hdecoded, hpools, holdVersion⟩).1⟩
  · rintro ⟨docs, hdocs, hdecoded⟩
    obtain ⟨old, hold, hpools⟩ := exists_decoded_iff
      (m := ⟨c.metadata, c.spec.navigatorClusterConfig, docs, c.spec.image,
        some (c.spec.version.marshalJSON u)⟩).mpr ⟨hdecoded, hversion⟩
    exact ⟨old, bind_eq_ok_iff.mpr ⟨_, bind_eq_ok_iff.mpr ⟨docs, hdocs, rfl⟩, hold⟩, hpools⟩

/-- Nothing else comes back for it. -/
theorem version_stored {m : CassandraClusterManifest} {c old : CassandraCluster} (u : Printable)
    (h : decoded m = .ok c) (hsome : c.spec.version.semver ≠ none) (hold : c.stored u = .ok old) :
    old.spec.version = c.spec.version := by
  obtain ⟨_, hencode, hdecoded⟩ := bind_eq_ok hold
  obtain ⟨_, _, hdocs⟩ := bind_eq_ok hencode
  cases hdocs
  have hread := (exists_decoded_iff.mp ⟨old, hdecoded, rfl, rfl⟩).2
  have hback := CassandraVersion.decode_marshalJSON u
    (exists_decoded_iff.mp ⟨c, h, rfl, rfl⟩).2 hsome
  exact Except.ok.inj (hread.symm.trans hback)

theorem read_of_decoded {m : CassandraClusterManifest} {c : CassandraCluster}
    (h : decoded m = .ok c) :
    ∀ np ∈ c.spec.nodePools, ∃ d, CassandraClusterNodePool.decoded d = .ok np := by
  intro np hnp
  have hpools := (exists_decoded_iff.mp ⟨c, h, rfl, rfl⟩).1
  obtain ⟨d, _, hd⟩ := exists_right_of_forall₂ hpools.flip hnp
  exact ⟨d, hd⟩

@[inherit_doc ElasticsearchCluster.acceptedAgain_iff]
theorem acceptedAgain_iff {m : CassandraClusterManifest} {new : CassandraCluster} (u : Printable)
    (hdecoded : decoded m = .ok new) (hcreated : validateCassandraCluster new = .ok []) :
    (∃ old, new.stored u = .ok old ∧ validateCassandraClusterUpdate old new = .ok []) ↔
      ∀ np ∈ new.spec.nodePools, ∃ old, np.stored = .ok old ∧ np.KeptFrom old := by
  obtain ⟨_, hspec⟩ := validateCassandraCluster_eq_ok_iff.mp hcreated
  obtain ⟨version, hversion, _⟩ := hspec.version
  have hsome : new.spec.version.semver ≠ none := hversion ▸ Option.some_ne_none version
  have hname : ∀ np ∈ new.spec.nodePools, ∀ old, np.stored = .ok old → old.name = np.name := by
    intro np hnp old hold
    obtain ⟨d, hd⟩ := read_of_decoded hdecoded np hnp
    exact CassandraClusterNodePool.name_of_stored hd hold
  have hupdate : ∀ old, old.spec.version = new.spec.version →
      List.Forall₂ (fun np old => np.stored = .ok old) new.spec.nodePools old.spec.nodePools →
      (validateCassandraClusterUpdate old new = .ok [] ↔
        ∀ newNp ∈ new.spec.nodePools, ∀ oldNp ∈ old.spec.nodePools,
          newNp.name = oldNp.name → newNp.KeptFrom oldNp) := by
    intro old hsame hpools
    have hold := hspec.distinct
    rw [← map_name_of_stored hname hpools] at hold
    have hequal : ∃ newVersion oldVersion, new.spec.version.semver = some newVersion ∧
        old.spec.version.semver = some oldVersion ∧ newVersion.equal oldVersion = true :=
      ⟨version, version, hversion, hsame ▸ hversion, version.equal_refl⟩
    rw [validateCassandraClusterUpdate_eq_ok_iff hold, and_iff_right hcreated,
      and_iff_right hequal]
  rw [← Navigator.exists_stored_iff hname hspec.distinct]
  constructor
  · rintro ⟨old, hold, haccepted⟩
    have hsame := version_stored u hdecoded hsome hold
    have hpools := (exists_stored_iff u hdecoded hsome).mp ⟨old, hold, rfl, hsame⟩
    exact ⟨_, hpools, (hupdate old hsame hpools).mp haccepted⟩
  · rintro ⟨olds, hpools, hkept⟩
    obtain ⟨old, hold, rfl, hsame⟩ := (exists_stored_iff u hdecoded hsome).mpr hpools
    exact ⟨old, hold, (hupdate old hsame hpools).mpr hkept⟩

end CassandraCluster

/-- A manifest that was accepted is accepted again, over what was stored of it,
exactly when no resource list of its pools is there but empty, and every quantity
of theirs is read back as it was written. -/
theorem reapplied_accepted_iff (u : Printable) :
    (∀ (m : ElasticsearchClusterManifest) (new : ElasticsearchCluster),
      ElasticsearchCluster.decoded m = .ok new → validateElasticsearchCluster new = .ok [] →
      ((∃ old, new.stored = .ok old ∧ validateElasticsearchClusterUpdate old new = .ok []) ↔
        ∀ np ∈ new.spec.nodePools, np.resources.Kept ∧
          ∀ disk ∈ np.persistence, disk.size.Kept)) ∧
    ∀ (m : CassandraClusterManifest) (new : CassandraCluster),
      CassandraCluster.decoded m = .ok new → validateCassandraCluster new = .ok [] →
      ((∃ old, new.stored u = .ok old ∧ validateCassandraClusterUpdate old new = .ok []) ↔
        ∀ np ∈ new.spec.nodePools, np.resources.Kept ∧
          ∀ disk ∈ np.persistence, disk.size.Kept) := by
  constructor
  · intro m new hdecoded hcreated
    rw [ElasticsearchCluster.acceptedAgain_iff hdecoded hcreated]
    refine forall₂_congr fun np hnp => ?_
    obtain ⟨d, hd⟩ := ElasticsearchCluster.read_of_decoded hdecoded np hnp
    exact ElasticsearchClusterNodePool.stored_kept_iff hd
  · intro m new hdecoded hcreated
    rw [CassandraCluster.acceptedAgain_iff u hdecoded hcreated]
    refine forall₂_congr fun np hnp => ?_
    obtain ⟨d, hd⟩ := CassandraCluster.read_of_decoded hdecoded np hnp
    exact CassandraClusterNodePool.stored_kept_iff hd

namespace ReapplyWitness

/-- An Elasticsearch manifest with one pool, which has a disk and these limits. -/
def elasticsearch (limits : List (String × String)) : ElasticsearchClusterManifest where
  metadata := { name := "db", namespaceName := "default" }
  navigatorClusterConfig := { pilotImage := ⟨"navigator-pilot-elasticsearch", "latest", ""⟩ }
  version := release 6 1 1
  nodePools :=
    [{ name := some "all", roles := some [.master, .data],
       persistence := some { size := some "\"10Gi\"" },
       resources := some { limits := some limits } }]

/-- A Cassandra manifest of version 3.11.2, alike. -/
def cassandra (limits : List (String × String)) : CassandraClusterManifest where
  metadata := { name := "db", namespaceName := "default" }
  navigatorClusterConfig := { pilotImage := ⟨"navigator-pilot-cassandra", "latest", ""⟩ }
  nodePools :=
    [{ name := some "rack-a", persistence := some { size := some "\"10Gi\"" },
       resources := some { limits := some limits } }]
  version := some [34, 51, 46, 49, 49, 46, 50, 34]

/-- What is said of an Elasticsearch manifest that is submitted twice. -/
def elasticsearchTwice (m : ElasticsearchClusterManifest) :
    Except Err (Checked ErrorList × Checked ErrorList) := do
  let new ← ElasticsearchCluster.decoded m
  let old ← new.stored
  pure (validateElasticsearchCluster new, validateElasticsearchClusterUpdate old new)

@[inherit_doc elasticsearchTwice]
def cassandraTwice (m : CassandraClusterManifest) :
    Except Err (Checked ErrorList × Checked ErrorList) := do
  let new ← CassandraCluster.decoded m
  let old ← new.stored VersionEncodingWitness.printable
  pure (validateCassandraCluster new, validateCassandraClusterUpdate old new)

/-- With limits that name a resource both are accepted again. -/
theorem reapplied_accepted_iff_limits :
    (∃ new old, ElasticsearchCluster.decoded (elasticsearch [("cpu", "\"500m\"")]) = .ok new ∧
        new.stored = .ok old ∧ validateElasticsearchClusterUpdate old new = .ok []) ∧
      ∃ new old, CassandraCluster.decoded (cassandra [("cpu", "\"500m\"")]) = .ok new ∧
        new.stored VersionEncodingWitness.printable = .ok old ∧
        validateCassandraClusterUpdate old new = .ok [] := by
  obtain ⟨helasticsearch, hcassandra⟩ := reapplied_accepted_iff VersionEncodingWitness.printable
  constructor
  · have hkept : (ElasticsearchCluster.decoded (elasticsearch [("cpu", "\"500m\"")])).map
        (fun new => decide (validateElasticsearchCluster new = .ok [] ∧
          ∀ np ∈ new.spec.nodePools, np.resources.Kept ∧
            ∀ disk ∈ np.persistence, disk.size.Kept)) = .ok true := by
      decide +kernel
    obtain ⟨new, hnew, h⟩ := map_eq_ok_iff.mp hkept
    obtain ⟨hcreated, hpools⟩ := of_decide_eq_true h
    obtain ⟨old, hold⟩ := (helasticsearch _ new hnew hcreated).mpr hpools
    exact ⟨new, old, hnew, hold⟩
  · have hkept : (CassandraCluster.decoded (cassandra [("cpu", "\"500m\"")])).map
        (fun new => decide (validateCassandraCluster new = .ok [] ∧
          ∀ np ∈ new.spec.nodePools, np.resources.Kept ∧
            ∀ disk ∈ np.persistence, disk.size.Kept)) = .ok true := by
      decide +kernel
    obtain ⟨new, hnew, h⟩ := map_eq_ok_iff.mp hkept
    obtain ⟨hcreated, hpools⟩ := of_decide_eq_true h
    obtain ⟨old, hold⟩ := (hcassandra _ new hnew hcreated).mpr hpools
    exact ⟨new, old, hnew, hold⟩

/-- The answer to a change of a field that must not change. -/
def refused : Checked ErrorList :=
  .ok [.forbidden (Path.new "spec")
    "updates to nodepool for fields other than 'replicas' and 'persistence' are forbidden."]

/-- Limits that are there but empty: both manifests are accepted, and refused
when they come again. -/
theorem empty_limits_refused :
    elasticsearchTwice (elasticsearch []) = .ok (.ok [], refused) ∧
      cassandraTwice (cassandra []) = .ok (.ok [], refused) := by
  decide +kernel

end ReapplyWitness

end Navigator
