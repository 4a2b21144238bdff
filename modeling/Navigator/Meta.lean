/-
Object metadata, errors, owner references, label selectors and listers, as the
Kubernetes libraries give them to the controllers.
-/
import Navigator.Base.ObjectStore
import Navigator.Names

namespace Navigator

open ControlLoop

/-- Sequencing of code that may stop with an error. -/
theorem bind_eq_ok_iff {ε α β : Type} {x : Except ε α} {f : α → Except ε β} {b : β} :
    (x >>= f) = .ok b ↔ ∃ a, x = .ok a ∧ f a = .ok b := by
  cases x with
  | error e => simp [bind, Except.bind]
  | ok a => simp [bind, Except.bind]

/-- Inversion of sequencing for code that may stop with an error. -/
theorem bind_eq_ok {ε α β : Type} {x : Except ε α} {f : α → Except ε β} {b : β}
    (h : (x >>= f) = .ok b) : ∃ a, x = .ok a ∧ f a = .ok b :=
  bind_eq_ok_iff.mp h

/-- A Go `map[string]string`: `none` is the nil map, which reads as empty but
is told apart by the code and by deep equality. -/
abbrev StringMap := Option (Std.ExtTreeMap String String)

namespace StringMap

def ofList (entries : List (String × String)) : StringMap :=
  some (Std.ExtTreeMap.ofList entries)

/-- `m[key]` with the second result of the lookup. -/
def get? (m : StringMap) (key : String) : Option String :=
  m.bind fun entries => entries[key]?

/-- `m[key]`, which reads a missing key as the empty string. -/
def get (m : StringMap) (key : String) : String := (get? m key).getD ""

/-- `m[key] = value`, for a map that is not nil. -/
def set (m : StringMap) (key value : String) : StringMap :=
  m.map fun entries => entries.insert key value

def entries (m : StringMap) : List (String × String) :=
  match m with
  | none => []
  | some entries => entries.toList

theorem get?_set {m : StringMap} (hm : m ≠ none) (key value key' : String) :
    get? (set m key value) key' = if key' = key then some value else get? m key' := by
  cases m with
  | none => exact absurd rfl hm
  | some entries =>
      simp only [get?, set, Option.map_some, Option.bind_some]
      rw [Std.ExtTreeMap.getElem?_insert]
      by_cases h : key' = key
      · subst h
        simp
      · have hcompare : compare key key' ≠ .eq := fun heq =>
          h (Std.LawfulEqCmp.eq_of_compare heq).symm
        rw [if_neg hcompare, if_neg h]

theorem mem_entries_iff {m : StringMap} {key value : String} :
    (key, value) ∈ entries m ↔ get? m key = some value := by
  cases m with
  | none => simp [entries, get?]
  | some entries => exact Std.ExtTreeMap.mem_toList_iff_getElem?_eq_some

@[simp] theorem set_ne_none {m : StringMap} {key value : String} :
    set m key value ≠ none ↔ m ≠ none := by
  cases m <;> simp [set]

end StringMap

inductive StatusReason where
  | unknown
  | notFound
  | alreadyExists
  | conflict
  | other
deriving DecidableEq, Repr

/-- An error: a status error of the API machinery, or any other error, which
carries only its text.  A nil dereference unwinds the goroutine and is told
apart, since no handler of the source sees it. -/
inductive Err where
  | status (reason : StatusReason) (message : String)
  | plain (message : String)
  | nilDereference
deriving DecidableEq, Repr

namespace Err

def error : Err → String
  | status _ message => message
  | plain message => message
  | nilDereference => "runtime error: invalid memory address or nil pointer dereference"

/-- `k8sErrors.ReasonForError`. -/
def reason : Err → StatusReason
  | status reason _ => reason
  | _ => .unknown

def isNotFound (e : Err) : Bool := e.reason = .notFound

def isAlreadyExists (e : Err) : Bool := e.reason = .alreadyExists

/-- `errors.Wrap`: the wrapper hides the reason. -/
def wrap (message : String) : Err → Err
  | nilDereference => nilDereference
  | e => plain (message ++ ": " ++ e.error)

end Err

/-- The text of an aggregate of errors. -/
def aggregateMessage : List String → String
  | [] => ""
  | [message] => message
  | messages => "[" ++ ", ".intercalate messages ++ "]"

/-- `utilerrors.NewAggregate`. -/
def newAggregate (errs : List (Option Err)) : Option Err :=
  match errs.reduceOption with
  | [] => none
  | present => some (.plain (aggregateMessage (present.map Err.error)))

def newNotFound (resource name : String) : Err :=
  .status .notFound (resource ++ " " ++ quoted name ++ " not found")

def newAlreadyExists (resource name : String) : Err :=
  .status .alreadyExists (resource ++ " " ++ quoted name ++ " already exists")

structure OwnerReference where
  apiVersion : String
  kind : String
  name : String
  uid : String
  controller : Option Bool := none
  blockOwnerDeletion : Option Bool := none
deriving DecidableEq

/-- The metadata fields that some modelled function reads or writes. -/
structure ObjectMeta where
  name : String := ""
  generateName : String := ""
  namespaceName : String := ""
  uid : String := ""
  resourceVersion : Nat := 0
  generation : Int := 0
  clusterName : String := ""
  labels : StringMap := none
  annotations : StringMap := none
  ownerReferences : List OwnerReference := []
  finalizers : List String := []
  deletionTimestamp : Option Nat := none
deriving DecidableEq

/-- The object is being deleted. -/
def ObjectMeta.deleted (m : ObjectMeta) : Bool := m.deletionTimestamp.isSome

/-- `metav1.Object`. -/
class ApiObject (α : Type) where
  objectMeta : α → ObjectMeta
  setMeta : α → ObjectMeta → α
  objectMeta_setMeta (object : α) (m : ObjectMeta) : objectMeta (setMeta object m) = m

export ApiObject (objectMeta setMeta objectMeta_setMeta)

attribute [simp] objectMeta_setMeta

section ApiObject

variable {α β : Type} [ApiObject α] [ApiObject β]

def nameOf (object : α) : String := (objectMeta object).name

def namespaceOf (object : α) : String := (objectMeta object).namespaceName

/-- API objects are stored under namespace and name, with their resource
version. -/
instance : Resource α (String × String) where
  key object := (namespaceOf object, nameOf object)
  version object := (objectMeta object).resourceVersion
  withVersion object v := setMeta object { objectMeta object with resourceVersion := v }
  key_withVersion object v := by simp [namespaceOf, nameOf]
  version_withVersion object v := by simp

def getControllerOf (object : α) : Option OwnerReference :=
  (objectMeta object).ownerReferences.find? fun ref => ref.controller = some true

def isControlledBy (object : α) (owner : β) : Bool :=
  match getControllerOf object with
  | none => false
  | some ref => ref.uid = (objectMeta owner).uid

/-- `metav1.NewControllerRef`. -/
def newControllerRef (apiVersion kind : String) (owner : β) : OwnerReference where
  apiVersion := apiVersion
  kind := kind
  name := nameOf owner
  uid := (objectMeta owner).uid
  controller := some true
  blockOwnerDeletion := some true

end ApiObject

/-- A label requirement `key = value`. -/
structure Requirement where
  key : String
  value : String
deriving DecidableEq

abbrev Selector := List Requirement

def Requirement.matchesLabels (r : Requirement) (labels : StringMap) : Bool :=
  StringMap.get? labels r.key = some r.value

def Selector.matchesLabels (selector : Selector) (labels : StringMap) : Bool :=
  selector.all fun r => r.matchesLabels labels

/-- `labels.NewRequirement` with the operator `Equals` and one value. -/
def newRequirement (key value : String) : Except Err Requirement :=
  match isQualifiedName key with
  | [] =>
      match isValidLabelValue value with
      | [] => .ok ⟨key, value⟩
      | errs => .error (.plain ("invalid label value: " ++ quoted value ++ ": " ++
          "; ".intercalate errs))
  | errs => .error (.plain ("invalid label key " ++ quoted key ++ ": " ++
      "; ".intercalate errs))

theorem newRequirement_eq_ok_iff {key value : String} (hkey : isQualifiedName key = [])
    {r : Requirement} :
    newRequirement key value = .ok r ↔ ValidLabelValue value ∧ r = ⟨key, value⟩ := by
  rw [← isValidLabelValue_eq_nil_iff, newRequirement, hkey]
  cases isValidLabelValue value with
  | nil => simp [eq_comm]
  | cons msg msgs => simp

/-- The content of an informer cache, in the order in which it is listed, and
the error that lookups fail with, if any. -/
structure Lister (α : Type) where
  items : List α
  failure : Option Err := none

namespace Lister

variable {α : Type} [ApiObject α]

/-- `Get` of a namespace lister; `resource` is the name in the error. -/
def get (lister : Lister α) (resource namespaceName name : String) : Except Err α :=
  match lister.failure with
  | some e => .error e
  | none =>
      match lister.items.find? fun object =>
          Resource.key object = (namespaceName, name) with
      | some object => .ok object
      | none => .error (newNotFound resource name)

/-- `List` of a namespace lister; the empty namespace lists everything. -/
def list (lister : Lister α) (namespaceName : String) (selector : Selector) :
    Except Err (List α) :=
  match lister.failure with
  | some e => .error e
  | none => .ok (lister.items.filter fun object =>
      (namespaceName = "" || namespaceOf object = namespaceName) &&
        selector.matchesLabels (objectMeta object).labels)

/-- Lookups fail only because the object is not there. -/
def FailsOnlyWithNotFound (lister : Lister α) : Prop :=
  ∀ e ∈ lister.failure, e.isNotFound = true

/-- A lookup that succeeds returns a cached object with the key asked for. -/
theorem get_ok {lister : Lister α} {resource namespaceName name : String} {object : α}
    (h : lister.get resource namespaceName name = .ok object) :
    object ∈ lister.items ∧ Resource.key object = (namespaceName, name) := by
  unfold get at h
  split at h
  · cases h
  · split at h
    · rename_i found hfound
      cases h
      exact ⟨List.mem_of_find?_eq_some hfound, by simpa using List.find?_some hfound⟩
    · cases h

theorem FailsOnlyWithNotFound.isNotFound {lister : Lister α}
    (h : lister.FailsOnlyWithNotFound) {resource namespaceName name : String} {e : Err}
    (hget : lister.get resource namespaceName name = .error e) : e.isNotFound = true := by
  unfold get at hget
  split at hget
  · rename_i failure hfailure
    exact Except.error.inj hget ▸ h failure hfailure
  · split at hget
    · cases hget
    · exact Except.error.inj hget ▸ rfl

/-- Once a lookup succeeds, the cache works and the others fail only for a
missing object. -/
theorem isNotFound_of_get_ok {lister : Lister α} {resource namespaceName name : String}
    {object : α} (hok : lister.get resource namespaceName name = .ok object)
    {resource' namespaceName' name' : String} {e : Err}
    (herror : lister.get resource' namespaceName' name' = .error e) : e.isNotFound = true := by
  apply FailsOnlyWithNotFound.isNotFound _ herror
  intro failure hfailure
  rw [get, Option.mem_def.mp hfailure] at hok
  cases hok

/-- A lookup in a cache that works finds an object of the key, if there is one. -/
theorem exists_get_of_mem {lister : Lister α} (resource : String)
    (hworks : lister.failure = none) {object : α} (hobject : object ∈ lister.items)
    {namespaceName name : String} (hkey : Resource.key object = (namespaceName, name)) :
    ∃ found, lister.get resource namespaceName name = .ok found := by
  cases hfind : lister.items.find? fun other => Resource.key other = (namespaceName, name) with
  | some found => exact ⟨found, by simp [get, hworks, hfind]⟩
  | none => exact absurd (decide_eq_true hkey) (List.find?_eq_none.mp hfind object hobject)

/-- A cache that works lists what matches. -/
theorem list_of_works {lister : Lister α} (hworks : lister.failure = none)
    (namespaceName : String) (selector : Selector) :
    lister.list namespaceName selector = .ok (lister.items.filter fun object =>
      (namespaceName = "" || namespaceOf object = namespaceName) &&
        selector.matchesLabels (objectMeta object).labels) := by
  rw [list, hworks]

theorem mem_list {lister : Lister α} {namespaceName : String} {selector : Selector}
    {objects : List α} (h : lister.list namespaceName selector = .ok objects) {object : α} :
    object ∈ objects ↔ object ∈ lister.items ∧
      (namespaceName = "" ∨ namespaceOf object = namespaceName) ∧
      selector.matchesLabels (objectMeta object).labels = true := by
  unfold list at h
  split at h
  · cases h
  · cases h
    simp

theorem list_sublist {lister : Lister α} {namespaceName : String} {selector : Selector}
    {objects : List α} (h : lister.list namespaceName selector = .ok objects) :
    objects.Sublist lister.items := by
  unfold list at h
  split at h
  · cases h
  · cases h
    exact List.filter_sublist

/-- A lookup in a cache that is up to date is a lookup in the store. -/
theorem get_of_current {store : ObjectStore α} {lister : Lister α}
    (hcurrent : store.Current lister.items) {resource namespaceName name : String} {object : α}
    (h : lister.get resource namespaceName name = .ok object) :
    store.get (namespaceName, name) = some object := by
  obtain ⟨hitem, hkey⟩ := get_ok h
  exact store.get_eq_some_iff.mpr ⟨hcurrent.mem_iff.mp hitem, hkey⟩

end Lister

end Navigator
