/-
The registry of the API server: what a create, an update, an update of the status and a
delete make of a request, and how the requests for one cluster come to be stored.  An
update is computed from the stored object, or from a cached one, and written only if the
object has not changed since.  A delete of an object with finalizers only marks it; the
update that takes the last finalizer away then removes the object.
-/
import Navigator.Base.OptimisticUpdate
import Navigator.SpecHistory

namespace Navigator

open ControlLoop OptimisticUpdate

namespace Registry

inductive RegistryError where
  | notFound
  | conflict
  | badRequest (message : String)
  | invalid (errs : ErrorList)
  | precondition (wanted found : String)
  | versionOnCreate
  | invalidDeleteOptions (details : List String)
  | panicked (panic : Panic)
  | refused (e : Err)
deriving DecidableEq

/-- `apierrors.IsConflict`. -/
def RegistryError.isConflict : RegistryError → Bool
  | .conflict => true
  | .refused e => e.reason = .conflict
  | _ => false

/-- The errors of a list, or none. -/
def failOn (errs : Checked ErrorList) : Except RegistryError Unit :=
  match errs with
  | .error panic => .error (.panicked panic)
  | .ok [] => .ok ()
  | .ok errs => .error (.invalid errs)

theorem failOn_eq_ok {errs : Checked ErrorList} (h : failOn errs = .ok ()) : errs = .ok [] := by
  unfold failOn at h
  split at h
  · cases h
  · rfl
  · cases h

/-! ## The metadata checks that every object goes through -/

/-- `IsValidPathSegmentPrefix`. -/
def isValidPathSegmentPrefix (name : String) : List String :=
  (if '/' ∈ name.toList then ["may not contain '/'"] else []) ++
    if '%' ∈ name.toList then ["may not contain '%'"] else []

/-- `IsValidPathSegmentName`. -/
def isValidPathSegmentName (name : String) : List String :=
  if name = "." then ["may not be '.'"]
  else if name = ".." then ["may not be '..'"]
  else
    (if '/' ∈ name.toList then ["may not contain '/'"] else []) ++
      if '%' ∈ name.toList then ["may not contain '%'"] else []

/-- `ValidatePathSegmentName`. -/
def validatePathSegmentName (name : String) (isGenerated : Bool) : List String :=
  if isGenerated then isValidPathSegmentPrefix name else isValidPathSegmentName name

/-- `ValidateObjectMetaAccessor` for a namespaced object whose name is a segment of a
path. -/
def validateObjectMetaAccessor (m : ObjectMeta) (path : Path) : ErrorList :=
  (if m.generateName = "" then []
    else invalidEach (path.child "generateName") m.generateName
      (validatePathSegmentName m.generateName true)) ++
  (if m.name = "" then [.required (path.child "name") "name or generateName is required"]
    else invalidEach (path.child "name") m.name (validatePathSegmentName m.name false)) ++
  (if m.namespaceName = "" then [.required (path.child "namespace") ""]
    else invalidEach (path.child "namespace") m.namespaceName
      (isDNS1123Label m.namespaceName)) ++
  (if m.clusterName = "" then []
    else invalidEach (path.child "clusterName") m.clusterName (isDNS1035Label m.clusterName)) ++
  (if m.generation < 0 then
    [.invalid (path.child "generation") (.int m.generation) "must be greater than or equal to 0"]
    else []) ++
  validateLabels m.labels (path.child "labels") ++
  validateAnnotations m.annotations (path.child "annotations") ++
  validateOwnerReferences m.ownerReferences (path.child "ownerReferences") ++
  validateFinalizers m.finalizers (path.child "finalizers")

/-- `ValidateNoNewFinalizers`. -/
def validateNoNewFinalizers (newFinalizers oldFinalizers : List String) (path : Path) :
    ErrorList :=
  let extra := (newFinalizers.filter (· ∉ oldFinalizers)).dedup.mergeSort (· ≤ ·)
  if extra = [] then []
  else [.forbidden path
    ("no new finalizers can be added if the object is being deleted, found new finalizers " ++
      "[]string\x7b" ++ ", ".intercalate (extra.map quoted) ++ "\x7d")]

/-- `ValidateImmutableField` for a text. -/
def validateImmutableField (newVal oldVal : String) (path : Path) : ErrorList :=
  if newVal = oldVal then [] else [.invalid path (.text newVal) "field is immutable"]

theorem validateImmutableField_eq_nil {newVal oldVal : String} {path : Path}
    (h : validateImmutableField newVal oldVal path = []) : newVal = oldVal := by
  unfold validateImmutableField at h
  split at h
  · assumption
  · cases h

/-- The fields that `ValidateObjectMetaAccessorUpdate` repairs before it looks at
them. -/
def repaired (newMeta oldMeta : ObjectMeta) : ObjectMeta :=
  { newMeta with
    uid := if newMeta.uid = "" then oldMeta.uid else newMeta.uid
    deletionTimestamp := oldMeta.deletionTimestamp.or newMeta.deletionTimestamp }

/-- Only a deletion sets the time of the deletion. -/
def validateDeletionTimestamp (newMeta oldMeta : ObjectMeta) (path : Path) : ErrorList :=
  match newMeta.deletionTimestamp with
  | none => []
  | some time =>
      if oldMeta.deletionTimestamp = some time then []
      else [.invalid path (.time time) "field is immutable; may only be changed via deletion"]

/-- What `ValidateObjectMetaAccessorUpdate` finds in the repaired metadata. -/
def validateObjectMetaAccessorUpdate (newMeta oldMeta : ObjectMeta) (path : Path) : ErrorList :=
  validateDeletionTimestamp newMeta oldMeta (path.child "deletionTimestamp") ++
  (if oldMeta.deleted then
    validateNoNewFinalizers newMeta.finalizers oldMeta.finalizers (path.child "finalizers")
    else []) ++
  (if newMeta.resourceVersion = 0 then
    [.invalid (path.child "resourceVersion") (.text "") "must be specified for an update"]
    else []) ++
  (if newMeta.generation < oldMeta.generation then
    [.invalid (path.child "generation") (.int newMeta.generation) "must not be decremented"]
    else []) ++
  (validateImmutableField newMeta.name oldMeta.name (path.child "name") ++
    validateImmutableField newMeta.namespaceName oldMeta.namespaceName
      (path.child "namespace") ++
    validateImmutableField newMeta.uid oldMeta.uid (path.child "uid") ++
    validateImmutableField newMeta.clusterName oldMeta.clusterName (path.child "clusterName")) ++
  validateLabels newMeta.labels (path.child "labels") ++
  validateAnnotations newMeta.annotations (path.child "annotations") ++
  validateOwnerReferences newMeta.ownerReferences (path.child "ownerReferences")

/-- Name, namespace and UID stay as they are. -/
structure SameObject (old new : ObjectMeta) : Prop where
  name : new.name = old.name
  namespaceName : new.namespaceName = old.namespaceName
  uid : new.uid = old.uid

theorem sameObject_of_validate {newMeta oldMeta : ObjectMeta} {path : Path}
    (h : validateObjectMetaAccessorUpdate newMeta oldMeta path = []) :
    SameObject oldMeta newMeta := by
  simp only [validateObjectMetaAccessorUpdate, List.append_eq_nil_iff] at h
  obtain ⟨⟨⟨⟨_, ⟨⟨hname, hnamespace⟩, huid⟩, _⟩, _⟩, _⟩, _⟩ := h
  exact ⟨validateImmutableField_eq_nil hname, validateImmutableField_eq_nil hnamespace,
    validateImmutableField_eq_nil huid⟩

/-- An update that passes neither sets nor clears the time of the deletion. -/
theorem deletionTimestamp_of_validate {newMeta oldMeta : ObjectMeta} {path : Path}
    (h : validateObjectMetaAccessorUpdate (repaired newMeta oldMeta) oldMeta path = []) :
    (repaired newMeta oldMeta).deletionTimestamp = oldMeta.deletionTimestamp := by
  simp only [validateObjectMetaAccessorUpdate, List.append_eq_nil_iff] at h
  have htime : validateDeletionTimestamp (repaired newMeta oldMeta) oldMeta
      (path.child "deletionTimestamp") = [] := h.1.1.1.1.1.1.1
  unfold validateDeletionTimestamp at htime
  split at htime
  · rename_i hnone
    rw [hnone]
    exact (Option.or_eq_none_iff.mp hnone).1.symm
  · rename_i time hsome
    split_ifs at htime with hold
    exact hsome.trans hold.symm

/-! ## The strategies -/

/-- A resource with a status: its spec and its validators. -/
structure Kind (C Spec : Type) [ApiObject C] where
  spec : C → Spec
  withSpec : C → Spec → C
  validate : C → Checked ErrorList
  validateUpdate : C → C → Checked ErrorList
  spec_withSpec : ∀ c s, spec (withSpec c s) = s
  spec_setMeta : ∀ c m, spec (setMeta c m) = spec c
  objectMeta_withSpec : ∀ c s, objectMeta (withSpec c s) = objectMeta c
  setMeta_objectMeta : ∀ c : C, setMeta c (objectMeta c) = c
  setMeta_setMeta : ∀ (c : C) m m', setMeta (setMeta c m) m' = setMeta c m'

/-- `esClusterStrategy`. -/
def elasticsearchClusters : Kind ElasticsearchCluster ElasticsearchClusterSpec where
  spec c := c.spec
  withSpec c s := { c with spec := s }
  validate := validateElasticsearchCluster
  validateUpdate := validateElasticsearchClusterUpdate
  spec_withSpec _ _ := rfl
  spec_setMeta _ _ := rfl
  objectMeta_withSpec _ _ := rfl
  setMeta_objectMeta _ := rfl
  setMeta_setMeta _ _ _ := rfl

/-- `cassandraClusterStrategy`. -/
def cassandraClusters : Kind CassandraCluster CassandraClusterSpec where
  spec c := c.spec
  withSpec c s := { c with spec := s }
  validate := validateCassandraCluster
  validateUpdate := validateCassandraClusterUpdate
  spec_withSpec _ _ := rfl
  spec_setMeta _ _ := rfl
  objectMeta_withSpec _ _ := rfl
  setMeta_objectMeta _ := rfl
  setMeta_setMeta _ _ _ := rfl

/-- The object itself, or its status. -/
inductive Endpoint where
  | main
  | status
deriving DecidableEq

section Strategy

variable {C Spec : Type} [ApiObject C] (k : Kind C Spec)

/-- `PrepareForUpdate`: an update of the status leaves the spec as it is. -/
def prepareForUpdate (endpoint : Endpoint) (obj old : C) : C :=
  match endpoint with
  | .main => obj
  | .status => k.withSpec obj (k.spec old)

/-- `ValidateUpdate`: an update of the status is not looked at. -/
def validateUpdate (endpoint : Endpoint) (obj old : C) : Checked ErrorList :=
  match endpoint with
  | .main => k.validateUpdate old obj
  | .status => .ok []

/-- An update as it reaches the registry: what it makes of the object that is there, a
UID that the object must have, and the admission check. -/
structure Update (C : Type) where
  endpoint : Endpoint
  namespaceName : String
  uid : Option String := none
  updatedObject : Option C → Except Err C
  updateValidation : C → C → Except Err Unit := fun _ _ => .ok ()

/-- `ValidNamespace`: an object without a namespace gets that of the request. -/
def withNamespace (obj : C) (namespaceName : String) : C :=
  if (objectMeta obj).namespaceName = "" then
    setMeta obj { objectMeta obj with namespaceName := namespaceName }
  else obj

/-- `BeforeUpdate`. -/
def beforeUpdate (request : Update C) (obj old : C) : Except RegistryError C :=
  let obj := withNamespace obj request.namespaceName
  if (objectMeta obj).namespaceName ≠ request.namespaceName then
    .error (.badRequest
      "the namespace of the provided object does not match the namespace sent on the request")
  else do
    let obj := setMeta obj { objectMeta obj with generation := (objectMeta old).generation }
    let obj := prepareForUpdate k request.endpoint obj old
    let obj := setMeta obj { objectMeta obj with clusterName := "" }
    let errs := validateObjectMetaAccessor (objectMeta obj) (Path.new "metadata")
    let obj := setMeta obj (repaired (objectMeta obj) (objectMeta old))
    let errs := errs ++
      validateObjectMetaAccessorUpdate (objectMeta obj) (objectMeta old) (Path.new "metadata")
    failOn (do return errs ++ (← validateUpdate k request.endpoint obj old))
    pure obj

/-- The object as it is read: its version is the revision at which it was written. -/
def decode (v : Versioned C) : C :=
  setMeta v.value { objectMeta v.value with resourceVersion := v.revision }

/-- `PrepareObjectForStorage`. -/
def prepareObjectForStorage (obj : C) : C :=
  setMeta obj { objectMeta obj with resourceVersion := 0 }

/-- `checkPreconditions`; an object that is not there has the empty UID. -/
def checkPreconditions (uid : Option String) (found : String) : Except RegistryError Unit :=
  match uid with
  | none => .ok ()
  | some uid => if uid = found then .ok () else .error (.precondition uid found)

def refuse {α : Type} (outcome : Except Err α) : Except RegistryError α :=
  outcome.mapError .refused

/-- What `Store.Update` makes of the object that it finds: one to be stored, or, where an
object that is being deleted has lost its last finalizer, the end of it. -/
def tryUpdate (request : Update C) (existing : Option (Versioned C)) :
    Except RegistryError (Verdict C) :=
  match existing with
  | none => do
      checkPreconditions request.uid ""
      let _ ← refuse (request.updatedObject none)
      .error .notFound
  | some v => do
      let old := decode v
      checkPreconditions request.uid (objectMeta old).uid
      let obj ← refuse (request.updatedObject (some old))
      if (objectMeta obj).resourceVersion = 0 then
        .error (.invalid [.invalid ((Path.new "metadata").child "resourceVersion") (.int 0)
          "must be specified for an update"])
      else if (objectMeta obj).resourceVersion ≠ v.revision then .error .conflict
      else do
        let obj ← beforeUpdate k request obj old
        refuse (request.updateValidation obj old)
        -- `shouldDeleteDuringUpdate`
        if (objectMeta obj).finalizers = [] ∧ (objectMeta old).deleted then pure (.erase obj)
        else pure (.store (prepareObjectForStorage obj))

/-- `metav1.DeletionPropagation`. -/
inductive DeletionPropagation where
  | orphan
  | background
  | foreground
  | other (text : String)
deriving DecidableEq

/-- A delete as it reaches the registry, at the time when the object is marked. -/
structure Delete where
  uid : Option String := none
  orphanDependents : Option Bool := none
  propagationPolicy : Option DeletionPropagation := none
  now : Nat := 0
  /-- The flag of the server, which is set by default. -/
  enableGarbageCollection : Bool := true

/-- `ValidateDeleteOptions`. -/
def validateDeleteOptions (request : Delete) : List String :=
  (if request.orphanDependents.isSome ∧ request.propagationPolicy.isSome then
    ["OrphanDependents and DeletionPropagation cannot be both set"] else []) ++
  match request.propagationPolicy with
  | some (.other _) =>
      ["DeletionPropagation need to be one of \"Foreground\", \"Background\", \"Orphan\" or nil"]
  | _ => []

def finalizerOrphanDependents : String := "orphan"

def finalizerDeleteDependents : String := "foregroundDeletion"

/-- The first finalizer that says what becomes of the dependents. -/
def dependentsFinalizer (finalizers : List String) : Option String :=
  finalizers.find? fun f => f = finalizerOrphanDependents ∨ f = finalizerDeleteDependents

/-- `shouldOrphanDependents`, for a strategy without a policy of its own. -/
def shouldOrphanDependents (request : Delete) (finalizers : List String) : Bool :=
  match request.orphanDependents, request.propagationPolicy with
  | some orphan, _ => orphan
  | none, some .orphan => true
  | none, some .background => false
  | none, some .foreground => false
  | none, _ => dependentsFinalizer finalizers = some finalizerOrphanDependents

/-- `shouldDeleteDependents`, for a strategy without a policy of its own. -/
def shouldDeleteDependents (request : Delete) (finalizers : List String) : Bool :=
  match request.orphanDependents, request.propagationPolicy with
  | some _, _ => false
  | none, some .foreground => true
  | none, some .background => false
  | none, some .orphan => false
  | none, _ => dependentsFinalizer finalizers = some finalizerDeleteDependents

/-- `deletionFinalizersForGarbageCollection`: the finalizers that the object is left
with. -/
def deletionFinalizersForGarbageCollection (request : Delete) (finalizers : List String) :
    List String :=
  let newFinalizers :=
    finalizers.filter (fun f => f ≠ finalizerOrphanDependents ∧ f ≠ finalizerDeleteDependents) ++
    (if shouldOrphanDependents request finalizers then [finalizerOrphanDependents] else []) ++
    if shouldDeleteDependents request finalizers then [finalizerDeleteDependents] else []
  if ¬ request.enableGarbageCollection ∨ newFinalizers.toFinset = finalizers.toFinset then
    finalizers
  else newFinalizers

/-- `markAsDeleting`. -/
def markAsDeleting (m : ObjectMeta) (now : Nat) : ObjectMeta :=
  { m with
    generation :=
      if m.deletionTimestamp = none ∧ m.generation > 0 then m.generation + 1 else m.generation
    deletionTimestamp := some now }

/-- What `Store.Delete` makes of the object that it finds.  The strategies know no grace
period, so an object without finalizers goes at once.  The first look at the object, before
the loop, decides the same or ends the request. -/
def tryDelete (request : Delete) (existing : Option (Versioned C)) :
    Except RegistryError (Verdict C) :=
  match existing with
  | none => .error .notFound
  | some v => do
      let old := decode v
      checkPreconditions request.uid (objectMeta old).uid
      if validateDeleteOptions request ≠ [] then
        .error (.invalidDeleteOptions (validateDeleteOptions request))
      else
        let finalizers :=
          deletionFinalizersForGarbageCollection request (objectMeta old).finalizers
        if finalizers = [] then pure (.erase old)
        else
          let marked := markAsDeleting { objectMeta old with finalizers } request.now
          pure (.store (prepareObjectForStorage (setMeta old marked)))

/-- A request that changes an object. -/
inductive Request (C : Type) where
  | update (request : Update C)
  | delete (request : Delete)

namespace Request

def uid : Request C → Option String
  | .update request => request.uid
  | .delete request => request.uid

def verdict : Request C → Option (Versioned C) → Except RegistryError (Verdict C)
  | .update request => tryUpdate k request
  | .delete request => tryDelete request

/-- What `Storage.Delete` finds.  An update does not mind that the object is gone. -/
def mayErase : Request C → Option (Versioned C) → Except RegistryError Unit
  | .update _, none => .ok ()
  | .delete _, none => .error .notFound
  | request, some v => checkPreconditions request.uid (objectMeta (decode v)).uid

end Request

/-- A create as it reaches the registry, with the UID and the name that it is given. -/
structure Create (C : Type) where
  namespaceName : String
  object : C
  uid : String
  generated : String := ""
  createValidation : C → Except Err Unit := fun _ => .ok ()

/-- `GenerateName`, where a name is asked for. -/
def withGeneratedName (m : ObjectMeta) (generated : String) : ObjectMeta :=
  if m.generateName ≠ "" ∧ m.name = "" then { m with name := generated } else m

/-- `BeforeCreate`. -/
def beforeCreate (request : Create C) : Except RegistryError C :=
  let obj := withNamespace request.object request.namespaceName
  if (objectMeta obj).namespaceName ≠ request.namespaceName then
    .error (.badRequest
      "the namespace of the provided object does not match the namespace sent on the request")
  else do
    let m := { objectMeta obj with deletionTimestamp := none, uid := request.uid }
    let obj := setMeta obj { withGeneratedName m request.generated with clusterName := "" }
    failOn (k.validate obj)
    failOn (.ok (validateObjectMetaAccessor (objectMeta obj) (Path.new "metadata")))
    pure obj

/-- `Store.Create`, up to what it hands to the storage. -/
def create (request : Create C) : Except RegistryError C := do
  let obj ← beforeCreate k request
  refuse (request.createValidation obj)
  if (objectMeta obj).resourceVersion ≠ 0 then .error .versionOnCreate
  else pure obj

/-- The updates and deletes of one object. -/
def writers {P : Type} (requests : P → Request C) : Writers P C RegistryError where
  update := fun p => (requests p).verdict k
  mayErase := fun p => (requests p).mayErase
  isConflict := RegistryError.isConflict

/-- Whoever creates the object goes through the registry. -/
def Served {P : Type} : OptimisticUpdate.Event P C RegistryError → Prop
  | .create value => ∃ request : Create C, create k request = .ok value
  | _ => True

section Requests

variable {k} {request : Update C} {obj old new : C}

theorem objectMeta_prepareForUpdate (endpoint : Endpoint) (obj old : C) :
    objectMeta (prepareForUpdate k endpoint obj old) = objectMeta obj := by
  cases endpoint with
  | main => rfl
  | status => exact k.objectMeta_withSpec obj _

theorem resourceVersion_withNamespace (obj : C) (namespaceName : String) :
    (objectMeta (withNamespace obj namespaceName)).resourceVersion =
      (objectMeta obj).resourceVersion := by
  unfold withNamespace
  split_ifs
  · rw [objectMeta_setMeta]
  · rfl

/-- What `BeforeUpdate` makes of an object that it lets pass. -/
structure Prepared (k : Kind C Spec) (request : Update C) (obj old new : C) : Prop where
  same : SameObject (objectMeta old) (objectMeta new)
  deletionTimestamp :
    (objectMeta new).deletionTimestamp = (objectMeta old).deletionTimestamp
  generation : (objectMeta new).generation = (objectMeta old).generation
  resourceVersion : (objectMeta new).resourceVersion = (objectMeta obj).resourceVersion
  validated : validateUpdate k request.endpoint new old = .ok []
  spec : request.endpoint = .status → k.spec new = k.spec old

theorem prepared_of_beforeUpdate (h : beforeUpdate k request obj old = .ok new) :
    Prepared k request obj old new := by
  unfold beforeUpdate at h
  simp only at h
  split_ifs at h with hnamespace
  obtain ⟨_, hfail, h⟩ := bind_eq_ok h
  cases Except.ok.inj h
  obtain ⟨errs, hvalidated, herrs⟩ := bind_eq_ok (failOn_eq_ok hfail)
  obtain ⟨hmeta, rfl⟩ := List.append_eq_nil_iff.mp (Except.ok.inj herrs)
  obtain ⟨_, hupdate⟩ := List.append_eq_nil_iff.mp hmeta
  have hsame := sameObject_of_validate hupdate
  rw [objectMeta_setMeta] at hupdate
  refine ⟨hsame, ?_, ?_, ?_, hvalidated, ?_⟩
  · rw [objectMeta_setMeta]
    exact deletionTimestamp_of_validate hupdate
  · simp [repaired, objectMeta_prepareForUpdate]
  · simp [repaired, objectMeta_prepareForUpdate, resourceVersion_withNamespace]
  · intro hstatus
    rw [k.spec_setMeta, k.spec_setMeta, hstatus]
    exact k.spec_withSpec _ _

/-- What `Store.Update` lets pass in the place of an object. -/
structure Replaces (k : Kind C Spec) (request : Update C) (old : Versioned C) (value : C) :
    Prop where
  /-- The update was made for the very version that it replaces. -/
  read : ∃ object, request.updatedObject (some (decode old)) = .ok object ∧
    (objectMeta object).resourceVersion = old.revision
  same : SameObject (objectMeta old.value) (objectMeta value)
  deletionTimestamp :
    (objectMeta value).deletionTimestamp = (objectMeta old.value).deletionTimestamp
  generation : (objectMeta value).generation = (objectMeta old.value).generation
  main : request.endpoint = .main →
    k.validateUpdate (decode old) (decode ⟨old.revision, value⟩) = .ok []
  status : request.endpoint = .status → k.spec value = k.spec old.value

/-- What `Store.Delete` stores in the place of an object. -/
structure Marks (k : Kind C Spec) (request : Delete) (old : Versioned C) (value : C) :
    Prop where
  same : SameObject (objectMeta old.value) (objectMeta value)
  deletionTimestamp : (objectMeta value).deletionTimestamp = some request.now
  finalizers : (objectMeta value).finalizers =
    deletionFinalizersForGarbageCollection request (objectMeta old.value).finalizers
  spec : k.spec value = k.spec old.value

/-- What a request stores in the place of an object, which has a finalizer left if it is
being deleted. -/
def Request.Stores (k : Kind C Spec) (request : Request C) (old : Versioned C) (value : C) :
    Prop :=
  ((objectMeta value).deleted → (objectMeta value).finalizers ≠ []) ∧
    match request with
    | .update request => Replaces k request old value
    | .delete request => Marks k request old value

/-- What a request has read that removes an object: an update has taken the last finalizer
from an object that was being deleted, a delete has found none to wait for. -/
def Request.Finishes (k : Kind C Spec) (request : Request C) (seen : Versioned C)
    (answer : C) : Prop :=
  match request with
  | .update request =>
      Replaces k request seen (prepareObjectForStorage answer) ∧
        (objectMeta seen.value).deleted ∧ (objectMeta answer).finalizers = []
  | .delete request => answer = decode seen ∧
      deletionFinalizersForGarbageCollection request (objectMeta seen.value).finalizers = []

@[simp] theorem objectMeta_decode (v : Versioned C) :
    objectMeta (decode v) = { objectMeta v.value with resourceVersion := v.revision } :=
  objectMeta_setMeta _ _

/-- Read at the version it was made for, what is stored is what was checked. -/
theorem decode_prepareObjectForStorage (k : Kind C Spec) {revision : Nat}
    (h : (objectMeta obj).resourceVersion = revision) :
    decode ⟨revision, prepareObjectForStorage obj⟩ = obj := by
  subst h
  calc decode ⟨(objectMeta obj).resourceVersion, prepareObjectForStorage obj⟩
      = setMeta (prepareObjectForStorage obj) (objectMeta obj) := by
        simp [decode, prepareObjectForStorage]
    _ = setMeta obj (objectMeta obj) := k.setMeta_setMeta _ _ _
    _ = obj := k.setMeta_objectMeta obj

theorem ok_of_refuse {α : Type} {outcome : Except Err α} {a : α}
    (h : refuse outcome = .ok a) : outcome = .ok a := by
  cases outcome with
  | error e => cases h
  | ok b => exact congrArg Except.ok (Except.ok.inj h)

@[simp] theorem objectMeta_prepareObjectForStorage (obj : C) :
    objectMeta (prepareObjectForStorage obj) = { objectMeta obj with resourceVersion := 0 } :=
  objectMeta_setMeta _ _

theorem Prepared.replaces {v : Versioned C} (h : Prepared k request obj (decode v) new)
    (hobj : request.updatedObject (some (decode v)) = .ok obj)
    (hread : (objectMeta obj).resourceVersion = v.revision) :
    Replaces k request v (prepareObjectForStorage new) := by
  have hsame := h.same
  rw [objectMeta_decode] at hsame
  refine ⟨⟨obj, hobj, hread⟩, ?_, ?_, ?_, ?_, ?_⟩
  · rw [objectMeta_prepareObjectForStorage]
    exact ⟨hsame.name, hsame.namespaceName, hsame.uid⟩
  · simpa using h.deletionTimestamp
  · simpa using h.generation
  · intro hmain
    have hvalidated := h.validated
    rw [hmain] at hvalidated
    rw [decode_prepareObjectForStorage k (h.resourceVersion.trans hread)]
    exact hvalidated
  · intro hstatus
    calc k.spec (prepareObjectForStorage new) = k.spec new := k.spec_setMeta _ _
      _ = k.spec (decode v) := h.spec hstatus
      _ = k.spec v.value := k.spec_setMeta _ _

/-- What a verdict on an object means. -/
def Request.Means (k : Kind C Spec) (request : Request C) (old : Versioned C) :
    Verdict C → Prop
  | .store value => request.Stores k old value
  | .erase answer => request.Finishes k old answer

theorem means_of_tryUpdate {existing : Option (Versioned C)} {verdict : Verdict C}
    (h : tryUpdate k request existing = .ok verdict) :
    ∃ old, existing = some old ∧ (Request.update request).Means k old verdict := by
  cases existing with
  | none =>
      obtain ⟨_, _, h⟩ := bind_eq_ok h
      obtain ⟨_, _, h⟩ := bind_eq_ok h
      cases h
  | some v =>
      refine ⟨v, rfl, ?_⟩
      obtain ⟨_, _, h⟩ := bind_eq_ok h
      obtain ⟨object, hobject, h⟩ := bind_eq_ok h
      split_ifs at h with hunset hversion
      obtain ⟨updated, hupdated, h⟩ := bind_eq_ok h
      obtain ⟨_, _, h⟩ := bind_eq_ok h
      have hprepared := prepared_of_beforeUpdate hupdated
      have hreplaces := hprepared.replaces (ok_of_refuse hobject) (not_not.mp hversion)
      split_ifs at h with hemptied
      · cases Except.ok.inj h
        exact ⟨hreplaces, by simpa [ObjectMeta.deleted] using hemptied.2, hemptied.1⟩
      · cases Except.ok.inj h
        refine ⟨?_, hreplaces⟩
        -- what is being deleted was so before, so the finalizers cannot be gone
        intro hdeleted hnone
        have htime := hprepared.deletionTimestamp
        simp only [objectMeta_prepareObjectForStorage] at hdeleted hnone
        exact hemptied ⟨hnone, by simpa [ObjectMeta.deleted, htime] using hdeleted⟩

theorem means_of_tryDelete {request : Delete} {existing : Option (Versioned C)}
    {verdict : Verdict C} (h : tryDelete request existing = .ok verdict) :
    ∃ old, existing = some old ∧ (Request.delete request).Means k old verdict := by
  cases existing with
  | none => cases h
  | some v =>
      refine ⟨v, rfl, ?_⟩
      obtain ⟨_, _, h⟩ := bind_eq_ok h
      simp only [objectMeta_decode] at h
      split_ifs at h with hoptions hfinalizers
      · cases Except.ok.inj h
        exact ⟨rfl, hfinalizers⟩
      · cases Except.ok.inj h
        refine ⟨fun _ => ?_, ⟨?_, ?_, ?_⟩, ?_, ?_, ?_⟩
        · simpa [markAsDeleting] using hfinalizers
        · simp [markAsDeleting]
        · simp [markAsDeleting]
        · simp [markAsDeleting]
        · simp [markAsDeleting]
        · simp [markAsDeleting]
        · simp only [prepareObjectForStorage, decode, k.spec_setMeta]

/-- A request stores an object only in the place of one, and removes one only when it has
read one. -/
theorem means_of_verdict {request : Request C} {existing : Option (Versioned C)}
    {verdict : Verdict C} (h : request.verdict k existing = .ok verdict) :
    ∃ old, existing = some old ∧ request.Means k old verdict := by
  cases request with
  | update request => exact means_of_tryUpdate h
  | delete request => exact means_of_tryDelete h

theorem uid_of_checkPreconditions {uid : Option String} {v : Versioned C}
    (h : checkPreconditions uid (objectMeta (decode v)).uid = .ok ()) :
    ∀ wanted ∈ uid, wanted = (objectMeta v.value).uid := by
  intro wanted hwanted
  rw [hwanted, objectMeta_decode] at h
  simp only [checkPreconditions] at h
  split_ifs at h with heq
  exact heq

theorem uid_of_verdict {request : Request C} {v : Versioned C} {verdict : Verdict C}
    (h : request.verdict k (some v) = .ok verdict) :
    ∀ wanted ∈ request.uid, wanted = (objectMeta v.value).uid := by
  cases request with
  | update request =>
      obtain ⟨_, hcheck, _⟩ := bind_eq_ok h
      exact uid_of_checkPreconditions hcheck
  | delete request =>
      obtain ⟨_, hcheck, _⟩ := bind_eq_ok h
      exact uid_of_checkPreconditions hcheck

theorem uid_of_mayErase {request : Request C} {v : Versioned C}
    (h : request.mayErase (some v) = .ok ()) :
    ∀ wanted ∈ request.uid, wanted = (objectMeta v.value).uid := by
  cases request with
  | update request => exact uid_of_checkPreconditions h
  | delete request => exact uid_of_checkPreconditions h

end Requests

/-! ## The history of one object -/

/-- What the validators of a kind are good for: what they say of a spec, and of the spec
that an update puts in its place. -/
structure Guarantees (k : Kind C Spec) (Valid : Spec → Prop) (Kept : Spec → Spec → Prop) :
    Prop where
  created : ∀ c, k.validate c = .ok [] → Valid (k.spec c)
  updated : ∀ old new, Valid (k.spec old) → k.validateUpdate old new = .ok [] →
    Valid (k.spec new) ∧ Kept (k.spec old) (k.spec new)
  kept_refl : ∀ s, Valid s → Kept s s

/-- The stored object over any number of concurrent requests. -/
structure Orderly {P : Type} (k : Kind C Spec) (Valid : Spec → Prop)
    (Kept : Spec → Spec → Prop) (requests : P → Request C) (s : System P C RegistryError) :
    Prop where
  valid : ∀ v ∈ s.cell.past, Valid (k.spec v.value)
  /-- An object that is being deleted waits for a finalizer. -/
  pending : ∀ v ∈ s.cell.past,
    (objectMeta v.value).deleted → (objectMeta v.value).finalizers ≠ []
  chained : Chained s.log s.cell.current
  once : (written s.log).Nodup
  /-- Nobody overwrites what it has not seen.  Who removes the object need not have seen it
  as it is then, but has seen it, or one with its name, ready to go. -/
  changed : ∀ change ∈ s.log, ∀ p ∈ change.writer, ∃ old, change.old = some old ∧
    (∀ uid ∈ (requests p).uid, uid = (objectMeta old.value).uid) ∧
    ((∃ new, change.new = some new ∧ (requests p).Stores k old new.value ∧
        Kept (k.spec old.value) (k.spec new.value)) ∨
      change.new = none ∧
        ∃ seen ∈ s.cell.past, ∃ answer, (requests p).Finishes k seen answer)
  /-- Who is told of success has its object stored: by its own write, or because the
  object was like that already. -/
  answered : ∀ p v, s.phase p = .done (.ok (.stored v)) →
    (∃ change ∈ s.log, change.writer = some p ∧ change.new = some v) ∨
      p ∉ written s.log ∧ v ∈ s.cell.past ∧ ∃ old ∈ s.cell.past,
        (requests p).Stores k old old.value ∧ v.value = old.value
  /-- The exception: who takes the last finalizer away, or deletes an object without any, is
  told so when the object is removed, or, after an update, gone already. -/
  erased : ∀ p answer removed, s.phase p = .done (.ok (.erased answer removed)) →
    (∃ seen ∈ s.cell.past, (requests p).Finishes k seen answer) ∧
      ((∃ change ∈ s.log, change.writer = some p ∧ change.old = removed ∧ change.new = none) ∨
        p ∉ written s.log ∧ removed = none ∧ ∃ request, requests p = .update request)

section Run

variable {P : Type} [DecidableEq P] [DecidableEq C] {k} {Valid : Spec → Prop}
  {Kept : Spec → Spec → Prop} {requests : P → Request C} {s : System P C RegistryError}

omit [DecidableEq P] [DecidableEq C] in
theorem Guarantees.keeps_update (hk : Guarantees k Valid Kept) {request : Update C}
    {old : Versioned C} {value : C} (hold : Valid (k.spec old.value))
    (h : Replaces k request old value) :
    Valid (k.spec value) ∧ Kept (k.spec old.value) (k.spec value) := by
  cases hendpoint : request.endpoint with
  | main =>
      have hspec : ∀ v : Versioned C, k.spec (decode v) = k.spec v.value :=
        fun v => k.spec_setMeta _ _
      have hupdated := hk.updated _ _ ((hspec old).symm ▸ hold) (h.main hendpoint)
      rw [hspec, hspec] at hupdated
      exact hupdated
  | status =>
      rw [h.status hendpoint]
      exact ⟨hold, hk.kept_refl _ hold⟩

omit [DecidableEq P] [DecidableEq C] in
theorem Guarantees.keeps (hk : Guarantees k Valid Kept) {request : Request C}
    {old : Versioned C} {value : C} (hold : Valid (k.spec old.value))
    (h : request.Stores k old value) :
    Valid (k.spec value) ∧ Kept (k.spec old.value) (k.spec value) := by
  cases request with
  | update request => exact hk.keeps_update hold h.2
  | delete request =>
      have hmarks : Marks k request old value := h.2
      rw [hmarks.spec]
      exact ⟨hold, hk.kept_refl _ hold⟩

omit [DecidableEq C] in
theorem validate_of_create {request : Create C} {value : C} (h : create k request = .ok value) :
    k.validate value = .ok [] ∧ (objectMeta value).deletionTimestamp = none := by
  obtain ⟨obj, hbefore, h⟩ := bind_eq_ok h
  obtain ⟨_, _, h⟩ := bind_eq_ok h
  split_ifs at h with hversion
  cases Except.ok.inj h
  unfold beforeCreate at hbefore
  dsimp only at hbefore
  split at hbefore
  · cases hbefore
  · obtain ⟨_, hvalidate, hbefore⟩ := bind_eq_ok hbefore
    obtain ⟨_, _, hbefore⟩ := bind_eq_ok hbefore
    cases Except.ok.inj hbefore
    refine ⟨failOn_eq_ok hvalidate, ?_⟩
    simp only [objectMeta_setMeta, withGeneratedName]
    split_ifs <;> rfl

theorem orderly_of_reachable (hk : Guarantees k Valid Kept)
    (h : (machine (writers k requests)).Reachable (fun _ => Served k) s) :
    Orderly k Valid Kept requests s := by
  have hpast : ∀ v ∈ s.cell.past, Valid (k.spec v.value) ∧
      ((objectMeta v.value).deleted → (objectMeta v.value).finalizers ≠ []) := by
    refine value_of_reachable (fun c => Valid (k.spec c) ∧
      ((objectMeta c).deleted → (objectMeta c).finalizers ≠ [])) ?_ ?_ h
    · rintro s value ⟨request, hcreate⟩
      obtain ⟨hvalidate, htime⟩ := validate_of_create hcreate
      exact ⟨hk.created _ hvalidate, by simp [ObjectMeta.deleted, htime]⟩
    · intro p orig value hupdate horig
      obtain ⟨old, rfl, hstores⟩ := means_of_verdict hupdate
      exact ⟨(hk.keeps (horig old rfl).1 hstores).1, hstores.1⟩
  have hlinear := linear_of_reachable h
  have hseen : ∀ {p answer}, Erases (writers k requests) s.cell.past p answer →
      ∃ seen ∈ s.cell.past, (requests p).Finishes k seen answer := by
    rintro p answer ⟨orig, horig, hupdate⟩
    obtain ⟨seen, rfl, hfinishes⟩ := means_of_verdict hupdate
    exact ⟨seen, horig seen rfl, hfinishes⟩
  refine ⟨fun v hv => (hpast v hv).1, fun v hv => (hpast v hv).2, hlinear.chained, hlinear.once,
    ?_, ?_, ?_⟩
  · intro change hchange p hp
    rcases hlinear.applied change hchange p hp with
      ⟨value, hupdate, hvalue⟩ | ⟨⟨old, hold⟩, hnew, hallowed, answer, herases⟩
    · obtain ⟨old, hold, hstores⟩ := means_of_verdict hupdate
      obtain ⟨new, hnew, rfl⟩ := Option.map_eq_some_iff.mp hvalue
      have hvalid := (hpast old (hlinear.logged change hchange old hold)).1
      have huid := uid_of_verdict (hold ▸ hupdate)
      exact ⟨old, hold, huid, .inl ⟨new, hnew, hstores, (hk.keeps hvalid hstores).2⟩⟩
    · obtain ⟨seen, hmem, hfinishes⟩ := hseen herases
      rw [hold] at hallowed
      exact ⟨old, hold, uid_of_mayErase hallowed, .inr ⟨hnew, seen, hmem, answer, hfinishes⟩⟩
  · intro p v hdone
    have hfine := hlinear.phases p
    rw [hdone] at hfine
    refine hfine.imp_right fun ⟨hnot, hv, old, hold, hupdate, hsame⟩ => ?_
    obtain ⟨_, ⟨⟩, hstores⟩ := means_of_verdict hupdate
    exact ⟨hnot, hv, old, hold, hstores, hsame⟩
  · intro p answer removed hdone
    have hfine := hlinear.phases p
    rw [hdone] at hfine
    refine ⟨hseen hfine.1, hfine.2.imp_right fun ⟨hnot, hremoved, hallowed⟩ => ?_⟩
    refine ⟨hnot, hremoved, ?_⟩
    change (requests p).mayErase none = .ok () at hallowed
    cases hrequest : requests p with
    | update request => exact ⟨request, rfl⟩
    | delete request =>
        rw [hrequest] at hallowed
        cases hallowed

end Run

end Strategy

section Kinds

/-- The pools that keep their name stay as they were, but for replicas and new
persistence. -/
abbrev KeptElasticsearch : ElasticsearchClusterSpec → ElasticsearchClusterSpec → Prop :=
  Agree ElasticsearchClusterSpec.nodePools ElasticsearchClusterNodePool.name
    ElasticsearchCluster.SamePool

/-- A Cassandra cluster keeps its version, too. -/
def KeptCassandra (old new : CassandraClusterSpec) : Prop :=
  Agree CassandraClusterSpec.nodePools CassandraClusterNodePool.name
      CassandraCluster.SamePool old new ∧
    ∃ newVersion oldVersion, new.version.semver = some newVersion ∧
      old.version.semver = some oldVersion ∧ newVersion.equal oldVersion = true

theorem guarantees_elasticsearchClusters :
    Guarantees elasticsearchClusters
      (fun spec => validateElasticsearchClusterSpec spec (Path.new "spec") = .ok [])
      KeptElasticsearch := by
  have hspec : ∀ {c : ElasticsearchCluster}, validateElasticsearchCluster c = .ok [] →
      validateElasticsearchClusterSpec c.spec (Path.new "spec") = .ok [] :=
    fun h => validateElasticsearchClusterSpec_eq_ok_iff.mpr
      (validateElasticsearchCluster_eq_ok_iff.mp h).2
  refine ⟨fun c h => hspec h, ?_, ?_⟩
  · intro old new hold h
    have hdistinct := (validateElasticsearchClusterSpec_eq_ok_iff.mp hold).distinct
    obtain ⟨hall, hkept⟩ := (validateElasticsearchClusterUpdate_eq_ok_iff hdistinct).mp h
    refine ⟨hspec hall, ?_⟩
    intro np hnp np' hnp' hname
    obtain ⟨hothers, hpersistence⟩ := hkept np' hnp' np hnp hname
    exact ⟨hothers, hpersistence.resolve_left⟩
  · intro spec hvalid np hnp np' hnp' hname
    have hdistinct := (validateElasticsearchClusterSpec_eq_ok_iff.mp hvalid).distinct
    cases List.inj_on_of_nodup_map hdistinct hnp' hnp hname
    exact ⟨rfl, fun _ => rfl⟩

theorem guarantees_cassandraClusters :
    Guarantees cassandraClusters
      (fun spec => validateCassandraClusterSpec spec (Path.new "spec") = .ok [])
      KeptCassandra := by
  have hspec : ∀ {c : CassandraCluster}, validateCassandraCluster c = .ok [] →
      validateCassandraClusterSpec c.spec (Path.new "spec") = .ok [] :=
    fun h => validateCassandraClusterSpec_eq_ok_iff.mpr
      (validateCassandraCluster_eq_ok_iff.mp h).2
  refine ⟨fun c h => hspec h, ?_, ?_⟩
  · intro old new hold h
    have hdistinct := (validateCassandraClusterSpec_eq_ok_iff.mp hold).distinct
    obtain ⟨hall, hversion, hkept⟩ := (validateCassandraClusterUpdate_eq_ok_iff hdistinct).mp h
    refine ⟨hspec hall, ?_, hversion⟩
    intro np hnp np' hnp' hname
    obtain ⟨hothers, hpersistence⟩ := hkept np' hnp' np hnp hname
    exact ⟨hothers, hpersistence.resolve_left⟩
  · intro spec hvalid
    have hchecks := validateCassandraClusterSpec_eq_ok_iff.mp hvalid
    refine ⟨?_, ?_⟩
    · intro np hnp np' hnp' hname
      cases List.inj_on_of_nodup_map hchecks.distinct hnp' hnp hname
      exact ⟨rfl, fun _ => rfl⟩
    · obtain ⟨version, hversion, _⟩ := hchecks.version
      exact ⟨version, version, hversion, hversion, version.equal_refl⟩

end Kinds

namespace RegistryWitness

open SpecHistoryWitness

def atVersion {C : Type} [ApiObject C] (c : C) (version : Nat) : C :=
  setMeta c { objectMeta c with resourceVersion := version }

inductive Client where
  | user
  | controller
  | administrator
  | garbageCollector
deriving DecidableEq

/-- The user adds a pool, while a controller writes the status; both have read the first
version.  Then the cluster is deleted, and removed when its dependents are gone. -/
def elasticsearchRequests : Client → Request ElasticsearchCluster
  | .user => .update
      { endpoint := .main, namespaceName := "default", uid := some "uid-db",
        updatedObject := fun _ => .ok (atVersion (elasticsearch [dataPool [.data]]) 1) }
  | .controller => .update
      { endpoint := .status, namespaceName := "default", uid := some "uid-db",
        updatedObject := fun _ => .ok (atVersion (elasticsearch []) 1) }
  | .administrator => .delete { propagationPolicy := some .foreground, now := 7 }
  | .garbageCollector => .update
      { endpoint := .main, namespaceName := "default", uid := some "uid-db",
        updatedObject := fun existing => .ok (existing.elim (elasticsearch []) fun c =>
          setMeta c { objectMeta c with finalizers := [] }) }

/-- The controller's cache is behind when it starts. -/
def elasticsearchEvents :
    List (OptimisticUpdate.Event Client ElasticsearchCluster RegistryError) :=
  [.create (elasticsearch []), .start .user none, .attempt .user,
    .start .controller (some ⟨1, elasticsearch []⟩), .commit .user none, .attempt .controller,
    .attempt .controller, .start .administrator none, .attempt .administrator,
    .commit .administrator none, .start .garbageCollector none, .attempt .garbageCollector,
    .erase .garbageCollector none]

/-- A patch of the status is made again on the version that it finds. -/
def cassandraRequests : Client → Request CassandraCluster
  | .controller => .update
      { endpoint := .status, namespaceName := "default",
        updatedObject := fun existing => .ok (existing.elim (cassandra []) fun c =>
          { c with
            spec := (cassandra []).spec
            status := { conditions := [⟨.available, .true, 0, "", ""⟩] } }) }
  | .administrator => .delete {}
  | _ => .update
      { endpoint := .main, namespaceName := "default",
        updatedObject := fun _ => .ok (atVersion (cassandra [rackB "b"]) 1) }

def cassandraEvents : List (OptimisticUpdate.Event Client CassandraCluster RegistryError) :=
  [.create (cassandra []), .start .user none, .attempt .user,
    .start .controller (some ⟨1, cassandra []⟩), .attempt .controller, .commit .user none,
    .commit .controller none, .attempt .controller, .commit .controller none,
    .start .administrator none, .attempt .administrator, .erase .administrator none]

def elasticsearchEnd : System Client ElasticsearchCluster RegistryError :=
  ((machine (writers elasticsearchClusters elasticsearchRequests)).exec {}
    elasticsearchEvents).getD {}

def cassandraEnd : System Client CassandraCluster RegistryError :=
  ((machine (writers cassandraClusters cassandraRequests)).exec {} cassandraEvents).getD {}

/-- What a client is told that has removed the object. -/
def removedBy {C : Type} : OptimisticUpdate.Phase C RegistryError → Option (Versioned C)
  | .done (.ok (.erased _ removed)) => removed
  | _ => none

end RegistryWitness

end Registry

end Navigator
