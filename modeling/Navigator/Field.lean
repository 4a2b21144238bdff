/-
Field paths and field errors of the validation, and the metadata check that
every object goes through.
-/
import Navigator.Kube

namespace Navigator

/-- A crash of the checking goroutine. -/
inductive Panic where
  | nilDereference
  | sliceBounds
deriving DecidableEq, Repr

/-- A computation that may crash. -/
abbrev Checked := Except Panic

inductive PathElement where
  | child (name : String)
  | index (subscript : Nat)
deriving DecidableEq

/-- `field.Path`, from the root on. -/
structure Path where
  elements : List PathElement
deriving DecidableEq

namespace Path

def new (name : String) : Path := ⟨[.child name]⟩

def child (path : Path) (name : String) : Path := ⟨path.elements ++ [.child name]⟩

def index (path : Path) (i : Nat) : Path := ⟨path.elements ++ [.index i]⟩

/-- `Path.String`. -/
def string (path : Path) : String :=
  match path.elements with
  | [] => ""
  | root :: rest =>
      (match root with
        | .child name => name
        | .index i => "[" ++ decimal i ++ "]") ++
      rest.foldl (fun text element => text ++ match element with
        | .child name => "." ++ name
        | .index i => "[" ++ decimal i ++ "]") ""

end Path

inductive ErrorType where
  | required
  | duplicate
  | invalid
  | notSupported
  | forbidden
  | tooLong
deriving DecidableEq

/-- The offending value of a field error. -/
inductive BadValue where
  | text (s : String)
  | int (n : Int)
  | quantity (q : Quantity)
  | ownerReference (ref : OwnerReference)
  | ownerReferences (refs : List OwnerReference)
  | texts (values : List String)
  | time (seconds : Nat)
deriving DecidableEq

structure FieldError where
  type : ErrorType
  field : String
  badValue : BadValue
  detail : String
deriving DecidableEq

abbrev ErrorList := List FieldError

namespace FieldError

def required (path : Path) (detail : String) : FieldError :=
  ⟨.required, path.string, .text "", detail⟩

def duplicate (path : Path) (value : String) : FieldError :=
  ⟨.duplicate, path.string, .text value, ""⟩

def invalid (path : Path) (value : BadValue) (detail : String) : FieldError :=
  ⟨.invalid, path.string, value, detail⟩

def notSupported (path : Path) (value : String) (validValues : List String) : FieldError :=
  ⟨.notSupported, path.string, .text value,
    if validValues = [] then ""
    else "supported values: " ++ ", ".intercalate (validValues.map quoted)⟩

def forbidden (path : Path) (detail : String) : FieldError :=
  ⟨.forbidden, path.string, .text "", detail⟩

def tooLong (path : Path) (value : String) (maxLength : Nat) : FieldError :=
  ⟨.tooLong, path.string, .text value,
    "must have at most " ++ decimal maxLength ++ " characters"⟩

end FieldError

/-- One invalid-value error for each message of a name check. -/
def invalidEach (path : Path) (value : String) (msgs : List String) : ErrorList :=
  msgs.map fun msg => .invalid path (.text value) msg

theorem invalidEach_eq_nil_iff {path : Path} {value : String} {msgs : List String} :
    invalidEach path value msgs = [] ↔ msgs = [] := by
  simp [invalidEach]

/-- `maskTrailingDash`.  It cuts two bytes, so the single dash is out of bounds,
and a character cut in the middle leaves a byte that no pattern accepts. -/
def maskTrailingDash (name : String) : Checked String :=
  match name.toList.reverse with
  | ['-'] => .error .sliceBounds
  | '-' :: c :: rest =>
      .ok (String.ofList
        ((if c.toNat < 128 then rest else Char.ofNat 0xFFFD :: rest).reverse ++ ['a']))
  | _ => .ok name

/-- `NameIsDNSSubdomain`. -/
def nameIsDNSSubdomain (name : String) (isGenerated : Bool) : Checked (List String) :=
  if isGenerated then (maskTrailingDash name).map isDNS1123Subdomain
  else .ok (isDNS1123Subdomain name)

/-- `strings.ToLower`, exact on the two characters beyond ASCII that become
ASCII letters. -/
def toLower (s : String) : String :=
  String.ofList (s.toList.map fun c =>
    if c.toNat = 0x212A then 'k' else if c.toNat = 0x130 then 'i' else c.toLower)

def totalAnnotationSizeLimitB : Nat := 256 * 1024

def validateLabels (labels : StringMap) (path : Path) : ErrorList :=
  (StringMap.entries labels).flatMap fun (key, value) =>
    invalidEach path key (isQualifiedName key) ++
      invalidEach path value (isValidLabelValue value)

def validateAnnotations (annotations : StringMap) (path : Path) : ErrorList :=
  let entries := StringMap.entries annotations
  (entries.flatMap fun (key, _) => invalidEach path key (isQualifiedName (toLower key))) ++
    if (entries.map fun (key, value) => byteLength key + byteLength value).sum >
        totalAnnotationSizeLimitB then
      [.tooLong path "" totalAnnotationSizeLimitB]
    else []

/-- `schema.FromAPIVersionAndKind`: group and version. -/
def groupVersion (apiVersion : String) : String × String :=
  match split '/' apiVersion with
  | [version] => ("", version)
  | [group, version] => (group, version)
  | _ => ("", "")

def validateOwnerReference (ref : OwnerReference) (path : Path) : ErrorList :=
  let gv := groupVersion ref.apiVersion
  (if gv.2 = "" then
    [.invalid (path.child "apiVersion") (.text ref.apiVersion) "version must not be empty"]
    else []) ++
  (if ref.kind = "" then
    [.invalid (path.child "kind") (.text ref.kind) "kind must not be empty"] else []) ++
  (if ref.name = "" then
    [.invalid (path.child "name") (.text ref.name) "name must not be empty"] else []) ++
  (if ref.uid = "" then
    [.invalid (path.child "uid") (.text ref.uid) "uid must not be empty"] else []) ++
  (if gv = ("", "v1") ∧ ref.kind = "Event" then
    [.invalid path (.ownerReference ref)
      ("/v1, Kind=Event is disallowed from being an owner")] else [])

/-- The loop of `ValidateOwnerReferences`; `controllerName` is the first
reference that claims to be the controller. -/
def ownerReferenceErrors (refs : List OwnerReference) (path : Path) :
    String → List OwnerReference → ErrorList
  | _, [] => []
  | controllerName, ref :: rest =>
      validateOwnerReference ref path ++
        if ref.controller = some true then
          if controllerName ≠ "" then
            .invalid path (.ownerReferences refs)
              ("Only one reference can have Controller set to true. Found \"true\" in references for " ++
                controllerName ++ " and " ++ ref.name) ::
              ownerReferenceErrors refs path controllerName rest
          else ownerReferenceErrors refs path ref.name rest
        else ownerReferenceErrors refs path controllerName rest

def validateOwnerReferences (refs : List OwnerReference) (path : Path) : ErrorList :=
  ownerReferenceErrors refs path "" refs

def validateFinalizers (finalizers : List String) (path : Path) : ErrorList :=
  (finalizers.flatMap fun finalizer =>
    invalidEach path finalizer (isQualifiedName finalizer)) ++
  if "foregroundDeletion" ∈ finalizers ∧ "orphan" ∈ finalizers then
    [.invalid path (.texts finalizers)
      "finalizer orphan and foregroundDeletion cannot be both set"]
  else []

/-- The check of `generateName`, if there is one. -/
def validateGenerateName (m : ObjectMeta) (path : Path) : Checked ErrorList :=
  if m.generateName = "" then .ok []
  else (nameIsDNSSubdomain m.generateName true).map
    (invalidEach (path.child "generateName") m.generateName)

def validateName (m : ObjectMeta) (path : Path) : Checked ErrorList :=
  if m.name = "" then
    .ok [.required (path.child "name") "name or generateName is required"]
  else (nameIsDNSSubdomain m.name false).map (invalidEach (path.child "name") m.name)

/-- `ValidateObjectMeta` for a namespaced object whose name is a DNS subdomain. -/
def validateObjectMeta (m : ObjectMeta) (path : Path) : Checked ErrorList := do
  let generateNameErrs ← validateGenerateName m path
  let nameErrs ← validateName m path
  let namespaceErrs :=
    if m.namespaceName = "" then [FieldError.required (path.child "namespace") ""]
    else invalidEach (path.child "namespace") m.namespaceName
      (isDNS1123Label m.namespaceName)
  let clusterNameErrs :=
    if m.clusterName = "" then []
    else invalidEach (path.child "clusterName") m.clusterName (isDNS1035Label m.clusterName)
  let generationErrs :=
    if m.generation < 0 then
      [FieldError.invalid (path.child "generation") (.int m.generation)
        "must be greater than or equal to 0"]
    else []
  pure (generateNameErrs ++ nameErrs ++ namespaceErrs ++ clusterNameErrs ++
    generationErrs ++ validateLabels m.labels (path.child "labels") ++
    validateAnnotations m.annotations (path.child "annotations") ++
    validateOwnerReferences m.ownerReferences (path.child "ownerReferences") ++
    validateFinalizers m.finalizers (path.child "finalizers"))

end Navigator
