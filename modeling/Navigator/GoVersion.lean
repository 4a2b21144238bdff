/-
The version type behind Cassandra versions: any number of numeric segments,
padded to three, with a comparison that treats trailing zeros as absent, and
the constraint `>= 3, < 4` that the validation checks.
-/
import Navigator.Text

namespace Navigator

/-- `version.Version` of go-version; `si` counts the segments before padding. -/
structure GoVersion where
  segments : List Nat
  pre : String := ""
  metadata : String := ""
  si : Nat
deriving DecidableEq

namespace GoVersion

/-- `Version.String`. -/
def string (v : GoVersion) : String :=
  ".".intercalate (v.segments.map fun segment => decimal segment) ++
    (if v.pre ≠ "" then "-" ++ v.pre else "") ++
    (if v.metadata ≠ "" then "+" ++ v.metadata else "")

def allZero (segments : List Nat) : Bool := segments.all fun segment => segment = 0

/-- The segment loop of `Compare`. -/
def compareSegments : List Nat → List Nat → Int
  | [], other => if allZero other then 0 else -1
  | self, [] => if allZero self then 0 else 1
  | lhs :: self, rhs :: other =>
      if lhs = rhs then compareSegments self other else if lhs < rhs then -1 else 1

/-- `comparePart`.  The last test reads what was parsed even when neither part is
numeric: zero, or the nearest number for one that is out of range. -/
def comparePart (preSelf preOther : String) : Int :=
  if preSelf = preOther then 0
  else
    let selfInt := parseInt64 preSelf
    let otherInt := parseInt64 preOther
    if preSelf = "" then if otherInt.isSome then -1 else 1
    else if preOther = "" then if selfInt.isSome then 1 else -1
    else if selfInt.isSome && otherInt.isNone then -1
    else if selfInt.isNone && otherInt.isSome then 1
    else if selfInt.isNone && otherInt.isNone && preSelf > preOther then 1
    else if parsedInt64 preSelf > parsedInt64 preOther then 1
    else -1

example : comparePart "99999999999999999999" "b1" = 1 := by decide +kernel

/-- The part loop of `comparePrereleases`; a missing part reads as empty. -/
def compareParts : List String → List String → Int
  | [], [] => 0
  | self :: selfRest, [] =>
      if comparePart self "" ≠ 0 then comparePart self "" else compareParts selfRest []
  | [], other :: otherRest =>
      if comparePart "" other ≠ 0 then comparePart "" other else compareParts [] otherRest
  | self :: selfRest, other :: otherRest =>
      if comparePart self other ≠ 0 then comparePart self other
      else compareParts selfRest otherRest

def comparePrereleases (v other : String) : Int :=
  if v = other then 0 else compareParts (split '.' v) (split '.' other)

/-- `Version.Compare`. -/
def compare (v other : GoVersion) : Int :=
  if v.string = other.string then 0
  else if v.segments = other.segments then
    if v.pre = "" ∧ other.pre = "" then 0
    else if v.pre = "" then 1
    else if other.pre = "" then -1
    else comparePrereleases v.pre other.pre
  else compareSegments v.segments other.segments

/-- `Version.Equal`. -/
def equal (v other : GoVersion) : Bool := compare v other = 0

/-- `prereleaseCheck`. -/
def prereleaseCheck (v c : GoVersion) : Bool :=
  if c.pre ≠ "" ∧ v.pre ≠ "" then c.segments = v.segments
  else if v.pre ≠ "" then false
  else true

inductive ConstraintOperator where
  | greaterThanEqual
  | lessThan
deriving DecidableEq

/-- The constraints the validation uses, with the text they were parsed from. -/
structure Constraint where
  operator : ConstraintOperator
  check : GoVersion
  original : String
deriving DecidableEq

def Constraint.holds (c : Constraint) (v : GoVersion) : Bool :=
  match c.operator with
  | .greaterThanEqual => prereleaseCheck v c.check && compare v c.check ≥ 0
  | .lessThan => prereleaseCheck v c.check && compare v c.check = -1

/-- `Constraints.Check`. -/
def checkConstraints (constraints : List Constraint) (v : GoVersion) : Bool :=
  constraints.all fun c => c.holds v

/-- `Constraints.String`. -/
def constraintsString (constraints : List Constraint) : String :=
  ",".intercalate (constraints.map Constraint.original)

/-- `NewConstraint(">= 3, < 4")`. -/
def supportedCassandraVersions : List Constraint :=
  [{ operator := .greaterThanEqual
     check := { segments := [3, 0, 0], si := 1 }
     original := ">= 3" },
   { operator := .lessThan
     check := { segments := [4, 0, 0], si := 1 }
     original := " < 4" }]

@[simp] theorem equal_refl (v : GoVersion) : v.equal v = true := by
  simp [equal, compare]

example : checkConstraints supportedCassandraVersions
    { segments := [3, 11, 2], si := 3 } = true := by decide

end GoVersion

end Navigator
