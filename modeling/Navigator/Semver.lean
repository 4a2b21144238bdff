/-
Semantic versions as the Elasticsearch types hold them: the three numbers, the
pre-release and the build metadata.  A version only ever comes from parsing a
string or is the zero value, so the ranges and the plus-free pre-release are
part of the type, and rendering followed by parsing is the identity.
-/
import Navigator.Text

namespace Navigator

/-- `semver.Version`. -/
structure Version where
  major : Nat
  minor : Nat
  patch : Nat
  preRelease : String
  metadata : String
  in_range : major < 2 ^ 63 ∧ minor < 2 ^ 63 ∧ patch < 2 ^ 63
  plus_not_mem : '+' ∉ preRelease.toList
deriving DecidableEq

/-- The zero value of the struct. -/
def emptySemver : Version where
  major := 0
  minor := 0
  patch := 0
  preRelease := ""
  metadata := ""
  in_range := by decide
  plus_not_mem := by decide

theorem toNat_in_range (major minor patch : UInt8) :
    major.toNat < 2 ^ 63 ∧ minor.toNat < 2 ^ 63 ∧ patch.toNat < 2 ^ 63 := by
  have hmajor := major.toNat_lt
  have hminor := minor.toNat_lt
  have hpatch := patch.toNat_lt
  omega

/-- A plain release version, with numbers that are surely in range. -/
def release (major minor patch : UInt8) : Version where
  major := major.toNat
  minor := minor.toNat
  patch := patch.toNat
  preRelease := ""
  metadata := ""
  in_range := toNat_in_range major minor patch
  plus_not_mem := emptySemver.plus_not_mem

namespace Version

/-- `Version.String`. -/
def string (v : Version) : String :=
  decimal v.major ++ "." ++ decimal v.minor ++ "." ++ decimal v.patch ++
    (if v.preRelease ≠ "" then "-" ++ v.preRelease else "") ++
    (if v.metadata ≠ "" then "+" ++ v.metadata else "")

/-- `splitOff`: the part before the first separator and the part after it,
which is empty when there is no separator. -/
def splitOff (sep : Char) (input : List Char) : List Char × List Char :=
  match splitN sep 2 input with
  | [before, after] => (before, after)
  | _ => (input, [])

theorem splitOff_append {sep : Char} {before : List Char} (h : sep ∉ before)
    (after : List Char) : splitOff sep (before ++ sep :: after) = (before, after) := by
  simp [splitOff, splitN, cut_append h]

theorem splitOff_of_not_mem {sep : Char} {input : List Char} (h : sep ∉ input) :
    splitOff sep input = (input, []) := by
  simp [splitOff, splitN, cut_of_not_mem h]

/-- The two outcomes of `splitOff`, told apart by whether the separator occurs. -/
theorem splitOff_cases (sep : Char) (input : List Char) :
    (sep ∉ input ∧ splitOff sep input = (input, [])) ∨
      ∃ before after, sep ∉ before ∧ input = before ++ sep :: after ∧
        splitOff sep input = (before, after) := by
  by_cases hmem : sep ∈ input
  · obtain ⟨before, after, hinput, hbefore⟩ := List.eq_append_cons_of_mem hmem
    exact Or.inr ⟨before, after, hbefore, hinput, hinput ▸ splitOff_append hbefore after⟩
  · exact Or.inl ⟨hmem, splitOff_of_not_mem hmem⟩

theorem not_mem_splitOff_fst (sep : Char) (input : List Char) :
    sep ∉ (splitOff sep input).1 := by
  rcases splitOff_cases sep input with ⟨hmem, heq⟩ | ⟨before, after, hbefore, _, heq⟩
  · rw [heq]
    exact hmem
  · rw [heq]
    exact hbefore

theorem mem_of_mem_splitOff_snd {sep c : Char} {input : List Char}
    (h : c ∈ (splitOff sep input).2) : c ∈ input := by
  rcases splitOff_cases sep input with ⟨_, heq⟩ | ⟨before, after, _, hinput, heq⟩
  · rw [heq] at h
    exact absurd h (List.not_mem_nil)
  · rw [heq] at h
    rw [hinput]
    exact List.mem_append_right before (List.mem_cons_of_mem sep h)

/-- One dotted component: `ParseInt` accepts it or says why not.  No sign can
be left in it, since both separators that are signs were split off before. -/
def component (digits : List Char) : Except String { n : Nat // n < 2 ^ 63 } :=
  match parseDigits digits with
  | none => .error ("strconv.ParseInt: parsing " ++ quoted (String.ofList digits) ++
      ": invalid syntax")
  | some n =>
      if h : n < 2 ^ 63 then .ok ⟨n, h⟩
      else .error ("strconv.ParseInt: parsing " ++ quoted (String.ofList digits) ++
        ": value out of range")

/-- The pre-release is cut out of a text that has no plus sign left. -/
theorem plus_not_mem_preRelease (text : List Char) :
    '+' ∉ (String.ofList (splitOff '-' (splitOff '+' text).1).2).toList := by
  rw [String.toList_ofList]
  exact fun h => not_mem_splitOff_fst '+' text (mem_of_mem_splitOff_snd h)

/-- `semver.NewVersion`. -/
def parse (text : String) : Except String Version :=
  match splitN '.' 3 (splitOff '-' (splitOff '+' text.toList).1).1 with
  | [major, minor, patch] => do
      let major ← component major
      let minor ← component minor
      let patch ← component patch
      .ok ⟨major, minor, patch,
        String.ofList (splitOff '-' (splitOff '+' text.toList).1).2,
        String.ofList (splitOff '+' text.toList).2,
        ⟨major.2, minor.2, patch.2⟩, plus_not_mem_preRelease text.toList⟩
  | _ => .error (String.ofList (splitOff '-' (splitOff '+' text.toList).1).1 ++
      " is not in dotted-tri format")

theorem component_decimal {n : Nat} (h : n < 2 ^ 63) :
    component (decimal n).toList = .ok ⟨n, h⟩ := by
  simp only [component, parseDigits_decimal, dif_pos h]

private theorem not_mem_decimal {c : Char} (hc : c.isDigit = false) (n : Nat) :
    c ∉ (decimal n).toList := by
  intro hmem
  rw [isDigit_of_mem_decimal hmem] at hc
  exact Bool.noConfusion hc

/-- The dotted numbers of a rendered version. -/
def dotted (v : Version) : List Char :=
  (decimal v.major).toList ++ '.' :: ((decimal v.minor).toList ++ '.' :: (decimal v.patch).toList)

theorem not_mem_dotted {c : Char} (hdigit : c.isDigit = false) (hdot : c ≠ '.')
    (v : Version) : c ∉ v.dotted := by
  simp only [dotted, List.mem_append, List.mem_cons, not_or]
  exact ⟨not_mem_decimal hdigit _, hdot, not_mem_decimal hdigit _, hdot,
    not_mem_decimal hdigit _⟩

theorem toList_string (v : Version) :
    v.string.toList =
      (v.dotted ++ if v.preRelease ≠ "" then '-' :: v.preRelease.toList else []) ++
        if v.metadata ≠ "" then '+' :: v.metadata.toList else [] := by
  have hpre : (if v.preRelease ≠ "" then "-" ++ v.preRelease else "").toList =
      if v.preRelease ≠ "" then '-' :: v.preRelease.toList else [] := by
    split <;> simp
  have hmeta : (if v.metadata ≠ "" then "+" ++ v.metadata else "").toList =
      if v.metadata ≠ "" then '+' :: v.metadata.toList else [] := by
    split <;> simp
  simp only [string, String.toList_append, hpre, hmeta]
  simp [dotted]

private theorem plus_not_mem_base (v : Version) :
    '+' ∉ v.dotted ++ if v.preRelease ≠ "" then '-' :: v.preRelease.toList else [] := by
  rw [List.mem_append, not_or]
  refine ⟨not_mem_dotted (by decide) (by decide) v, ?_⟩
  split
  · simp only [List.mem_cons, not_or]
    exact ⟨by decide, v.plus_not_mem⟩
  · simp

theorem splitOff_plus_string (v : Version) :
    splitOff '+' v.string.toList =
      (v.dotted ++ if v.preRelease ≠ "" then '-' :: v.preRelease.toList else [],
        v.metadata.toList) := by
  rw [toList_string]
  by_cases hmeta : v.metadata = ""
  · rw [if_neg (not_not.mpr hmeta), List.append_nil,
      splitOff_of_not_mem (plus_not_mem_base v), hmeta]
    rfl
  · rw [if_pos hmeta, splitOff_append (plus_not_mem_base v)]

theorem splitOff_minus_base (v : Version) :
    splitOff '-' (v.dotted ++ if v.preRelease ≠ "" then '-' :: v.preRelease.toList else []) =
      (v.dotted, v.preRelease.toList) := by
  have hminus : '-' ∉ v.dotted := not_mem_dotted (by decide) (by decide) v
  by_cases hpre : v.preRelease = ""
  · rw [if_neg (not_not.mpr hpre), List.append_nil, splitOff_of_not_mem hminus, hpre]
    rfl
  · rw [if_pos hpre, splitOff_append hminus]

theorem splitN_dotted (v : Version) :
    splitN '.' 3 v.dotted =
      [(decimal v.major).toList, (decimal v.minor).toList, (decimal v.patch).toList] := by
  have hdot : ∀ n : Nat, '.' ∉ (decimal n).toList := fun n => not_mem_decimal (by decide) n
  simp [splitN, dotted, cut_append (hdot _)]

/-- Rendering and parsing again gives the version back, metadata included. -/
@[simp] theorem parse_string (v : Version) : parse v.string = .ok v := by
  unfold parse
  simp only [splitOff_plus_string, splitOff_minus_base, splitN_dotted]
  rw [component_decimal v.in_range.1, component_decimal v.in_range.2.1,
    component_decimal v.in_range.2.2]
  simp only [bind, Except.bind, String.ofList_toList]

theorem string_injective {v w : Version} (h : v.string = w.string) : v = w := by
  have hparse := parse_string v
  rw [h, parse_string w] at hparse
  exact (Except.ok.inj hparse).symm

/-- `recursiveCompare`. -/
def recursiveCompare : List Int → List Int → Int
  | [], _ => 0
  | _ :: _, [] => 0
  | a :: as, b :: bs => if a > b then 1 else if a < b then -1 else recursiveCompare as bs

/-- `recursivePreReleaseCompare`: numeric parts compare as numbers first, and
parts that are equal numbers still compare as strings. -/
def recursivePreReleaseCompare : List String → List String → Int
  | [], [] => 0
  | [], _ :: _ => -1
  | _ :: _, [] => 1
  | a :: as, b :: bs =>
      match parseInt64 a, parseInt64 b with
      | some aI, some bI =>
          if aI > bI then 1 else if aI < bI then -1
          else if a > b then 1 else if a < b then -1
          else recursivePreReleaseCompare as bs
      | _, _ =>
          if a > b then 1 else if a < b then -1
          else recursivePreReleaseCompare as bs

/-- `preReleaseCompare`. -/
def preReleaseCompare (a b : String) : Int :=
  if a = "" ∧ b ≠ "" then 1
  else if b = "" ∧ a ≠ "" then -1
  else recursivePreReleaseCompare (split '.' a) (split '.' b)

/-- `Version.Compare`. -/
def compare (v w : Version) : Int :=
  let numbers := recursiveCompare [v.major, v.minor, v.patch] [w.major, w.minor, w.patch]
  if numbers ≠ 0 then numbers else preReleaseCompare v.preRelease w.preRelease

/-- `Version.Equal`. -/
def equal (v w : Version) : Bool := compare v w = 0

theorem recursivePreReleaseCompare_eq_zero_iff (as bs : List String) :
    recursivePreReleaseCompare as bs = 0 ↔ as = bs := by
  have htotal : ∀ a b : String, ¬ a > b → ¬ a < b → a = b := fun a b hgt hlt =>
    le_antisymm (not_lt.mp hgt) (not_lt.mp hlt)
  induction as generalizing bs with
  | nil => cases bs <;> simp [recursivePreReleaseCompare]
  | cons a as ih =>
      cases bs with
      | nil => simp [recursivePreReleaseCompare]
      | cons b bs =>
          by_cases hab : a = b
          · subst hab
            cases ha : parseInt64 a <;> simp [recursivePreReleaseCompare, ha, ih]
          · have hstring : a > b ∨ a < b := by
              rcases lt_trichotomy a b with h | h | h
              · exact Or.inr h
              · exact absurd h hab
              · exact Or.inl h
            constructor
            · intro h
              simp only [recursivePreReleaseCompare] at h
              split at h
              all_goals (split_ifs at h <;> first | omega | grind)
            · intro h
              exact absurd (List.cons.inj h).1 hab

theorem preReleaseCompare_eq_zero_iff (a b : String) :
    preReleaseCompare a b = 0 ↔ a = b := by
  unfold preReleaseCompare
  by_cases ha : a = "" <;> by_cases hb : b = ""
  · simp [ha, hb, recursivePreReleaseCompare_eq_zero_iff]
  · have hne : ¬ a = b := fun h => hb (h ▸ ha)
    simp [ha, hb, Ne.symm hb]
  · simp [ha, hb]
  · simp only [ha, hb, false_and, if_false, recursivePreReleaseCompare_eq_zero_iff]
    exact ⟨split_injective '.', fun h => h ▸ rfl⟩

/-- Semver equality compares the numbers and the pre-release; the build
metadata is ignored. -/
theorem equal_iff (v w : Version) :
    v.equal w = true ↔ v.major = w.major ∧ v.minor = w.minor ∧ v.patch = w.patch ∧
      v.preRelease = w.preRelease := by
  have hnumbers : recursiveCompare [(v.major : Int), v.minor, v.patch]
      [(w.major : Int), w.minor, w.patch] = 0 ↔
        v.major = w.major ∧ v.minor = w.minor ∧ v.patch = w.patch := by
    simp only [recursiveCompare]
    split_ifs <;> grind
  unfold equal
  rw [decide_eq_true_eq]
  simp only [compare]
  split_ifs with h
  · rw [ne_eq, hnumbers] at h
    rw [hnumbers]
    tauto
  · rw [ne_eq, not_not, hnumbers] at h
    rw [preReleaseCompare_eq_zero_iff]
    tauto

@[simp] theorem equal_refl (v : Version) : v.equal v = true := by
  simp [equal_iff]

theorem equal_comm (v w : Version) : v.equal w = w.equal v := by
  rw [Bool.eq_iff_iff, equal_iff, equal_iff]
  constructor <;> rintro ⟨h₁, h₂, h₃, h₄⟩ <;> exact ⟨h₁.symm, h₂.symm, h₃.symm, h₄.symm⟩

theorem equal_trans {u v w : Version} (huv : u.equal v = true) (hvw : v.equal w = true) :
    u.equal w = true := by
  rw [equal_iff] at *
  obtain ⟨h₁, h₂, h₃, h₄⟩ := huv
  obtain ⟨k₁, k₂, k₃, k₄⟩ := hvw
  exact ⟨h₁.trans k₁, h₂.trans k₂, h₃.trans k₃, h₄.trans k₄⟩

end Version

end Navigator
