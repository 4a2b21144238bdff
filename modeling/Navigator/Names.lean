/-
The name and label checks of the Kubernetes API machinery, with the messages
they report.  Each regular expression is a test on the list of characters; a
length is a number of bytes, as in Go.
-/
import Navigator.Text

namespace Navigator

def isLower (c : Char) : Bool := 'a' ≤ c && c ≤ 'z'

def isUpper (c : Char) : Bool := 'A' ≤ c && c ≤ 'Z'

/-- `[a-z0-9]`. -/
def dnsChar (c : Char) : Bool := isLower c || c.isDigit

/-- `[A-Za-z0-9]`. -/
def qnameChar (c : Char) : Bool := isLower c || isUpper c || c.isDigit

/-- `[-A-Za-z0-9_.]`. -/
def qnameExtChar (c : Char) : Bool := qnameChar c || c = '-' || c = '_' || c = '.'

/-- A nonempty text over `inner` that starts with a `first` and ends with a
`last` character. -/
def matchesEnds (first inner last : Char → Bool) (text : List Char) : Bool :=
  text.all inner && text.head?.any first && text.getLast?.any last

def qualifiedNameRegexp (s : String) : Bool :=
  matchesEnds qnameChar qnameExtChar qnameChar s.toList

def labelValueRegexp (s : String) : Bool := s = "" || qualifiedNameRegexp s

def dns1123LabelRegexp (text : List Char) : Bool :=
  matchesEnds dnsChar (fun c => dnsChar c || c = '-') dnsChar text

def dns1123SubdomainRegexp (s : String) : Bool :=
  (splitChars '.' s.toList).all dns1123LabelRegexp

def dns1035LabelRegexp (text : List Char) : Bool :=
  matchesEnds isLower (fun c => dnsChar c || c = '-') dnsChar text

/-- `len` of a string. -/
def byteLength (s : String) : Nat := s.utf8ByteSize

def maxLenError (length : Nat) : String :=
  "must be no more than " ++ decimal length ++ " characters"

def emptyError : String := "must be non-empty"

/-- `RegexError`; the examples are joined as the source does, each followed by
a comma. -/
def regexError (msg fmt : String) (examples : List String) : String :=
  match examples with
  | [] => msg ++ " (regex used for validation is '" ++ fmt ++ "')"
  | examples =>
      msg ++ " (e.g. " ++
        " or ".intercalate (examples.map fun text => "'" ++ text ++ "', ") ++
        "regex used for validation is '" ++ fmt ++ "')"

def qualifiedNameFmt : String := "([A-Za-z0-9][-A-Za-z0-9_.]*)?[A-Za-z0-9]"

def qualifiedNameErrMsg : String :=
  "must consist of alphanumeric characters, '-', '_' or '.', and must start and end with an alphanumeric character"

def labelValueErrMsg : String :=
  "a valid label must be an empty string or consist of alphanumeric characters, '-', '_' or '.', and must start and end with an alphanumeric character"

def dns1123LabelFmt : String := "[a-z0-9]([-a-z0-9]*[a-z0-9])?"

def dns1123LabelErrMsg : String :=
  "a DNS-1123 label must consist of lower case alphanumeric characters or '-', and must start and end with an alphanumeric character"

def dns1123SubdomainErrorMsg : String :=
  "a DNS-1123 subdomain must consist of lower case alphanumeric characters, '-' or '.', and must start and end with an alphanumeric character"

def dns1035LabelErrMsg : String :=
  "a DNS-1035 label must consist of lower case alphanumeric characters or '-', start with an alphabetic character, and end with an alphanumeric character"

/-- The shared shape of the name checks: a length bound and a pattern, each
with its own message. -/
def nameErrors (value : String) (maxLength : Nat) (valid : Bool) (patternError : String) :
    List String :=
  (if byteLength value > maxLength then [maxLenError maxLength] else []) ++
    (if valid then [] else [patternError])

def isValidLabelValue (value : String) : List String :=
  nameErrors value 63 (labelValueRegexp value)
    (regexError labelValueErrMsg ("(" ++ qualifiedNameFmt ++ ")?")
      ["MyValue", "my_value", "12345"])

def isDNS1123Label (value : String) : List String :=
  nameErrors value 63 (dns1123LabelRegexp value.toList)
    (regexError dns1123LabelErrMsg dns1123LabelFmt ["my-name", "123-abc"])

def isDNS1123Subdomain (value : String) : List String :=
  nameErrors value 253 (dns1123SubdomainRegexp value)
    (regexError dns1123SubdomainErrorMsg
      (dns1123LabelFmt ++ "(\\." ++ dns1123LabelFmt ++ ")*") ["example.com"])

def isDNS1035Label (value : String) : List String :=
  nameErrors value 63 (dns1035LabelRegexp value.toList)
    (regexError dns1035LabelErrMsg "[a-z]([-a-z0-9]*[a-z0-9])?" ["my-name", "abc-123"])

/-- `IsQualifiedName`: unlike the other checks, an empty name part is reported
on top of the pattern. -/
def isQualifiedName (value : String) : List String :=
  let patternError := regexError qualifiedNameErrMsg qualifiedNameFmt
    ["MyName", "my.name", "123-abc"]
  let nameErrs (name : String) : List String :=
    (if name = "" then ["name part " ++ emptyError]
      else if byteLength name > 63 then ["name part " ++ maxLenError 63] else []) ++
    (if qualifiedNameRegexp name then [] else ["name part " ++ patternError])
  match split '/' value with
  | [name] => nameErrs name
  | [pfx, name] =>
      (if pfx = "" then ["prefix part " ++ emptyError]
        else (isDNS1123Subdomain pfx).map ("prefix part " ++ ·)) ++ nameErrs name
  | _ =>
      ["a qualified name " ++ patternError ++
        " with an optional DNS subdomain prefix and '/' (e.g. 'example.com/MyName')"]

theorem nameErrors_eq_nil_iff {value : String} {maxLength : Nat} {valid : Bool}
    {patternError : String} :
    nameErrors value maxLength valid patternError = [] ↔
      byteLength value ≤ maxLength ∧ valid = true := by
  unfold nameErrors
  by_cases hlength : byteLength value > maxLength
  · simp [hlength]
  · cases valid <;> simp [hlength, not_lt.mp hlength]

/-- The label values of at most 63 bytes over the label alphabet. -/
def ValidLabelValue (value : String) : Prop :=
  byteLength value ≤ 63 ∧ labelValueRegexp value = true

instance (value : String) : Decidable (ValidLabelValue value) :=
  inferInstanceAs (Decidable (_ ∧ _))

theorem isValidLabelValue_eq_nil_iff {value : String} :
    isValidLabelValue value = [] ↔ ValidLabelValue value :=
  nameErrors_eq_nil_iff

theorem isDNS1123Subdomain_eq_nil_iff {value : String} :
    isDNS1123Subdomain value = [] ↔
      byteLength value ≤ 253 ∧ dns1123SubdomainRegexp value = true :=
  nameErrors_eq_nil_iff

section Grammar

variable {first inner last : Char → Bool}

theorem matchesEnds_iff {text : List Char} :
    matchesEnds first inner last text = true ↔
      (∀ c ∈ text, inner c = true) ∧ (∃ c ∈ text.head?, first c = true) ∧
        ∃ c ∈ text.getLast?, last c = true := by
  simp [matchesEnds, Option.any_eq_true, and_assoc]

theorem matchesEnds_mono {first' inner' last' : Char → Bool} {text : List Char}
    (hfirst : ∀ c, first c = true → first' c = true)
    (hinner : ∀ c, inner c = true → inner' c = true)
    (hlast : ∀ c, last c = true → last' c = true)
    (h : matchesEnds first inner last text = true) :
    matchesEnds first' inner' last' text = true := by
  obtain ⟨hall, ⟨head, hhead, hheadFirst⟩, final, hfinal, hfinalLast⟩ := matchesEnds_iff.mp h
  exact matchesEnds_iff.mpr ⟨fun c hc => hinner c (hall c hc),
    ⟨head, hhead, hfirst head hheadFirst⟩, final, hfinal, hlast final hfinalLast⟩

/-- Two texts of a grammar with an inner character between them. -/
theorem matchesEnds_append {sep : Char} {left right : List Char} (hsep : inner sep = true)
    (hleft : matchesEnds first inner last left = true)
    (hright : matchesEnds first inner last right = true) :
    matchesEnds first inner last (left ++ sep :: right) = true := by
  obtain ⟨hallLeft, ⟨head, hhead, hheadFirst⟩, _⟩ := matchesEnds_iff.mp hleft
  obtain ⟨hallRight, _, final, hfinal, hfinalLast⟩ := matchesEnds_iff.mp hright
  refine matchesEnds_iff.mpr ⟨?_, ⟨head, ?_, hheadFirst⟩, final, ?_, hfinalLast⟩
  · intro c hc
    rcases List.mem_append.mp hc with hc | hc
    · exact hallLeft c hc
    · rcases List.mem_cons.mp hc with rfl | hc
      · exact hsep
      · exact hallRight c hc
  · rw [List.head?_append, Option.mem_def.mp hhead]
    rfl
  · rw [List.getLast?_append, List.getLast?_cons, Option.mem_def.mp hfinal]
    rfl

/-- The same for any number of texts. -/
theorem matchesEnds_intercalate {sep : Char} (hsep : inner sep = true) {parts : List (List Char)}
    (hne : parts ≠ []) (hparts : ∀ part ∈ parts, matchesEnds first inner last part = true) :
    matchesEnds first inner last ([sep].intercalate parts) = true := by
  induction parts with
  | nil => exact absurd rfl hne
  | cons part rest ih =>
      have hpart := hparts part List.mem_cons_self
      cases rest with
      | nil => simpa [List.intercalate] using hpart
      | cons next others =>
          have hrest := ih (List.cons_ne_nil _ _)
            fun other hother => hparts other (List.mem_cons_of_mem part hother)
          have hjoin : [sep].intercalate (part :: next :: others) =
              part ++ sep :: [sep].intercalate (next :: others) := by
            simp [List.intercalate]
          rw [hjoin]
          exact matchesEnds_append hsep hpart hrest

end Grammar

/-- A DNS subdomain is over the label alphabet. -/
theorem labelValueRegexp_of_dns1123Subdomain {s : String}
    (h : dns1123SubdomainRegexp s = true) : labelValueRegexp s = true := by
  have hdns : ∀ c, dnsChar c = true → qnameChar c = true := by
    intro c hc
    simp only [dnsChar, Bool.or_eq_true] at hc
    rcases hc with hc | hc
    · simp [qnameChar, hc]
    · simp [qnameChar, hc]
  have hinner : ∀ c, (dnsChar c || decide (c = '-')) = true → qnameExtChar c = true := by
    intro c hc
    rcases Bool.or_eq_true_iff.mp hc with hc | hc
    · simp [qnameExtChar, hdns c hc]
    · simp [qnameExtChar, of_decide_eq_true hc]
  have hparts : ∀ part ∈ splitChars '.' s.toList,
      matchesEnds qnameChar qnameExtChar qnameChar part = true := by
    intro part hpart
    exact matchesEnds_mono hdns hinner hdns (List.all_eq_true.mp h part hpart)
  have hwhole := matchesEnds_intercalate (by decide : qnameExtChar '.' = true)
    (splitChars_ne_nil '.' s.toList) hparts
  rw [intercalate_splitChars] at hwhole
  simp [labelValueRegexp, qualifiedNameRegexp, hwhole]

/-- So for DNS subdomains only the length of a label value matters. -/
theorem validLabelValue_iff_of_dns1123Subdomain {s : String} (h : isDNS1123Subdomain s = []) :
    ValidLabelValue s ↔ byteLength s ≤ 63 :=
  and_iff_left (labelValueRegexp_of_dns1123Subdomain (isDNS1123Subdomain_eq_nil_iff.mp h).2)

end Navigator
