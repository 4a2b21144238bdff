/-
How Cassandra versions are read and written.  The value keeps the text that it
was read from beside the parsed version; the text is written as a Go literal
into a JSON document, which is right because the grammar of versions has no
character that either would escape.
-/
import Navigator.Base.Quoting
import Navigator.Base.Regex
import Navigator.Validation

namespace Navigator

open ControlLoop

/-- Text in ASCII. -/
def asciiText (s : Bytes) : String := String.ofList (s.map fun b => Char.ofNat b.toNat)

/-- The bytes of a string in UTF-8. -/
def bytesOf (text : String) : Bytes := text.toList.flatMap fun c => encodeRune c.toNat

namespace GoVersion

def digit (b : UInt8) : Bool := 48 ≤ b && b ≤ 57

/-- `[0-9A-Za-z\-~]`. -/
def wordByte (b : UInt8) : Bool :=
  digit b || 65 ≤ b && b ≤ 90 || 97 ≤ b && b ≤ 122 || b = 45 || b = 126

def byteIs (c : UInt8) : Regex UInt8 := .one fun b => b = c

/-- Words with dots between them; the repetition is the group with this number. -/
def dottedWords (index : Nat) : Regex UInt8 :=
  .seq (.plus (.one wordByte))
    (.star true (.group index (.seq (byteIs 46) (.plus (.one wordByte)))))

/-- `VersionRegexpRaw`.  The numbers come with as few dots as possible, and the
last question mark makes the metadata lazy. -/
def versionRegexp : Regex UInt8 :=
  .seq (.opt true (byteIs 118))
    (.seq
      (.group 1 (.seq (.plus (.one digit))
        (.star false (.group 2 (.seq (byteIs 46) (.plus (.one digit)))))))
      (.seq
        (.opt true (.group 3 (.seq (.opt true (byteIs 45)) (.group 4 (dottedWords 5)))))
        (.opt false (.group 6 (.seq (byteIs 43) (.group 7 (dottedWords 8)))))))

/-- A segment that fits an `int64`. -/
def parseSegment (text : String) : Except Err Nat :=
  match parseDigits text.toList with
  | none => .error (.plain ("Error parsing version: strconv.ParseInt: parsing " ++ quoted text ++
      ": invalid syntax"))
  | some n =>
      if n < 2 ^ 63 then .ok n
      else .error (.plain ("Error parsing version: strconv.ParseInt: parsing " ++ quoted text ++
        ": value out of range"))

/-- `NewVersion`. -/
def newVersion (v : Bytes) : Except Err GoVersion :=
  match versionRegexp.find v with
  | none => .error (.plain ("Malformed version: " ++ asciiText v))
  | some matched => do
      let segments ← (split '.' (asciiText (matched.capture 1))).mapM parseSegment
      .ok
        { segments := segments ++ List.replicate (3 - segments.length) 0
          pre := asciiText (matched.capture 4)
          metadata := asciiText (matched.capture 7)
          si := segments.length }

end GoVersion

namespace CassandraVersion

/-- `Version{}`. -/
def zero : CassandraVersion := ⟨"", none⟩

/-- `set`: the value of the receiver afterwards, and the error. -/
def set (v : CassandraVersion) (s : Bytes) : CassandraVersion × Option Err :=
  match GoVersion.newVersion s with
  | .error e => (v, some e)
  | .ok semver => (⟨asciiText s, some semver⟩, none)

/-- `New`, where an error is a panic. -/
def new (s : Bytes) : Except Err CassandraVersion :=
  match zero.set s with
  | (_, some e) => .error e
  | (v, none) => .ok v

/-- `Equal`. -/
def equal (v versionB : CassandraVersion) : Checked Bool := do
  let semver ← v.deref
  let semverB ← versionB.deref
  .ok (semver.equal semverB)

/-- `String`, as the bytes that a Go string consists of. -/
def string (v : CassandraVersion) : Bytes := bytesOf v.versionString

/-- `UnmarshalJSON`: the value of the receiver afterwards, and the error. -/
def unmarshalJSON (v : CassandraVersion) (data : Bytes) : CassandraVersion × Option Err :=
  match unquote data with
  | none => (v, some (.plain "invalid syntax"))
  | some s => v.set s

/-- `MarshalJSON`. -/
def marshalJSON (u : Printable) (v : CassandraVersion) : Bytes := quote u v.string

/-- `DeepCopy`, with the panic of `New`. -/
def deepCopy (v : CassandraVersion) : Except Err CassandraVersion :=
  match v.semver with
  | none => .ok zero
  | some _ => new v.string

end CassandraVersion

section Grammar

variable {s : Bytes} {semver : GoVersion}

theorem digit_iff {b : UInt8} : GoVersion.digit b = true ↔ 48 ≤ b.toNat ∧ b.toNat ≤ 57 := by
  simp [GoVersion.digit, UInt8.le_iff_toNat_le]

theorem wordByte_iff {b : UInt8} : GoVersion.wordByte b = true ↔
    48 ≤ b.toNat ∧ b.toNat ≤ 57 ∨ 65 ≤ b.toNat ∧ b.toNat ≤ 90 ∨
      97 ≤ b.toNat ∧ b.toNat ≤ 122 ∨ b.toNat = 45 ∨ b.toNat = 126 := by
  simp [GoVersion.wordByte, digit_iff, UInt8.le_iff_toNat_le, ← UInt8.toNat_inj, or_assoc]

theorem byteIs_within {c : UInt8} (h : Plain c) : (GoVersion.byteIs c).Within Plain := by
  intro b hb
  obtain rfl : b = c := by simpa using hb
  exact h

/-- The characters of versions need no escape. -/
theorem versionRegexp_within : GoVersion.versionRegexp.Within Plain := by
  have hdigit : (Regex.one GoVersion.digit).Within Plain := by
    intro b hb
    rw [digit_iff] at hb
    rw [plain_iff]
    omega
  have hword : (Regex.one GoVersion.wordByte).Within Plain := by
    intro b hb
    rw [wordByte_iff] at hb
    rw [plain_iff]
    omega
  have hdot : (GoVersion.byteIs 46).Within Plain := byteIs_within (by decide)
  have hwords (index : Nat) : (GoVersion.dottedWords index).Within Plain :=
    ⟨⟨hword, hword⟩, hdot, hword, hword⟩
  refine ⟨byteIs_within (by decide), ⟨⟨hdigit, hdigit⟩, hdot, hdigit, hdigit⟩, ?_, ?_⟩
  · exact ⟨byteIs_within (by decide), hwords 5⟩
  · exact ⟨byteIs_within (by decide), hwords 8⟩

theorem plain_of_newVersion (h : GoVersion.newVersion s = .ok semver) : ∀ b ∈ s, Plain b := by
  unfold GoVersion.newVersion at h
  split at h
  · cases h
  · rename_i matched hmatched
    exact Regex.forall_of_find versionRegexp_within hmatched

/-- Such text is the same as bytes and as a string. -/
theorem bytesOf_asciiText (h : ∀ b ∈ s, Plain b) : bytesOf (asciiText s) = s := by
  have hbyte : ∀ b ∈ s, encodeRune (Char.ofNat b.toNat).toNat = [b] := by
    intro b hb
    have hnat : b.toNat < 0x80 := (h b hb).lt
    rw [Char.toNat_ofNat, if_pos (.inl (by omega))]
    exact encodeRune_of_lt (h b hb).lt
  unfold bytesOf asciiText
  rw [String.toList_ofList, List.flatMap_map]
  induction s with
  | nil => rfl
  | cons b rest ih =>
      rw [List.flatMap_cons, hbyte b List.mem_cons_self,
        ih (fun b hb => h b (List.mem_cons_of_mem _ hb))
          (fun b hb => hbyte b (List.mem_cons_of_mem _ hb))]
      rfl

end Grammar

namespace CassandraVersion

section Encoding

variable {v v₀ : CassandraVersion} {s : Bytes}

/-- A value that was set: the text, and what it parses to. -/
theorem of_set (h : v₀.set s = (v, none)) :
    ∃ semver, GoVersion.newVersion s = .ok semver ∧ v = ⟨asciiText s, some semver⟩ := by
  unfold set at h
  split at h
  · cases h
  · rename_i semver hsemver
    exact ⟨semver, hsemver, (Prod.mk.inj h).1.symm⟩

theorem set_of_newVersion {semver : GoVersion} (h : GoVersion.newVersion s = .ok semver)
    (w : CassandraVersion) : w.set s = (⟨asciiText s, some semver⟩, none) := by
  rw [set, h]

/-- What is written of a value that was set reads back as that value. -/
theorem marshalJSON_of_set (u : Printable) (h : v₀.set s = (v, none)) :
    v.marshalJSON u = 0x22 :: s ++ [0x22] ∧
      ∀ w : CassandraVersion, w.unmarshalJSON (v.marshalJSON u) = (v, none) := by
  obtain ⟨semver, hsemver, rfl⟩ := of_set h
  have hplain := plain_of_newVersion hsemver
  have hmarshal : marshalJSON u ⟨asciiText s, some semver⟩ = 0x22 :: s ++ [0x22] := by
    rw [marshalJSON, string, bytesOf_asciiText hplain, quote_of_plain u hplain]
  refine ⟨hmarshal, ?_⟩
  intro w
  rw [hmarshal, unmarshalJSON, unquote_of_plain hplain]
  exact set_of_newVersion hsemver w

theorem equal_self {semver : GoVersion} (h : v.semver = some semver) : v.equal v = .ok true := by
  simp only [equal, deref, h]
  exact congrArg Except.ok semver.equal_refl

/-- A failed `set` leaves the value as it was. -/
theorem set_of_error {e : Err} {v' : CassandraVersion} (h : v.set s = (v', some e)) : v' = v := by
  unfold set at h
  split at h
  · exact (Prod.mk.inj h).1.symm
  · cases h

theorem unmarshalJSON_of_error {data : Bytes} {e : Err} {v' : CassandraVersion}
    (h : v.unmarshalJSON data = (v', some e)) : v' = v := by
  unfold unmarshalJSON at h
  split at h
  · exact (Prod.mk.inj h).1.symm
  · exact set_of_error h

end Encoding

/-- What reading and writing keep of a version. -/
structure Kept (v v' : CassandraVersion) : Prop where
  string : v'.string = v.string
  equal : v'.equal v = .ok true

/-- Every version that is accepted survives a round trip through its encoding,
and a copy; its encoding is a JSON string that means its text.  What cannot be
decoded leaves the receiver as it was. -/
theorem version_encoding_round_trip (u : Printable) :
    (∀ v₀ v s, set v₀ s = (v, none) →
      (∀ w, ∃ v', unmarshalJSON w (v.marshalJSON u) = (v', none) ∧ Kept v v') ∧
        (∃ v', v.deepCopy = .ok v' ∧ Kept v v') ∧
        jsonString (v.marshalJSON u) = some s ∧ v.string = s) ∧
      ∀ v data v' e, unmarshalJSON v data = (v', some e) → v' = v := by
  refine ⟨?_, fun v data v' e => unmarshalJSON_of_error⟩
  intro v₀ v s hset
  obtain ⟨hmarshal, hunmarshal⟩ := marshalJSON_of_set u hset
  obtain ⟨semver, hsemver, rfl⟩ := of_set hset
  have hplain := plain_of_newVersion hsemver
  have hstring : string ⟨asciiText s, some semver⟩ = s := bytesOf_asciiText hplain
  have hkept : Kept ⟨asciiText s, some semver⟩ ⟨asciiText s, some semver⟩ := ⟨rfl, equal_self rfl⟩
  refine ⟨fun w => ⟨_, hunmarshal w, hkept⟩, ⟨_, ?_, hkept⟩, ?_, hstring⟩
  · simp only [deepCopy, new, hstring, set_of_newVersion hsemver]
  · rw [hmarshal, jsonString_of_plain hplain]

end CassandraVersion

namespace VersionEncodingWitness

/-- `3.11`. -/
def text : Bytes := [51, 46, 49, 49]

def printable : Printable := ⟨fun _ => true, fun _ _ _ => rfl⟩

def version : CassandraVersion := (CassandraVersion.zero.set text).1

theorem version_encoding_round_trip_minor :
    version.semver = some { segments := [3, 11, 0], si := 2 } ∧
      version.marshalJSON printable = [34, 51, 46, 49, 49, 34] ∧
      jsonString (version.marshalJSON printable) = some text := by
  have hset : CassandraVersion.zero.set text = (version, none) := by decide +kernel
  have hfacts : version.semver = some { segments := [3, 11, 0], si := 2 } ∧
      version.marshalJSON printable = [34, 51, 46, 49, 49, 34] := by
    decide +kernel
  have hround := (CassandraVersion.version_encoding_round_trip printable).1 _ _ _ hset
  exact ⟨hfacts.1, hfacts.2, hround.2.2.1⟩

end VersionEncodingWitness

end Navigator
