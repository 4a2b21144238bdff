/-
Command line flags as spf13/pflag keeps and parses them, for flags without
shorthands: strings, string slices, switches and numbers.
-/
import Navigator.Base.Csv

namespace ControlLoop

/-- `readAsCSV`. -/
def readAsCSV (val : String) : Except Csv.ReadError (List String) :=
  if val = "" then .ok []
  else match Csv.read val.toList with
    | .ok fields => .ok (fields.map String.ofList)
    | .error e => .error e

/-- The strings come through when they are joined with commas and given to a string
slice. -/
structure SurvivesJoin (texts : List String) : Prop where
  notBlank : texts ≠ [""]
  clean : ∀ text ∈ texts, Csv.Clean text.toList
  noReturn : ∀ last ∈ texts.getLast?, last.toList.getLast? ≠ some '\r'

theorem survives_toList_iff {texts : List String} :
    Csv.Survives (texts.map String.toList) ↔ SurvivesJoin texts := by
  have hblank : texts.map String.toList = [[]] ↔ texts = [""] := by
    rw [show [[]] = [""].map String.toList from rfl, List.map_inj_right fun _ _ => String.toList_inj.mp]
  constructor
  · intro h
    refine ⟨mt hblank.mpr h.notBlank, fun text htext => h.clean _ (List.mem_map_of_mem htext), ?_⟩
    intro last hlast
    exact h.noReturn last.toList (by rw [List.getLast?_map]; exact Option.mem_map_of_mem _ hlast)
  · intro h
    refine ⟨mt hblank.mp h.notBlank, ?_, ?_⟩
    · intro text htext
      obtain ⟨original, horiginal, rfl⟩ := List.mem_map.mp htext
      exact h.clean original horiginal
    · intro last hlast
      rw [List.getLast?_map] at hlast
      obtain ⟨original, horiginal, rfl⟩ := Option.mem_map.mp hlast
      exact h.noReturn original horiginal

/-- A string with the quotes and line breaks of the joined strings is read as them
exactly when it is the joined one and they survive. -/
theorem readAsCSV_eq_ok_iff {val : String} {texts : List String}
    (hspecial : val.toList.countP Csv.special =
      (",".intercalate texts).toList.countP Csv.special) :
    readAsCSV val = .ok texts ↔ val = ",".intercalate texts ∧ SurvivesJoin texts := by
  have hjoin : (",".intercalate texts).toList = Csv.join (texts.map String.toList) :=
    String.toList_intercalate
  have hread : ∀ fields : List (List Char),
      fields.map String.ofList = texts ↔ fields = texts.map String.toList := by
    intro fields
    constructor
    · rintro rfl
      simp [Function.comp_def]
    · rintro rfl
      simp [Function.comp_def]
  rw [readAsCSV]
  by_cases hempty : val = ""
  · -- nothing is read as no strings, where the reader finds no record
    subst hempty
    rw [if_pos rfl, ← String.toList_inj, hjoin]
    constructor
    · intro h
      cases h
      exact ⟨rfl, by simp, by simp, by simp⟩
    · rintro ⟨hnothing, hsurvives⟩
      rcases Csv.eq_nil_or_of_join_eq_nil hnothing.symm with hnil | hblank
      · rw [List.map_eq_nil_iff.mp hnil]
      · rw [(hread [[]]).mpr hblank.symm |>.symm] at hsurvives
        exact absurd rfl hsurvives.notBlank
  · rw [if_neg hempty]
    have hmatch : (match Csv.read val.toList with
        | .ok fields => Except.ok (fields.map String.ofList)
        | .error e => .error e) = Except.ok texts ↔
        Csv.read val.toList = .ok (texts.map String.toList) := by
      cases Csv.read val.toList with
      | error e => simp
      | ok fields => simp only [Except.ok.injEq, hread]
    rw [hmatch]
    by_cases hnil : texts = []
    · subst hnil
      exact iff_of_false (Csv.read_ne_nil hspecial) fun h => hempty h.1
    · rw [hjoin] at hspecial
      rw [Csv.read_eq_ok_iff (by simpa using hnil) hspecial, survives_toList_iff, ← hjoin,
        String.toList_inj]

/-- Strings joined with commas are read back exactly when they survive. -/
theorem readAsCSV_intercalate_iff {texts : List String} :
    readAsCSV (",".intercalate texts) = .ok texts ↔ SurvivesJoin texts :=
  (readAsCSV_eq_ok_iff rfl).trans (and_iff_right rfl)

inductive ValueError where
  | csv (cause : Csv.ReadError)
  | notBool (text : String)
  | notNumber (text : String)
deriving DecidableEq

/-- `strconv.ParseBool`. -/
def parseBool (text : String) : Except ValueError Bool :=
  if text ∈ ["1", "t", "T", "TRUE", "true", "True"] then .ok true
  else if text ∈ ["0", "f", "F", "FALSE", "false", "False"] then .ok false
  else .error (.notBool text)

/-- The number that decimal digits stand for. -/
def digits (text : List Char) : Option Nat :=
  if text ≠ [] ∧ text.all Char.isDigit then
    some (text.foldl (fun n c => 10 * n + (c.toNat - '0'.toNat)) 0)
  else none

/-- `strconv.Atoi`, with 64-bit numbers. -/
def atoi (text : String) : Except ValueError Int :=
  let number : Option Int := match text.toList with
    | '-' :: rest => (digits rest).map fun n => -(n : Int)
    | '+' :: rest => (digits rest).map fun n => (n : Int)
    | rest => (digits rest).map fun n => (n : Int)
  match number with
  | some n => if -2 ^ 63 ≤ n ∧ n < 2 ^ 63 then .ok n else .error (.notNumber text)
  | none => .error (.notNumber text)

/-- The value of a flag.  A string slice remembers whether it was set. -/
inductive FlagValue where
  | string (value : String)
  | stringSlice (value : List String) (changed : Bool)
  | bool (value : Bool)
  | int (value : Int)
deriving DecidableEq

namespace FlagValue

/-- `Value.Set`. -/
def set (text : String) : FlagValue → Except ValueError FlagValue
  | string _ => .ok (string text)
  | stringSlice value changed =>
      match readAsCSV text with
      | .ok v => .ok (stringSlice (if changed then value ++ v else v) true)
      | .error e => .error (.csv e)
  | bool _ => (parseBool text).map bool
  | int _ => (atoi text).map int

theorem set_string_eq_ok_iff {value text : String} {value' : FlagValue} :
    (string value).set text = .ok value' ↔ value' = string text := by
  simp [set, eq_comm]

theorem set_stringSlice_eq_ok_iff {value : List String} {changed : Bool} {text : String}
    {value' : FlagValue} :
    (stringSlice value changed).set text = .ok value' ↔ ∃ texts, readAsCSV text = .ok texts ∧
      value' = stringSlice (if changed then value ++ texts else texts) true := by
  unfold set
  cases readAsCSV text with
  | error e => simp
  | ok texts => simp [eq_comm]

/-- The value of a flag that is given without one. -/
def noOptDefVal : FlagValue → String
  | bool _ => "true"
  | _ => ""

end FlagValue

structure Flag where
  name : String
  value : FlagValue
deriving DecidableEq

abbrev FlagSet := List Flag

inductive FlagError where
  | badSyntax (arg : String)
  | unknownFlag (name : String)
  | unknownShorthand (arg : String)
  | needsArgument (arg : String)
  | invalidArgument (text name : String) (cause : ValueError)
deriving DecidableEq

namespace FlagSet

def lookup (flags : FlagSet) (name : String) : Option FlagValue :=
  (flags.find? fun flag => flag.name = name).map Flag.value

def store (flags : FlagSet) (name : String) (value : FlagValue) : FlagSet :=
  flags.map fun flag => if flag.name = name then { flag with value := value } else flag

/-- `FlagSet.Set`. -/
def set (flags : FlagSet) (name text : String) : Except FlagError FlagSet :=
  match flags.lookup name with
  | none => .error (.unknownFlag name)
  | some value =>
      match value.set text with
      | .ok value => .ok (flags.store name value)
      | .error e => .error (.invalidArgument text name e)

/-- One after the other, until a value is refused. -/
def setAll : FlagSet → List (String × String) → Except FlagError FlagSet
  | flags, [] => .ok flags
  | flags, (name, text) :: rest => do setAll (← flags.set name text) rest

/-- `parseArgs` and `parseLongArg`. -/
def parseArgs : FlagSet → List String → Except FlagError FlagSet
  | flags, [] => .ok flags
  | flags, arg :: args =>
      match arg.toList with
      | '-' :: '-' :: chars =>
          let name := String.ofList (chars.takeWhile (· ≠ '='))
          if chars = [] then .ok flags
          else if chars.head? = some '-' ∨ chars.head? = some '=' then .error (.badSyntax arg)
          else match flags.lookup name, chars.dropWhile (· ≠ '=') with
            | none, _ => .error (.unknownFlag name)
            | some _, _ :: text => do parseArgs (← flags.set name (String.ofList text)) args
            | some value, [] =>
                if value.noOptDefVal ≠ "" then do
                  parseArgs (← flags.set name value.noOptDefVal) args
                else match args with
                  | text :: args => do parseArgs (← flags.set name text) args
                  | [] => .error (.needsArgument arg)
      | '-' :: _ :: _ => .error (.unknownShorthand arg)
      | _ => parseArgs flags args

theorem lookup_store (flags : FlagSet) (name other : String) (value : FlagValue) :
    (flags.store name value).lookup other =
      if other = name then (flags.lookup other).map fun _ => value else flags.lookup other := by
  induction flags with
  | nil => simp [store, lookup]
  | cons flag flags ih =>
      unfold store lookup at ih ⊢
      by_cases hname : flag.name = name <;> by_cases hother : flag.name = other <;>
        grind

theorem lookup_store_of_ne {flags : FlagSet} {name other : String} {value : FlagValue}
    (h : other ≠ name) : (flags.store name value).lookup other = flags.lookup other := by
  rw [lookup_store, if_neg h]

theorem set_eq_ok_iff {flags flags' : FlagSet} {name text : String} :
    flags.set name text = .ok flags' ↔ ∃ value value', flags.lookup name = some value ∧
      value.set text = .ok value' ∧ flags' = flags.store name value' := by
  unfold set
  cases flags.lookup name with
  | none => simp
  | some value =>
      cases hset : value.set text with
      | error e => simp [hset]
      | ok value' => simp [hset, eq_comm]

/-- The flag takes the text. -/
def Takes (flags : FlagSet) (a : String × String) (value' : FlagValue) : Prop :=
  ∃ value, flags.lookup a.1 = some value ∧ value.set a.2 = .ok value'

/-- When different flags are set, each one takes its text and has its value in the
end, and the others are as they were. -/
theorem lookup_of_setAll {flags flags' : FlagSet} {assignments : List (String × String)}
    (h : setAll flags assignments = .ok flags') (hnodup : (assignments.map Prod.fst).Nodup) :
    (∀ a ∈ assignments, ∃ value', flags.Takes a value' ∧ flags'.lookup a.1 = some value') ∧
      ∀ name ∉ assignments.map Prod.fst, flags'.lookup name = flags.lookup name := by
  induction assignments generalizing flags with
  | nil =>
      cases h
      exact ⟨fun a ha => absurd ha List.not_mem_nil, fun _ _ => rfl⟩
  | cons first rest ih =>
      obtain ⟨hfirst, hrest⟩ := List.nodup_cons.mp hnodup
      cases hset : flags.set first.1 first.2 with
      | error e =>
          rw [setAll, hset] at h
          cases h
      | ok flags₁ =>
          rw [setAll, hset] at h
          obtain ⟨value, value', hlookup, hvalue, rfl⟩ := set_eq_ok_iff.mp hset
          obtain ⟨hall, hothers⟩ := ih h hrest
          constructor
          · intro a ha
            rcases List.mem_cons.mp ha with rfl | ha
            · refine ⟨value', ⟨value, hlookup, hvalue⟩, ?_⟩
              rw [hothers a.1 hfirst, lookup_store, if_pos rfl, hlookup]
              rfl
            · have hne : a.1 ≠ first.1 := fun heq => hfirst (heq ▸ List.mem_map_of_mem ha)
              obtain ⟨after, ⟨before, hbefore, htext⟩, hafter⟩ := hall a ha
              rw [lookup_store_of_ne hne] at hbefore
              exact ⟨after, ⟨before, hbefore, htext⟩, hafter⟩
          · intro name hname
            simp only [List.map_cons, List.mem_cons, not_or] at hname
            rw [hothers name hname.2, lookup_store_of_ne hname.1]

/-- Different flags that take their texts can be set together. -/
theorem exists_setAll {flags : FlagSet} {assignments : List (String × String)}
    (hnodup : (assignments.map Prod.fst).Nodup)
    (htakes : ∀ a ∈ assignments, ∃ value', flags.Takes a value') :
    ∃ flags', setAll flags assignments = .ok flags' := by
  induction assignments generalizing flags with
  | nil => exact ⟨flags, rfl⟩
  | cons first rest ih =>
      obtain ⟨hfirst, hrest⟩ := List.nodup_cons.mp hnodup
      obtain ⟨value', value, hlookup, hvalue⟩ := htakes first List.mem_cons_self
      have hset := set_eq_ok_iff.mpr ⟨value, value', hlookup, hvalue, rfl⟩
      have htakes' : ∀ a ∈ rest, ∃ after, (flags.store first.1 value').Takes a after := by
        intro a ha
        have hne : a.1 ≠ first.1 := fun heq => hfirst (heq ▸ List.mem_map_of_mem ha)
        obtain ⟨after, before, hbefore, htext⟩ := htakes a (List.mem_cons_of_mem first ha)
        exact ⟨after, before, (lookup_store_of_ne hne).trans hbefore, htext⟩
      obtain ⟨flags', hflags'⟩ := ih hrest htakes'
      refine ⟨flags', ?_⟩
      rw [setAll, hset]
      exact hflags'

/-- A name that can stand before a value. -/
def PlainName (name : String) : Prop :=
  name.toList ≠ [] ∧ name.toList.head? ≠ some '-' ∧ '=' ∉ name.toList

instance (name : String) : Decidable (PlainName name) := inferInstanceAs (Decidable (_ ∧ _))

/-- A flag with its value. -/
theorem parseArgs_assign {name : String} (hname : PlainName name) (flags : FlagSet)
    (text : String) (args : List String) :
    parseArgs flags (("--" ++ name ++ "=" ++ text) :: args) =
      flags.set name text >>= fun flags => parseArgs flags args := by
  obtain ⟨hne, hdash, hequals⟩ := hname
  have hall : ∀ c ∈ name.toList, decide (c ≠ '=') = true := by
    intro c hc
    exact decide_eq_true fun heq => hequals (heq ▸ hc)
  have hchars : ("--" ++ name ++ "=" ++ text).toList =
      '-' :: '-' :: (name.toList ++ '=' :: text.toList) := by simp
  have hhead : (name.toList ++ '=' :: text.toList).head? = name.toList.head? := by
    cases hlist : name.toList with
    | nil => exact absurd hlist hne
    | cons c cs => rfl
  have hequals' : name.toList.head? ≠ some '=' := fun h => hequals (List.mem_of_head? h)
  have htake : (name.toList ++ '=' :: text.toList).takeWhile (· ≠ '=') = name.toList := by
    rw [List.takeWhile_append_of_pos hall]
    simp
  have hdrop : (name.toList ++ '=' :: text.toList).dropWhile (· ≠ '=') = '=' :: text.toList := by
    rw [List.dropWhile_append_of_pos hall]
    simp
  rw [parseArgs, hchars]
  simp only [htake, hdrop, hhead, String.ofList_toList]
  rw [if_neg (by simp), if_neg (by simp [hdash, hequals'])]
  cases hlookup : flags.lookup name with
  | none => simp [set, hlookup, bind, Except.bind]
  | some value => simp only [String.ofList_toList]

theorem parseArgs_assign_of_ok {name text : String} (hname : PlainName name)
    {flags flags' : FlagSet} (hset : flags.set name text = .ok flags') (args : List String) :
    parseArgs flags (("--" ++ name ++ "=" ++ text) :: args) = parseArgs flags' args := by
  rw [parseArgs_assign hname, hset]
  rfl

/-- Flags with their values, one after the other. -/
theorem parseArgs_assignments {assignments : List (String × String)}
    (hnames : ∀ a ∈ assignments, PlainName a.1) (flags : FlagSet) :
    parseArgs flags (assignments.map fun a => "--" ++ a.1 ++ "=" ++ a.2) =
      setAll flags assignments := by
  induction assignments generalizing flags with
  | nil => rfl
  | cons a rest ih =>
      rw [List.map_cons, parseArgs_assign (hnames a List.mem_cons_self), setAll]
      congr 1
      funext flags
      exact ih (fun b hb => hnames b (List.mem_cons_of_mem a hb)) flags

/-- A switch. -/
theorem parseArgs_switch {name : String} (hname : PlainName name) {flags : FlagSet} {value : Bool}
    (hlookup : flags.lookup name = some (.bool value)) (args : List String) :
    parseArgs flags (("--" ++ name) :: args) =
      parseArgs (flags.store name (.bool true)) args := by
  obtain ⟨hne, hdash, hequals⟩ := hname
  have hall : ∀ c ∈ name.toList, decide (c ≠ '=') = true := by
    intro c hc
    exact decide_eq_true fun heq => hequals (heq ▸ hc)
  have hchars : ("--" ++ name).toList = '-' :: '-' :: name.toList := by simp
  have hequals' : name.toList.head? ≠ some '=' := fun h => hequals (List.mem_of_head? h)
  have hset : flags.set name "true" = .ok (flags.store name (.bool true)) := by
    simp [set, hlookup, FlagValue.set, parseBool, Except.map]
  rw [parseArgs, hchars]
  simp only [List.takeWhile_eq_self_iff.mpr hall, List.dropWhile_eq_nil_iff.mpr hall,
    String.ofList_toList, hlookup]
  rw [if_neg hne, if_neg (by simp [hdash, hequals']), if_pos (by simp [FlagValue.noOptDefVal])]
  change flags.set name "true" >>= _ = _
  rw [hset]
  rfl

end FlagSet

end ControlLoop
