/-
The string and machine-integer operations of Go that the controllers use:
splitting at a separator, decimal rendering and parsing, quoting, and the
wrap-around of 32-bit arithmetic.
-/
import Mathlib

namespace Navigator

/-- The values of an `int32`. -/
def Int32Range (n : Int) : Prop := -2 ^ 31 ≤ n ∧ n < 2 ^ 31

instance (n : Int) : Decidable (Int32Range n) := inferInstanceAs (Decidable (_ ∧ _))

/-- The value a 32-bit signed addition or subtraction leaves in an `int32`. -/
def int32 (n : Int) : Int := n.bmod (2 ^ 32)

theorem int32_of_range {n : Int} (hlow : -2 ^ 31 ≤ n) (hhigh : n < 2 ^ 31) :
    int32 n = n := by
  rw [int32, Int.bmod_eq_of_le] <;> omega

theorem int32_range (n : Int) : Int32Range (int32 n) := by
  have hlow := Int.le_bmod (x := n) (m := 2 ^ 32) (by decide)
  have hhigh := Int.bmod_lt (x := n) (m := 2 ^ 32) (by decide)
  unfold Int32Range int32
  omega

/-- `%d`. -/
def decimal (n : Int) : String := Int.repr n

theorem decimal_injective {m n : Int} (h : decimal m = decimal n) : m = n :=
  Int.repr_injective h

/-- `%q` on the names that occur in messages. -/
def quoted (s : String) : String :=
  "\"" ++ String.ofList (s.toList.flatMap fun c =>
    if c = '"' then ['\\', '"'] else if c = '\\' then ['\\', '\\'] else [c]) ++ "\""

/-- The text before the first separator and, if there is one, the text after. -/
def cut (sep : Char) : List Char → List Char × Option (List Char)
  | [] => ([], none)
  | c :: cs =>
      if c = sep then ([], some cs)
      else (c :: (cut sep cs).1, (cut sep cs).2)

theorem cut_of_not_mem {sep : Char} {text : List Char} (h : sep ∉ text) :
    cut sep text = (text, none) := by
  induction text with
  | nil => rfl
  | cons c cs ih =>
      simp only [List.mem_cons, not_or] at h
      rw [cut, if_neg (Ne.symm h.1), ih h.2]

theorem cut_append {sep : Char} {text : List Char} (h : sep ∉ text) (rest : List Char) :
    cut sep (text ++ sep :: rest) = (text, some rest) := by
  induction text with
  | nil => simp [cut]
  | cons c cs ih =>
      simp only [List.mem_cons, not_or] at h
      rw [List.cons_append, cut, if_neg (Ne.symm h.1), ih h.2]

/-- `strings.SplitN`: at most `n` parts, the last one keeping its separators. -/
def splitN (sep : Char) : Nat → List Char → List (List Char)
  | 0, _ => []
  | 1, text => [text]
  | n + 2, text =>
      match cut sep text with
      | (before, none) => [before]
      | (before, some after) => before :: splitN sep (n + 1) after

/-- `strings.Split` at a single character. -/
def splitChars (sep : Char) : List Char → List (List Char)
  | [] => [[]]
  | c :: cs =>
      if c = sep then [] :: splitChars sep cs
      else match splitChars sep cs with
        | [] => [[c]]
        | part :: parts => (c :: part) :: parts

def split (sep : Char) (s : String) : List String :=
  (splitChars sep s.toList).map String.ofList

theorem splitChars_ne_nil (sep : Char) (text : List Char) : splitChars sep text ≠ [] := by
  cases text with
  | nil => simp [splitChars]
  | cons c cs =>
      simp only [splitChars]
      split
      · simp
      · split <;> simp

/-- Joining the parts restores the text, so splitting loses nothing. -/
theorem intercalate_splitChars (sep : Char) (text : List Char) :
    [sep].intercalate (splitChars sep text) = text := by
  induction text with
  | nil => rfl
  | cons c cs ih =>
      simp only [splitChars]
      split
      · rename_i hc
        cases hparts : splitChars sep cs with
        | nil => exact absurd hparts (splitChars_ne_nil sep cs)
        | cons part parts =>
            rw [hparts] at ih
            simp [List.intercalate, ← ih, hc]
      · cases hparts : splitChars sep cs with
        | nil => exact absurd hparts (splitChars_ne_nil sep cs)
        | cons part parts =>
            rw [hparts] at ih
            cases parts <;> simp_all [List.intercalate]

theorem split_injective (sep : Char) {s t : String} (h : split sep s = split sep t) :
    s = t := by
  have hparts : splitChars sep s.toList = splitChars sep t.toList :=
    List.map_injective_iff.mpr (fun _ _ => String.ofList_injective) h
  rw [← String.toList_inj, ← intercalate_splitChars sep s.toList,
    ← intercalate_splitChars sep t.toList, hparts]

/-- The digits of a decimal numeral, as a number. -/
def parseDigits (digits : List Char) : Option Nat :=
  if digits ≠ [] ∧ digits.all Char.isDigit then some (Nat.ofDigitChars 10 digits 0)
  else none

/-- `strconv.ParseInt(s, 10, 64)`, with `none` for an error. -/
def parseInt64 (s : String) : Option Int :=
  match s.toList with
  | '-' :: digits =>
      (parseDigits digits).bind fun n => if n ≤ 2 ^ 63 then some (-(n : Int)) else none
  | '+' :: digits =>
      (parseDigits digits).bind fun n => if n < 2 ^ 63 then some (n : Int) else none
  | digits =>
      (parseDigits digits).bind fun n => if n < 2 ^ 63 then some (n : Int) else none

/-- The loop of `strconv.ParseUint`, at the value of the digits read so far.  With its
errors it returns zero for a character that is no digit, and the largest value as soon
as the digits exceed it. -/
def parsedUint64 (value : Nat) : List Char → Nat
  | [] => value
  | c :: rest =>
      if c.isDigit then
        if 10 * value + (c.toNat - '0'.toNat) < 2 ^ 64 then
          parsedUint64 (10 * value + (c.toNat - '0'.toNat)) rest
        else 2 ^ 64 - 1
      else 0

/-- What `strconv.ParseInt(s, 10, 64)` returns, with an error or without: a number that
is out of range is returned as the nearest one that is not. -/
def parsedInt64 (s : String) : Int :=
  match s.toList with
  | '-' :: digits => -(min (parsedUint64 0 digits) (2 ^ 63) : Nat)
  | '+' :: digits => (min (parsedUint64 0 digits) (2 ^ 63 - 1) : Nat)
  | digits => (min (parsedUint64 0 digits) (2 ^ 63 - 1) : Nat)

theorem le_ofDigitChars (digits : List Char) (value : Nat) :
    value ≤ Nat.ofDigitChars 10 digits value := by
  induction digits generalizing value with
  | nil => exact Nat.le_refl value
  | cons c digits ih =>
      rw [Nat.ofDigitChars_cons]
      have hnext := ih (10 * value + (c.toNat - '0'.toNat))
      omega

theorem parsedUint64_of_digits {digits : List Char} {value : Nat}
    (hdigits : digits.all Char.isDigit = true)
    (hrange : Nat.ofDigitChars 10 digits value < 2 ^ 64) :
    parsedUint64 value digits = Nat.ofDigitChars 10 digits value := by
  induction digits generalizing value with
  | nil => rfl
  | cons c digits ih =>
      obtain ⟨hdigit, hrest⟩ := List.all_cons.symm.trans hdigits |> Bool.and_eq_true_iff.mp
      rw [Nat.ofDigitChars_cons] at hrange ⊢
      have hnext := le_ofDigitChars digits (10 * value + (c.toNat - '0'.toNat))
      rw [parsedUint64, if_pos hdigit, if_pos (Nat.lt_of_le_of_lt hnext hrange), ih hrest hrange]

theorem parsedUint64_of_parseDigits {digits : List Char} {n : Nat}
    (h : parseDigits digits = some n) (hrange : n < 2 ^ 64) : parsedUint64 0 digits = n := by
  unfold parseDigits at h
  split at h
  · rename_i hdigits
    obtain rfl := Option.some.inj h
    exact parsedUint64_of_digits hdigits.2 hrange
  · cases h

/-- Without an error it is the number. -/
theorem parsedInt64_of_parseInt64 {s : String} {n : Int} (h : parseInt64 s = some n) :
    parsedInt64 s = n := by
  have hpositive : ∀ digits, ((parseDigits digits).bind fun n =>
      if n < 2 ^ 63 then some (n : Int) else none) = some n →
      ((min (parsedUint64 0 digits) (2 ^ 63 - 1) : Nat) : Int) = n := by
    intro digits h
    obtain ⟨value, hvalue, h⟩ := Option.bind_eq_some_iff.mp h
    obtain ⟨hrange, h⟩ := Option.ite_none_right_eq_some.mp h
    obtain rfl := Option.some.inj h
    rw [parsedUint64_of_parseDigits hvalue (by omega)]
    omega
  unfold parseInt64 at h
  unfold parsedInt64
  generalize s.toList = chars at h ⊢
  split at h
  · obtain ⟨value, hvalue, h⟩ := Option.bind_eq_some_iff.mp h
    obtain ⟨hrange, h⟩ := Option.ite_none_right_eq_some.mp h
    obtain rfl := Option.some.inj h
    simp only [parsedUint64_of_parseDigits hvalue (by omega)]
    omega
  · exact hpositive _ h
  · exact hpositive _ h

theorem toList_decimal (n : Nat) : (decimal n).toList = Nat.toDigits 10 n := by
  simp [decimal, Int.repr, Nat.toList_repr]

theorem isDigit_of_mem_decimal {n : Nat} {c : Char} (h : c ∈ (decimal n).toList) :
    c.isDigit := by
  rw [toList_decimal] at h
  exact Nat.isDigit_of_mem_toDigits (by decide) (by decide) h

theorem parseDigits_decimal (n : Nat) : parseDigits (decimal n).toList = some n := by
  have hdigits : (decimal n).toList.all Char.isDigit = true :=
    List.all_eq_true.mpr fun c hc => isDigit_of_mem_decimal hc
  rw [toList_decimal] at hdigits ⊢
  rw [parseDigits, if_pos ⟨Nat.toDigits_ne_nil, hdigits⟩, Nat.ofDigitChars_ten_toDigits]

end Navigator
