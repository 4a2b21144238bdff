/-
Resource quantities: how a text becomes a number with a scale, and in what form
the number is written again.  A text in canonical form is kept beside the number;
any other text is forgotten.
-/
import Navigator.Meta

namespace Navigator

/-- The value a 64-bit signed operation leaves in an `int64`. -/
def int64 (n : Int) : Int := n.bmod (2 ^ 64)

def mostNegative : Int := -2 ^ 63
def mostPositive : Int := 2 ^ 63 - 1

/-- What `ParseQuantity` may say of a text.  The last one is a panic: the table of
powers of ten is read at a negative index. -/
inductive QuantityError where
  | formatWrong
  | numeric
  | suffix
  | indexOutOfRange
deriving DecidableEq

def QuantityError.err : QuantityError → Err
  | formatWrong => .plain ("quantities must match the regular expression " ++
      "'^([+-]?[0-9.]+)([eEinumkKMGTP]*[-+]?[0-9]*)$'")
  | numeric => .plain "unable to parse numeric part of quantity"
  | suffix => .plain "unable to parse quantity's suffix"
  | indexOutOfRange => .plain "runtime error: index out of range"

/-! ## Decimals of any size -/

/-- `inf.Dec`: the number `unscaled * 10 ^ (-scale)`. -/
structure Dec where
  unscaled : Int
  scale : Int
deriving DecidableEq

namespace Dec

/-- `exp10`. -/
def exp10 (x : Int) : Except QuantityError Int :=
  if x < 0 then .error .indexOutOfRange else .ok (10 ^ x.toNat)

/-- `Dec.SetString`: a sign, and digits with at most one point among them. -/
def setString (text : List Char) : Option Dec :=
  let (negative, body) := match text with
    | '-' :: rest => (true, rest)
    | '+' :: rest => (false, rest)
    | _ => (false, text)
  let (before, after) := cut '.' body
  (parseDigits (before ++ after.getD [])).map fun n =>
    { unscaled := if negative then -n else n
      scale := (after.getD []).length }

/-- `Dec.Round` with `RoundUp`, which rounds away from zero. -/
def round (x : Dec) (s : Int) : Except QuantityError Dec := do
  let shift := int32 (s - x.scale)
  let (ix, iy) ←
    if shift > 0 then do
      let power ← exp10 shift
      pure (x.unscaled * power, 1)
    else if shift < 0 then do
      let power ← exp10 (int32 (-shift))
      pure (x.unscaled, power)
    else pure (x.unscaled, 1)
  let quotient := ix.tdiv iy
  let remainder := ix.tmod iy
  pure { unscaled := quotient + remainder.sign, scale := s }

/-- `Dec.rescale`. -/
def rescale (x : Dec) (newScale : Int) : Except QuantityError Dec := do
  let shift := int32 (newScale - x.scale)
  if shift < 0 then do
    let power ← exp10 (int32 (-shift))
    pure { unscaled := x.unscaled.tdiv power, scale := newScale }
  else if shift > 0 then do
    let power ← exp10 shift
    pure { unscaled := x.unscaled * power, scale := newScale }
  else pure x

/-- `Dec.Cmp`. -/
def cmp (x y : Dec) : Except QuantityError Ordering := do
  if x.scale = y.scale then pure (compare x.unscaled y.unscaled)
  else if x.scale > y.scale then do
    let yy ← y.rescale x.scale
    pure (compare x.unscaled yy.unscaled)
  else do
    let xx ← x.rescale y.scale
    pure (compare xx.unscaled y.unscaled)

def neg (x : Dec) : Dec := { x with unscaled := -x.unscaled }

/-- The loop of `removeBigIntFactors`. -/
def removeFactors (factor : Int) : Nat → Int → Int × Int
  | 0, d => (d, 0)
  | fuel + 1, d =>
      if d ≠ 0 ∧ d % factor = 0 then
        let (result, times) := removeFactors factor fuel (d / factor)
        (result, times + 1)
      else (d, 0)

/-- `removeBigIntFactors`: what is left of `d`, and how often it was divided. -/
def removeBigIntFactors (d factor : Int) : Int × Int :=
  removeFactors factor (d.natAbs.log2 + 1) d

/-- The loop that makes the exponent a multiple of three.  It runs three times at most,
and that often only when the exponent wraps around. -/
def alignExponent : Nat → Int → Int → Int × Int
  | 0, amount, exponent => (amount, exponent)
  | fuel + 1, amount, exponent =>
      if exponent.tmod 3 = 0 then (amount, exponent)
      else alignExponent fuel (amount * 10) (int32 (exponent - 1))

/-- `infDecAmount.AsCanonicalBytes`. -/
def asCanonicalBytes (a : Dec) : String × Int :=
  let (amount, times) := removeBigIntFactors a.unscaled 10
  let (amount, exponent) := alignExponent 3 amount (int32 (int32 (-a.scale) + times))
  (decimal amount, exponent)

/-- `infDecAmount.AsCanonicalBase1024Bytes`. -/
def asCanonicalBase1024Bytes (a : Dec) : Except QuantityError (String × Int) := do
  let tmp ← a.round 0
  let (amount, exponent) := removeBigIntFactors tmp.unscaled 1024
  pure (decimal amount, exponent)

/-- `infDecAmount.AsScale`: the rounded number, and whether it is exact. -/
def asScale (a : Dec) (scale : Int) : Except QuantityError (Dec × Bool) := do
  let tmp ← a.round (int32 (-scale))
  pure (tmp, (← tmp.cmp a) = .eq)

end Dec

/-! ## Numbers that fit a machine word -/

/-- `int64Multiply`. -/
def int64Multiply (a b : Int) : Option Int :=
  if a = 0 ∨ b = 0 ∨ a = 1 ∨ b = 1 then some (int64 (a * b))
  else if a = mostNegative ∨ b = mostNegative then none
  else if (int64 (a * b)).tdiv b = a then some (int64 (a * b)) else none

/-- `int64MultiplyScale`, and its variants for ten, a hundred and a thousand. -/
def int64MultiplyScale (a b : Int) : Option Int :=
  if a = 0 ∨ a = 1 then some (int64 (a * b))
  else if a = mostNegative ∧ b ≠ 1 then none
  else if (int64 (a * b)).tdiv b = a then some (int64 (a * b)) else none

/-- The loop of `positiveScaleInt64`. -/
def multiplyByTens : Nat → Int → Option Int
  | 0, value => some value
  | n + 1, value => (int64MultiplyScale value 10).bind (multiplyByTens n)

/-- `positiveScaleInt64`. -/
def positiveScaleInt64 (base scale : Int) : Option Int :=
  if scale = 0 then some base
  else if scale = 1 then int64MultiplyScale base 10
  else if scale = 2 then int64MultiplyScale base 100
  else if scale = 3 then int64MultiplyScale base 1000
  else if scale = 6 then int64MultiplyScale base 1000000
  else if scale = 9 then int64MultiplyScale base 1000000000
  else multiplyByTens scale.toNat base

/-- The loop of `negativeScaleInt64`, which ends early at zero. -/
def divideByTens (base : Int) : Nat → Int → Bool → Int × Bool
  | 0, value, fraction =>
      if fraction then (if base > 0 then int64 (value + 1) else int64 (value - 1), false)
      else (value, true)
  | n + 1, value, fraction =>
      let fraction := fraction || value.tmod 10 ≠ 0
      let value := value.tdiv 10
      if value = 0 then
        if fraction then (if base > 0 then 1 else -1, false) else (0, true)
      else divideByTens base n value fraction

/-- `negativeScaleInt64`: the number rounded away from zero, and whether it is exact. -/
def negativeScaleInt64 (base scale : Int) : Int × Bool :=
  if scale = 0 then (base, true) else divideByTens base scale.toNat base false

/-- `divideByScaleInt64`, with `none` where no such division is made. -/
def divideByScaleInt64 (base scale : Int) : Option (Int × Int) :=
  if scale = 0 then some (base, 0)
  else if scale ≥ 18 then none
  else some (base.tdiv (10 ^ scale.toNat), base.tmod (10 ^ scale.toNat))

/-- The loop of `removeInt64Factors`. -/
def divideOut (base : Int) : Nat → Int → Int × Int
  | 0, result => (result, 0)
  | fuel + 1, result =>
      if result ≥ base ∧ result.tmod base = 0 then
        let (rest, times) := divideOut base fuel (result.tdiv base)
        (rest, times + 1)
      else (result, 0)

/-- `removeInt64Factors`. -/
def removeInt64Factors (value base : Int) : Int × Int :=
  let (result, times) := divideOut base 63 (if value < 0 then int64 (-value) else value)
  (if value < 0 then int64 (-result) else result, times)

/-- `int64Amount`: the number `value * 10 ^ scale`. -/
structure Int64Amount where
  value : Int := 0
  scale : Int := 0
deriving DecidableEq

namespace Int64Amount

/-- `int64Amount.AsDec`. -/
def asDec (a : Int64Amount) : Dec := { unscaled := a.value, scale := int32 (-a.scale) }

/-- `int64Amount.Cmp`. -/
def cmp (a b : Int64Amount) : Except QuantityError Ordering :=
  if a.scale = b.scale then .ok (compare a.value b.value)
  else if a.scale > b.scale then
    match divideByScaleInt64 b.value (int32 (a.scale - b.scale)) with
    | none => a.asDec.cmp b.asDec
    | some (result, remainder) =>
        .ok (if result = a.value then compare 0 remainder else compare a.value result)
  else
    match divideByScaleInt64 a.value (int32 (b.scale - a.scale)) with
    | none => a.asDec.cmp b.asDec
    | some (result, remainder) =>
        .ok (if result = b.value then compare remainder 0 else compare result b.value)

/-- `int64Amount.AsScale`. -/
def asScale (a : Int64Amount) (scale : Int) : Int64Amount × Bool :=
  if a.scale ≥ scale then (a, true)
  else
    let (result, exact) := negativeScaleInt64 a.value (int32 (scale - a.scale))
    ({ value := result, scale := scale }, exact)

/-- `int64Amount.AsScaledInt64`. -/
def asScaledInt64 (a : Int64Amount) (scale : Int) : Option Int :=
  if a.scale < scale then some (negativeScaleInt64 a.value (int32 (scale - a.scale))).1
  else positiveScaleInt64 a.value (int32 (a.scale - scale))

/-- `int64Amount.AsCanonicalBytes`. -/
def asCanonicalBytes (a : Int64Amount) : String × Int :=
  let (amount, times) := removeInt64Factors a.value 10
  let exponent := int32 (a.scale + times)
  let shift (factor steps : Int) : String × Int :=
    match int64MultiplyScale amount factor with
    | none => a.asDec.asCanonicalBytes
    | some amount => (decimal amount, int32 (exponent - steps))
  if exponent.tmod 3 = 1 ∨ exponent.tmod 3 = -2 then shift 10 1
  else if exponent.tmod 3 = 2 ∨ exponent.tmod 3 = -1 then shift 100 2
  else (decimal amount, exponent)

/-- `int64Amount.AsCanonicalBase1024Bytes`. -/
def asCanonicalBase1024Bytes (a : Int64Amount) : Except QuantityError (String × Int) :=
  match a.asScaledInt64 0 with
  | none => a.asDec.asCanonicalBase1024Bytes
  | some value =>
      let (amount, exponent) := removeInt64Factors value 1024
      .ok (decimal amount, exponent)

end Int64Amount

/-! ## Suffixes -/

/-- The `Format` of a quantity.  It is empty in the zero value, and there is no other
text than these. -/
inductive Format where
  | unset
  | decimalExponent
  | binarySI
  | decimalSI
deriving DecidableEq

namespace QuantitySuffixer

def binSuffixes : List (String × Int) :=
  [("Ki", 10), ("Mi", 20), ("Gi", 30), ("Ti", 40), ("Pi", 50), ("Ei", 60)]

def decSuffixes : List (String × Int) :=
  [("n", -9), ("u", -6), ("m", -3), ("", 0), ("k", 3), ("M", 6), ("G", 9), ("T", 12), ("P", 15),
    ("E", 18)]

/-- `interpret`: base, exponent and format. -/
def interpret (suffix : String) : Option (Int × Int × Format) :=
  match decSuffixes.lookup suffix, binSuffixes.lookup suffix with
  | some exponent, _ => some (10, exponent, .decimalSI)
  | none, some exponent => some (2, exponent, .binarySI)
  | none, none =>
      match suffix.toList with
      | first :: rest =>
          if rest ≠ [] ∧ (first = 'E' ∨ first = 'e') then
            (parseInt64 (String.ofList rest)).map fun parsed =>
              (10, int32 parsed, .decimalExponent)
          else none
      | [] => none

/-- The suffix of an exponent, which is empty if there is none: the caller does not look
at the second result of `constructBytes`. -/
def construct (base exponent : Int) (format : Format) : String :=
  let found (table : List (String × Int)) : String :=
    ((table.find? fun entry => entry.2 = exponent).map Prod.fst).getD ""
  match format with
  | .decimalSI => if base = 2 then "" else found decSuffixes
  | .binarySI => if base = 2 then found binSuffixes else ""
  | .decimalExponent =>
      if base ≠ 10 ∨ exponent = 0 then "" else "e" ++ decimal exponent
  | .unset => ""

end QuantitySuffixer

/-! ## Quantities -/

/-- A quantity, field by field as the API machinery keeps it, so that equality is deep
equality.  The text `s` is there only if the quantity was parsed from its canonical
form. -/
structure Quantity where
  i : Int64Amount := {}
  d : Option Dec := none
  s : String := ""
  format : Format := .unset
deriving DecidableEq

namespace Quantity

def isZero (q : Quantity) : Bool :=
  match q.d with
  | some d => d.unscaled = 0
  | none => q.i.value = 0

def sign (q : Quantity) : Int :=
  match q.d with
  | some d => d.unscaled.sign
  | none => q.i.value.sign

theorem isZero_iff {q : Quantity} : q.isZero = true ↔ q.sign = 0 := by
  unfold isZero sign
  cases q.d with
  | none => simp
  | some d => simp

theorem sign_range (q : Quantity) : q.sign = 1 ∨ q.sign = 0 ∨ q.sign = -1 := by
  unfold sign
  cases q.d with
  | none => exact Int.sign_trichotomy _
  | some d => exact Int.sign_trichotomy _

/-- The results of `parseQuantityString`. -/
structure Scanned where
  positive : Bool
  value : List Char
  num : List Char
  denom : List Char := []
  suffix : List Char := []

/-- The part of `parseQuantityString` behind the number: letters, a sign and digits. -/
def scanSuffix (suffix : List Char) : Except QuantityError (List Char) :=
  let rest := suffix.dropWhile (· ∈ "eEinumkKMGTP".toList)
  let digits := match rest with
    | '-' :: digits => digits
    | '+' :: digits => digits
    | _ => rest
  if digits.dropWhile Char.isDigit = [] then .ok suffix else .error .formatWrong

/-- `parseQuantityString`. -/
def parseQuantityString (str : List Char) : Except QuantityError Scanned := do
  let (positive, unsigned) := match str with
    | '-' :: rest => (false, rest)
    | '+' :: rest => (true, rest)
    | _ => (true, str)
  let stripped := unsigned.dropWhile (· = '0')
  if stripped = [] then return { positive := positive, value := ['0'], num := ['0'] }
  let num := stripped.takeWhile Char.isDigit
  let rest := stripped.dropWhile Char.isDigit
  if rest = [] then return { positive := positive, value := str, num := num }
  let num := if num = [] then ['0'] else num
  let (denom, suffix) := match rest with
    | '.' :: fraction => (fraction.takeWhile Char.isDigit, fraction.dropWhile Char.isDigit)
    | _ => ([], rest)
  let value := str.take (str.length - suffix.length)
  let suffix ← scanSuffix suffix
  return { positive := positive, value := value, num := num, denom := denom, suffix := suffix }

/-- The digits that are expected to fit a machine word with their suffix: what is left
of them, the factor of a binary suffix and the power of ten. -/
def fastPath (scanned : Scanned) (exponent : Int) (format : Format) : Int × Int × Int :=
  match format with
  | .binarySI =>
      if exponent ≥ 0 ∧ scanned.denom = [] then
        (15 - scanned.num.length - exponent * 3 / 10 - 1, int64 (2 ^ exponent.toNat), 0)
      else (-1, 1, 0)
  | _ => (18 - (scanned.num.length + scanned.denom.length), 1, exponent)

/-- Is the text that was parsed the canonical one? -/
def isCanonical (shifted : List Char) (value exponent scale : Int) (format : Format) : Bool :=
  match format with
  | .binarySI => exponent.tmod 10 = 0 ∧ value % 8 ≠ 0
  | _ => scale.tmod 3 = 0 ∧ ¬ ['0', '0', '0'] <:+ shifted ∧ shifted.head? ≠ some '0'

/-- The bounds of a number with a binary suffix: it is capped, and a fraction is shown as
a decimal one. -/
def capBinary (amount : Dec) : Except QuantityError (Dec × Format) := do
  let amount := if (← amount.cmp ⟨mostPositive, 0⟩) = .gt then ⟨mostPositive, 0⟩ else amount
  if (← amount.cmp ⟨1, 0⟩) = .lt ∧ (← amount.cmp ⟨0, 0⟩) = .gt then
    return (amount, .decimalSI)
  else return (amount, .binarySI)

/-- A number that is not negative within the bounds: what is not zero is rounded up to a
thousand-millionth at least. -/
def bounded (amount : Dec) (format : Format) : Except QuantityError (Dec × Format) := do
  let amount ← if amount.unscaled ≠ 0 then amount.round 9 else pure amount
  if format = .binarySI then capBinary amount else pure (amount, format)

/-- The number with its suffix taken into account. -/
def withSuffix (amount : Dec) (base exponent : Int) : Dec :=
  if base = 10 then { amount with scale := int32 (amount.scale + int32 (-exponent)) }
  else { amount with unscaled := amount.unscaled * 2 ^ exponent.toNat }

/-- The part of `ParseQuantity` for numbers of any size. -/
def parseDec (scanned : Scanned) (base exponent : Int) (format : Format) :
    Except QuantityError Quantity :=
  match Dec.setString scanned.value with
  | none => .error .numeric
  | some amount => do
      let amount := withSuffix amount base exponent
      let negative := amount.unscaled < 0
      let (amount, format) ← bounded (if negative then amount.neg else amount) format
      pure { d := some (if negative then amount.neg else amount), format := format }

/-- The part of `ParseQuantity` for numbers that fit a machine word. -/
def parseInt (str : String) (scanned : Scanned) (exponent : Int) (format : Format) :
    Except QuantityError (Option Quantity) :=
  let (precision, mantissa, scale) := fastPath scanned exponent format
  let scale := int32 (scale - scanned.denom.length)
  let shifted := scanned.num ++ scanned.denom
  if precision ≥ 0 ∧ scale ≥ -9 then
    match parseInt64 (String.ofList shifted) with
    | none => .error .numeric
    | some value =>
        .ok ((int64Multiply value mantissa).map fun result =>
          { i := ⟨if scanned.positive then result else int64 (-result), scale⟩
            s := if isCanonical shifted value exponent scale format then str else ""
            format := format })
  else .ok none

/-- `ParseQuantity`. -/
def parseQuantity (str : String) : Except QuantityError Quantity :=
  if str = "" then .error .formatWrong
  else if str = "0" then .ok { format := .decimalSI, s := str }
  else do
    let scanned ← parseQuantityString str.toList
    match QuantitySuffixer.interpret (String.ofList scanned.suffix) with
    | none => .error .suffix
    | some (base, exponent, format) =>
        match ← parseInt str scanned exponent format with
        | some q => pure q
        | none => parseDec scanned base exponent format

/-- `CmpInt64`. -/
def cmpInt64 (q : Quantity) (y : Int) : Except QuantityError Ordering :=
  match q.d with
  | some d => d.cmp ⟨y, 0⟩
  | none => q.i.cmp { value := y }

/-- `AsCanonicalBytes`. -/
def asCanonicalBytes (q : Quantity) : String × Int :=
  match q.d with
  | some d => d.asCanonicalBytes
  | none => q.i.asCanonicalBytes

/-- The number and the suffix of base 1024 for `AsScale(0)`, if that is exact. -/
def asBinary (q : Quantity) : Except QuantityError (Option (String × Int)) :=
  match q.d with
  | some d => do
      let (rounded, exact) ← d.asScale 0
      if exact then some <$> rounded.asCanonicalBase1024Bytes else pure none
  | none =>
      let (rounded, exact) := q.i.asScale 0
      if exact then some <$> rounded.asCanonicalBase1024Bytes else pure none

/-- `CanonicalizeBytes`: the number and its suffix. -/
def canonicalizeBytes (q : Quantity) : Except QuantityError (String × String) := do
  if q.isZero then return ("0", "")
  let inDecimal (format : Format) : String × String :=
    let (number, exponent) := q.asCanonicalBytes
    (number, QuantitySuffixer.construct 10 exponent format)
  match q.format with
  | .decimalSI => return inDecimal .decimalSI
  | .binarySI =>
      if (← q.cmpInt64 (-1024)) = .gt ∧ (← q.cmpInt64 1024) = .lt then return inDecimal .decimalSI
      match ← q.asBinary with
      | none => return inDecimal .decimalSI
      | some (number, exponent) => return (number, QuantitySuffixer.construct 2 (exponent * 10) .binarySI)
  | _ => return inDecimal .decimalExponent

/-- `MarshalJSON`: the text that was kept, or the canonical form. -/
def marshalJSON (q : Quantity) : Except Err String :=
  if q.s ≠ "" then .ok ("\"" ++ q.s ++ "\"")
  else do
    let (number, suffix) ← q.canonicalizeBytes.mapError QuantityError.err
    return "\"" ++ (number ++ suffix) ++ "\""

end Quantity

/-- `unicode.IsSpace`. -/
def isSpace (c : Char) : Bool :=
  c.toNat ∈ [9, 10, 11, 12, 13, 32, 0x85, 0xa0, 0x1680, 0x2028, 0x2029, 0x202f, 0x205f, 0x3000] ||
    (0x2000 ≤ c.toNat && c.toNat ≤ 0x200a)

/-- `strings.TrimSpace`. -/
def trimSpace (text : List Char) : List Char :=
  (text.dropWhile isSpace).rdropWhile isSpace

namespace Quantity

/-- The text of a JSON value without the quotes around it. -/
def unquoted (value : List Char) : List Char :=
  if 2 ≤ value.length ∧ value.head? = some '"' ∧ value.getLast? = some '"' then
    value.tail.dropLast
  else value

/-- `UnmarshalJSON` of a zero quantity. -/
def unmarshalJSON (value : String) : Except Err Quantity :=
  if value = "null" then .ok {}
  else (parseQuantity (String.ofList (trimSpace (unquoted value.toList)))).mapError
    QuantityError.err

/-- What is read is what was written. -/
def Kept (q : Quantity) : Prop := (q.marshalJSON >>= unmarshalJSON) = .ok q

instance (q : Quantity) : Decidable q.Kept :=
  inferInstanceAs (Decidable ((q.marshalJSON >>= unmarshalJSON) = .ok q))

theorem s_of_parseDec {scanned : Scanned} {base exponent : Int} {format : Format} {q : Quantity}
    (h : parseDec scanned base exponent format = .ok q) : q.s = "" := by
  unfold parseDec at h
  split at h
  · cases h
  · obtain ⟨_, _, h⟩ := bind_eq_ok h
    cases h
    rfl

theorem s_of_parseInt {str : String} {scanned : Scanned} {exponent : Int} {format : Format}
    {q : Quantity} (h : parseInt str scanned exponent format = .ok (some q)) :
    q.s = "" ∨ q.s = str := by
  unfold parseInt at h
  dsimp only at h
  split at h
  · split at h
    · cases h
    · obtain ⟨result, _, rfl⟩ := Option.map_eq_some_iff.mp (Except.ok.inj h)
      dsimp only
      split
      · exact .inr rfl
      · exact .inl rfl
  · cases h

/-- A text is kept as it was, or not at all. -/
theorem s_of_parseQuantity {str : String} {q : Quantity} (h : parseQuantity str = .ok q) :
    q.s = "" ∨ q.s = str := by
  unfold parseQuantity at h
  split_ifs at h with hempty hzero
  · cases h
    exact .inr rfl
  · obtain ⟨scanned, _, h⟩ := bind_eq_ok h
    split at h
    · cases h
    · obtain ⟨fits, hfits, h⟩ := bind_eq_ok h
      cases fits with
      | none => exact .inl (s_of_parseDec h)
      | some q' =>
          cases h
          exact s_of_parseInt hfits

theorem trimSpace_idem (text : List Char) : trimSpace (trimSpace text) = trimSpace text := by
  have hstarts : (trimSpace text).dropWhile isSpace = trimSpace text := by
    cases htrim : trimSpace text with
    | nil => rfl
    | cons c rest =>
        obtain ⟨spaces, hprefix⟩ := List.rdropWhile_prefix isSpace (text.dropWhile isSpace)
        rw [← trimSpace, htrim, List.cons_append] at hprefix
        have hfirst := List.head?_dropWhile_not isSpace text
        rw [← hprefix, List.head?_cons] at hfirst
        exact List.dropWhile_cons_of_neg (by simpa using hfirst)
  rw [trimSpace, hstarts, trimSpace, List.rdropWhile_idempotent]

theorem unquoted_quoted (text : List Char) : unquoted ('"' :: (text ++ ['"'])) = text := by
  have hlast : ('"' :: text ++ ['"']).getLast? = some '"' := List.getLast?_concat
  rw [unquoted, if_pos ⟨by simp, rfl, hlast⟩, List.tail_cons, List.dropLast_concat]

theorem ok_of_mapError {ε ε' α : Type} {x : Except ε α} {f : ε → ε'} {a : α}
    (h : x.mapError f = .ok a) : x = .ok a := by
  cases x with
  | error e => cases h
  | ok b => exact congrArg Except.ok (Except.ok.inj h)

/-- A quantity that has kept its text comes back. -/
theorem kept_of_s {value : String} {q : Quantity} (h : unmarshalJSON value = .ok q)
    (htext : q.s ≠ "") : q.Kept := by
  unfold unmarshalJSON at h
  split_ifs at h with hnull
  · cases h
    exact absurd rfl htext
  · have hs := (s_of_parseQuantity (ok_of_mapError h)).resolve_left htext
    have hquoted : ("\"" ++ q.s ++ "\"").toList = '"' :: (q.s.toList ++ ['"']) := by simp
    have hnot : "\"" ++ q.s ++ "\"" ≠ "null" := by
      intro heq
      have hchars := congrArg String.toList heq
      rw [hquoted] at hchars
      cases hchars
    have hmarshal : q.marshalJSON = .ok ("\"" ++ q.s ++ "\"") := by
      rw [marshalJSON, if_pos htext]
    have hread : unmarshalJSON ("\"" ++ q.s ++ "\"") = .ok q := by
      rw [unmarshalJSON, if_neg hnot, hquoted, unquoted_quoted, hs, String.toList_ofList,
        trimSpace_idem, h]
    exact bind_eq_ok_iff.mpr ⟨_, hmarshal, hread⟩

/-- The zero value is written as a zero that has a text. -/
theorem not_kept_zero : ¬ Kept {} := by decide +kernel

-- two texts of one quantity, and one that is not written as it was read
example : parseQuantity "8192Mi" = parseQuantity "8Gi" := by decide +kernel
example : (unmarshalJSON "\"1000m\"").bind marshalJSON = .ok "\"1\"" := by decide +kernel

end Quantity

end Navigator
