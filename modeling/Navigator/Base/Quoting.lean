/-
Quoted strings over bytes: the literals that Go writes and reads, and the
strings of JSON.  The two agree on text that needs no escape.
-/
import Mathlib.Data.List.Basic

namespace ControlLoop

abbrev Bytes := List UInt8

section Runes

/-- The payload of a continuation byte. -/
def continuation (b : UInt8) : Option Nat :=
  if 0x80 ≤ b ∧ b < 0xC0 then some (b.toNat % 64) else none

/-- A code point that UTF-8 encodes. -/
def validRune (r : Nat) : Bool := r < 0xD800 || 0xE000 ≤ r && r ≤ 0x10FFFF

/-- `utf8.EncodeRune`; what is no code point becomes the replacement character. -/
def encodeRune (r : Nat) : Bytes :=
  let r := if validRune r then r else 0xFFFD
  if r < 0x80 then [.ofNat r]
  else if r < 0x800 then [.ofNat (0xC0 + r / 64), .ofNat (0x80 + r % 64)]
  else if r < 0x10000 then
    [.ofNat (0xE0 + r / 4096), .ofNat (0x80 + r / 64 % 64), .ofNat (0x80 + r % 64)]
  else
    [.ofNat (0xF0 + r / 262144), .ofNat (0x80 + r / 4096 % 64), .ofNat (0x80 + r / 64 % 64),
      .ofNat (0x80 + r % 64)]

/-- `utf8.DecodeRune`: the first code point and what follows it, or `none` where
the bytes are no UTF-8. -/
def decodeRune : Bytes → Option (Nat × Bytes)
  | [] => none
  | b :: rest =>
      if b < 0x80 then some (b.toNat, rest)
      else if b < 0xC0 then none
      else if b < 0xE0 then
        match rest with
        | b₁ :: rest => do
            let r := b.toNat % 32 * 64 + (← continuation b₁)
            if 0x80 ≤ r then some (r, rest) else none
        | _ => none
      else if b < 0xF0 then
        match rest with
        | b₁ :: b₂ :: rest => do
            let r := (b.toNat % 16 * 64 + (← continuation b₁)) * 64 + (← continuation b₂)
            if 0x800 ≤ r ∧ validRune r then some (r, rest) else none
        | _ => none
      else if b < 0xF8 then
        match rest with
        | b₁ :: b₂ :: b₃ :: rest => do
            let r := ((b.toNat % 8 * 64 + (← continuation b₁)) * 64 + (← continuation b₂)) * 64 +
              (← continuation b₃)
            if 0x10000 ≤ r ∧ validRune r then some (r, rest) else none
        | _ => none
      else none

end Runes

section Digits

/-- A digit in lower case. -/
def hexDigit (n : Nat) : UInt8 := if n < 10 then .ofNat (48 + n) else .ofNat (87 + n)

/-- The last `count` hexadecimal digits of a number. -/
def hexDigits : Nat → Nat → Bytes
  | 0, _ => []
  | count + 1, n => hexDigits count (n / 16) ++ [hexDigit (n % 16)]

def unhex (b : UInt8) : Option Nat :=
  if 48 ≤ b ∧ b ≤ 57 then some (b.toNat - 48)
  else if 97 ≤ b ∧ b ≤ 102 then some (b.toNat - 87)
  else if 65 ≤ b ∧ b ≤ 70 then some (b.toNat - 55)
  else none

/-- The number that `count` digits of a base spell, and what follows them. -/
def readDigits (digit : UInt8 → Option Nat) (base : Nat) : Nat → Nat → Bytes → Option (Nat × Bytes)
  | 0, value, rest => some (value, rest)
  | _ + 1, _, [] => none
  | count + 1, value, b :: rest => do
      readDigits digit base count (value * base + (← digit b)) rest

def octalDigit (b : UInt8) : Option Nat := if 48 ≤ b ∧ b ≤ 55 then some (b.toNat - 48) else none

end Digits

/-- Which code points can be printed; the ASCII ones from the space to the tilde
can. -/
structure Printable where
  isPrint : Nat → Bool
  ascii : ∀ r, 0x20 ≤ r → r < 0x7F → isPrint r = true

/-- The letters that stand for control characters after a backslash. -/
def controlLetters : List (Nat × UInt8) :=
  [(7, 97), (8, 98), (12, 102), (10, 110), (13, 114), (9, 116), (11, 118)]

/-- How `strconv.Quote` writes a code point. -/
def escapeRune (u : Printable) (r : Nat) : Bytes :=
  if r = 0x22 ∨ r = 0x5C then [0x5C, .ofNat r]
  else if u.isPrint r then encodeRune r
  else
    match controlLetters.find? fun entry => entry.1 = r with
    | some (_, letter) => [0x5C, letter]
    | none =>
        if r < 0x20 then 0x5C :: 120 :: hexDigits 2 r
        else if r < 0x10000 then 0x5C :: 117 :: hexDigits 4 r
        else 0x5C :: 85 :: hexDigits 8 r

def quoteFrom (u : Printable) : Nat → Bytes → Bytes
  | 0, _ => []
  | _ + 1, [] => []
  | fuel + 1, b :: rest =>
      if b < 0x80 then escapeRune u b.toNat ++ quoteFrom u fuel rest
      else
        match decodeRune (b :: rest) with
        | none => 0x5C :: 120 :: hexDigits 2 b.toNat ++ quoteFrom u fuel rest
        | some (r, rest) => escapeRune u r ++ quoteFrom u fuel rest

/-- `strconv.Quote`. -/
def quote (u : Printable) (s : Bytes) : Bytes := 0x22 :: quoteFrom u s.length s ++ [0x22]

/-- The value after a backslash: its bytes, and what follows. -/
def unquoteEscape (quote : UInt8) : Bytes → Option (Bytes × Bytes)
  | [] => none
  | c :: rest =>
      match controlLetters.find? fun entry => entry.2 = c with
      | some (value, _) => some ([.ofNat value], rest)
      | none =>
          if c = 120 then do
            let (value, rest) ← readDigits unhex 16 2 0 rest
            some ([.ofNat value], rest)
          else if c = 117 ∨ c = 85 then do
            let (value, rest) ← readDigits unhex 16 (if c = 117 then 4 else 8) 0 rest
            if value ≤ 0x10FFFF then some (encodeRune value, rest) else none
          else if (octalDigit c).isSome then do
            let (value, rest) ← readDigits octalDigit 8 3 0 (c :: rest)
            if value ≤ 255 then some ([.ofNat value], rest) else none
          else if c = 0x5C ∨ c = quote then some ([c], rest)
          else none

/-- `strconv.UnquoteChar`, with the bytes that stand for the value. -/
def unquoteChar (quote : UInt8) : Bytes → Option (Bytes × Bytes)
  | [] => none
  | c :: rest =>
      if c = quote then none
      else if c = 0x5C then unquoteEscape quote rest
      else if c < 0x80 then some ([c], rest)
      else
        match decodeRune (c :: rest) with
        | none => some (encodeRune 0xFFFD, rest)
        | some (r, rest) => some (encodeRune r, rest)

def unquoteFrom (quote : UInt8) : Nat → Bytes → Option Bytes
  | _, [] => some []
  | 0, _ :: _ => none
  | fuel + 1, s => do
      let (value, rest) ← unquoteChar quote s
      -- Between single quotes stands one character.
      if quote = 0x27 ∧ rest ≠ [] then none
      else
        let values ← unquoteFrom quote fuel rest
        some (value ++ values)

/-- `strconv.Unquote`, with `none` for its one error. -/
def unquote (s : Bytes) : Option Bytes :=
  match s with
  | [] => none
  | first :: rest =>
      if rest = [] ∨ rest.getLast? ≠ some first then none
      else
        let inner := rest.dropLast
        if first = 0x60 then
          if 0x60 ∈ inner then none else some (inner.filter fun b => b ≠ 13)
        else if first ≠ 0x22 ∧ first ≠ 0x27 then none
        else if 10 ∈ inner then none
        else if first = 0x22 ∧ 0x5C ∉ inner ∧ 0x22 ∉ inner then some inner
        else if first = 0x27 ∧ inner = [] then none
        else unquoteFrom first inner.length inner

/-- The value after a backslash in a JSON string; a pair of surrogates stands for
one code point. -/
def jsonEscape : Bytes → Option (Bytes × Bytes)
  | [] => none
  | c :: rest =>
      if c = 0x22 ∨ c = 0x5C ∨ c = 0x2F then some ([c], rest)
      else if c = 98 then some ([8], rest)
      else if c = 102 then some ([12], rest)
      else if c = 110 then some ([10], rest)
      else if c = 114 then some ([13], rest)
      else if c = 116 then some ([9], rest)
      else if c = 117 then do
        let (r, rest) ← readDigits unhex 16 4 0 rest
        match rest with
        | 0x5C :: 117 :: more =>
            match readDigits unhex 16 4 0 more with
            | some (low, after) =>
                if 0xD800 ≤ r ∧ r < 0xDC00 ∧ 0xDC00 ≤ low ∧ low < 0xE000 then
                  some (encodeRune (0x10000 + (r - 0xD800) * 1024 + (low - 0xDC00)), after)
                else some (encodeRune r, rest)
            | none => some (encodeRune r, rest)
        | _ => some (encodeRune r, rest)
      else none

def jsonFrom : Nat → Bytes → Option Bytes
  | _, [] => none
  | 0, _ :: _ => none
  | fuel + 1, b :: rest =>
      if b = 0x22 then if rest = [] then some [] else none
      else if b = 0x5C then do
        let (value, rest) ← jsonEscape rest
        let values ← jsonFrom fuel rest
        some (value ++ values)
      else if b < 0x20 then none
      else do
        let (r, rest) ← decodeRune (b :: rest)
        let values ← jsonFrom fuel rest
        some (encodeRune r ++ values)

/-- The value of a JSON string, or `none` if the bytes are no JSON string. -/
def jsonString : Bytes → Option Bytes
  | 0x22 :: rest => jsonFrom rest.length rest
  | _ => none

/-- A byte that needs no escape. -/
def Plain (b : UInt8) : Prop := 0x20 ≤ b ∧ b < 0x7F ∧ b ≠ 0x22 ∧ b ≠ 0x5C

instance : DecidablePred Plain := fun _ => inferInstanceAs (Decidable (_ ∧ _ ∧ _ ∧ _))

section Plain

variable {b : UInt8} {s : Bytes}

theorem plain_iff :
    Plain b ↔ 0x20 ≤ b.toNat ∧ b.toNat < 0x7F ∧ b.toNat ≠ 0x22 ∧ b.toNat ≠ 0x5C := by
  simp [Plain, UInt8.le_iff_toNat_le, UInt8.lt_iff_toNat_lt, ← UInt8.toNat_inj]

theorem encodeRune_of_lt (h : b < 0x80) : encodeRune b.toNat = [b] := by
  have hnat : b.toNat < 0x80 := h
  have hvalid : validRune b.toNat = true := by
    simp only [validRune, Bool.or_eq_true, decide_eq_true_eq]
    omega
  simp [encodeRune, hvalid, hnat]

theorem decodeRune_of_lt (h : b < 0x80) (rest : Bytes) :
    decodeRune (b :: rest) = some (b.toNat, rest) :=
  if_pos h

theorem Plain.lt (h : Plain b) : b < 0x80 :=
  UInt8.lt_trans h.2.1 (by decide)

theorem escapeRune_of_plain (u : Printable) (h : Plain b) : escapeRune u b.toNat = [b] := by
  obtain ⟨hlow, hhigh, hquote, hslash⟩ := plain_iff.mp h
  rw [escapeRune, if_neg (not_or.mpr ⟨hquote, hslash⟩), if_pos (u.ascii _ hlow hhigh),
    encodeRune_of_lt h.lt]

/-- Text that needs no escape is quoted as it stands. -/
theorem quote_of_plain (u : Printable) (h : ∀ b ∈ s, Plain b) :
    quote u s = 0x22 :: s ++ [0x22] := by
  have hfrom : quoteFrom u s.length s = s := by
    induction s with
    | nil => rfl
    | cons b rest ih =>
        obtain ⟨hb, hrest⟩ := List.forall_mem_cons.mp h
        rw [List.length_cons, quoteFrom, if_pos hb.lt, escapeRune_of_plain u hb, ih hrest]
        rfl
  rw [quote, hfrom]

theorem unquote_of_plain (h : ∀ b ∈ s, Plain b) : unquote (0x22 :: s ++ [0x22]) = some s := by
  have hlast : (s ++ [(0x22 : UInt8)]).getLast? = some 0x22 := by simp
  have hquote : (0x22 : UInt8) ∉ s := fun hmem => (h _ hmem).2.2.1 rfl
  have hslash : (0x5C : UInt8) ∉ s := fun hmem => (h _ hmem).2.2.2 rfl
  have hline : (10 : UInt8) ∉ s := fun hmem => absurd (h _ hmem).1 (by decide)
  simp [unquote, hlast, hquote, hslash, hline]

/-- Between double quotes it is a JSON string that means itself. -/
theorem jsonString_of_plain (h : ∀ b ∈ s, Plain b) :
    jsonString (0x22 :: s ++ [0x22]) = some s := by
  have hfrom : jsonFrom (s.length + 1) (s ++ [0x22]) = some s := by
    induction s with
    | nil => rfl
    | cons b rest ih =>
        obtain ⟨hb, hrest⟩ := List.forall_mem_cons.mp h
        have hcontrol : ¬ b < 0x20 := UInt8.not_lt.mpr hb.1
        rw [List.cons_append, List.length_cons, jsonFrom, if_neg hb.2.2.1, if_neg hb.2.2.2,
          if_neg hcontrol, decodeRune_of_lt hb.lt]
        simp [ih hrest, encodeRune_of_lt hb.lt]
  rw [List.cons_append, jsonString, List.length_append]
  exact hfrom

end Plain

end ControlLoop
