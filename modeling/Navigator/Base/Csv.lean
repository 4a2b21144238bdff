/-
Comma separated fields, as the reader of Go's encoding/csv reads the first record
of a text with its default settings, and texts joined with commas.  The reader
gives back what was joined exactly when no text has a comma, a quote or a newline,
the last one does not end in a carriage return, and there is more than one empty
text.  A text with the quotes and line breaks of the joined one, and no others, is
read like it only if it is the joined one.
-/
import Mathlib

namespace ControlLoop

namespace Csv

inductive ReadError where
  | eof
  | quote
  | bareQuote
deriving DecidableEq, Repr

/-- `readRune`: a carriage return before a newline or at the end is not seen. -/
def foldReturns : List Char → List Char
  | [] => []
  | c :: rest =>
      if c = '\r' ∧ (rest = [] ∨ rest.head? = some '\n') then foldReturns rest
      else c :: foldReturns rest

/-- Where the reader is in a field, and the text of the field so far. -/
inductive Position where
  | start
  | plain (text : List Char)
  | quoted (text : List Char)
  | closing (text : List Char)

/-- `parseRecord` and `parseField`: the fields read so far, the position in the
next one, and the characters left. -/
def parse : List (List Char) → Position → List Char → Except ReadError (List (List Char))
  | fields, .start, [] => if fields = [] then .error .eof else .ok (fields ++ [[]])
  | fields, .plain text, [] => .ok (fields ++ [text])
  | _, .quoted _, [] => .error .quote
  | fields, .closing text, [] => .ok (fields ++ [text])
  | fields, .start, c :: rest =>
      if c = ',' then parse (fields ++ [[]]) .start rest
      else if c = '\n' then
        -- an empty line is skipped
        if fields = [] then parse [] .start rest else .ok (fields ++ [[]])
      else if c = '"' then parse fields (.quoted []) rest
      else parse fields (.plain [c]) rest
  | fields, .plain text, c :: rest =>
      if c = ',' then parse (fields ++ [text]) .start rest
      else if c = '\n' then .ok (fields ++ [text])
      else if c = '"' then .error .bareQuote
      else parse fields (.plain (text ++ [c])) rest
  | fields, .quoted text, c :: rest =>
      if c = '"' then parse fields (.closing text) rest
      else parse fields (.quoted (text ++ [c])) rest
  | fields, .closing text, c :: rest =>
      if c = ',' then parse (fields ++ [text]) .start rest
      else if c = '\n' then .ok (fields ++ [text])
      else if c = '"' then parse fields (.quoted (text ++ ['"'])) rest
      else .error .quote

/-- `Read`: the first record. -/
def read (text : List Char) : Except ReadError (List (List Char)) :=
  parse [] .start (foldReturns text)

/-- The texts with commas between them. -/
abbrev join (texts : List (List Char)) : List Char := [','].intercalate texts

/-- A text that the reader takes as it is. -/
def Clean (text : List Char) : Prop := ',' ∉ text ∧ '"' ∉ text ∧ '\n' ∉ text

instance (text : List Char) : Decidable (Clean text) := inferInstanceAs (Decidable (_ ∧ _))

/-- The texts come through when they are joined and read. -/
structure Survives (texts : List (List Char)) : Prop where
  notBlank : texts ≠ [[]]
  clean : ∀ text ∈ texts, Clean text
  noReturn : ∀ last ∈ texts.getLast?, last.getLast? ≠ some '\r'

/-- The quotes and line breaks, which the reader takes for more than text. -/
def special (c : Char) : Bool := c = '"' || c = '\n' || c = '\r'

section Returns

variable {text : List Char}

theorem countP_foldReturns_le (text : List Char) :
    (foldReturns text).countP special ≤ text.countP special := by
  induction text with
  | nil => exact Nat.le_refl _
  | cons c rest ih =>
      rw [foldReturns]
      split
      · rw [List.countP_cons]
        omega
      · rw [List.countP_cons, List.countP_cons]
        omega

/-- A text that keeps its line breaks has nothing folded, and does not end in a
carriage return. -/
theorem foldReturns_of_countP {text : List Char}
    (h : text.countP special ≤ (foldReturns text).countP special) :
    foldReturns text = text ∧ text.getLast? ≠ some '\r' := by
  induction text with
  | nil => simp [foldReturns]
  | cons c rest ih =>
      rw [foldReturns] at h ⊢
      split at h
      · rename_i hfolded
        have hle := countP_foldReturns_le rest
        rw [hfolded.1, List.countP_cons_of_pos (by decide)] at h
        omega
      · rename_i hkept
        rw [List.countP_cons, List.countP_cons] at h
        obtain ⟨hrest, hlast⟩ := ih (Nat.le_of_add_le_add_right h)
        rw [if_neg hkept, hrest]
        refine ⟨rfl, ?_⟩
        cases rest with
        | nil =>
            intro hreturn
            exact hkept ⟨by simpa using hreturn, Or.inl rfl⟩
        | cons c' rest => rwa [List.getLast?_cons_cons]

theorem foldReturns_eq_self (hnewline : '\n' ∉ text) (hlast : text.getLast? ≠ some '\r') :
    foldReturns text = text := by
  induction text with
  | nil => rfl
  | cons c rest ih =>
      have hhead : rest.head? ≠ some '\n' := fun h =>
        hnewline (List.mem_cons_of_mem c (List.mem_of_head? h))
      have hkept : ¬ (c = '\r' ∧ (rest = [] ∨ rest.head? = some '\n')) := by
        rintro ⟨rfl, rfl | h⟩
        · exact hlast rfl
        · exact hhead h
      have hrest : rest.getLast? ≠ some '\r' := by
        cases rest with
        | nil => simp
        | cons c' rest => rwa [List.getLast?_cons_cons] at hlast
      rw [foldReturns, if_neg hkept, ih (fun h => hnewline (List.mem_cons_of_mem c h)) hrest]

end Returns

section Join

variable {texts : List (List Char)}

theorem join_cons_cons (text next : List Char) (rest : List (List Char)) :
    join (text :: next :: rest) = text ++ ',' :: join (next :: rest) := by
  rw [join, List.intercalate_cons_cons, List.append_assoc, List.singleton_append]

theorem mem_join_iff {c : Char} (hc : c ≠ ',') : c ∈ join texts ↔ ∃ text ∈ texts, c ∈ text := by
  induction texts with
  | nil => simp [join]
  | cons text rest ih =>
      cases rest with
      | nil => simp [join]
      | cons next rest =>
          rw [join_cons_cons, List.mem_append, List.mem_cons, ih]
          simp [hc]

theorem getLast?_join : (join texts).getLast? = some '\r' ↔
    ∃ last ∈ texts.getLast?, last.getLast? = some '\r' := by
  induction texts with
  | nil => simp [join]
  | cons text rest ih =>
      cases rest with
      | nil => simp [join]
      | cons next rest =>
          rw [List.getLast?_cons_cons, ← ih, join_cons_cons, List.getLast?_append,
            List.getLast?_cons]
          cases (join (next :: rest)).getLast? <;> simp

theorem eq_nil_or_of_join_eq_nil (h : join texts = []) : texts = [] ∨ texts = [[]] := by
  rcases texts with _ | ⟨text, _ | ⟨next, rest⟩⟩
  · exact .inl rfl
  · rw [join, List.intercalate_singleton] at h
    exact .inr (by rw [h])
  · rw [join_cons_cons] at h
    exact absurd h (by simp)

end Join

section Size

/-- The quotes and line breaks of a record. -/
def size (fields : List (List Char)) : Nat := (fields.map (List.countP special)).sum

@[simp] theorem size_nil : size [] = 0 := rfl

@[simp] theorem size_append_singleton (fields : List (List Char)) (field : List Char) :
    size (fields ++ [field]) = size fields + field.countP special := by
  simp [size]

theorem size_eq_countP_join (texts : List (List Char)) :
    size texts = (join texts).countP special := by
  induction texts with
  | nil => rfl
  | cons text rest ih =>
      cases rest with
      | nil => simp [size, join]
      | cons next rest =>
          have hsize : size (text :: next :: rest) =
              text.countP special + size (next :: rest) := rfl
          rw [hsize, ih, join_cons_cons, List.countP_append,
            List.countP_cons_of_neg (by decide)]

namespace Position

/-- The quotes and line breaks that were read for the field so far. -/
def consumed : Position → Nat
  | start => 0
  | plain text => text.countP special
  | quoted text => text.countP special + 1
  | closing text => text.countP special + 2

def Bare : Position → Prop
  | start => True
  | plain _ => True
  | _ => False

end Position

/-- The record has at most `n` quotes and line breaks, and as many only under the
condition. -/
def AtMost (out : List (List Char)) (n : Nat) (condition : Prop) : Prop :=
  size out ≤ n ∧ (size out = n → condition)

theorem AtMost.mono {out : List (List Char)} {m n : Nat} {P Q : Prop} (h : AtMost out m P)
    (hle : m ≤ n) (himp : m = n → P → Q) : AtMost out n Q := by
  obtain ⟨hsize, hcondition⟩ := h
  refine ⟨hsize.trans hle, ?_⟩
  intro heq
  have hmn : m = n := by omega
  exact himp hmn (hcondition (heq.trans hmn.symm))

theorem atMost_of_lt {out : List (List Char)} {n : Nat} {P : Prop} (h : size out < n) :
    AtMost out n P :=
  ⟨h.le, fun heq => absurd heq h.ne⟩

/-- Nothing but plain characters and commas. -/
def Unquoted (input : List Char) : Prop := '"' ∉ input ∧ '\n' ∉ input

theorem Unquoted.cons {c : Char} {rest : List Char} (h : Unquoted rest) (hquote : c ≠ '"')
    (hnewline : c ≠ '\n') : Unquoted (c :: rest) := by
  simpa [Unquoted, hquote.symm, hnewline.symm] using h

/-- At the end of the input the field under the reader is the last of the record. -/
theorem parse_nil_atMost {fields out : List (List Char)} {position : Position}
    (h : parse fields position [] = .ok out) :
    AtMost out (size fields + position.consumed + [].countP special)
      (Unquoted [] ∧ position.Bare) := by
  have hnil : Unquoted [] := ⟨List.not_mem_nil, List.not_mem_nil⟩
  cases position with
  | start =>
      simp only [parse] at h
      split at h
      · cases h
      · cases h
        exact ⟨by simp [Position.consumed], fun _ => ⟨hnil, trivial⟩⟩
  | plain text =>
      cases h
      exact ⟨by simp [Position.consumed], fun _ => ⟨hnil, trivial⟩⟩
  | quoted text => cases h
  | closing text =>
      cases h
      exact atMost_of_lt (by simp [Position.consumed])

theorem special_one {c : Char} (h : c = '\n' ∨ c = '"') :
    (if special c = true then 1 else 0) = 1 := by
  rcases h with rfl | rfl
  · rfl
  · rfl

/-- A record has no more quotes and line breaks than were read for it, and fewer where
a quote or a newline was read. -/
theorem parse_atMost {fields out : List (List Char)} {position : Position} {input : List Char}
    (h : parse fields position input = .ok out) :
    AtMost out (size fields + position.consumed + input.countP special)
      (Unquoted input ∧ position.Bare) := by
  induction input generalizing fields position with
  | nil => exact parse_nil_atMost h
  | cons c rest ih =>
      have hcount : (c :: rest).countP special =
          rest.countP special + if special c = true then 1 else 0 := List.countP_cons
      cases position with
      | start =>
          simp only [parse] at h
          split_ifs at h with hcomma hnewline hempty hquote
          · subst hcomma
            exact (ih h).mono (by simp [Position.consumed, hcount]) fun _ hrest =>
              ⟨hrest.1.cons (by decide) (by decide), trivial⟩
          · subst hempty
            have hlost := special_one (.inl hnewline)
            exact (ih h).mono (by omega) fun heq => by omega
          · cases h
            have hlost := special_one (.inl hnewline)
            exact atMost_of_lt (by
              simp only [size_append_singleton, Position.consumed, List.countP_nil]
              omega)
          · have hlost := special_one (.inr hquote)
            exact (ih h).mono (by simp [Position.consumed]; omega) fun _ hrest => hrest.2.elim
          · exact (ih h).mono (by simp [Position.consumed, List.countP_cons]; omega) fun _ hrest =>
              ⟨hrest.1.cons hquote hnewline, trivial⟩
      | plain text =>
          simp only [parse] at h
          split_ifs at h with hcomma hnewline hquote
          · subst hcomma
            exact (ih h).mono (by simp [Position.consumed, hcount]) fun _ hrest =>
              ⟨hrest.1.cons (by decide) (by decide), trivial⟩
          · cases h
            have hlost := special_one (.inl hnewline)
            exact atMost_of_lt (by
              simp only [size_append_singleton, Position.consumed]
              omega)
          · exact (ih h).mono (by simp [Position.consumed, List.countP_append]; omega) fun _ hrest =>
              ⟨hrest.1.cons hquote hnewline, trivial⟩
      | quoted text =>
          simp only [parse] at h
          split_ifs at h with hquote
          · have hlost := special_one (.inr hquote)
            exact (ih h).mono (by simp [Position.consumed]; omega) fun _ hrest => hrest.2.elim
          · exact (ih h).mono (by simp [Position.consumed, List.countP_append]; omega)
              fun _ hrest => hrest.2.elim
      | closing text =>
          simp only [parse] at h
          split_ifs at h with hcomma hnewline hquote
          · exact (ih h).mono (by simp [Position.consumed]; omega)
              fun heq => by simp [Position.consumed] at heq; omega
          · cases h
            exact atMost_of_lt (by simp [Position.consumed]; omega)
          · have hlost := special_one (.inr hquote)
            have htext : (text ++ ['"']).countP special = text.countP special + 1 := by
              rw [List.countP_append]
              rfl
            exact (ih h).mono (by simp only [Position.consumed, htext]; omega)
              fun _ hrest => hrest.2.elim

end Size

section Clean

variable {fields : List (List Char)} {text : List Char}

theorem Clean.ne {c : Char} (h : Clean text) (hc : c ∈ text) : c ≠ ',' ∧ c ≠ '\n' ∧ c ≠ '"' :=
  ⟨fun heq => h.1 (heq ▸ hc), fun heq => h.2.2 (heq ▸ hc), fun heq => h.2.1 (heq ▸ hc)⟩

theorem Clean.of_cons {c : Char} (h : Clean (c :: text)) : Clean text :=
  ⟨fun hmem => h.1 (List.mem_cons_of_mem c hmem), fun hmem => h.2.1 (List.mem_cons_of_mem c hmem),
    fun hmem => h.2.2 (List.mem_cons_of_mem c hmem)⟩

theorem parse_plain (fields : List (List Char)) (h : Clean text) (before rest : List Char) :
    parse fields (.plain before) (text ++ rest) = parse fields (.plain (before ++ text)) rest := by
  induction text generalizing before with
  | nil => simp
  | cons c text ih =>
      obtain ⟨hcomma, hnewline, hquote⟩ := h.ne List.mem_cons_self
      rw [List.cons_append, parse, if_neg hcomma, if_neg hnewline, if_neg hquote, ih h.of_cons,
        List.append_assoc, List.singleton_append]

/-- A clean field before a comma. -/
theorem parse_field (h : Clean text) (rest : List Char) :
    parse fields .start (text ++ ',' :: rest) = parse (fields ++ [text]) .start rest := by
  cases text with
  | nil => rw [List.nil_append, parse, if_pos rfl]
  | cons c text =>
      obtain ⟨hcomma, hnewline, hquote⟩ := h.ne List.mem_cons_self
      rw [List.cons_append, parse, if_neg hcomma, if_neg hnewline, if_neg hquote,
        parse_plain fields h.of_cons, List.singleton_append, parse, if_pos rfl]

/-- A clean field at the end. -/
theorem parse_last (h : Clean text) (hne : fields ≠ [] ∨ text ≠ []) :
    parse fields .start text = .ok (fields ++ [text]) := by
  cases text with
  | nil => rw [parse, if_neg (hne.resolve_right fun hnil => hnil rfl)]
  | cons c text =>
      obtain ⟨hcomma, hnewline, hquote⟩ := h.ne List.mem_cons_self
      have hplain := parse_plain fields h.of_cons [c] []
      rw [List.append_nil, List.singleton_append] at hplain
      rw [parse, if_neg hcomma, if_neg hnewline, if_neg hquote, hplain, parse]

theorem parse_join {texts : List (List Char)} (hclean : ∀ text ∈ texts, Clean text)
    (htexts : texts ≠ []) (hne : fields ≠ [] ∨ texts ≠ [[]]) :
    parse fields .start (join texts) = .ok (fields ++ texts) := by
  induction texts generalizing fields with
  | nil => exact absurd rfl htexts
  | cons text rest ih =>
      have htext := hclean text List.mem_cons_self
      cases rest with
      | nil =>
          rw [join, List.intercalate_singleton]
          exact parse_last htext (hne.imp_right fun hblank hnil => hblank (by rw [hnil]))
      | cons next rest =>
          rw [join, List.intercalate_cons_cons, List.append_assoc, List.singleton_append,
            parse_field htext, ih (fun other hother => hclean other (List.mem_cons_of_mem text hother))
              (List.cons_ne_nil _ _) (Or.inl (by simp)), List.append_assoc, List.singleton_append]

end Clean

section Pieces

/-- A text is joined from what stands between its commas. -/
theorem exists_pieces (text : List Char) :
    ∃ pieces, pieces ≠ [] ∧ join pieces = text ∧ ∀ piece ∈ pieces, ',' ∉ piece := by
  induction text with
  | nil => exact ⟨[[]], List.cons_ne_nil _ _, rfl, by simp⟩
  | cons c rest ih =>
      obtain ⟨pieces, hne, rfl, hcomma⟩ := ih
      obtain ⟨piece, others, rfl⟩ := List.exists_cons_of_ne_nil hne
      by_cases hc : c = ','
      · refine ⟨[] :: piece :: others, List.cons_ne_nil _ _, ?_, ?_⟩
        · rw [join_cons_cons, List.nil_append, hc]
        · exact List.forall_mem_cons.mpr ⟨List.not_mem_nil, hcomma⟩
      · refine ⟨(c :: piece) :: others, List.cons_ne_nil _ _, ?_, ?_⟩
        · cases others with
          | nil => simp [join]
          | cons next others => rw [join_cons_cons, join_cons_cons, List.cons_append]
        · obtain ⟨hpiece, hothers⟩ := List.forall_mem_cons.mp hcomma
          refine List.forall_mem_cons.mpr ⟨?_, hothers⟩
          simpa [hpiece] using Ne.symm hc

/-- Without quotes and newlines the fields are what stands between the commas. -/
theorem join_of_parse {input : List Char} {out : List (List Char)}
    (h : parse [] .start input = .ok out) (hplain : Unquoted input) :
    out ≠ [] ∧ join out = input ∧ ∀ text ∈ out, Clean text := by
  obtain ⟨pieces, hne, rfl, hcomma⟩ := exists_pieces input
  have hclean : ∀ text ∈ pieces, Clean text := fun text htext =>
    ⟨hcomma text htext, fun hmem => hplain.1 ((mem_join_iff (by decide)).mpr ⟨text, htext, hmem⟩),
      fun hmem => hplain.2 ((mem_join_iff (by decide)).mpr ⟨text, htext, hmem⟩)⟩
  by_cases hblank : pieces = [[]]
  · subst hblank
    cases h
  · rw [parse_join hclean hne (Or.inr hblank), List.nil_append] at h
    cases h
    exact ⟨hne, rfl, hclean⟩

end Pieces

/-- A text with the quotes and line breaks of the joined texts is read as them exactly
when it is the joined one and they survive. -/
theorem read_eq_ok_iff {text : List Char} {texts : List (List Char)} (htexts : texts ≠ [])
    (hspecial : text.countP special = (join texts).countP special) :
    read text = .ok texts ↔ text = join texts ∧ Survives texts := by
  constructor
  · intro h
    -- no quote or line break was lost on the way, so none was there
    obtain ⟨hsize, hplain⟩ := parse_atMost h
    have hread : size [] + Position.start.consumed + (foldReturns text).countP special =
        (foldReturns text).countP special := by
      simp [Position.consumed]
    rw [hread, size_eq_countP_join] at hsize hplain
    obtain ⟨hkept, hlast⟩ := foldReturns_of_countP (hspecial ▸ hsize)
    rw [hkept] at hplain
    obtain ⟨hunquoted, _⟩ := hplain hspecial.symm
    rw [read, hkept] at h
    obtain ⟨_, hjoin, hclean⟩ := join_of_parse h hunquoted
    refine ⟨hjoin.symm, ?_, hclean, ?_⟩
    · rintro rfl
      rw [← hjoin] at h
      cases h
    · intro last hmem hreturn
      exact hlast (hjoin ▸ getLast?_join.mpr ⟨last, hmem, hreturn⟩)
  · rintro ⟨rfl, h⟩
    have hnewline : '\n' ∉ join texts := by
      rw [mem_join_iff (by decide)]
      rintro ⟨text, htext, hmem⟩
      exact (h.clean text htext).2.2 hmem
    have hlast : (join texts).getLast? ≠ some '\r' := by
      rw [ne_eq, getLast?_join]
      rintro ⟨last, hmem, hreturn⟩
      exact h.noReturn last hmem hreturn
    rw [read, foldReturns_eq_self hnewline hlast,
      parse_join h.clean htexts (Or.inr h.notBlank), List.nil_append]

/-- A text without quotes and line breaks is not read as an empty record. -/
theorem read_ne_nil {text : List Char} (hspecial : text.countP special = 0) :
    read text ≠ .ok [] := by
  intro h
  have hnone : ∀ c ∈ text, special c = false := by
    simpa [List.countP_eq_zero] using hspecial
  have hplain : Unquoted text :=
    ⟨fun hmem => absurd (hnone _ hmem) (by decide), fun hmem => absurd (hnone _ hmem) (by decide)⟩
  have hlast : text.getLast? ≠ some '\r' := fun hreturn =>
    absurd (hnone _ (List.mem_of_getLast? hreturn)) (by decide)
  rw [read, foldReturns_eq_self hplain.2 hlast] at h
  exact (join_of_parse h hplain).1 rfl

end Csv

end ControlLoop
