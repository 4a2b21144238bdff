/-
Updates by compare and swap.  Many writers share one value; each reads it, maybe
from a cache that lags behind, computes what it should become, and writes that only
if the value is still the one it read, starting over otherwise.  Whatever the
interleaving, the writes form one sequence in which each writer's update was applied
to the value that it replaced.
-/
import Mathlib.Data.List.Chain
import Mathlib.Logic.Function.Basic
import Navigator.Base.Machine

namespace ControlLoop

/-- A value and the revision at which it was written. -/
structure Versioned (α : Type) where
  revision : Nat
  value : α
deriving DecidableEq

/-- A value that may be absent, and all that it ever was. -/
structure Cell (α : Type) where
  current : Option (Versioned α) := none
  past : List (Versioned α) := []
  lastRevision : Nat := 0
  current_mem : ∀ v ∈ current, v ∈ past
  positive : ∀ v ∈ past, 0 < v.revision
  fresh : ∀ v ∈ past, v.revision ≤ lastRevision
  unique : ∀ v ∈ past, ∀ v' ∈ past, v.revision = v'.revision → v = v'

namespace Cell

variable {α : Type}

def empty : Cell α where
  current_mem := by simp
  positive := by simp
  fresh := by simp
  unique := by simp

/-- A value at the next revision. -/
def next (cell : Cell α) (value : α) : Versioned α := ⟨cell.lastRevision + 1, value⟩

/-- Write the next value. -/
def put (cell : Cell α) (value : α) : Cell α where
  current := some (cell.next value)
  past := cell.next value :: cell.past
  lastRevision := cell.lastRevision + 1
  current_mem := by
    rintro v ⟨⟩
    exact List.mem_cons_self
  positive := List.forall_mem_cons.mpr ⟨Nat.succ_pos _, cell.positive⟩
  fresh := List.forall_mem_cons.mpr
    ⟨le_rfl, fun v hv => (cell.fresh v hv).trans (Nat.le_succ _)⟩
  unique := by
    intro v hv v' hv' heq
    rcases List.mem_cons.mp hv with rfl | hv <;> rcases List.mem_cons.mp hv' with rfl | hv'
    · rfl
    · have hfresh := cell.fresh v' hv'
      simp only [next] at heq
      omega
    · have hfresh := cell.fresh v hv
      simp only [next] at heq
      omega
    · exact cell.unique v hv v' hv' heq

def remove (cell : Cell α) : Cell α where
  current := none
  past := cell.past
  lastRevision := cell.lastRevision + 1
  current_mem := by simp
  positive := cell.positive
  fresh := fun v hv => (cell.fresh v hv).trans (Nat.le_succ _)
  unique := cell.unique

/-- The revision that a transaction compares; that of a value that is not there is
zero. -/
def revisionOf : Option (Versioned α) → Nat
  | none => 0
  | some v => v.revision

/-- Equal revisions are equal values: the comparison is as good as one of the values
themselves. -/
theorem eq_of_revisionOf (cell : Cell α) {orig : Option (Versioned α)}
    (horig : ∀ v ∈ orig, v ∈ cell.past)
    (h : revisionOf cell.current = revisionOf orig) : cell.current = orig := by
  cases hcurrent : cell.current with
  | none =>
      cases orig with
      | none => rfl
      | some v =>
          rw [hcurrent] at h
          have hpositive := cell.positive v (horig v rfl)
          have h : 0 = v.revision := h
          omega
  | some v =>
      have hmem := cell.current_mem v hcurrent
      rw [hcurrent] at h
      cases orig with
      | none =>
          have hpositive := cell.positive v hmem
          have h : v.revision = 0 := h
          omega
      | some v' => rw [cell.unique v hmem v' (horig v' rfl) h]

end Cell

namespace OptimisticUpdate

variable {P α ε : Type}

/-- What a writer makes of the value that it finds: it stores another one, or it erases
whatever is there and gives an answer of its own. -/
inductive Verdict (α : Type) where
  | store (value : α)
  | erase (answer : α)

/-- How a writer ends that meets no error: with the value that is stored, or with its own
answer and the value that it erased, if there still was one. -/
inductive Outcome (α : Type) where
  | stored (v : Versioned α)
  | erased (answer : α) (removed : Option (Versioned α))

/-- Where a writer is: it has not started, it is about to compute its value from what
it read, which may come from a cache, it is about to write or to erase, or it has its
outcome. -/
inductive Phase (α ε : Type) where
  | idle
  | trying (orig : Option (Versioned α)) (suggested : Bool)
  | committing (orig : Option (Versioned α)) (value : α)
  | erasing (answer : α)
  | done (outcome : Except ε (Outcome α))

/-- What the writers do: what a writer makes of what it found, whether it may erase what is
there by then, and the errors for which a cached value may be to blame. -/
structure Writers (P α ε : Type) where
  update : P → Option (Versioned α) → Except ε (Verdict α)
  mayErase : P → Option (Versioned α) → Except ε Unit
  isConflict : ε → Bool

/-- The value would not change.  If it came from a cache, the current one must be the same,
or it is tried again on that one. -/
def confirm [DecidableEq α] (cell : Cell α) (v : Versioned α) (suggested : Bool) : Phase α ε :=
  match suggested, cell.current with
  | false, _ => .done (.ok (.stored v))
  | true, none => .trying none false
  | true, some w =>
      if w.value = v.value then .done (.ok (.stored w)) else .trying (some w) false

/-- One round of the loop up to the write.  A conflict on a cached value is tried again
on the current one. -/
def attempt [DecidableEq α] (writers : Writers P α ε) (cell : Cell α) (p : P)
    (orig : Option (Versioned α)) (suggested : Bool) : Phase α ε :=
  match writers.update p orig, orig with
  | .error e, _ =>
      if suggested ∧ writers.isConflict e then .trying cell.current false else .done (.error e)
  | .ok (.erase answer), _ => .erasing answer
  | .ok (.store value), none => .committing none value
  | .ok (.store value), some v =>
      if v.value = value then confirm cell v suggested else .committing (some v) value

/-- A change of the value, and who made it if it was one of the writers. -/
structure Change (P α : Type) where
  writer : Option P
  old : Option (Versioned α)
  new : Option (Versioned α)

/-- The value, the writers, and the changes so far, the latest one first. -/
structure System (P α ε : Type) where
  cell : Cell α := .empty
  phase : P → Phase α ε := fun _ => .idle
  log : List (Change P α) := []

/-- A step: a writer starts with a value from the cache or with the current one, computes,
writes or erases, where the answer may be lost; a writer gives up; the value is created or
removed by someone else. -/
inductive Event (P α ε : Type) where
  | start (p : P) (suggestion : Option (Versioned α))
  | attempt (p : P)
  | commit (p : P) (lost : Option ε)
  | erase (p : P) (lost : Option ε)
  | abort (p : P) (e : ε)
  | create (value : α)
  | remove

namespace System

variable [DecidableEq P] [DecidableEq α]

def setPhase (s : System P α ε) (p : P) (phase : Phase α ε) : System P α ε :=
  { s with phase := Function.update s.phase p phase }

/-- Change the value. -/
def change (s : System P α ε) (writer : Option P) (cell : Cell α) : System P α ε :=
  { s with
    cell := cell
    log := ⟨writer, s.cell.current, cell.current⟩ :: s.log }

/-- Write the value at the next revision. -/
def commit (s : System P α ε) (p : P) (value : α) (lost : Option ε) : System P α ε :=
  (s.change (some p) (s.cell.put value)).setPhase p
    (.done (lost.elim (.ok (.stored (s.cell.next value))) .error))

/-- Erase the value, if there is one. -/
def erase (s : System P α ε) (p : P) (answer : α) (lost : Option ε) : System P α ε :=
  match s.cell.current with
  | none => s.setPhase p (.done (.ok (.erased answer none)))
  | some v => (s.change (some p) s.cell.remove).setPhase p
      (.done (lost.elim (.ok (.erased answer (some v))) .error))

def step (writers : Writers P α ε) (s : System P α ε) : Event P α ε → Option (System P α ε)
  | .start p suggestion =>
      match s.phase p, suggestion with
      | .idle, none => some (s.setPhase p (.trying s.cell.current false))
      | .idle, some v =>
          if v ∈ s.cell.past then some (s.setPhase p (.trying (some v) true)) else none
      | _, _ => none
  | .attempt p =>
      match s.phase p with
      | .trying orig suggested =>
          some (s.setPhase p (attempt writers s.cell p orig suggested))
      | _ => none
  | .commit p lost =>
      match s.phase p with
      | .committing orig value =>
          if Cell.revisionOf s.cell.current = Cell.revisionOf orig then
            some (s.commit p value lost)
          else some (s.setPhase p (.trying s.cell.current false))
      | _ => none
  | .erase p lost =>
      match s.phase p with
      | .erasing answer =>
          match writers.mayErase p s.cell.current with
          | .error e => some (s.setPhase p (.done (.error e)))
          | .ok () => some (s.erase p answer lost)
      | _ => none
  | .abort p e =>
      match s.phase p with
      | .trying _ _ => some (s.setPhase p (.done (.error e)))
      | .committing _ _ => some (s.setPhase p (.done (.error e)))
      | .erasing _ => some (s.setPhase p (.done (.error e)))
      | _ => none
  | .create value =>
      if s.cell.current = none then some (s.change none (s.cell.put value)) else none
  | .remove =>
      if s.cell.current ≠ none then some (s.change none s.cell.remove) else none

/-- What a step does. -/
inductive Effect (writers : Writers P α ε) (s : System P α ε) :
    Event P α ε → System P α ε → Prop where
  | start {p : P} {suggestion orig : Option (Versioned α)} {suggested : Bool}
      (idle : s.phase p = .idle) (known : ∀ v ∈ orig, v ∈ s.cell.past) :
      Effect writers s (.start p suggestion) (s.setPhase p (.trying orig suggested))
  | attempt {p : P} {orig : Option (Versioned α)} {suggested : Bool}
      (trying : s.phase p = .trying orig suggested) :
      Effect writers s (.attempt p)
        (s.setPhase p (OptimisticUpdate.attempt writers s.cell p orig suggested))
  | commit {p : P} {lost : Option ε} {orig : Option (Versioned α)} {value : α}
      (committing : s.phase p = .committing orig value)
      (unchanged : Cell.revisionOf s.cell.current = Cell.revisionOf orig) :
      Effect writers s (.commit p lost) (s.commit p value lost)
  | retry {p : P} {lost : Option ε} {orig : Option (Versioned α)} {value : α}
      (committing : s.phase p = .committing orig value) :
      Effect writers s (.commit p lost) (s.setPhase p (.trying s.cell.current false))
  | erase {p : P} {lost : Option ε} {answer : α} (erasing : s.phase p = .erasing answer)
      (allowed : writers.mayErase p s.cell.current = .ok ()) :
      Effect writers s (.erase p lost) (s.erase p answer lost)
  | refused {p : P} {lost : Option ε} {e : ε} :
      Effect writers s (.erase p lost) (s.setPhase p (.done (.error e)))
  | abort {p : P} {e : ε} : Effect writers s (.abort p e) (s.setPhase p (.done (.error e)))
  | create {value : α} : Effect writers s (.create value) (s.change none (s.cell.put value))
  | remove : Effect writers s .remove (s.change none s.cell.remove)

theorem step_effect {writers : Writers P α ε} {s s' : System P α ε} {event : Event P α ε}
    (h : s.step writers event = some s') : Effect writers s event s' := by
  cases event with
  | start p suggestion =>
      simp only [step] at h
      split at h
      · rename_i hphase
        exact Option.some.inj h ▸ .start hphase s.cell.current_mem
      · rename_i v hphase
        obtain ⟨hmem, ⟨⟩⟩ := Option.ite_none_right_eq_some.mp h
        refine .start hphase ?_
        rintro w ⟨⟩
        exact hmem
      · cases h
  | attempt p =>
      simp only [step] at h
      split at h
      · rename_i orig suggested hphase
        exact Option.some.inj h ▸ .attempt hphase
      · cases h
  | commit p lost =>
      simp only [step] at h
      split at h
      · rename_i orig value hphase
        split_ifs at h with hrevision
        · exact Option.some.inj h ▸ .commit hphase hrevision
        · exact Option.some.inj h ▸ .retry hphase
      · cases h
  | erase p lost =>
      simp only [step] at h
      split at h
      · rename_i answer hphase
        split at h
        · exact Option.some.inj h ▸ .refused
        · rename_i hallowed
          exact Option.some.inj h ▸ .erase hphase hallowed
      · cases h
  | abort p e =>
      simp only [step] at h
      split at h
      · exact Option.some.inj h ▸ .abort
      · exact Option.some.inj h ▸ .abort
      · exact Option.some.inj h ▸ .abort
      · cases h
  | create value =>
      obtain ⟨_, ⟨⟩⟩ := Option.ite_none_right_eq_some.mp h
      exact .create
  | remove =>
      obtain ⟨_, ⟨⟩⟩ := Option.ite_none_right_eq_some.mp h
      exact .remove

end System

def machine [DecidableEq P] [DecidableEq α] (writers : Writers P α ε) :
    Machine (System P α ε) (Event P α ε) where
  init := fun s => s = {}
  step := System.step writers

/-! ## The writes are one sequence -/

/-- Each change starts from where the one before it ended. -/
def Chained : List (Change P α) → Option (Versioned α) → Prop
  | [], current => current = none
  | change :: earlier, current => change.new = current ∧ Chained earlier change.old

/-- The writers that have written. -/
def written (log : List (Change P α)) : List P := log.filterMap Change.writer

/-- The writer has read a value for which it erases whatever is there, with this
answer. -/
def Erases (writers : Writers P α ε) (past : List (Versioned α)) (p : P) (answer : α) : Prop :=
  ∃ orig, (∀ v ∈ orig, v ∈ past) ∧ writers.update p orig = .ok (.erase answer)

/-- The writer's update was applied to what it replaced, or the writer was free to erase
it. -/
def Change.Applied (writers : Writers P α ε) (past : List (Versioned α))
    (change : Change P α) : Prop :=
  ∀ p ∈ change.writer,
    (∃ value, writers.update p change.old = .ok (.store value) ∧
      change.new.map Versioned.value = some value) ∨
    (∃ v, change.old = some v) ∧ change.new = none ∧
      writers.mayErase p change.old = .ok () ∧ ∃ answer, Erases writers past p answer

/-- What a phase says of the past. -/
def Phase.Fine (writers : Writers P α ε) (past : List (Versioned α)) (log : List (Change P α))
    (p : P) : Phase α ε → Prop
  | .idle => p ∉ written log
  | .trying orig _ => p ∉ written log ∧ ∀ v ∈ orig, v ∈ past
  | .committing orig value =>
      p ∉ written log ∧ (∀ v ∈ orig, v ∈ past) ∧ writers.update p orig = .ok (.store value)
  | .erasing answer => p ∉ written log ∧ Erases writers past p answer
  | .done (.error _) => True
  | .done (.ok (.stored v)) =>
      (∃ change ∈ log, change.writer = some p ∧ change.new = some v) ∨
        p ∉ written log ∧ v ∈ past ∧ ∃ orig ∈ past,
          writers.update p (some orig) = .ok (.store orig.value) ∧ v.value = orig.value
  | .done (.ok (.erased answer removed)) => Erases writers past p answer ∧
      ((∃ change ∈ log, change.writer = some p ∧ change.old = removed ∧ change.new = none) ∨
        p ∉ written log ∧ removed = none ∧ writers.mayErase p none = .ok ())

theorem Erases.mono {writers : Writers P α ε} {past past' : List (Versioned α)} {p : P}
    {answer : α} (h : Erases writers past p answer) (hpast : ∀ v ∈ past, v ∈ past') :
    Erases writers past' p answer := by
  obtain ⟨orig, horig, hupdate⟩ := h
  exact ⟨orig, fun v hv => hpast v (horig v hv), hupdate⟩

theorem Change.Applied.mono {writers : Writers P α ε} {past past' : List (Versioned α)}
    {change : Change P α} (h : change.Applied writers past) (hpast : ∀ v ∈ past, v ∈ past') :
    change.Applied writers past' := by
  intro p hp
  refine (h p hp).imp_right ?_
  rintro ⟨hold, hnew, hallowed, answer, herases⟩
  exact ⟨hold, hnew, hallowed, answer, herases.mono hpast⟩

theorem Phase.Fine.mono {writers : Writers P α ε} {past past' : List (Versioned α)}
    {log : List (Change P α)} {change : Change P α} {p : P} {phase : Phase α ε}
    (h : phase.Fine writers past log p) (hpast : ∀ v ∈ past, v ∈ past')
    (hother : change.writer ≠ some p) : phase.Fine writers past' (change :: log) p := by
  have hwritten : p ∉ written log → p ∉ written (change :: log) := by
    intro hnot hmem
    rw [written, List.mem_filterMap] at hmem
    obtain ⟨change', hchange, hwriter⟩ := hmem
    rcases List.mem_cons.mp hchange with rfl | hchange
    · exact hother hwriter
    · exact hnot (List.mem_filterMap.mpr ⟨change', hchange, hwriter⟩)
  cases phase with
  | idle => exact hwritten h
  | trying orig suggested => exact ⟨hwritten h.1, fun v hv => hpast v (h.2 v hv)⟩
  | committing orig value =>
      exact ⟨hwritten h.1, fun v hv => hpast v (h.2.1 v hv), h.2.2⟩
  | erasing answer => exact ⟨hwritten h.1, h.2.mono hpast⟩
  | done outcome =>
      rcases outcome with e | ⟨v | ⟨answer, removed⟩⟩
      · trivial
      · rcases h with ⟨change', hchange, hrest⟩ | ⟨hnot, hmem, hrest⟩
        · exact .inl ⟨change', List.mem_cons_of_mem _ hchange, hrest⟩
        · obtain ⟨orig, horig, hupdate⟩ := hrest
          exact .inr ⟨hwritten hnot, hpast v hmem, orig, hpast orig horig, hupdate⟩
      · refine ⟨h.1.mono hpast, ?_⟩
        rcases h.2 with ⟨change', hchange, hrest⟩ | ⟨hnot, hrest⟩
        · exact .inl ⟨change', List.mem_cons_of_mem _ hchange, hrest⟩
        · exact .inr ⟨hwritten hnot, hrest⟩

/-- The invariant: the changes form one sequence, each writer has made at most one, and
its update was applied to the value that it replaced, unless it erased that value. -/
structure Linear (writers : Writers P α ε) (s : System P α ε) : Prop where
  chained : Chained s.log s.cell.current
  applied : ∀ change ∈ s.log, change.Applied writers s.cell.past
  logged : ∀ change ∈ s.log, ∀ v ∈ change.old, v ∈ s.cell.past
  once : (written s.log).Nodup
  phases : ∀ p, (s.phase p).Fine writers s.cell.past s.log p

theorem linear_init {writers : Writers P α ε} : Linear writers {} :=
  ⟨rfl, fun _ hchange => absurd hchange List.not_mem_nil,
    fun _ hchange => absurd hchange List.not_mem_nil, List.nodup_nil, fun _ => List.not_mem_nil⟩

section Step

variable [DecidableEq P] [DecidableEq α] {writers : Writers P α ε} {s s' : System P α ε}

omit [DecidableEq α] in
theorem Linear.setPhase (h : Linear writers s) {p : P} {phase : Phase α ε}
    (hphase : phase.Fine writers s.cell.past s.log p) : Linear writers (s.setPhase p phase) := by
  refine ⟨h.chained, h.applied, h.logged, h.once, fun q => ?_⟩
  change (Function.update s.phase p phase q).Fine writers s.cell.past s.log q
  by_cases heq : q = p
  · subst heq
    rw [Function.update_self]
    exact hphase
  · rw [Function.update_of_ne heq]
    exact h.phases q

omit [DecidableEq P] in
theorem fine_confirm {p : P} {v : Versioned α} {suggested : Bool}
    (hnot : p ∉ written s.log) (hmem : v ∈ s.cell.past)
    (hupdate : writers.update p (some v) = .ok (.store v.value)) :
    (confirm s.cell v suggested).Fine writers s.cell.past s.log p := by
  unfold confirm
  split
  · exact .inr ⟨hnot, hmem, v, hmem, hupdate, rfl⟩
  · exact ⟨hnot, nofun⟩
  · rename_i w hcurrent
    have hw := s.cell.current_mem w hcurrent
    split_ifs with hsame
    · -- the value is as the cache showed it
      exact .inr ⟨hnot, hw, v, hmem, hupdate, hsame⟩
    · exact ⟨hnot, fun _ hv => Option.some.inj hv ▸ hw⟩

omit [DecidableEq P] in
theorem Linear.attempt (h : Linear writers s) {p : P} {orig : Option (Versioned α)}
    {suggested : Bool} (hphase : s.phase p = .trying orig suggested) :
    (OptimisticUpdate.attempt writers s.cell p orig suggested).Fine writers s.cell.past s.log
      p := by
  have hfine := h.phases p
  rw [hphase] at hfine
  obtain ⟨hnot, horig⟩ := hfine
  unfold OptimisticUpdate.attempt
  split
  · split_ifs
    · exact ⟨hnot, s.cell.current_mem⟩
    · trivial
  · rename_i answer hanswer
    exact ⟨hnot, _, horig, hanswer⟩
  · rename_i value hvalue
    exact ⟨hnot, nofun, hvalue⟩
  · rename_i value v hvalue
    split_ifs with hsame
    · subst hsame
      exact fine_confirm hnot (horig v rfl) hvalue
    · exact ⟨hnot, horig, hvalue⟩

omit [DecidableEq α] in
/-- A change by a writer whose update was applied, or by someone else. -/
theorem Linear.change (h : Linear writers s) {writer : Option P} {cell : Cell α}
    (hpast : ∀ v ∈ s.cell.past, v ∈ cell.past)
    (happlied : Change.Applied writers cell.past ⟨writer, s.cell.current, cell.current⟩)
    (hwriter : ∀ p ∈ writer, p ∉ written s.log)
    {phase : P → Phase α ε} (hphases : ∀ p, p ∉ writer → phase p = s.phase p)
    (hdone : ∀ p ∈ writer, (phase p).Fine writers cell.past
      (⟨writer, s.cell.current, cell.current⟩ :: s.log) p) :
    Linear writers { s.change writer cell with phase := phase } := by
  refine ⟨⟨rfl, h.chained⟩, List.forall_mem_cons.mpr ⟨happlied, ?_⟩,
    List.forall_mem_cons.mpr ⟨?_, ?_⟩, ?_, fun p => ?_⟩
  · exact fun change hchange => (h.applied change hchange).mono hpast
  · exact fun v hv => hpast v (s.cell.current_mem v hv)
  · exact fun change hchange v hv => hpast v (h.logged change hchange v hv)
  · change (List.filterMap Change.writer (⟨writer, s.cell.current, cell.current⟩ :: s.log)).Nodup
    cases writer with
    | none => exact h.once
    | some p => exact List.nodup_cons.mpr ⟨hwriter p rfl, h.once⟩
  · by_cases hp : p ∈ writer
    · exact hdone p hp
    · change (phase p).Fine writers cell.past (_ :: s.log) p
      rw [hphases p hp]
      exact (h.phases p).mono hpast hp

omit [DecidableEq α] in
theorem Linear.commit (h : Linear writers s) {p : P} {orig : Option (Versioned α)} {value : α}
    (hphase : s.phase p = .committing orig value)
    (hrevision : Cell.revisionOf s.cell.current = Cell.revisionOf orig) {lost : Option ε} :
    Linear writers (s.commit p value lost) := by
  have hfine := h.phases p
  rw [hphase] at hfine
  obtain ⟨hnot, horig, hupdate⟩ := hfine
  -- the value is still the one that the writer has seen
  have hcurrent := s.cell.eq_of_revisionOf horig hrevision
  refine h.change (fun v hv => List.mem_cons_of_mem _ hv) ?_ ?_ ?_ ?_
  · rintro q ⟨⟩
    exact .inl ⟨value, hcurrent ▸ hupdate, rfl⟩
  · rintro q ⟨⟩
    exact hnot
  · intro q hq
    exact Function.update_of_ne (fun heq => hq (congrArg some heq.symm)) _ _
  · rintro q ⟨⟩
    rw [Function.update_self]
    cases lost with
    | none => exact .inl ⟨_, List.mem_cons_self, rfl, rfl⟩
    | some e => trivial

omit [DecidableEq α] in
theorem Linear.erase (h : Linear writers s) {p : P} {answer : α}
    (hphase : s.phase p = .erasing answer)
    (hallowed : writers.mayErase p s.cell.current = .ok ()) {lost : Option ε} :
    Linear writers (s.erase p answer lost) := by
  have hfine := h.phases p
  rw [hphase] at hfine
  obtain ⟨hnot, herases⟩ := hfine
  unfold System.erase
  split
  · rename_i hcurrent
    rw [hcurrent] at hallowed
    exact h.setPhase ⟨herases, .inr ⟨hnot, rfl, hallowed⟩⟩
  · rename_i v hcurrent
    have hpast : ∀ v ∈ s.cell.past, v ∈ s.cell.remove.past := fun v hv => hv
    refine h.change hpast ?_ ?_ ?_ ?_
    · rintro q ⟨⟩
      exact .inr ⟨⟨v, hcurrent⟩, rfl, hallowed, answer, herases⟩
    · rintro q ⟨⟩
      exact hnot
    · intro q hq
      exact Function.update_of_ne (fun heq => hq (congrArg some heq.symm)) _ _
    · rintro q ⟨⟩
      rw [Function.update_self]
      cases lost with
      | none => exact ⟨herases, .inl ⟨_, List.mem_cons_self, rfl, hcurrent, rfl⟩⟩
      | some e => trivial

theorem Linear.step (h : Linear writers s) {event : Event P α ε}
    (hstep : s.step writers event = some s') : Linear writers s' := by
  cases System.step_effect hstep with
  | @start p _ orig suggested idle known =>
      have hfine := h.phases p
      rw [idle] at hfine
      exact h.setPhase ⟨hfine, known⟩
  | attempt trying => exact h.setPhase (h.attempt trying)
  | commit committing unchanged => exact h.commit committing unchanged
  | @retry p _ orig value committing =>
      have hfine := h.phases p
      rw [committing] at hfine
      exact h.setPhase ⟨hfine.1, s.cell.current_mem⟩
  | erase erasing allowed => exact h.erase erasing allowed
  | refused => exact h.setPhase trivial
  | abort => exact h.setPhase trivial
  | create =>
      refine h.change (fun v hv => List.mem_cons_of_mem _ hv) ?_ ?_ (fun _ _ => rfl) ?_
      all_goals exact fun p hp => by cases hp
  | remove =>
      have hpast : ∀ v ∈ s.cell.past, v ∈ s.cell.remove.past := fun v hv => hv
      refine h.change hpast ?_ ?_ (fun _ _ => rfl) ?_
      all_goals exact fun p hp => by cases hp

variable {ok : System P α ε → Event P α ε → Prop}

/-- In every state that any interleaving reaches, the changes are one sequence. -/
theorem linear_of_reachable (hreach : (machine writers).Reachable ok s) : Linear writers s := by
  apply hreach.invariant (Linear writers)
  · rintro s rfl
    exact linear_init
  · exact fun s event s' h _ hstep => h.step hstep

/-- What is created with a property and keeps it in every update always has it. -/
theorem value_of_reachable (Inv : α → Prop)
    (hcreate : ∀ s value, ok s (.create value) → Inv value)
    (hupdate : ∀ p orig value, writers.update p orig = .ok (.store value) →
      (∀ v ∈ orig, Inv v.value) → Inv value)
    (hreach : (machine writers).Reachable ok s) : ∀ v ∈ s.cell.past, Inv v.value := by
  refine (hreach.invariant
    (fun s => Linear writers s ∧ ∀ v ∈ s.cell.past, Inv v.value) ?_ ?_).2
  · intro s hinit
    cases hinit
    exact ⟨linear_init, fun v hv => absurd hv List.not_mem_nil⟩
  · rintro s event s' ⟨hlinear, hpast⟩ hok hstep
    refine ⟨hlinear.step hstep, ?_⟩
    cases System.step_effect hstep with
    | @commit p lost orig value committing =>
        have hfine := hlinear.phases p
        rw [committing] at hfine
        exact List.forall_mem_cons.mpr
          ⟨hupdate p orig value hfine.2.2 fun v hv => hpast v (hfine.2.1 v hv), hpast⟩
    | create => exact List.forall_mem_cons.mpr ⟨hcreate s _ hok, hpast⟩
    | start => exact hpast
    | attempt => exact hpast
    | retry => exact hpast
    | @erase p lost answer =>
        unfold System.erase
        split <;> exact hpast
    | refused => exact hpast
    | abort => exact hpast
    | remove => exact hpast

end Step

end OptimisticUpdate

end ControlLoop
