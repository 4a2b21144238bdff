/-
What the two cluster controllers share: how `Sync` runs its parts, each of which
may end it with an error that the user is told about.
-/
import Navigator.Base.SingleWrite
import Navigator.Client

namespace Navigator

open ControlLoop

def errorSync : String := "ErrSync"

/-- Run a routine and return its error after telling the user about it.  A
crash is not an error that the caller sees. -/
def handling (program : Program Unit) (tell : Err → Program Unit) : Program (Option Err) := do
  match ← program.attempt with
  | .ok _ => pure none
  | .error .nilDereference => .fail .nilDereference
  | .error e => do
      tell e
      pure (some e)

/-- A sub-controller given by its outcome: on an error `Sync` ends with it. -/
def subControl (outcome : Option Err) (message : String) (rest : Program (Option Err)) :
    Program (Option Err) :=
  match outcome with
  | none => rest
  | some e => do
      record .warning errorSync (message ++ e.error)
      pure (some e)

section

variable {good quiet : Request → Prop}

theorem handling_all {program : Program Unit} {tell : Err → Program Unit}
    (hprogram : program.All good) (htell : ∀ e, (tell e).All good) :
    (handling program tell).All good := by
  apply Prog.safe_bind ((Prog.safe_attempt hprogram).mono (fun _ h => h) (fun _ _ => trivial))
  intro outcome _
  split
  · trivial
  · trivial
  · exact Prog.safe_bind (htell _) fun _ _ => trivial

theorem subControl_all {outcome : Option Err} {message : String}
    {rest : Program (Option Err)} (hevent : ∀ event, good (.recordEvent event))
    (hrest : rest.All good) : (subControl outcome message rest).All good := by
  cases outcome with
  | none => exact hrest
  | some e =>
      apply Prog.all_bind
      · exact safe_record.mpr ⟨hevent _, trivial⟩
      · exact fun _ => trivial

theorem handling_once {program : Program Unit} {tell : Err → Program Unit}
    (hprogram : program.Once quiet good) (htell : ∀ e, (tell e).All quiet) :
    (handling program tell).Once quiet good := by
  apply hprogram.attempt.bind
  intro outcome
  split
  · trivial
  · trivial
  · exact Prog.all_bind (htell _) fun _ => trivial

theorem subControl_once {outcome : Option Err} {message : String}
    {rest : Program (Option Err)} (hevent : ∀ event, quiet (.recordEvent event))
    (hrest : rest.Once quiet good) : (subControl outcome message rest).Once quiet good := by
  cases outcome with
  | none => exact hrest
  | some e =>
      apply Prog.once_of_all
      exact Prog.all_bind (safe_record.mpr ⟨hevent _, trivial⟩) fun _ => trivial

theorem issue_once {request : Request} (h : good request) : (issue request).Once quiet good := by
  refine Or.inr ⟨h, fun answer => ?_⟩
  cases answer with
  | none => trivial
  | some e => trivial

end

/-- The request is an event. -/
def IsEvent (request : Request) : Prop := ∃ event, request = .recordEvent event

theorem record_all_isEvent {type : EventType} {reason message : String} :
    (record type reason message).All IsEvent :=
  safe_record.mpr ⟨⟨_, rfl⟩, trivial⟩

/-- Serving an event leaves the stores as they are. -/
theorem IsEvent.serve {request : Request} (h : IsEvent request) (api : ApiServer) :
    (api.serve request).2 = api := by
  obtain ⟨event, rfl⟩ := h
  rfl

end Navigator
