/-
Histories of a record with named entries.  Each new version is compared with the
one before it only, entry by entry.  If no entry comes back after it was
dropped, what holds between neighbours holds between any two versions.
-/
import Navigator.Base.Machine

namespace ControlLoop

variable {σ κ β : Type}

/-- The versions accepted so far, the newest first. -/
def history (create : σ → Prop) (update : σ → σ → Prop) [DecidableRel update] :
    Machine (List σ) σ where
  init versions := ∃ first, create first ∧ versions = [first]
  step versions new :=
    match versions with
    | [] => none
    | current :: past => if update current new then some (new :: current :: past) else none

section

variable (entries : σ → List β) (name : β → κ) (related : β → β → Prop)

/-- Entries of one name are related. -/
def Agree (old new : σ) : Prop :=
  ∀ entry ∈ entries old, ∀ entry' ∈ entries new, name entry' = name entry → related entry entry'

/-- No entry of the new version was there before and dropped in between. -/
def NoneBack (versions : List σ) (new : σ) : Prop :=
  ∀ entry ∈ entries new, (∃ old ∈ versions, name entry ∈ (entries old).map name) →
    ∀ current ∈ versions.head?, name entry ∈ (entries current).map name

instance [DecidableEq κ] (versions : List σ) (new : σ) :
    Decidable (NoneBack entries name versions new) :=
  inferInstanceAs (Decidable (∀ entry ∈ entries new,
    (∃ old ∈ versions, name entry ∈ (entries old).map name) →
      ∀ current ∈ versions.head?, name entry ∈ (entries current).map name))

end

section

variable {entries : σ → List β} {name : β → κ} {related : β → β → Prop}

/-- One more version agrees with all versions before it. -/
theorem agree_of_noneBack (htrans : ∀ a b c, related a b → related b c → related a c)
    {current new : σ} {past : List σ}
    (hpast : ∀ old ∈ past, Agree entries name related old current)
    (hnew : Agree entries name related current new)
    (hback : NoneBack entries name (current :: past) new) :
    ∀ old ∈ current :: past, Agree entries name related old new := by
  intro old hold entry hentry entry' hentry' hname
  rcases List.mem_cons.mp hold with rfl | hold
  · exact hnew entry hentry entry' hentry' hname
  · -- the entry is in the current version too, and links the two
    have hseen : name entry' ∈ (entries old).map name :=
      List.mem_map.mpr ⟨entry, hentry, hname.symm⟩
    obtain ⟨between, hbetween, hsame⟩ := List.mem_map.mp (hback entry' hentry'
      ⟨old, List.mem_cons_of_mem current hold, hseen⟩ current rfl)
    exact htrans entry between entry'
      (hpast old hold entry hentry between hbetween (hsame.trans hname))
      (hnew between hbetween entry' hentry' hsame.symm)

/-- Any two versions of a history without returning entries agree. -/
theorem pairwise_agree {create : σ → Prop} {update : σ → σ → Prop} [DecidableRel update]
    {valid : σ → Prop} (htrans : ∀ a b c, related a b → related b c → related a c)
    (hcreate : ∀ first, create first → valid first)
    (hupdate : ∀ current new, valid current → update current new →
      valid new ∧ Agree entries name related current new)
    {versions : List σ}
    (hreach : (history create update).Reachable (NoneBack entries name) versions) :
    versions.Pairwise fun new old => Agree entries name related old new := by
  have hinv : (∀ current ∈ versions.head?, valid current) ∧
      versions.Pairwise fun new old => Agree entries name related old new := by
    refine hreach.invariant (fun versions => (∀ current ∈ versions.head?, valid current) ∧
      versions.Pairwise fun new old => Agree entries name related old new) ?_ ?_
    · rintro versions ⟨first, hfirst, rfl⟩
      refine ⟨?_, List.pairwise_singleton _ _⟩
      intro current hcurrent
      exact Option.some.inj hcurrent ▸ hcreate first hfirst
    · intro versions new versions' ⟨hvalid, hpairwise⟩ hback hstep
      cases versions with
      | nil => cases hstep
      | cons current past =>
          simp only [history, Option.ite_none_right_eq_some, Option.some.injEq] at hstep
          obtain ⟨haccepted, rfl⟩ := hstep
          obtain ⟨hnew, hagree⟩ := hupdate current new (hvalid current rfl) haccepted
          obtain ⟨hpast, _⟩ := List.pairwise_cons.mp hpairwise
          refine ⟨?_, List.pairwise_cons.mpr
            ⟨agree_of_noneBack htrans hpast hagree hback, hpairwise⟩⟩
          intro head hhead
          exact Option.some.inj hhead ▸ hnew
  exact hinv.2

end

end ControlLoop
