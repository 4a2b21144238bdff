/-
At most one pilot leads.  A pilot that believes to lead had its lease confirmed so
recently that nobody may have taken it over: the deadline of its renewals, the time its
calls take and the rounding of the renewal time to seconds add up to less than the time
that the others wait.
-/
import Navigator.GenericPilot.LeaderElection

namespace Navigator

open ControlLoop

namespace LeaderElection

theorem toSeconds_le (time : Nat) : toSeconds time ≤ time :=
  Nat.div_mul_le_self time second

theorem lt_toSeconds_add (time : Nat) : time < toSeconds time + second := by
  have hmod := Nat.mod_lt time (show 0 < second by decide)
  have hdiv := Nat.div_add_mod time second
  rw [toSeconds, Nat.mul_comm]
  omega

theorem toSeconds_mono {time time' : Nat} (h : time ≤ time') : toSeconds time ≤ toSeconds time' :=
  Nat.mul_le_mul_right _ (Nat.div_le_div_right h)

theorem toSeconds_toSeconds (time : Nat) : toSeconds (toSeconds time) = toSeconds time := by
  rw [toSeconds, toSeconds, Nat.mul_div_cancel _ (show 0 < second by decide)]

section

variable {P : Type}

/-- The clients answer in time: a call of `tryAcquireOrRenew` takes at most `maxCall`, a
timer or a waiting loop is at most `lateness` late, and `startLeading` has run before
the elector returns. -/
def InTime (config : Config) (maxCall lateness : Nat) (s : System P) : Prop :=
  ∀ p, (∀ call ∈ (s.elector p).call, s.board.clock ≤ call.started + maxCall) ∧
    (∀ poll ∈ (s.elector p).phase.poll,
      (poll.closed = none → s.board.clock ≤ poll.start + config.renewDeadline + lateness) ∧
        ∀ time ∈ poll.closed, (s.elector p).call = none →
          s.board.clock ≤ max time poll.ready + lateness) ∧
    ((s.elector p).phase = .returned → (s.elector p).starting = false)

instance [Fintype P] (config : Config) (maxCall lateness : Nat) (s : System P) :
    Decidable (InTime config maxCall lateness s) :=
  inferInstanceAs (Decidable (∀ _, _))

/-! ## The order of the records -/

namespace LeaderElectionRecord

/-- The lease was held or renewed earlier. -/
def Before (record record' : LeaderElectionRecord P) : Prop :=
  record.leaderTransitions < record'.leaderTransitions ∨
    record.leaderTransitions = record'.leaderTransitions ∧ record.renewTime < record'.renewTime

/-- The lease was held or renewed earlier, or it is the same. -/
def UpTo (record record' : LeaderElectionRecord P) : Prop :=
  record.Before record' ∨ record.SameLease record'

theorem UpTo.refl (record : LeaderElectionRecord P) : record.UpTo record :=
  .inr ⟨rfl, rfl, rfl⟩

theorem UpTo.trans {record record' record'' : LeaderElectionRecord P}
    (h : record.UpTo record') (h' : record'.UpTo record'') : record.UpTo record'' := by
  rcases h with hbefore | ⟨hholder, htransitions, hrenew⟩
  · refine .inl ?_
    rcases h' with hbefore' | ⟨-, htransitions', hrenew'⟩
    · simp only [Before] at *
      omega
    · simp only [Before] at *
      omega
  · rcases h' with hbefore' | ⟨hholder', htransitions', hrenew'⟩
    · exact .inl (by simp only [Before] at *; omega)
    · exact .inr ⟨hholder.trans hholder', htransitions.trans htransitions', hrenew.trans hrenew'⟩

/-- What is the same as a later record is not before it. -/
theorem UpTo.same_of_same {record record' record'' : LeaderElectionRecord P}
    (h : record.UpTo record') (h' : record'.UpTo record'') (hsame : record.SameLease record'') :
    record.SameLease record' ∧ record'.SameLease record'' := by
  obtain ⟨hholder, htransitions, hrenew⟩ := hsame
  have hfirst : ¬ record.Before record' := by
    intro hbefore
    rcases h' with hbefore' | ⟨-, htransitions', hrenew'⟩ <;> simp only [Before] at * <;> omega
  have hsame' := h.resolve_left hfirst
  refine ⟨hsame', hsame'.1.symm.trans hholder, hsame'.2.1.symm.trans htransitions,
    hsame'.2.2.symm.trans hrenew⟩

end LeaderElectionRecord

/-! ## Writes to the lock -/

/-- The record on the board is not newer than the clock of its holder. -/
structure Board.Fine (offset : P → Nat) (b : Board P) : Prop where
  since : b.since ≤ b.clock
  renewTime : ∀ lock ∈ b.lock, ∀ p, lock.record.holderIdentity = some p →
    lock.record.renewTime ≤ b.since + offset p
  encoded : ∀ lock ∈ b.lock, toSeconds lock.record.renewTime = lock.record.renewTime

/-- How a write changes the record that it is based on: its writer renews its own lease,
or takes over one that nobody has or that was not renewed for the lease duration. -/
inductive Write.Follows (config : Config) (b : Board P) (w : Write P)
    (old : LeaderElectionRecord P) : Prop where
  | renew : old.holderIdentity = some w.writer →
      w.record.leaderTransitions = old.leaderTransitions →
      old.renewTime ≤ toSeconds w.record.renewTime → Follows config b w old
  | takeOver : old.holderIdentity ≠ some w.writer →
      w.record.leaderTransitions = old.leaderTransitions + 1 →
      old.holderIdentity = none ∨ b.since + config.leaseDuration ≤ b.clock →
      Follows config b w old

structure Write.Fine (config : Config) (offset : P → Nat) (b : Board P) (w : Write P) :
    Prop where
  holder : w.record.holderIdentity = some w.writer
  renewTime : w.record.renewTime ≤ b.clock + offset w.writer
  base : ∀ version ∈ w.base, ∃ lock ∈ b.lock, version ≤ lock.version ∧
    (version = lock.version → w.Follows config b lock.record)

theorem Write.Follows.later {config : Config} {b b' : Board P} {w : Write P}
    {old : LeaderElectionRecord P} (h : w.Follows config b old) (hsince : b'.since = b.since)
    (hclock : b.clock ≤ b'.clock) : w.Follows config b' old := by
  cases h with
  | renew hholder htransitions hrenew => exact .renew hholder htransitions hrenew
  | takeOver hholder htransitions hexpired =>
      refine .takeOver hholder htransitions (hexpired.imp_right fun h => ?_)
      rw [hsince]
      exact h.trans hclock

theorem Write.Fine.tick {config : Config} {offset : P → Nat} {b : Board P} {w : Write P}
    (h : w.Fine config offset b) (duration : Nat) :
    w.Fine config offset { b with clock := b.clock + duration } := by
  refine ⟨h.holder, ?_, fun version hversion => ?_⟩
  · have hle := h.renewTime
    simp only
    omega
  · obtain ⟨lock, hlock, hle, hfollows⟩ := h.base version hversion
    exact ⟨lock, hlock, hle, fun heq => (hfollows heq).later rfl (Nat.le_add_right _ _)⟩

variable [DecidableEq P]

theorem Board.write_cases {b b' : Board P} {w : Write P} (h : b.write w = some b') :
    (b.lock = none ∧ b' = { b with lock := some ⟨0, w.record.encoded⟩, since := b.clock }) ∨
      ∃ lock, b.lock = some lock ∧ w.base = some lock.version ∧
        b' = { b with
          lock := some ⟨lock.version + 1, w.record.encoded⟩
          since := if lock.record.SameLease w.record.encoded then b.since else b.clock } := by
  unfold write at h
  split at h
  case h_1 hlock hbase => exact .inl ⟨hlock, (Option.some.inj h).symm⟩
  case h_2 lock version hlock hbase =>
    split at h
    case isTrue heq =>
      cases h
      exact .inr ⟨lock, hlock, by rw [hbase, heq], by rw [heq]⟩
    · cases h
  · cases h

section Write

variable {config : Config} {offset : P → Nat} {b b' : Board P} {w : Write P}

theorem Board.write_clock (h : b.write w = some b') : b'.clock = b.clock := by
  obtain ⟨-, rfl⟩ | ⟨lock, -, -, rfl⟩ := write_cases h <;> rfl

theorem Board.write_lock (h : b.write w = some b') :
    ∃ version, b'.lock = some ⟨version, w.record.encoded⟩ ∧
      ∀ lock ∈ b.lock, version = lock.version + 1 := by
  obtain ⟨hnone, rfl⟩ | ⟨lock, hlock, -, rfl⟩ := write_cases h
  · refine ⟨0, rfl, fun lock hlock => ?_⟩
    rw [hnone] at hlock
    cases hlock
  · refine ⟨lock.version + 1, rfl, fun lock' hlock' => ?_⟩
    rw [hlock] at hlock'
    cases hlock'
    rfl

/-- A write that is applied is based on the record it replaces. -/
theorem Write.Fine.follows (hw : w.Fine config offset b) (h : b.write w = some b') {lock : Lock P}
    (hlock : lock ∈ b.lock) : w.Follows config b lock.record := by
  obtain ⟨hnone, -⟩ | ⟨lock', hlock', hbase, -⟩ := Board.write_cases h
  · rw [hnone] at hlock
    cases hlock
  · obtain ⟨lock'', hlock'', -, hfollows⟩ := hw.base _ hbase
    have heq : lock = lock' := Option.some.inj (hlock.symm.trans hlock')
    have heq' : lock'' = lock' := Option.some.inj (hlock''.symm.trans hlock')
    rw [heq, ← heq']
    exact hfollows (by rw [heq'])

/-- The new record is as late as the old one or later. -/
theorem Write.Fine.upTo (hw : w.Fine config offset b) (h : b.write w = some b') {lock : Lock P}
    (hlock : lock ∈ b.lock) : lock.record.UpTo w.record.encoded := by
  cases hw.follows h hlock with
  | renew hholder htransitions hrenew =>
      rcases hrenew.lt_or_eq with hless | heq
      · exact .inl (.inr ⟨htransitions.symm, hless⟩)
      · exact .inr ⟨hholder.trans hw.holder.symm, htransitions.symm, heq⟩
  | takeOver hholder htransitions hexpired =>
      refine .inl (.inl ?_)
      change _ < w.record.leaderTransitions
      omega

/-- The lease is renewed at the time of the write, unless the write changes nothing of it. -/
theorem Board.write_since (h : b.write w = some b') :
    b'.since = b.clock ∨ b'.since = b.since ∧
      ∃ lock ∈ b.lock, lock.record.SameLease w.record.encoded := by
  obtain ⟨-, rfl⟩ | ⟨lock, hlock, -, rfl⟩ := write_cases h
  · exact .inl rfl
  · by_cases hsame : lock.record.SameLease w.record.encoded
    · exact .inr ⟨if_pos hsame, lock, hlock, hsame⟩
    · exact .inl (if_neg hsame)

theorem Board.write_since_of_same (h : b.write w = some b') {lock : Lock P}
    (hlock : lock ∈ b.lock) (hsame : lock.record.SameLease w.record.encoded) :
    b'.since = b.since := by
  obtain ⟨hnone, -⟩ | ⟨lock', hlock', -, rfl⟩ := write_cases h
  · rw [hnone] at hlock
    cases hlock
  · cases hlock.symm.trans hlock'
    exact if_pos hsame

theorem Board.Fine.since_le_write (hb : b.Fine offset) (h : b.write w = some b') :
    b.since ≤ b'.since := by
  rcases Board.write_since h with heq | ⟨heq, -⟩
  · rw [heq]
    exact hb.since
  · exact heq.ge

theorem Board.Fine.write (hb : b.Fine offset) (hw : w.Fine config offset b)
    (h : b.write w = some b') : b'.Fine offset := by
  obtain ⟨version, hlock', -⟩ := Board.write_lock h
  have hclock := Board.write_clock h
  refine ⟨?_, ?_, ?_⟩
  · rw [hclock]
    rcases Board.write_since h with heq | ⟨heq, -⟩
    · exact heq.le
    · rw [heq]
      exact hb.since
  · intro lock hmem p hp
    cases hlock'.symm.trans hmem
    rcases Board.write_since h with heq | ⟨heq, lock, hlock, hsame⟩
    · have hwriter : w.writer = p := Option.some.inj (hw.holder.symm.trans hp)
      have hle := hw.renewTime
      rw [hwriter] at hle
      rw [heq]
      exact (toSeconds_le _).trans hle
    · have hle := hb.renewTime lock hlock p (hsame.1.trans hp)
      rw [hsame.2.2] at hle
      rw [heq]
      exact hle
  · intro lock hmem
    cases hlock'.symm.trans hmem
    exact toSeconds_toSeconds _

/-- Other writes are based on the version that is replaced, or on an older one. -/
theorem Write.Fine.write {w' : Write P} (hw' : w'.Fine config offset b)
    (h : b.write w = some b') : w'.Fine config offset b' := by
  obtain ⟨version, hlock', hversion⟩ := Board.write_lock h
  refine ⟨hw'.holder, ?_, fun base hbase => ?_⟩
  · rw [Board.write_clock h]
    exact hw'.renewTime
  · obtain ⟨lock, hlock, hle, -⟩ := hw'.base base hbase
    have hnext := hversion lock hlock
    exact ⟨_, hlock', by simp only; omega, fun heq => by simp only at heq; omega⟩

end Write

/-! ## What holds of an elector -/

/-- The elector had a write confirmed that was applied at the time, or the server has
applied one at the time and the answer is on its way. -/
def Elector.Claims (e : Elector P) (time : Nat) : Prop :=
  (∃ poll, e.phase = .renewing poll ∧ poll.renewed = time) ∨
    ∃ call, e.call = some call ∧ call.stage = .applied time

/-- What was read is the present version, or an older one. -/
structure Lock.Fine (b : Board P) (p : P) (now : Nat) (lock : Lock P) : Prop where
  current : ∃ lock' ∈ b.lock, lock.version ≤ lock'.version ∧
    (lock.version = lock'.version → lock.record = lock'.record) ∧ lock.record.UpTo lock'.record
  own : lock.record.holderIdentity = some p → lock.record.renewTime ≤ toSeconds now

def Stage.Fine (config : Config) (offset : P → Nat) (b : Board P) (p : P) (started : Nat) :
    Stage P → Prop
  | .getting => True
  | .got lock => ∀ l ∈ lock, l.Fine b p (started + offset p)
  | .writing w => w.writer = p ∧ w.record.renewTime = started + offset p ∧
      w.Fine config offset b
  | .applied time => started ≤ time ∧ time ≤ b.clock
  | .refused => True

structure Call.Fine (config : Config) (offset : P → Nat) (b : Board P) (p : P) (call : Call P) :
    Prop where
  started : call.started ≤ b.clock
  own : ∀ lock ∈ b.lock, lock.record.holderIdentity = some p →
    lock.record.renewTime ≤ toSeconds (call.started + offset p)
  stage : call.stage.Fine config offset b p call.started

/-- The poll began soon after the write that was confirmed, and its channel is closed soon
after the deadline; the last call is started soon after that. -/
structure Poll.Fine (config : Config) (maxCall lateness clock : Nat) (call : Option (Call P))
    (poll : Poll) : Prop where
  renewed : poll.renewed ≤ poll.start
  start : poll.start ≤ poll.renewed + maxCall
  ready : poll.ready ≤ clock
  opened : poll.closed = none → ∀ c ∈ call, c.final = false
  closed : ∀ time ∈ poll.closed,
    time ≤ poll.start + config.renewDeadline + lateness ∧ poll.ready ≤ time + maxCall ∧
      ∀ c ∈ call, c.started ≤ if c.final then time + maxCall + lateness else time

/-- What an elector has observed is what is on the board, or was there before. -/
structure Elector.Observes (offset : P → Nat) (b : Board P) (p : P) (e : Elector P) : Prop where
  seen : ∀ record ∈ e.observedRecord, record = {} ∨ ∃ lock ∈ b.lock, record.UpTo lock.record
  time : ∀ record ∈ e.observedRecord, ∀ lock ∈ b.lock, record.SameLease lock.record →
    record.holderIdentity ≠ none → ∃ time, e.observedTime = some time ∧ b.since + offset p ≤ time
  unset : e.observedTime = none → e.observedRecord = some {}

structure Elector.Fine (config : Config) (offset : P → Nat) (maxCall lateness : Nat)
    (b : Board P) (p : P) (e : Elector P) : Prop where
  observes : e.Observes offset b p
  call : ∀ call ∈ e.call, call.Fine config offset b p
  poll : ∀ poll, e.phase = .renewing poll → poll.Fine config maxCall lateness b.clock e.call
  leads : e.leading = true ∨ e.starting = true → ∃ poll, e.phase = .renewing poll
  claims : ∀ time, e.Claims time → ∃ lock ∈ b.lock, lock.record.holderIdentity = some p ∧
    time ≤ b.since + maxCall + second
  returned : e.phase = .returned → e.call = none

section Elector

variable {config : Config} {offset : P → Nat} {maxCall lateness : Nat} {b b' : Board P} {p : P}
  {e : Elector P} {w : Write P}

omit [DecidableEq P] in
/-- What is claimed has not expired for the others. -/
theorem Elector.Fine.clock_lt (h : e.Fine config offset maxCall lateness b p)
    (hbound : config.renewDeadline + 4 * maxCall + 2 * lateness + second < config.leaseDuration)
    (hcall : ∀ call ∈ e.call, b.clock ≤ call.started + maxCall)
    (hpoll : ∀ poll ∈ e.phase.poll,
      (poll.closed = none → b.clock ≤ poll.start + config.renewDeadline + lateness) ∧
        ∀ time ∈ poll.closed, e.call = none → b.clock ≤ max time poll.ready + lateness)
    {time : Nat} (hclaims : e.Claims time) : b.clock < b.since + config.leaseDuration := by
  obtain ⟨lock, -, -, htime⟩ := h.claims time hclaims
  suffices hclock : b.clock ≤ time + config.renewDeadline + 3 * maxCall + 2 * lateness by omega
  obtain ⟨poll, hphase, rfl⟩ | ⟨call, hcall', hstage⟩ := hclaims
  · have hfine := h.poll poll hphase
    obtain ⟨hopened, hclosed⟩ := hpoll poll (by rw [hphase]; rfl)
    have hstart := hfine.start
    cases htimer : poll.closed with
    | none =>
        have hle := hopened htimer
        omega
    | some time =>
        obtain ⟨hdeadline, hready, hstarted⟩ := hfine.closed time htimer
        cases hnow : e.call with
        | none =>
            have hle := hclosed time htimer hnow
            omega
        | some call =>
            have hle := hcall call hnow
            have hstarted' := hstarted call hnow
            split at hstarted' <;> omega
  · have hle := hcall call hcall'
    have hfine := (h.call call hcall').stage
    rw [hstage] at hfine
    have hstarted := hfine.1
    omega

theorem Lock.Fine.write {lock : Lock P} {now : Nat} (h : lock.Fine b p now)
    (hw : w.Fine config offset b) (hwrite : b.write w = some b') : lock.Fine b' p now := by
  obtain ⟨lock', hlock', hversion, -, hupTo⟩ := h.current
  obtain ⟨version, hnew, hnext⟩ := Board.write_lock hwrite
  have hnext' := hnext lock' hlock'
  refine ⟨⟨_, hnew, ?_, fun heq => ?_, hupTo.trans (hw.upTo hwrite hlock')⟩, h.own⟩
  · simp only
    omega
  · simp only at heq
    omega

theorem Call.Fine.write {call : Call P} (h : call.Fine config offset b p)
    (hw : w.Fine config offset b) (hwrite : b.write w = some b')
    (hnow : w.writer = p → w.record.renewTime ≤ call.started + offset p) :
    call.Fine config offset b' p := by
  have hclock := Board.write_clock hwrite
  obtain ⟨version, hnew, -⟩ := Board.write_lock hwrite
  refine ⟨hclock ▸ h.started, fun lock hlock hholder => ?_, ?_⟩
  · cases hnew.symm.trans hlock
    have hwriter : w.writer = p := Option.some.inj (hw.holder.symm.trans hholder)
    exact toSeconds_mono (hnow hwriter)
  · have hstage := h.stage
    cases hcase : call.stage with
    | getting => trivial
    | got lock =>
        rw [hcase] at hstage
        exact fun l hl => (hstage l hl).write hw hwrite
    | writing w' =>
        rw [hcase] at hstage
        exact ⟨hstage.1, hstage.2.1, hstage.2.2.write hwrite⟩
    | applied time =>
        rw [hcase] at hstage
        exact ⟨hstage.1, hclock ▸ hstage.2⟩
    | refused => trivial

theorem Elector.Observes.write (h : e.Observes offset b p) (hw : w.Fine config offset b)
    (hwrite : b.write w = some b') : e.Observes offset b' p := by
  obtain ⟨version, hnew, -⟩ := Board.write_lock hwrite
  refine ⟨fun record hrecord => ?_, fun record hrecord lock hlock hsame hholder => ?_, h.unset⟩
  · refine (h.seen record hrecord).imp_right ?_
    rintro ⟨lock, hlock, hupTo⟩
    exact ⟨_, hnew, hupTo.trans (hw.upTo hwrite hlock)⟩
  · cases hnew.symm.trans hlock
    -- a record that was observed before the write is not the new one
    rcases h.seen record hrecord with rfl | ⟨lock, hlock', hupTo⟩
    · exact absurd rfl hholder
    · obtain ⟨hsame', hold⟩ := hupTo.same_of_same (hw.upTo hwrite hlock') hsame
      obtain ⟨time, htime, hle⟩ := h.time record hrecord lock hlock' hsame' hholder
      exact ⟨time, htime, Board.write_since_of_same hwrite hlock' hold ▸ hle⟩

/-- A write of another pilot finds no claim, and a write of one's own keeps it. -/
theorem Elector.Fine.write (h : e.Fine config offset maxCall lateness b p)
    (hb : b.Fine offset) (hw : w.Fine config offset b) (hwrite : b.write w = some b')
    (hclock : ∀ time, e.Claims time → b.clock < b.since + config.leaseDuration)
    (hnow : w.writer = p → ∀ call ∈ e.call, w.record.renewTime ≤ call.started + offset p) :
    e.Fine config offset maxCall lateness b' p where
  observes := h.observes.write hw hwrite
  call := fun call hcall => (h.call call hcall).write hw hwrite fun hp => hnow hp call hcall
  poll := fun poll hpoll => Board.write_clock hwrite ▸ h.poll poll hpoll
  leads := h.leads
  claims := by
    intro time htime
    obtain ⟨lock, hlock, hholder, hle⟩ := h.claims time htime
    obtain ⟨version, hnew, -⟩ := Board.write_lock hwrite
    have hsince := hb.since_le_write hwrite
    have hunexpired := hclock time htime
    cases hw.follows hwrite hlock with
    | renew hwriter =>
        refine ⟨_, hnew, ?_, by omega⟩
        exact hw.holder.trans (hwriter.symm.trans hholder)
    | takeOver _ _ hexpired =>
        rcases hexpired with hnone | hexpired
        · rw [hholder] at hnone
          cases hnone
        · omega
  returned := h.returned

/-- A write that the server has just applied. -/
theorem claim_of_write {started : Nat} (hb : b.Fine offset) (hw : w.Fine config offset b)
    (hwrite : b.write w = some b') (hnow : w.record.renewTime = started + offset w.writer)
    (hcall : b.clock ≤ started + maxCall) :
    ∃ lock ∈ b'.lock, lock.record.holderIdentity = some w.writer ∧
      b.clock ≤ b'.since + maxCall + second := by
  obtain ⟨version, hnew, -⟩ := Board.write_lock hwrite
  refine ⟨_, hnew, hw.holder, ?_⟩
  rcases Board.write_since hwrite with heq | ⟨heq, lock, hlock, hholder, -, hrenew⟩
  · omega
  · -- the renewal fell into the same second as the one before
    have hle := hb.renewTime lock hlock w.writer (hholder.trans hw.holder)
    have hlt := lt_toSeconds_add w.record.renewTime
    change _ = toSeconds w.record.renewTime at hrenew
    omega

omit [DecidableEq P] in
/-- The bounds of a poll are about when its calls start. -/
theorem Poll.Fine.setStage {poll : Poll} {clock started : Nat} {final : Bool} {stage : Stage P}
    (h : poll.Fine config maxCall lateness clock (some ⟨started, final, stage⟩))
    (stage' : Stage P) :
    poll.Fine config maxCall lateness clock (some ⟨started, final, stage'⟩) := by
  refine ⟨h.renewed, h.start, h.ready, fun hopened c hc => ?_, fun time htime => ?_⟩
  · cases hc
    exact h.opened hopened ⟨started, final, stage⟩ rfl
  · obtain ⟨hdeadline, hready, hstarted⟩ := h.closed time htime
    refine ⟨hdeadline, hready, fun c hc => ?_⟩
    cases hc
    exact hstarted ⟨started, final, stage⟩ rfl

omit [DecidableEq P] in
/-- A call goes on. -/
theorem Elector.Fine.setStage {started : Nat} {final : Bool} {stage stage' : Stage P}
    (h : e.Fine config offset maxCall lateness b p)
    (hcall : e.call = some ⟨started, final, stage⟩)
    (hstage : stage'.Fine config offset b p started)
    (hclaims : ∀ time, stage' = .applied time → ∃ lock ∈ b.lock,
      lock.record.holderIdentity = some p ∧ time ≤ b.since + maxCall + second) :
    Elector.Fine config offset maxCall lateness b p
      { e with call := some ⟨started, final, stage'⟩ } := by
  refine ⟨⟨h.observes.seen, h.observes.time, h.observes.unset⟩, ?_, ?_, h.leads, ?_, ?_⟩
  · rintro call ⟨⟩
    have hfine := h.call _ hcall
    exact ⟨hfine.started, hfine.own, hstage⟩
  · intro poll hpoll
    have hfine := h.poll poll hpoll
    rw [hcall] at hfine
    exact hfine.setStage stage'
  · rintro time (hrenewing | ⟨call, ⟨⟩, hstage'⟩)
    · exact h.claims time (.inl hrenewing)
    · exact hclaims time hstage'
  · intro hreturned
    have hnone := h.returned hreturned
    rw [hcall] at hnone
    cases hnone

theorem Elector.Fine.apply {started : Nat} {final : Bool}
    (h : e.Fine config offset maxCall lateness b p) (hb : b.Fine offset)
    (hcall : e.call = some ⟨started, final, .writing w⟩) (hwrite : b.write w = some b')
    (hclock : ∀ time, e.Claims time → b.clock < b.since + config.leaseDuration)
    (htime : b.clock ≤ started + maxCall) :
    Elector.Fine config offset maxCall lateness b' p
      { e with call := some ⟨started, final, .applied b.clock⟩ } := by
  have hfine := h.call _ hcall
  obtain ⟨rfl, hnow, hw⟩ : w.writer = p ∧ w.record.renewTime = started + offset p ∧
      w.Fine config offset b := hfine.stage
  have hold := h.write hb hw hwrite hclock fun _ call hcall' => by
    cases hcall.symm.trans hcall'
    exact hnow.le
  refine hold.setStage hcall ⟨hfine.started, (Board.write_clock hwrite).ge⟩ fun time heq => ?_
  cases heq
  exact claim_of_write hb hw hwrite hnow htime

omit [DecidableEq P] in
/-- An elector that is not in a call. -/
theorem Elector.fine_of_call_none (hobserves : e.Observes offset b p) (hcall : e.call = none)
    (hpoll : ∀ poll, e.phase = .renewing poll →
      poll.Fine config maxCall lateness b.clock (none : Option (Call P)) ∧
        ∃ lock ∈ b.lock, lock.record.holderIdentity = some p ∧
          poll.renewed ≤ b.since + maxCall + second)
    (hleads : e.leading = true ∨ e.starting = true → ∃ poll, e.phase = .renewing poll) :
    e.Fine config offset maxCall lateness b p where
  observes := hobserves
  call := fun call hsome => by
    rw [hcall] at hsome
    cases hsome
  poll := fun poll hphase => hcall ▸ (hpoll poll hphase).1
  leads := hleads
  claims := by
    rintro time (⟨poll, hphase, rfl⟩ | ⟨call, hsome, _⟩)
    · exact (hpoll poll hphase).2
    · rw [hcall] at hsome
      cases hsome
  returned := fun _ => hcall

omit [DecidableEq P] in
/-- A call of `tryAcquireOrRenew` returns without success. -/
theorem Elector.Fine.fails {call : Call P} (h : e.Fine config offset maxCall lateness b p)
    (hcall : e.call = some call) (htime : b.clock ≤ call.started + maxCall)
    (hstarted : (e.finish b.clock call.final none).phase = .returned →
      (e.finish b.clock call.final none).starting = false) :
    (e.finish b.clock call.final none).Fine config offset maxCall lateness b p := by
  have hobserves : ∀ phase leading, Elector.Observes offset b p
      { e with call := none, phase := phase, leading := leading } := fun _ _ =>
    ⟨h.observes.seen, h.observes.time, h.observes.unset⟩
  unfold finish at hstarted ⊢
  cases hphase : e.phase with
  | acquiring =>
      refine fine_of_call_none (hobserves _ _) rfl (fun poll hpoll => by cases hpoll) ?_
      intro hleads
      obtain ⟨poll, hpoll⟩ := h.leads hleads
      cases hphase.symm.trans hpoll
  | returned =>
      have hnone := h.returned hphase
      rw [hcall] at hnone
      cases hnone
  | renewing poll =>
      rw [hphase] at hstarted
      have hfine := h.poll poll hphase
      by_cases hfinal : call.final = true
      · simp only [if_pos hfinal] at hstarted ⊢
        refine fine_of_call_none (hobserves _ _) rfl (fun poll hpoll => by cases hpoll) ?_
        rintro (hleading | hstarting)
        · cases hleading
        · rw [hstarted trivial] at hstarting
          cases hstarting
      · simp only [if_neg hfinal]
        refine fine_of_call_none (hobserves _ _) rfl ?_ fun _ => ⟨_, rfl⟩
        rintro poll' ⟨⟩
        refine ⟨⟨hfine.renewed, hfine.start, le_refl _, fun _ _ hnone => (by cases hnone),
          fun time hclosed => ?_⟩, h.claims poll.renewed (.inl ⟨poll, hphase, rfl⟩)⟩
        obtain ⟨hdeadline, -, hcalls⟩ := hfine.closed time hclosed
        have hle := hcalls call hcall
        rw [if_neg hfinal] at hle
        exact ⟨hdeadline, by simp only; omega, fun _ hnone => by cases hnone⟩

omit [DecidableEq P] in
/-- A call of `tryAcquireOrRenew` returns with success. -/
theorem Elector.Fine.respond {started time : Nat} {final : Bool}
    (h : e.Fine config offset maxCall lateness b p)
    (hcall : e.call = some ⟨started, final, .applied time⟩)
    (htime : b.clock ≤ started + maxCall) :
    (Elector.finish b.clock final (some time)
      { e with observedRecord := none, observedTime := some (b.clock + offset p) }).Fine
        config offset maxCall lateness b p := by
  have hgranted := h.claims time (.inr ⟨_, hcall, rfl⟩)
  obtain ⟨hstarted, happlied⟩ : started ≤ time ∧ time ≤ b.clock := (h.call _ hcall).stage
  have hpoll : ∀ starting, Elector.Fine config offset maxCall lateness b p
      { e with
        observedRecord := none, observedTime := some (b.clock + offset p), call := none
        phase := .renewing ⟨b.clock, none, b.clock, time⟩, starting := starting } := by
    intro starting
    refine fine_of_call_none ⟨fun _ hnone => (by cases hnone), fun _ hnone => (by cases hnone),
      fun hnone => by cases hnone⟩ rfl ?_ fun _ => ⟨_, rfl⟩
    rintro poll ⟨⟩
    exact ⟨⟨happlied, by simp only; omega, le_refl _, fun _ _ hnone => (by cases hnone),
      fun _ hnone => by cases hnone⟩, hgranted⟩
  unfold finish
  cases hphase : e.phase with
  | acquiring => exact hpoll true
  | renewing poll => exact hpoll e.starting
  | returned =>
      have hnone := h.returned hphase
      rw [hcall] at hnone
      cases hnone

omit [DecidableEq P] in
/-- Time passes. -/
theorem Elector.Fine.tick (h : e.Fine config offset maxCall lateness b p) (duration : Nat) :
    e.Fine config offset maxCall lateness { b with clock := b.clock + duration } p where
  observes := ⟨h.observes.seen, h.observes.time, h.observes.unset⟩
  call := by
    intro call hcall
    have hfine := h.call call hcall
    refine ⟨hfine.started.trans (Nat.le_add_right _ _), hfine.own, ?_⟩
    have hstage := hfine.stage
    cases hcase : call.stage with
    | getting => trivial
    | got lock =>
        rw [hcase] at hstage
        exact fun l hl => ⟨(hstage l hl).current, (hstage l hl).own⟩
    | writing w' =>
        rw [hcase] at hstage
        exact ⟨hstage.1, hstage.2.1, hstage.2.2.tick duration⟩
    | applied time =>
        rw [hcase] at hstage
        exact ⟨hstage.1, hstage.2.trans (Nat.le_add_right _ _)⟩
    | refused => trivial
  poll := fun poll hpoll =>
    have hfine := h.poll poll hpoll
    ⟨hfine.renewed, hfine.start, hfine.ready.trans (Nat.le_add_right _ _), hfine.opened,
      hfine.closed⟩
  leads := h.leads
  claims := h.claims
  returned := h.returned

/-- What `tryAcquireOrRenew` makes of the record that it has read. -/
theorem Elector.Observes.observe {lock : Lock P} {now : Nat} (h : e.Observes offset b p)
    (hb : b.Fine offset) (hlock : lock.Fine b p now) :
    (e.observe (b.clock + offset p) lock.record).Observes offset b p := by
  unfold Elector.observe
  split_ifs with hsame
  · exact h
  · refine ⟨?_, ?_, fun hnone => by cases hnone⟩
    · rintro record ⟨⟩
      obtain ⟨lock', hlock', -, -, hupTo⟩ := hlock.current
      exact .inr ⟨lock', hlock', hupTo⟩
    · rintro record ⟨⟩ lock' hlock' _ _
      exact ⟨_, rfl, Nat.add_le_add_right hb.since _⟩

/-- A lease that is not held by another pilot is one's own, nobody's, or expired. -/
theorem Elector.Observes.expired {lock : Lock P} {started : Nat} (h : e.Observes offset b p)
    (hlease : 0 < config.leaseDuration) (hstarted : started ≤ b.clock) (hlock : lock ∈ b.lock)
    (hholder : lock.record.holderIdentity ≠ some p)
    (hheld : (e.observe (b.clock + offset p) lock.record).held config p (started + offset p)
      lock.record = false) :
    lock.record.holderIdentity = none ∨ b.since + config.leaseDuration ≤ b.clock := by
  unfold Elector.held at hheld
  simp only [ne_eq, hholder, not_false_eq_true, decide_true, Bool.and_true] at hheld
  unfold Elector.observe at hheld
  split_ifs at hheld with hsame
  · cases hobserved : e.observedTime with
    | none =>
        have heq := h.unset hobserved
        rw [hsame, Option.some.injEq] at heq
        exact .inl (by rw [heq])
    | some time =>
        by_cases hnone : lock.record.holderIdentity = none
        · exact .inl hnone
        · obtain ⟨time', htime', hle⟩ := h.time _ hsame lock hlock ⟨rfl, rfl, rfl⟩ hnone
          cases hobserved.symm.trans htime'
          rw [hobserved, Option.any_some, decide_eq_false_iff_not] at hheld
          exact .inr (by omega)
  · -- what is observed for the first time is held
    rw [Option.any_some, decide_eq_false_iff_not] at hheld
    omega

theorem nextRecord_holderIdentity (config : Config) (p : P) (now : Nat)
    (old : LeaderElectionRecord P) : (nextRecord config p now old).holderIdentity = some p := by
  unfold nextRecord
  split_ifs <;> rfl

theorem nextRecord_renewTime (config : Config) (p : P) (now : Nat)
    (old : LeaderElectionRecord P) : (nextRecord config p now old).renewTime = now := by
  unfold nextRecord
  split_ifs <;> rfl

theorem Elector.Fine.observe {lock : Lock P} {now : Nat}
    (h : e.Fine config offset maxCall lateness b p) (hb : b.Fine offset)
    (hlock : lock.Fine b p now) :
    (e.observe (b.clock + offset p) lock.record).Fine config offset maxCall lateness b p := by
  have hobserves := h.observes.observe hb hlock
  unfold Elector.observe at hobserves ⊢
  split_ifs at hobserves ⊢ with hsame
  · exact h
  · exact ⟨hobserves, h.call, h.poll, h.leads, h.claims, h.returned⟩

/-- The write that renews one's own lease or takes over one that has expired. -/
theorem Write.fine_next {lock : Lock P} {started : Nat} (hobserves : e.Observes offset b p)
    (hlease : 0 < config.leaseDuration) (hstarted : started ≤ b.clock)
    (hlock : lock.Fine b p (started + offset p))
    (hheld : (e.observe (b.clock + offset p) lock.record).held config p (started + offset p)
      lock.record = false) :
    Write.Fine config offset b
      ⟨p, some lock.version, nextRecord config p (started + offset p) lock.record⟩ := by
  refine ⟨nextRecord_holderIdentity _ _ _ _, ?_, ?_⟩
  · simp only [nextRecord_renewTime]
    omega
  · rintro version ⟨⟩
    obtain ⟨lock', hlock', hle, hrecord, -⟩ := hlock.current
    refine ⟨lock', hlock', hle, fun heq => ?_⟩
    have hsame := hrecord heq
    by_cases hholder : lock.record.holderIdentity = some p
    · refine .renew (hsame ▸ hholder) ?_ ?_
      · simp only [nextRecord, if_pos hholder]
        rw [hsame]
      · simp only [nextRecord, if_pos hholder]
        exact hsame ▸ hlock.own hholder
    · refine .takeOver (hsame ▸ hholder) ?_ ?_
      · simp only [nextRecord, if_neg hholder]
        rw [hsame]
      · rw [hsame] at hholder hheld
        exact hobserves.expired hlease hstarted hlock' hholder hheld

theorem Elector.Fine.proceed {lock : Option (Lock P)} {started : Nat} {final : Bool}
    (h : e.Fine config offset maxCall lateness b p) (hb : b.Fine offset)
    (hlease : 0 < config.leaseDuration)
    (hcall : e.call = some ⟨started, final, .got lock⟩) (htime : b.clock ≤ started + maxCall)
    (hstarting : (e.proceed config p (offset p) b.clock ⟨started, final, .got lock⟩ lock).phase =
        .returned →
      (e.proceed config p (offset p) b.clock ⟨started, final, .got lock⟩ lock).starting = false) :
    (e.proceed config p (offset p) b.clock ⟨started, final, .got lock⟩ lock).Fine config offset
      maxCall lateness b p := by
  have hfine := h.call _ hcall
  cases lock with
  | none =>
      refine h.setStage hcall ⟨rfl, rfl, rfl, ?_, fun version hnone => by cases hnone⟩
        fun time heq => by cases heq
      exact Nat.add_le_add_right hfine.started _
  | some lock =>
      have hlock : lock.Fine b p (started + offset p) := hfine.stage lock rfl
      have hcall' : (e.observe (b.clock + offset p) lock.record).call =
          some ⟨started, final, .got (some lock)⟩ := by
        unfold Elector.observe
        split_ifs <;> exact hcall
      unfold Elector.proceed at hstarting ⊢
      simp only at hstarting ⊢
      split_ifs at hstarting ⊢ with hheld
      · exact (h.observe hb hlock).fails hcall' htime hstarting
      · exact (h.observe hb hlock).setStage hcall'
          ⟨rfl, nextRecord_renewTime _ _ _ _,
            Write.fine_next h.observes hlease hfine.started hlock (by simpa using hheld)⟩
          fun time heq => by cases heq

omit [DecidableEq P] in
theorem Elector.Fine.begin {e' : Elector P} (h : e.Fine config offset maxCall lateness b p)
    (hb : b.Fine offset)
    (hpoll : ∀ poll ∈ e.phase.poll, ∀ time ∈ poll.closed, e.call = none →
      b.clock ≤ max time poll.ready + lateness)
    (hbegin : e.begin config b.clock = some e') :
    e'.Fine config offset maxCall lateness b p ∧
      ∀ call ∈ e'.call, call.started = b.clock := by
  have hown : ∀ lock ∈ b.lock, lock.record.holderIdentity = some p →
      lock.record.renewTime ≤ toSeconds (b.clock + offset p) := by
    intro lock hlock hholder
    rw [← hb.encoded lock hlock]
    exact toSeconds_mono ((hb.renewTime lock hlock p hholder).trans
      (Nat.add_le_add_right hb.since _))
  have hfine : ∀ final, e.call = none → (∀ poll, e.phase = .renewing poll →
        poll.Fine config maxCall lateness b.clock (some (⟨b.clock, final, .getting⟩ : Call P))) →
      e.phase ≠ .returned →
      Elector.Fine config offset maxCall lateness b p
        { e with call := some ⟨b.clock, final, .getting⟩ } := by
    intro final hcall hpolls hreturned
    refine ⟨⟨h.observes.seen, h.observes.time, h.observes.unset⟩, ?_, hpolls, h.leads, ?_,
      fun heq => absurd heq hreturned⟩
    · rintro call ⟨⟩
      exact ⟨le_refl _, hown, trivial⟩
    · rintro time (hrenewing | ⟨call, ⟨⟩, hstage⟩)
      · exact h.claims time (.inl hrenewing)
      · cases hstage
  unfold Elector.begin at hbegin
  split at hbegin
  case h_1 hcall hphase =>
    cases hbegin
    refine ⟨hfine false hcall (fun poll hpoll => ?_) ?_, fun call hc => by cases hc; rfl⟩
    · cases hphase.symm.trans hpoll
    · rw [hphase]
      exact Phase.noConfusion
  case h_2 poll hcall hphase =>
    have hold := h.poll poll hphase
    have hne : e.phase ≠ .returned := by
      rw [hphase]
      exact Phase.noConfusion
    split_ifs at hbegin with hclosed hretry
    · cases hbegin
      refine ⟨hfine true hcall (fun poll' hpoll' => ?_) hne, fun call hc => by cases hc; rfl⟩
      cases hphase.symm.trans hpoll'
      refine ⟨hold.renewed, hold.start, hold.ready, fun hnone => ?_, fun time htime => ?_⟩
      · rw [hnone] at hclosed
        cases hclosed
      · obtain ⟨hdeadline, hready, -⟩ := hold.closed time htime
        have hle := hpoll poll (by rw [hphase]; rfl) time htime hcall
        refine ⟨hdeadline, hready, fun c hc => ?_⟩
        cases hc
        simp only [if_true]
        omega
    · cases hbegin
      refine ⟨hfine false hcall (fun poll' hpoll' => ?_) hne, fun call hc => by cases hc; rfl⟩
      cases hphase.symm.trans hpoll'
      refine ⟨hold.renewed, hold.start, hold.ready, fun _ c hc => by cases hc; rfl,
        fun time htime => ?_⟩
      rw [htime] at hclosed
      exact absurd rfl hclosed
  · cases hbegin

omit [DecidableEq P] in
theorem Elector.Fine.close {e' : Elector P} (h : e.Fine config offset maxCall lateness b p)
    (hpoll : ∀ poll ∈ e.phase.poll, poll.closed = none →
      b.clock ≤ poll.start + config.renewDeadline + lateness)
    (hclose : e.close config b.clock = some e') :
    e'.Fine config offset maxCall lateness b p ∧ e'.call = e.call := by
  unfold Elector.close at hclose
  split at hclose
  case h_1 poll hphase =>
    obtain ⟨⟨hopened, -⟩, ⟨⟩⟩ := Option.ite_none_right_eq_some.mp hclose
    have hold := h.poll poll hphase
    refine ⟨⟨⟨h.observes.seen, h.observes.time, h.observes.unset⟩, h.call, ?_,
      fun _ => ⟨_, rfl⟩, ?_, fun hreturned => by cases hreturned⟩, rfl⟩
    · rintro poll' ⟨⟩
      refine ⟨hold.renewed, hold.start, hold.ready, fun hnone => (by cases hnone), ?_⟩
      rintro time ⟨⟩
      refine ⟨hpoll poll (by rw [hphase]; rfl) hopened,
        hold.ready.trans (Nat.le_add_right _ _), fun c hc => ?_⟩
      rw [if_neg (by simp [hold.opened hopened c hc])]
      exact (h.call c hc).started
    · rintro time (⟨poll', ⟨⟩, rfl⟩ | hcall)
      · exact h.claims poll.renewed (.inl ⟨poll, hphase, rfl⟩)
      · exact h.claims time (.inr hcall)
  · cases hclose

end Elector

/-! ## What holds of the system -/

structure System.Fine (config : Config) (offset : P → Nat) (maxCall lateness : Nat)
    (s : System P) : Prop where
  board : s.board.Fine offset
  elector : ∀ p, (s.elector p).Fine config offset maxCall lateness s.board p
  lost : ∀ w ∈ s.lost, w.Fine config offset s.board ∧
    ∀ call ∈ (s.elector w.writer).call, w.record.renewTime ≤ call.started + offset w.writer
  inTime : InTime config maxCall lateness s

section System

variable {config : Config} {offset : P → Nat} {maxCall lateness : Nat} {s s' : System P} {p : P}

@[simp] theorem System.set_board (e : Elector P) : (s.set p e).board = s.board := rfl

@[simp] theorem System.set_lost (e : Elector P) : (s.set p e).lost = s.lost := rfl

@[simp] theorem System.set_elector (e : Elector P) :
    (s.set p e).elector = Function.update s.elector p e := rfl

/-- A step of one elector. -/
theorem System.Fine.set (h : s.Fine config offset maxCall lateness) {e : Elector P}
    {lost : List (Write P)} (he : e.Fine config offset maxCall lateness s.board p)
    (hcall : ∀ call ∈ e.call, call.started = s.board.clock ∨
      ∃ call' ∈ (s.elector p).call, call.started = call'.started)
    (hlost : ∀ w ∈ lost, w ∈ s.lost ∨ w.Fine config offset s.board ∧ w.writer = p ∧ e.call = none)
    (hinTime : InTime config maxCall lateness ({ s with lost := lost }.set p e)) :
    ({ s with lost := lost }.set p e).Fine config offset maxCall lateness where
  board := h.board
  elector := by
    intro q
    rw [System.set_elector]
    by_cases heq : q = p
    · rw [heq, Function.update_self]
      exact he
    · rw [Function.update_of_ne heq]
      exact h.elector q
  lost := by
    intro w hw
    rcases hlost w hw with hw | ⟨hfine, rfl, hnone⟩
    · obtain ⟨hfine, hstarted⟩ := h.lost w hw
      refine ⟨hfine, ?_⟩
      rw [System.set_elector]
      by_cases heq : w.writer = p
      · rw [heq, Function.update_self]
        intro call hc
        rcases hcall call hc with hnow | ⟨call', hcall', hsame⟩
        · rw [hnow, ← heq]
          exact hfine.renewTime
        · rw [hsame, ← heq]
          exact hstarted call' (heq ▸ hcall')
      · rw [Function.update_of_ne heq]
        exact hstarted
    · refine ⟨hfine, fun call hc => ?_⟩
      rw [System.set_elector, Function.update_self, hnone] at hc
      cases hc
  inTime := hinTime

omit [DecidableEq P] in
/-- Nobody's claim has expired. -/
theorem System.Fine.clock_lt (h : s.Fine config offset maxCall lateness)
    (hbound : config.renewDeadline + 4 * maxCall + 2 * lateness + second < config.leaseDuration)
    (q : P) (time : Nat) (hclaims : (s.elector q).Claims time) :
    s.board.clock < s.board.since + config.leaseDuration :=
  (h.elector q).clock_lt hbound (h.inTime q).1 (h.inTime q).2.1 hclaims

omit [DecidableEq P] in
theorem Elector.finish_call {e : Elector P} (h : e.phase ≠ .returned) (clock : Nat) (final : Bool)
    (renewed : Option Nat) : (e.finish clock final renewed).call = none := by
  unfold finish
  split
  · rfl
  · rfl
  · rfl
  · split_ifs <;> rfl
  · exact absurd ‹_› h

omit [DecidableEq P] in
theorem Elector.Fine.phase_ne_returned {b : Board P} {e : Elector P} {call : Call P}
    (h : e.Fine config offset maxCall lateness b p) (hcall : e.call = some call) :
    e.phase ≠ .returned := by
  intro hreturned
  have hnone := h.returned hreturned
  rw [hcall] at hnone
  cases hnone

omit [DecidableEq P] in
/-- An elector that was just made, or whose process is gone. -/
theorem Elector.fine_fresh {b : Board P} {phase : Phase} (h : ∀ poll, phase ≠ .renewing poll) :
    Elector.Fine config offset maxCall lateness b p { phase := phase } := by
  refine fine_of_call_none ⟨?_, ?_, fun _ => rfl⟩ rfl (fun poll hpoll => absurd hpoll (h poll))
    (by simp)
  · rintro record ⟨⟩
    exact .inl rfl
  · rintro record ⟨⟩ lock _ _ hholder
    exact absurd rfl hholder

theorem Elector.started_of_proceed {e : Elector P} {offset clock started : Nat} {final : Bool}
    {lock : Option (Lock P)} {call : Call P} (h : e.phase ≠ .returned)
    (hcall : call ∈ (e.proceed config p offset clock ⟨started, final, .got lock⟩ lock).call) :
    call.started = started := by
  cases lock with
  | none =>
      cases hcall
      rfl
  | some lock =>
      unfold Elector.proceed at hcall
      simp only at hcall
      split_ifs at hcall with hheld
      · rw [finish_call] at hcall
        · cases hcall
        · unfold Elector.observe
          split_ifs <;> exact h
      · cases hcall
        rfl

omit [DecidableEq P] in
theorem System.mem_sent {e : Elector P} {w : Write P} (h : w ∈ System.sent e) :
    ∃ started final, e.call = some ⟨started, final, .writing w⟩ := by
  unfold System.sent at h
  split at h
  case h_1 started final write hcall =>
    cases List.mem_singleton.mp h
    exact ⟨started, final, hcall⟩
  · cases h

/-- A write that arrives after it was given up. -/
theorem System.Fine.applyLost (h : s.Fine config offset maxCall lateness)
    (hbound : config.renewDeadline + 4 * maxCall + 2 * lateness + second < config.leaseDuration)
    {i : Nat} {w : Write P} (hw : s.lost[i]? = some w)
    (hinTime : InTime config maxCall lateness
      { s with board := (s.board.write w).getD s.board, lost := s.lost.eraseIdx i }) :
    Fine config offset maxCall lateness
      { s with board := (s.board.write w).getD s.board, lost := s.lost.eraseIdx i } := by
  obtain ⟨hfine, hnow⟩ := h.lost w (List.mem_of_getElem? hw)
  have hmem : ∀ w' ∈ s.lost.eraseIdx i, w' ∈ s.lost := fun w' hw' =>
    (List.eraseIdx_sublist s.lost i).subset hw'
  cases hwrite : s.board.write w with
  | none =>
      rw [hwrite] at hinTime
      exact ⟨h.board, h.elector, fun w' hw' => h.lost w' (hmem w' hw'), hinTime⟩
  | some board =>
      rw [hwrite] at hinTime
      refine ⟨h.board.write hfine hwrite, fun q => ?_, fun w' hw' => ?_, hinTime⟩
      · exact (h.elector q).write h.board hfine hwrite (h.clock_lt hbound q)
          fun hq call hc => by subst hq; exact hnow call hc
      · obtain ⟨hfine', hnow'⟩ := h.lost w' (hmem w' hw')
        exact ⟨hfine'.write hwrite, hnow'⟩

/-- The server applies the write of a call. -/
theorem System.Fine.apply (h : s.Fine config offset maxCall lateness)
    (hbound : config.renewDeadline + 4 * maxCall + 2 * lateness + second < config.leaseDuration)
    {started : Nat} {final : Bool} {w : Write P} {board : Board P}
    (hcall : (s.elector p).call = some ⟨started, final, .writing w⟩)
    (hwrite : s.board.write w = some board)
    (hinTime : InTime config maxCall lateness ({ s with board := board }.set p
      { s.elector p with call := some ⟨started, final, .applied s.board.clock⟩ })) :
    ({ s with board := board }.set p
      { s.elector p with call := some ⟨started, final, .applied s.board.clock⟩ }).Fine
        config offset maxCall lateness := by
  obtain ⟨hwriter, -, hfine⟩ : w.writer = p ∧ w.record.renewTime = started + offset p ∧
    w.Fine config offset s.board := ((h.elector p).call _ hcall).stage
  refine ⟨h.board.write hfine hwrite, fun q => ?_, fun w' hw' => ?_, hinTime⟩
  · rw [System.set_elector]
    by_cases heq : q = p
    · rw [heq, Function.update_self]
      exact (h.elector p).apply h.board hcall hwrite (h.clock_lt hbound p)
        ((h.inTime p).1 _ hcall)
    · rw [Function.update_of_ne heq]
      exact (h.elector q).write h.board hfine hwrite (h.clock_lt hbound q)
        fun hq => absurd (hq.symm.trans hwriter) heq
  · obtain ⟨hfine', hnow⟩ := h.lost w' hw'
    refine ⟨hfine'.write hwrite, ?_⟩
    rw [System.set_elector]
    by_cases heq : w'.writer = p
    · rw [heq, Function.update_self]
      rintro call ⟨⟩
      have hle := hnow ⟨started, final, .writing w⟩ (by rw [heq]; exact hcall)
      rwa [heq] at hle
    · rw [Function.update_of_ne heq]
      exact hnow

theorem System.Fine.step (h : s.Fine config offset maxCall lateness)
    (hbound : config.renewDeadline + 4 * maxCall + 2 * lateness + second < config.leaseDuration)
    {event : Event P} (hstep : s.step config offset event = some s')
    (hinTime : InTime config maxCall lateness s') : s'.Fine config offset maxCall lateness := by
  have hlease : 0 < config.leaseDuration := by omega
  have hsame : ∀ {q : P} {e : Elector P} {started : Nat} {final : Bool} {stage stage' : Stage P},
      (s.elector q).call = some ⟨started, final, stage⟩ →
      e.call = some ⟨started, final, stage'⟩ → ∀ call ∈ e.call, call.started = s.board.clock ∨
        ∃ call' ∈ (s.elector q).call, call.started = call'.started := by
    intro q e started final stage stage' hold hnew call hc
    cases hnew.symm.trans hc
    exact .inr ⟨_, hold, rfl⟩
  have hnone : ∀ {q : P} {e : Elector P}, e.call = none → ∀ call ∈ e.call,
      call.started = s.board.clock ∨
        ∃ call' ∈ (s.elector q).call, call.started = call'.started := by
    intro q e hcall call hc
    rw [hcall] at hc
    cases hc
  cases step_effect hstep with
  | @tick duration =>
      exact ⟨⟨h.board.since.trans (Nat.le_add_right _ _), h.board.renewTime, h.board.encoded⟩,
        fun q => (h.elector q).tick duration,
        fun w hw => ⟨(h.lost w hw).1.tick duration, (h.lost w hw).2⟩, hinTime⟩
  | @begin p e hbegin =>
      obtain ⟨hfine, hstarted⟩ := (h.elector p).begin h.board
        (fun poll hpoll => ((h.inTime p).2.1 poll hpoll).2) hbegin
      exact h.set hfine (fun call hc => .inl (hstarted call hc)) (fun w hw => .inl hw) hinTime
  | @close p e hclose =>
      obtain ⟨hfine, hcall⟩ := (h.elector p).close
        (fun poll hpoll => ((h.inTime p).2.1 poll hpoll).1) hclose
      exact h.set hfine (fun call hc => .inr ⟨call, hcall ▸ hc, rfl⟩) (fun w hw => .inl hw) hinTime
  | @read p started final hcall =>
      refine h.set ((h.elector p).setStage hcall (fun l hl => ?_) fun time heq => by cases heq)
        (hsame hcall rfl) (fun w hw => .inl hw) hinTime
      exact ⟨⟨l, hl, le_refl _, fun _ => rfl, .refl _⟩,
        ((h.elector p).call _ hcall).own l hl⟩
  | @fails _ p call hcall =>
      have hstarting := (hinTime p).2.2
      rw [System.set_elector, Function.update_self] at hstarting
      exact h.set ((h.elector p).fails hcall ((h.inTime p).1 call hcall) hstarting)
        (hnone (Elector.finish_call ((h.elector p).phase_ne_returned hcall) _ _ _))
        (fun w hw => .inl hw) hinTime
  | @proceed p started final lock hcall =>
      have hstarting := (hinTime p).2.2
      rw [System.set_elector, Function.update_self] at hstarting
      refine h.set ((h.elector p).proceed h.board hlease hcall ((h.inTime p).1 _ hcall) hstarting)
        (fun call hc => .inr ⟨_, hcall, ?_⟩) (fun w hw => .inl hw) hinTime
      exact Elector.started_of_proceed ((h.elector p).phase_ne_returned hcall) hc
  | @apply p started final w board hcall hwrite => exact h.apply hbound hcall hwrite hinTime
  | @refuse p started final w hcall =>
      exact h.set ((h.elector p).setStage hcall trivial fun time heq => by cases heq)
        (hsame hcall rfl) (fun w hw => .inl hw) hinTime
  | @respond p started final time hcall =>
      have hne := (h.elector p).phase_ne_returned hcall
      exact h.set ((h.elector p).respond hcall ((h.inTime p).1 _ hcall))
        (hnone (Elector.finish_call (by exact hne) _ _ _)) (fun w hw => .inl hw) hinTime
  | @lose p started final w hcall =>
      have hstarting := (hinTime p).2.2
      rw [System.set_elector, Function.update_self] at hstarting
      have hcallNone := Elector.finish_call ((h.elector p).phase_ne_returned hcall) s.board.clock
        final none
      obtain ⟨hwriter, -, hfine⟩ : w.writer = p ∧ w.record.renewTime = started + offset p ∧
        w.Fine config offset s.board := ((h.elector p).call _ hcall).stage
      refine h.set ((h.elector p).fails hcall ((h.inTime p).1 _ hcall) hstarting)
        (hnone hcallNone) (fun w' hw' => ?_) hinTime
      rcases List.mem_cons.mp hw' with rfl | hw'
      · exact .inr ⟨hfine, hwriter, hcallNone⟩
      · exact .inl hw'
  | @applyLost i w hw => exact h.applyLost hbound hw hinTime
  | @startLeading p hstarting =>
      have hfine := h.elector p
      refine h.set ⟨⟨hfine.observes.seen, hfine.observes.time, hfine.observes.unset⟩, hfine.call,
        hfine.poll, fun _ => hfine.leads (.inr hstarting), hfine.claims, hfine.returned⟩
        (fun call hc => .inr ⟨call, hc, rfl⟩) (fun w hw => .inl hw) hinTime
  | @crash p =>
      refine h.set (Elector.fine_fresh fun poll hpoll => by cases hpoll) (hnone rfl)
        (fun w hw => ?_) hinTime
      rcases List.mem_append.mp hw with hsent | hw
      · obtain ⟨started, final, hcall⟩ := System.mem_sent hsent
        obtain ⟨hwriter, -, hfine⟩ : w.writer = p ∧ w.record.renewTime = started + offset p ∧
          w.Fine config offset s.board := ((h.elector p).call _ hcall).stage
        exact .inr ⟨hfine, hwriter, rfl⟩
      · exact .inl hw
  | @restart p hreturned =>
      exact h.set (Elector.fine_fresh fun poll hpoll => by cases hpoll) (hnone rfl)
        (fun w hw => .inl hw) hinTime

theorem System.fine_init (h : (machine config offset).init s) :
    s.Fine config offset maxCall lateness := by
  obtain ⟨lock, rfl, hlock⟩ := h
  refine ⟨⟨le_refl _, fun l hl p hp => ?_, fun l hl => ?_⟩, fun p => ?_, fun w hw => (by cases hw),
    fun p => ⟨fun _ hnone => (by cases hnone), fun _ hnone => (by cases hnone), fun _ => rfl⟩⟩
  · rw [hlock l hl] at hp
    cases hp
  · rw [hlock l hl]
    exact Nat.le_antisymm (toSeconds_le _) (Nat.zero_le _)
  · exact Elector.fine_fresh fun poll hpoll => by cases hpoll

end System

end

namespace SingleLeaderWitness

/-- The clock of the second pilot is an hour ahead. -/
def offset : Fin 2 → Nat := fun p => if p = 0 then 0 else 3600 * second

/-- The first pilot leads and then cannot reach the server any more; the second one, which
has watched its lease, takes over. -/
def failOver : List (Event (Fin 2)) :=
  [.begin 0, .read 0, .proceed 0, .apply 0, .respond 0, .startLeading 0,
    .begin 1, .read 1, .proceed 1,
    .tick (10 * second), .close 0, .begin 0, .readFails 0,
    .tick (5 * second), .begin 1, .read 1, .proceed 1, .apply 1, .respond 1, .startLeading 1]

def failedOver : System (Fin 2) := ((machine defaultConfig offset).exec {} failOver).getD {}

/-- The goroutine of `startLeading` must not be late: one that runs after its elector has
returned sets the flag for good, and the next pilot leads as well. -/
example :
    ((machine defaultConfig offset).exec {}
      [.begin 0, .read 0, .proceed 0, .apply 0, .respond 0, .begin 1, .read 1, .proceed 1,
        .tick (10 * second), .close 0, .begin 0, .readFails 0, .startLeading 0,
        .tick (5 * second), .begin 1, .read 1, .proceed 1, .apply 1, .respond 1,
        .startLeading 1]).map (fun s => ((s.elector 0).leading, (s.elector 1).leading)) =
      some (true, true) := by
  decide +kernel

end SingleLeaderWitness

end LeaderElection

end Navigator
