import OresLocks.MaintainedRust
import Mathlib.Data.List.Count

/-!
# Commit admission of the maintained routine

`Finished` lists the shapes a finished run can have. The order and the number of
the effects are read off these shapes; a separate induction is needed only for the
two loops.
-/

namespace OresLocks.Maintained

set_option autoImplicit false

universe u

variable {α : Type u}

/-- The call neither ends a transaction nor releases the lease. -/
def Event.quiet : Event α → Bool
  | .commit _ => false
  | .rollback _ => false
  | .release _ _ => false
  | _ => true

def Event.isCommit : Event α → Bool
  | .commit _ => true
  | _ => false

def Event.isRollback : Event α → Bool
  | .rollback _ => true
  | _ => false

def Event.isRelease : Event α → Bool
  | .release _ _ => true
  | _ => false

/-- A transaction has been handed out. -/
def Event.isBegun : Event α → Bool
  | .begin (.ok ()) => true
  | _ => false

def Event.isAcquired : Event α → Bool
  | .acquire (.ok _) => true
  | _ => false

section Validation

theorem validateAcquiredGrant_ok {key : LockKey} {wait : Bool} {acquire : AcquireOptions}
    {grant : LeaseGrant} (h : validateAcquiredGrant key wait acquire grant = .ok ()) :
    grant.key = key ∧ grant.ttlMs = durationMs acquire.ttl := by
  unfold validateAcquiredGrant at h
  dsimp only at h
  split at h
  · cases h
  rename_i hnone
  split at hnone
  · cases hnone
  rename_i hkey
  split at hnone
  · cases hnone
  split at hnone
  · cases hnone
  rename_i httl
  exact ⟨not_not.mp hkey, not_not.mp httl⟩

theorem validateRenewedGrant_ok {original renewed : LeaseGrant}
    (h : validateRenewedGrant original renewed = .ok ()) :
    renewed.key = original.key ∧ renewed.holder = original.holder ∧
      renewed.fencingToken = original.fencingToken ∧ renewed.ttlMs = original.ttlMs := by
  unfold validateRenewedGrant at h
  dsimp only at h
  split at h
  · cases h
  rename_i hnone
  split at hnone
  · cases hnone
  rename_i hkey
  split at hnone
  · cases hnone
  rename_i hholder
  split at hnone
  · cases hnone
  rename_i htoken
  split at hnone
  · cases hnone
  rename_i httl
  exact ⟨not_not.mp hkey, not_not.mp hholder, not_not.mp htoken, not_not.mp httl⟩

theorem renewChecked_ok {original renewed : LeaseGrant} {answer : Except LockError LeaseGrant}
    (h : renewChecked original answer = .ok renewed) :
    answer = .ok renewed ∧ validateRenewedGrant original renewed = .ok () := by
  unfold renewChecked at h
  split at h
  · cases h
  · split at h
    · cases h
    · rename_i hvalid
      cases h
      exact ⟨rfl, hvalid⟩

theorem tryXactLock_ok {key : LockKey} {poll : LockPoll} (h : tryXactLock key poll = .ok ()) :
    poll = .answered true := by
  unfold tryXactLock at h
  split at h
  · cases h
  · cases h
  · cases h
  · cases h
  · rfl
  · cases h

end Validation

section Loops

variable (grant : LeaseGrant)

theorem renewWhile_calls (answers : List (Except LockError LeaseGrant)) :
    ∀ e ∈ (renewWhile (α := α) grant answers).1, ∃ answer, e = .renew answer := by
  induction answers with
  | nil => simp [renewWhile]
  | cons answer rest ih =>
    intro e he
    unfold renewWhile at he
    split at he
    · rw [List.mem_singleton] at he
      exact ⟨_, he⟩
    · rcases List.mem_cons.mp he with rfl | hmem
      · exact ⟨_, rfl⟩
      · exact ih e hmem

/-- A renewal or a poll. -/
def Event.isWaiting : Event α → Bool
  | .renew _ => true
  | .tryXactLock _ => true
  | _ => false

/-- Nothing but renewals and polls. -/
def Waiting (calls : List (Event α)) : Prop := ∀ e ∈ calls, e.isWaiting = true

theorem renewWhile_waiting (answers : List (Except LockError LeaseGrant)) :
    Waiting (renewWhile (α := α) grant answers).1 := by
  intro e he
  obtain ⟨answer, rfl⟩ := renewWhile_calls grant answers e he
  rfl

theorem acquireTransactionLock_waiting (key : LockKey) (wait : Bool) (acquire : AcquireOptions)
    (rounds : List Round) :
    Waiting (acquireTransactionLock (α := α) key wait acquire grant rounds).1 := by
  induction rounds with
  | nil => simp [Waiting, acquireTransactionLock]
  | cons round rest ih =>
    intro e he
    have hrenew := renewWhile_waiting (α := α) grant round.renewals
    unfold acquireTransactionLock at he
    split at he
    · rw [List.mem_singleton] at he
      rw [he]
      rfl
    · split at he
      · split at he
        · rw [List.mem_singleton] at he
          rw [he]
          rfl
        · split at he
          · rename_i renewals error hw
            rw [hw] at hrenew
            rcases List.mem_cons.mp he with rfl | hmem
            · rfl
            · exact hrenew e hmem
          · rename_i renewals hw
            rw [hw] at hrenew
            dsimp only at he
            rcases List.mem_append.mp he with hmem | hmem
            · rcases List.mem_cons.mp hmem with rfl | hmem
              · rfl
              · exact hrenew e hmem
            · exact ih e hmem
      · rw [List.mem_singleton] at he
        rw [he]
        rfl

/-- A granted advisory lock is the last thing the wait saw. -/
theorem acquireTransactionLock_ok {grant : LeaseGrant} {key : LockKey} {wait : Bool} {acquire : AcquireOptions}
    {rounds : List Round}
    (h : (acquireTransactionLock (α := α) key wait acquire grant rounds).2 = some (.ok ())) :
    ∃ polls, (acquireTransactionLock (α := α) key wait acquire grant rounds).1 =
      polls ++ [.tryXactLock (.answered true)] := by
  induction rounds with
  | nil => simp [acquireTransactionLock] at h
  | cons round rest ih =>
    unfold acquireTransactionLock at h ⊢
    split
    · rename_i hok
      exact ⟨[], by rw [tryXactLock_ok hok]; rfl⟩
    · rename_i error herror
      rw [herror] at h
      dsimp only at h
      split
      · rename_i hcontended
        rw [if_pos hcontended] at h
        split
        · rename_i htimeout
          rw [if_pos htimeout] at h
          simp at h
        · rename_i htimeout
          rw [if_neg htimeout] at h
          split
          · rename_i renewals error hw
            rw [hw] at h
            simp at h
          · rename_i renewals hw
            rw [hw] at h
            dsimp only at h ⊢
            obtain ⟨polls, hpolls⟩ := ih h
            exact ⟨.tryXactLock round.poll :: renewals ++ polls, by rw [hpolls]; simp⟩
      · rename_i hcontended
        rw [if_neg hcontended] at h
        simp at h

end Loops

theorem Event.quiet_of_waiting {e : Event α} (h : e.isWaiting = true) :
    e.quiet = true ∧ e.isBegun = false ∧ e.isAcquired = false := by
  cases e with
  | renew | tryXactLock => exact ⟨rfl, rfl, rfl⟩
  | _ => cases h

/-- The calls of a select loop: quiet, and no transaction begins in them. -/
structure Idle (calls : List (Event α)) : Prop where
  quiet : ∀ e ∈ calls, e.quiet = true
  notBegun : ∀ e ∈ calls, e.isBegun = false
  notAcquired : ∀ e ∈ calls, e.isAcquired = false

theorem idle_of_waiting {calls : List (Event α)} (h : Waiting calls) : Idle calls :=
  ⟨fun e he => (e.quiet_of_waiting (h e he)).1, fun e he => (e.quiet_of_waiting (h e he)).2.1,
    fun e he => (e.quiet_of_waiting (h e he)).2.2⟩

theorem Idle.nil : Idle ([] : List (Event α)) := idle_of_waiting (fun _ he => nomatch he)

theorem Idle.append {calls calls' : List (Event α)} (h : Idle calls) (h' : Idle calls') :
    Idle (calls ++ calls') where
  quiet := fun e he => (List.mem_append.mp he).elim (h.quiet e) (h'.quiet e)
  notBegun := fun e he => (List.mem_append.mp he).elim (h.notBegun e) (h'.notBegun e)
  notAcquired := fun e he => (List.mem_append.mp he).elim (h.notAcquired e) (h'.notAcquired e)

theorem Idle.single {e : Event α} (hq : e.quiet = true) (hb : e.isBegun = false)
    (ha : e.isAcquired = false) : Idle [e] where
  quiet := fun e' he => by rw [List.mem_singleton.mp he]; exact hq
  notBegun := fun e' he => by rw [List.mem_singleton.mp he]; exact hb
  notAcquired := fun e' he => by rw [List.mem_singleton.mp he]; exact ha

theorem settleLease_error (key : LockKey) (grant : LeaseGrant) (release : Except LockError Bool)
    (inner : LockError) :
    ∃ error, settleLease (α := α) key grant release (.error inner) =
      ([.release grant release], some (.error error)) := by
  unfold settleLease
  cases releaseFailure key grant release with
  | none => exact ⟨_, rfl⟩
  | some cleanup => exact ⟨_, rfl⟩

theorem rollbackThenSettle_error (key : LockKey) (grant : LeaseGrant) (s : Script α)
    (inner : LockError) :
    ∃ error, rollbackThenSettle key grant s inner =
      ([.rollback s.rollback, .release grant s.release], some (.error error)) := by
  unfold rollbackThenSettle
  obtain ⟨error, herror⟩ := settleLease_error (α := α) key grant s.release
    (rollbackFailure key inner s.rollback)
  rw [herror]
  exact ⟨error, rfl⟩

/-- The end of a run that holds a transaction: rolled back, or admitted to commit
after a final renewal. -/
inductive Ended (key : LockKey) (grant : LeaseGrant) (s : Script α) : Run α → Prop where
  | rolledBack {calls : List (Event α)} {error : LockError} : Idle calls →
      Ended key grant s
        (calls ++ [.rollback s.rollback, .release grant s.release], some (.error error))
  | committed {polls during : List (Event α)} {value : α} {renewed : LeaseGrant}
      {result : Option (Except LockError α)} : Waiting polls → Waiting during →
      validateRenewedGrant grant renewed = .ok () →
      s.work = .ok value →
      (settleLease key grant s.release (commitResult key value s.commit)).2 = result →
      Ended key grant s
        (polls ++ [.tryXactLock (.answered true), .workStarted] ++ during ++
          [.work (.ok value), .renew (.ok renewed), .commit s.commit, .release grant s.release],
          result)

theorem ended_of_rollback {key : LockKey} {grant : LeaseGrant} {s : Script α}
    {calls : List (Event α)} (h : Idle calls) (inner : LockError) :
    Ended key grant s (calls ++ (rollbackThenSettle key grant s inner).1,
      (rollbackThenSettle key grant s inner).2) := by
  obtain ⟨error, herror⟩ := rollbackThenSettle_error key grant s inner
  rw [herror]
  exact .rolledBack h

theorem runWork_ended {key : LockKey} {grant : LeaseGrant} {s : Script α}
    {polls : List (Event α)} (hpolls : Waiting polls) :
    Ended key grant s
      (polls ++ [.tryXactLock (.answered true)] ++ (runWork key grant s).1,
        (runWork key grant s).2) := by
  have hstart : Idle (polls ++ [.tryXactLock (.answered true)] ++ [.workStarted (α := α)]) :=
    ((idle_of_waiting hpolls).append (.single rfl rfl rfl)).append (.single rfl rfl rfl)
  have hwaiting := renewWhile_waiting (α := α) grant s.workRenewals
  unfold runWork
  split
  · rename_i renewals error hw
    rw [hw] at hwaiting
    have hidle := hstart.append (idle_of_waiting hwaiting)
    have hended : Ended key grant s _ := ended_of_rollback hidle error
    simpa using hended
  · rename_i renewals hw
    rw [hw] at hwaiting
    have hidle := hstart.append (idle_of_waiting hwaiting)
    cases hwork : s.work with
    | error cause =>
      have hended : Ended key grant s _ := ended_of_rollback
        (hidle.append (.single (e := .work (.error cause)) rfl rfl rfl)) (.work key cause)
      simpa using hended
    | ok value =>
      dsimp only
      unfold admitCommit
      split
      · rename_i error _
        have hended : Ended key grant s _ := ended_of_rollback
          ((hidle.append (.single (e := .work (.ok value)) rfl rfl rfl)).append
            (.single (e := .renew s.finalRenewal) rfl rfl rfl)) error
        simpa using hended
      · rename_i renewed hrenewed
        obtain ⟨hanswer, hvalid⟩ := renewChecked_ok hrenewed
        have hended : Ended key grant s _ :=
          .committed hpolls hwaiting hvalid hwork rfl
        rw [hanswer]
        simpa [settleLease] using hended

theorem inTransaction_ended (key : LockKey) (wait : Bool) (acquire : AcquireOptions)
    (grant : LeaseGrant) (s : Script α) :
    Ended key grant s (inTransaction key wait acquire grant s) ∨
      ((inTransaction key wait acquire grant s).2 = none ∧
        Idle (inTransaction key wait acquire grant s).1) := by
  have hwaiting := acquireTransactionLock_waiting (α := α) grant key wait acquire s.rounds
  unfold inTransaction
  split
  · rename_i polls hl
    rw [hl] at hwaiting
    exact Or.inr ⟨rfl, idle_of_waiting hwaiting⟩
  · rename_i polls error hl
    rw [hl] at hwaiting
    exact Or.inl (ended_of_rollback (idle_of_waiting hwaiting) error)
  · rename_i polls hl
    have hok : (acquireTransactionLock (α := α) key wait acquire grant s.rounds).2 =
        some (.ok ()) := by rw [hl]
    obtain ⟨before, hbefore⟩ := acquireTransactionLock_ok hok
    rw [hl] at hwaiting hbefore
    dsimp only at hbefore
    subst hbefore
    left
    apply runWork_ended
    exact fun e he => hwaiting e (List.mem_append_left _ he)

/-- The shapes of a finished run. -/
inductive Finished (key : LockKey) (wait : Bool) (acquire : AcquireOptions) (s : Script α) :
    List (Event α) → Except LockError α → Prop where
  | invalid {error : LockError} : Finished key wait acquire s [] (.error error)
  | refused {cause error : LockError} :
      Finished key wait acquire s [.acquire (.error cause)] (.error error)
  | settled {grant : LeaseGrant} {calls : List (Event α)} {error : LockError} :
      s.acquire = .ok grant → Idle calls →
      Finished key wait acquire s
        (.acquire (.ok grant) :: calls ++ [.release grant s.release]) (.error error)
  | ended {grant : LeaseGrant} {during calls : List (Event α)} {result : Except LockError α} :
      s.acquire = .ok grant →
      validateAcquiredGrant key wait acquire grant = .ok () → Waiting during →
      Ended key grant s (calls, some result) →
      Finished key wait acquire s
        ([.acquire (.ok grant), .beginStarted] ++ during ++ .begin (.ok ()) :: calls) result

theorem finished_of_settle (key : LockKey) (wait : Bool) (acquire : AcquireOptions)
    {grant : LeaseGrant} {s : Script α} (hacquire : s.acquire = .ok grant)
    {calls : List (Event α)} (h : Idle calls) (inner : LockError) :
    ∃ result, (settleLease (α := α) key grant s.release (.error inner)).2 = some result ∧
      Finished key wait acquire s
        (.acquire (.ok grant) :: calls ++
          (settleLease (α := α) key grant s.release (.error inner)).1) result := by
  obtain ⟨error, herror⟩ := settleLease_error (α := α) key grant s.release inner
  rw [herror]
  exact ⟨_, rfl, .settled hacquire h⟩

theorem Ended.result {key : LockKey} {grant : LeaseGrant} {s : Script α} {run : Run α}
    (h : Ended key grant s run) : ∃ result, run.2 = some result := by
  cases h with
  | rolledBack => exact ⟨_, rfl⟩
  | committed _ _ _ _ hresult => exact ⟨_, hresult.symm⟩

/-- After a grant the run finishes in one of the shapes, or still waits quietly. -/
theorem underGrant_finished (key : LockKey) (wait : Bool) (acquire : AcquireOptions)
    {grant : LeaseGrant} {s : Script α} (hacquire : s.acquire = .ok grant) :
    (∃ result, (underGrant key wait acquire grant s).2 = some result ∧
      Finished key wait acquire s (.acquire (.ok grant) :: (underGrant key wait acquire grant s).1)
        result) ∨
    ((underGrant key wait acquire grant s).2 = none ∧
      ∀ e ∈ (underGrant key wait acquire grant s).1, e.quiet = true) := by
  have hwaiting := renewWhile_waiting (α := α) grant s.beginRenewals
  unfold underGrant
  split
  · rename_i error _
    exact Or.inl (finished_of_settle key wait acquire hacquire .nil error)
  rename_i hvalid
  split
  · rename_i renewals error hw
    rw [hw] at hwaiting
    left
    apply finished_of_settle _ _ _ hacquire
    exact (Idle.single rfl rfl rfl).append (idle_of_waiting hwaiting)
  rename_i renewals hw
  rw [hw] at hwaiting
  have hidle := idle_of_waiting hwaiting
  have hstart : Idle (.beginStarted :: renewals : List (Event α)) :=
    (Idle.single rfl rfl rfl).append hidle
  cases hbegin : s.begin with
  | error cause =>
    left
    have hcalls : Idle (.beginStarted :: renewals ++ [.begin (.error cause)] : List (Event α)) :=
      hstart.append (.single rfl rfl rfl)
    have hfinished := finished_of_settle key wait acquire hacquire hcalls
      ((LockError.new .database key cause).at .pgBegin)
    simpa using hfinished
  | ok _ =>
    dsimp only
    rcases inTransaction_ended key wait acquire grant s with hended | ⟨hnone, hpending⟩
    · left
      obtain ⟨result, hresult⟩ := hended.result
      refine ⟨result, hresult, ?_⟩
      have hshape : Ended key grant s ((inTransaction key wait acquire grant s).1, some result) := by
        rw [← hresult]
        exact hended
      simpa using Finished.ended hacquire hvalid hwaiting hshape
    · right
      refine ⟨hnone, ?_⟩
      intro e he
      rcases List.mem_append.mp he with hmem | hmem
      · exact hstart.quiet e hmem
      · rcases List.mem_cons.mp hmem with rfl | hmem
        · rfl
        · exact hpending.quiet e hmem

theorem run_finished (key : LockKey) (wait : Bool) (acquire : AcquireOptions)
    (maintenance : LeaseMaintenanceOptions) (s : Script α) :
    (∃ result, (withMaintainedXactLock key wait acquire maintenance s).2 = some result ∧
      Finished key wait acquire s (withMaintainedXactLock key wait acquire maintenance s).1
        result) ∨
    ((withMaintainedXactLock key wait acquire maintenance s).2 = none ∧
      ∀ e ∈ (withMaintainedXactLock key wait acquire maintenance s).1, e.quiet = true) := by
  unfold withMaintainedXactLock
  split
  · exact Or.inl ⟨_, rfl, .invalid⟩
  cases hacquire : s.acquire with
  | error cause => exact Or.inl ⟨_, rfl, .refused⟩
  | ok grant =>
    rcases underGrant_finished key wait acquire hacquire with hfinished | ⟨hnone, hquiet⟩
    · exact Or.inl hfinished
    · right
      refine ⟨hnone, ?_⟩
      intro e he
      rcases List.mem_cons.mp he with rfl | hmem
      · rfl
      · exact hquiet e hmem

section Counting

/-- Calls that end a transaction. -/
def endings (calls : List (Event α)) : Nat :=
  calls.countP Event.isCommit + calls.countP Event.isRollback

def releases (calls : List (Event α)) : Nat := calls.countP Event.isRelease

theorem endings_append (calls calls' : List (Event α)) :
    endings (calls ++ calls') = endings calls + endings calls' := by
  simp only [endings, List.countP_append]
  omega

theorem releases_append (calls calls' : List (Event α)) :
    releases (calls ++ calls') = releases calls + releases calls' := by
  simp only [releases, List.countP_append]

theorem counts_of_quiet {calls : List (Event α)} (h : ∀ e ∈ calls, e.quiet = true) :
    endings calls = 0 ∧ releases calls = 0 := by
  have hnone : ∀ e ∈ calls, e.isCommit = false ∧ e.isRollback = false ∧ e.isRelease = false := by
    intro e he
    have hq := h e he
    cases e with
    | commit | rollback | release => cases hq
    | _ => exact ⟨rfl, rfl, rfl⟩
  have hc : calls.countP Event.isCommit = 0 :=
    List.countP_eq_zero.mpr fun e he => by simp [(hnone e he).1]
  have hr : calls.countP Event.isRollback = 0 :=
    List.countP_eq_zero.mpr fun e he => by simp [(hnone e he).2.1]
  have hl : calls.countP Event.isRelease = 0 :=
    List.countP_eq_zero.mpr fun e he => by simp [(hnone e he).2.2]
  exact ⟨by rw [endings, hc, hr], hl⟩

theorem quiet_of_waiting {calls : List (Event α)} (h : Waiting calls) :
    ∀ e ∈ calls, e.quiet = true := (idle_of_waiting h).quiet

end Counting

section Shapes

variable {key : LockKey} {wait : Bool} {acquire : AcquireOptions} {s : Script α}
  {grant : LeaseGrant}

/-- A run that holds a transaction ends it once and then releases, last of all. -/
theorem Ended.counts {calls : List (Event α)} {result : Option (Except LockError α)}
    (h : Ended key grant s (calls, result)) :
    endings calls = 1 ∧ ∃ pre, calls = pre ++ [.release grant s.release] ∧ releases pre = 0 := by
  generalize hrun : (calls, result) = run at h
  cases h with
  | rolledBack hidle =>
    rename_i before error
    cases hrun
    obtain ⟨he, hr⟩ := counts_of_quiet hidle.quiet
    refine ⟨?_, before ++ [.rollback s.rollback], by simp, ?_⟩
    · rw [endings_append, he]
      rfl
    · rw [releases_append, hr]
      rfl
  | committed hpolls hduring =>
    rename_i polls during value renewed _ _ _ _
    cases hrun
    obtain ⟨he, hr⟩ := counts_of_quiet (quiet_of_waiting hpolls)
    obtain ⟨he', hr'⟩ := counts_of_quiet (quiet_of_waiting hduring)
    refine ⟨?_, polls ++ [.tryXactLock (.answered true), .workStarted] ++ during ++
      [.work (.ok value), .renew (.ok renewed), .commit s.commit], by simp, ?_⟩
    · rw [endings_append, endings_append, endings_append, he, he']
      rfl
    · rw [releases_append, releases_append, releases_append, hr, hr']
      rfl

/-- The calls of a run that was admitted to commit, in order. -/
structure Admitted (key : LockKey) (wait : Bool) (acquire : AcquireOptions) (s : Script α)
    (grant renewed : LeaseGrant) (value : α) (calls : List (Event α)) : Prop where
  calls : ∃ during polls during', Waiting during ∧ Waiting polls ∧ Waiting during' ∧
    calls = [.acquire (.ok grant), .beginStarted] ++ during ++ [.begin (.ok ())] ++ polls ++
      [.tryXactLock (.answered true), .workStarted] ++ during' ++
      [.work (.ok value), .renew (.ok renewed), .commit s.commit, .release grant s.release]
  grantValid : validateAcquiredGrant key wait acquire grant = .ok ()
  sameKey : renewed.key = grant.key
  sameHolder : renewed.holder = grant.holder
  sameToken : renewed.fencingToken = grant.fencingToken
  requestedTtl : renewed.ttlMs = durationMs acquire.ttl

theorem not_mem_commit_of_quiet {calls : List (Event α)} (h : ∀ e ∈ calls, e.quiet = true)
    {commit : Except String Unit} : .commit commit ∉ calls := by
  intro hmem
  have hq := h _ hmem
  cases hq

theorem Finished.admitted {calls : List (Event α)} {result : Except LockError α}
    (h : Finished key wait acquire s calls result) {commit : Except String Unit}
    (hc : .commit commit ∈ calls) :
    ∃ grant renewed value, Admitted key wait acquire s grant renewed value calls ∧
      commit = s.commit ∧
      (settleLease key grant s.release (commitResult key value s.commit)).2 = some result := by
  cases h with
  | invalid => cases hc
  | refused => simp at hc
  | settled hacquire hidle =>
    exfalso
    rcases List.mem_append.mp hc with hmem | hmem
    · rcases List.mem_cons.mp hmem with hmem | hmem
      · cases hmem
      · exact not_mem_commit_of_quiet hidle.quiet hmem
    · simp at hmem
  | ended hacquire hvalid hduring hended =>
    rename_i grant during calls
    have hcalls : .commit commit ∈ calls := by
      rcases List.mem_append.mp hc with hmem | hmem
      · exfalso
        rcases List.mem_append.mp hmem with hmem | hmem
        · simp at hmem
        · exact not_mem_commit_of_quiet (quiet_of_waiting hduring) hmem
      · rcases List.mem_cons.mp hmem with hmem | hmem
        · cases hmem
        · exact hmem
    generalize hrun : (calls, some result) = run at hended
    cases hended with
    | rolledBack hidle =>
      exfalso
      cases hrun
      rcases List.mem_append.mp hcalls with hmem | hmem
      · exact not_mem_commit_of_quiet hidle.quiet hmem
      · simp at hmem
    | committed hpolls hduring' hrenewed hwork hresult =>
      rename_i polls during' value renewed _
      cases hrun
      have heq : commit = s.commit := by
        rcases List.mem_append.mp hcalls with hmem | hmem
        · exfalso
          rcases List.mem_append.mp hmem with hmem | hmem
          · rcases List.mem_append.mp hmem with hmem | hmem
            · exact not_mem_commit_of_quiet (quiet_of_waiting hpolls) hmem
            · simp at hmem
          · exact not_mem_commit_of_quiet (quiet_of_waiting hduring') hmem
        · simpa using hmem
      subst heq
      obtain ⟨hk, hh, ht, httl⟩ := validateRenewedGrant_ok hrenewed
      obtain ⟨_, hgrantTtl⟩ := validateAcquiredGrant_ok hvalid
      refine ⟨grant, renewed, value, ⟨?_, hvalid, hk, hh, ht, httl.trans hgrantTtl⟩, rfl, hresult⟩
      exact ⟨during, polls, during', hduring, hpolls, hduring', by simp⟩

/-- The number of transaction ends and of releases of a finished run. -/
theorem Finished.counts {calls : List (Event α)} {result : Except LockError α}
    (h : Finished key wait acquire s calls result) :
    (endings calls = if calls.any Event.isBegun then 1 else 0) ∧
    ((calls.any Event.isAcquired = false ∧ releases calls = 0) ∨
      (∃ grant pre, s.acquire = .ok grant ∧ .acquire (.ok grant) ∈ pre ∧
        calls = pre ++ [.release grant s.release] ∧ releases pre = 0)) := by
  cases h with
  | invalid => exact ⟨rfl, Or.inl ⟨rfl, rfl⟩⟩
  | refused => exact ⟨rfl, Or.inl ⟨rfl, rfl⟩⟩
  | settled hacquire hidle =>
    rename_i grant before error
    obtain ⟨he, hr⟩ := counts_of_quiet hidle.quiet
    have hbegun : before.any Event.isBegun = false := by
      simpa using hidle.notBegun
    refine ⟨?_, Or.inr ⟨grant, .acquire (.ok grant) :: before, hacquire, by simp, rfl, ?_⟩⟩
    · rw [endings_append, List.any_append, List.any_cons, hbegun]
      simp only [endings, List.countP_cons] at he ⊢
      simpa [Event.isCommit, Event.isRollback, Event.isBegun] using he
    · simpa [releases, List.countP_cons, Event.isRelease] using hr
  | ended hacquire hvalid hduring hended =>
    rename_i grant during after
    obtain ⟨hone, pre, rfl, hpre⟩ := hended.counts
    obtain ⟨he, hr⟩ := counts_of_quiet (quiet_of_waiting hduring)
    refine ⟨?_, Or.inr ⟨grant, [.acquire (.ok grant), .beginStarted] ++ during ++
      .begin (.ok ()) :: pre, hacquire, by simp, by simp, ?_⟩⟩
    · have hsplit : endings (Event.begin (α := α) (.ok ()) :: (pre ++ [.release grant s.release])) =
          endings (pre ++ [.release grant s.release]) := by
        simp [endings, Event.isCommit, Event.isRollback]
      rw [endings_append, endings_append, he, hsplit, hone, if_pos (by simp [Event.isBegun])]
      rfl
    · have hsplit : releases (Event.begin (α := α) (.ok ()) :: pre) = releases pre := by
        simp [releases, Event.isRelease]
      rw [releases_append, releases_append, hr, hsplit, hpre]
      rfl

theorem releaseFailure_eq_none (key : LockKey) (grant : LeaseGrant)
    {release : Except LockError Bool} :
    releaseFailure key grant release = none ↔ release = .ok true := by
  unfold releaseFailure
  split <;> simp

theorem settleLease_ok {inner : Except LockError α} {release : Except LockError Bool} {value : α} :
    (settleLease key grant release inner).2 = some (.ok value) ↔
      inner = .ok value ∧ release = .ok true := by
  unfold settleLease
  rw [← releaseFailure_eq_none key grant]
  cases inner with
  | error error => cases releaseFailure key grant release <;> simp
  | ok value' => cases releaseFailure key grant release <;> simp

theorem commitResult_ok {value value' : α} {commit : Except String Unit} :
    commitResult key value commit = .ok value' ↔ value = value' ∧ commit = .ok () := by
  cases commit with
  | error cause => simp [commitResult]
  | ok _ => simp [commitResult]

/-- A result other than an error comes from an admitted run. -/
theorem Finished.commit_of_ok {calls : List (Event α)} {value : α}
    (h : Finished key wait acquire s calls (.ok value)) : .commit s.commit ∈ calls := by
  cases h with
  | ended _ _ _ hended =>
    rename_i during calls _ _ _
    generalize hrun : (calls, some (Except.ok value)) = run at hended
    cases hended with
    | rolledBack => cases hrun
    | committed =>
      cases hrun
      simp

theorem Admitted.work_mem {renewed : LeaseGrant} {value value' : α} {calls : List (Event α)}
    (h : Admitted key wait acquire s grant renewed value calls) :
    .work (.ok value') ∈ calls ↔ value' = value := by
  obtain ⟨during, polls, during', hduring, hpolls, hduring', rfl⟩ := h.calls
  have hnot : ∀ {calls : List (Event α)}, Waiting calls → .work (.ok value') ∉ calls := by
    intro calls hw hmem
    cases hw _ hmem
  simp [hnot hduring, hnot hpolls, hnot hduring']

theorem Admitted.release_mem {renewed grant' : LeaseGrant} {value : α} {calls : List (Event α)}
    {release : Except LockError Bool}
    (h : Admitted key wait acquire s grant renewed value calls) :
    .release grant' release ∈ calls ↔ grant' = grant ∧ release = s.release := by
  obtain ⟨during, polls, during', hduring, hpolls, hduring', rfl⟩ := h.calls
  have hnot : ∀ {calls : List (Event α)}, Waiting calls → .release grant' release ∉ calls := by
    intro calls hw hmem
    cases hw _ hmem
  simp [hnot hduring, hnot hpolls, hnot hduring']

theorem Finished.ok_iff {calls : List (Event α)} {result : Except LockError α}
    (h : Finished key wait acquire s calls result) (value : α) :
    result = .ok value ↔ .work (.ok value) ∈ calls ∧ .commit (.ok ()) ∈ calls ∧
      ∃ grant, .release grant (.ok true) ∈ calls := by
  constructor
  · intro hresult
    subst hresult
    obtain ⟨grant, renewed, value', hadmitted, _, hsettle⟩ := h.admitted h.commit_of_ok
    obtain ⟨hcommit, hrelease⟩ := settleLease_ok.mp hsettle
    obtain ⟨rfl, hok⟩ := commitResult_ok.mp hcommit
    refine ⟨hadmitted.work_mem.mpr rfl, ?_, grant, hadmitted.release_mem.mpr ⟨rfl, hrelease.symm⟩⟩
    rw [← hok]
    exact h.commit_of_ok
  · intro hmem
    obtain ⟨hwork, hcommit, grant', hrelease⟩ := hmem
    obtain ⟨grant, renewed, value', hadmitted, hok, hsettle⟩ := h.admitted hcommit
    have hvalue := hadmitted.work_mem.mp hwork
    subst hvalue
    obtain ⟨_, htrue⟩ := hadmitted.release_mem.mp hrelease
    have hresult : (settleLease key grant s.release (commitResult key value s.commit)).2 =
        some (.ok value) :=
      settleLease_ok.mpr ⟨commitResult_ok.mpr ⟨rfl, hok.symm⟩, htrue.symm⟩
    rw [hsettle] at hresult
    exact Option.some.inj hresult

end Shapes

section Cleanup

variable (key : LockKey) (wait : Bool) (acquire : AcquireOptions) (grant : LeaseGrant)
  (s : Script α)

/-- The same script with a release that matches the grant. -/
def Script.released (s : Script α) : Script α := { s with release := .ok true }

/-- The same script with a rollback that succeeds. -/
def Script.rolledBack (s : Script α) : Script α := { s with rollback := .ok () }

/-- The result of a run, given its result with a release that matches the grant. -/
def afterRelease (key : LockKey) (grant : LeaseGrant) (release : Except LockError Bool) :
    Option (Except LockError α) → Option (Except LockError α) :=
  Option.map fun result => match result, releaseFailure key grant release with
    | .ok value, none => .ok value
    | .error error, none => .error error
    | .ok _, some cleanup => .error cleanup
    | .error inner, some cleanup => .error (cleanup.afterInnerFailure inner)

theorem settleLease_afterRelease (release : Except LockError Bool) (inner : Except LockError α) :
    (settleLease key grant release inner).2 =
      afterRelease key grant release (settleLease key grant (.ok true) inner).2 := by
  cases inner <;> rfl

theorem rollbackThenSettle_afterRelease (inner : LockError) :
    (rollbackThenSettle key grant s inner).2 =
      afterRelease key grant s.release (rollbackThenSettle key grant s.released inner).2 :=
  settleLease_afterRelease key grant s.release _

theorem runWork_afterRelease :
    (runWork key grant s).2 = afterRelease key grant s.release (runWork key grant s.released).2 := by
  unfold runWork admitCommit Script.released
  dsimp only
  split
  · exact rollbackThenSettle_afterRelease key grant s _
  · cases s.work with
    | error cause => exact rollbackThenSettle_afterRelease key grant s _
    | ok value =>
      dsimp only
      split
      · exact rollbackThenSettle_afterRelease key grant s _
      · exact settleLease_afterRelease key grant s.release _

theorem inTransaction_afterRelease :
    (inTransaction key wait acquire grant s).2 =
      afterRelease key grant s.release (inTransaction key wait acquire grant s.released).2 := by
  unfold inTransaction
  have hrounds : s.released.rounds = s.rounds := rfl
  rw [hrounds]
  split
  · rfl
  · exact rollbackThenSettle_afterRelease key grant s _
  · exact runWork_afterRelease key grant s

/-- A failed release goes before the failure it follows, and keeps it. -/
theorem underGrant_afterRelease :
    (underGrant key wait acquire grant s).2 =
      afterRelease key grant s.release (underGrant key wait acquire grant s.released).2 := by
  unfold underGrant
  have hrenewals : s.released.beginRenewals = s.beginRenewals := rfl
  have hbegin : s.released.begin = s.begin := rfl
  rw [hrenewals, hbegin]
  split
  · exact settleLease_afterRelease key grant s.release _
  · split
    · exact settleLease_afterRelease key grant s.release _
    · cases s.begin with
      | error cause => exact settleLease_afterRelease key grant s.release _
      | ok _ => exact inTransaction_afterRelease key wait acquire grant s

/-- How a run depends on the answer of the rollback, given its result with a rollback
that succeeds: not at all when it makes none, otherwise the failure of the rollback
goes before the inner one. -/
def AfterRollback (key : LockKey) (rollback : Except String Unit) (run : Run α)
    (clean : Option (Except LockError α)) : Prop :=
  ((∀ e ∈ run.1, e.isRollback = false) ∧ run.2 = clean) ∨
  (∀ answer, .rollback answer ∈ run.1 → answer = rollback) ∧
    ∃ inner, clean = some (.error inner) ∧
      run.2 = some (.error (rollbackFailure key inner rollback))

theorem AfterRollback.prepend {key : LockKey} {rollback : Except String Unit} {run : Run α}
    {clean : Option (Except LockError α)} (h : AfterRollback key rollback run clean)
    {calls : List (Event α)} (hquiet : ∀ e ∈ calls, e.quiet = true) :
    AfterRollback key rollback (calls ++ run.1, run.2) clean := by
  rcases h with ⟨hnone, hsame⟩ | ⟨hanswer, hresult⟩
  · left
    refine ⟨?_, hsame⟩
    intro e he
    rcases List.mem_append.mp he with hmem | hmem
    · have hq := hquiet e hmem
      cases e with
      | rollback => cases hq
      | _ => rfl
    · exact hnone e hmem
  · right
    refine ⟨?_, hresult⟩
    intro answer hmem
    rcases List.mem_append.mp hmem with hmem | hmem
    · have hq := hquiet _ hmem
      cases hq
    · exact hanswer answer hmem

theorem settleLease_afterRollback (rollback : Except String Unit) (release : Except LockError Bool)
    (inner : Except LockError α) :
    AfterRollback key rollback (settleLease key grant release inner)
      (settleLease key grant release inner).2 := by
  left
  refine ⟨?_, rfl⟩
  intro e he
  rw [List.mem_singleton.mp he]
  rfl

theorem quiet_single {e : Event α} (he : e.quiet = true) : ∀ e' ∈ [e], e'.quiet = true := by
  intro e' hmem
  rw [List.mem_singleton.mp hmem]
  exact he

theorem quiet_cons {e : Event α} {calls : List (Event α)} (he : e.quiet = true)
    (h : ∀ e ∈ calls, e.quiet = true) : ∀ e' ∈ e :: calls, e'.quiet = true := by
  intro e' hmem
  rcases List.mem_cons.mp hmem with rfl | hmem
  · exact he
  · exact h e' hmem

variable (hrelease : s.release = .ok true)

include hrelease

theorem rollbackThenSettle_afterRollback (inner : LockError) :
    AfterRollback key s.rollback (rollbackThenSettle key grant s inner)
      (rollbackThenSettle key grant s.rolledBack inner).2 := by
  right
  unfold rollbackThenSettle Script.rolledBack
  rw [hrelease]
  refine ⟨?_, inner, rfl, rfl⟩
  intro answer hmem
  simpa [settleLease] using hmem

theorem admitCommit_afterRollback (value : α) :
    AfterRollback key s.rollback (admitCommit key grant s value)
      (admitCommit key grant s.rolledBack value).2 := by
  have hrollback := rollbackThenSettle_afterRollback key grant s hrelease
  have hfinal : s.rolledBack.finalRenewal = s.finalRenewal := rfl
  unfold admitCommit
  rw [hfinal]
  split
  · rename_i error _
    exact (hrollback error).prepend (quiet_single (e := .renew s.finalRenewal) rfl)
  · left
    refine ⟨?_, rfl⟩
    intro e he
    simp only [settleLease, List.mem_cons, List.not_mem_nil, or_false] at he
    rcases he with rfl | rfl | rfl
    · rfl
    · rfl
    · rfl

theorem runWork_afterRollback :
    AfterRollback key s.rollback (runWork key grant s) (runWork key grant s.rolledBack).2 := by
  have hrollback := rollbackThenSettle_afterRollback key grant s hrelease
  have hrenewals : s.rolledBack.workRenewals = s.workRenewals := rfl
  have hwork : s.rolledBack.work = s.work := rfl
  have hquiet := quiet_of_waiting (renewWhile_waiting (α := α) grant s.workRenewals)
  unfold runWork
  rw [hrenewals, hwork]
  split
  · rename_i renewals error hw
    rw [hw] at hquiet
    exact (hrollback error).prepend (quiet_cons rfl hquiet)
  · rename_i renewals hw
    rw [hw] at hquiet
    cases s.work with
    | error cause =>
      have hafter := ((hrollback (.work key cause)).prepend
        (quiet_single (e := .work (.error cause)) rfl)).prepend
        (quiet_cons (e := .workStarted) rfl hquiet)
      simpa using hafter
    | ok value =>
      have hafter := ((admitCommit_afterRollback key grant s hrelease value).prepend
        (quiet_single (e := .work (.ok value)) rfl)).prepend
        (quiet_cons (e := .workStarted) rfl hquiet)
      simpa using hafter

theorem inTransaction_afterRollback :
    AfterRollback key s.rollback (inTransaction key wait acquire grant s)
      (inTransaction key wait acquire grant s.rolledBack).2 := by
  have hrounds : s.rolledBack.rounds = s.rounds := rfl
  have hquiet := quiet_of_waiting
    (acquireTransactionLock_waiting (α := α) grant key wait acquire s.rounds)
  unfold inTransaction
  rw [hrounds]
  split
  · rename_i polls hl
    rw [hl] at hquiet
    left
    refine ⟨?_, rfl⟩
    intro e he
    have hq := hquiet e he
    cases e with
    | rollback => cases hq
    | _ => rfl
  · rename_i polls error hl
    rw [hl] at hquiet
    exact (rollbackThenSettle_afterRollback key grant s hrelease error).prepend hquiet
  · rename_i polls hl
    rw [hl] at hquiet
    exact (runWork_afterRollback key grant s hrelease).prepend hquiet

/-- A failed rollback goes before the failure it follows, and keeps it. -/
theorem underGrant_afterRollback :
    AfterRollback key s.rollback (underGrant key wait acquire grant s)
      (underGrant key wait acquire grant s.rolledBack).2 := by
  have hrenewals : s.rolledBack.beginRenewals = s.beginRenewals := rfl
  have hbegin : s.rolledBack.begin = s.begin := rfl
  have hsame : s.rolledBack.release = s.release := rfl
  have hsettle := settleLease_afterRollback (α := α) key grant s.rollback s.release
  have hquiet := quiet_of_waiting (renewWhile_waiting (α := α) grant s.beginRenewals)
  unfold underGrant
  rw [hrenewals, hbegin, hsame]
  split
  · exact hsettle _
  · split
    · rename_i renewals error hw
      rw [hw] at hquiet
      exact (hsettle (.error error)).prepend (quiet_cons rfl hquiet)
    · rename_i renewals hw
      rw [hw] at hquiet
      cases s.begin with
      | error cause =>
        have hafter := ((hsettle (.error ((LockError.new .database key cause).at .pgBegin))).prepend
          (quiet_single (e := .begin (.error cause)) rfl)).prepend
          (quiet_cons (e := .beginStarted) rfl hquiet)
        simpa using hafter
      | ok _ =>
        have hafter := ((inTransaction_afterRollback key wait acquire grant s hrelease).prepend
          (quiet_single (e := .begin (.ok ())) rfl)).prepend
          (quiet_cons (e := .beginStarted) rfl hquiet)
        simpa using hafter

end Cleanup

theorem mem_release {pre calls : List (Event α)} {grant grant' : LeaseGrant}
    {release release' : Except LockError Bool} (hcalls : calls = pre ++ [.release grant release])
    (hpre : releases pre = 0) (h : .release grant' release' ∈ calls) : grant' = grant := by
  rw [hcalls] at h
  rcases List.mem_append.mp h with hmem | hmem
  · have hnone := List.countP_eq_zero.mp hpre _ hmem
    exact absurd rfl hnone
  · simp only [List.mem_singleton, Event.release.injEq] at hmem
    exact hmem.1

/-- A run that got beyond a grant is the run under that grant. -/
theorem run_underGrant {key : LockKey} {wait : Bool} {acquire : AcquireOptions}
    {maintenance : LeaseMaintenanceOptions} {s : Script α} {grant : LeaseGrant}
    (hvalid : maintenance.validate key acquire wait = .ok ()) (hacquire : s.acquire = .ok grant) :
    withMaintainedXactLock key wait acquire maintenance s =
      (.acquire s.acquire :: (underGrant key wait acquire grant s).1,
        (underGrant key wait acquire grant s).2) := by
  unfold withMaintainedXactLock
  rw [hvalid, hacquire]

theorem validate_of_call {key : LockKey} {wait : Bool} {acquire : AcquireOptions}
    {maintenance : LeaseMaintenanceOptions} {s : Script α} {e : Event α}
    (h : e ∈ (withMaintainedXactLock key wait acquire maintenance s).1) :
    maintenance.validate key acquire wait = .ok () := by
  unfold withMaintainedXactLock at h
  split at h
  · cases h
  · assumption

section Reported

variable {key : LockKey} {wait : Bool} {acquire : AcquireOptions}
  {maintenance : LeaseMaintenanceOptions} {s : Script α}

theorem acquired_of_rollback {result : Except String Unit}
    (h : .rollback result ∈ (withMaintainedXactLock key wait acquire maintenance s).1) :
    ∃ grant, s.acquire = .ok grant := by
  have hvalid := validate_of_call h
  cases hacquire : s.acquire with
  | ok grant => exact ⟨grant, rfl⟩
  | error error =>
    unfold withMaintainedXactLock at h
    rw [hvalid, hacquire, List.mem_singleton] at h
    cases h

/-- A failed release goes before the failure it follows. -/
theorem result_after_release {grant : LeaseGrant} {cleanup inner : LockError}
    (hvalid : maintenance.validate key acquire wait = .ok ()) (hacquire : s.acquire = .ok grant)
    (hcleanup : releaseFailure key grant s.release = some cleanup)
    (hclean : (withMaintainedXactLock key wait acquire maintenance s.released).2 =
      some (.error inner)) :
    (withMaintainedXactLock key wait acquire maintenance s).2 =
      some (.error (cleanup.afterInnerFailure inner)) := by
  rw [run_underGrant hvalid (s := s.released) hacquire] at hclean
  rw [run_underGrant hvalid hacquire, underGrant_afterRelease key wait acquire grant s, hclean]
  simp only [afterRelease, Option.map_some, hcleanup]

/-- So does a failed rollback, when the lease is then released. -/
theorem result_after_rollback {cause : String} (hrelease : s.release = .ok true)
    (h : .rollback (.error cause) ∈ (withMaintainedXactLock key wait acquire maintenance s).1) :
    ∃ inner,
      (withMaintainedXactLock key wait acquire maintenance s.rolledBack).2 = some (.error inner) ∧
      (withMaintainedXactLock key wait acquire maintenance s).2 = some (.error
        (((LockError.new .database key cause).at .pgRollback).afterInnerFailure inner)) := by
  have hvalid := validate_of_call h
  obtain ⟨grant, hacquire⟩ := acquired_of_rollback h
  rw [run_underGrant hvalid hacquire] at h
  have hmem : .rollback (.error cause) ∈ (underGrant key wait acquire grant s).1 := by
    rcases List.mem_cons.mp h with hmem | hmem
    · cases hmem
    · exact hmem
  rw [run_underGrant hvalid (s := s.rolledBack) hacquire, run_underGrant hvalid hacquire]
  rcases underGrant_afterRollback key wait acquire grant s hrelease with
    ⟨hnone, _⟩ | ⟨hanswer, inner, hclean, hresult⟩
  · have hfalse := hnone _ hmem
    cases hfalse
  · refine ⟨inner, hclean, ?_⟩
    rw [hresult, ← hanswer _ hmem]
    rfl

end Reported

/-- The rules of commit admission for every script of answers: what a commit needs,
one end of each transaction, one final release of each grant, when the result is a
value, and which failure is reported after a failed cleanup. -/
theorem maintained_commit_admission (key : LockKey) (wait : Bool) (acquire : AcquireOptions)
    (maintenance : LeaseMaintenanceOptions) (s : Script α) (calls : List (Event α))
    (result : Option (Except LockError α))
    (hrun : withMaintainedXactLock key wait acquire maintenance s = (calls, result)) :
    (∀ commit, .commit commit ∈ calls →
      ∃ grant renewed value, Admitted key wait acquire s grant renewed value calls) ∧
    (endings calls ≤ 1 ∧ (result ≠ none → calls.any Event.isBegun = true → endings calls = 1)) ∧
    (result ≠ none →
      (calls.any Event.isAcquired = false ∧ releases calls = 0) ∨
      (∃ grant pre, .acquire (.ok grant) ∈ pre ∧ calls = pre ++ [.release grant s.release] ∧
        releases pre = 0)) ∧
    (∀ value, result = some (.ok value) ↔ .work (.ok value) ∈ calls ∧ .commit (.ok ()) ∈ calls ∧
      ∃ grant, .release grant (.ok true) ∈ calls) ∧
    (∀ grant cleanup inner, .release grant s.release ∈ calls →
      releaseFailure key grant s.release = some cleanup →
      (withMaintainedXactLock key wait acquire maintenance s.released).2 = some (.error inner) →
      result = some (.error (cleanup.afterInnerFailure inner))) ∧
    (∀ cause, .rollback (.error cause) ∈ calls → s.release = .ok true →
      ∃ inner,
        (withMaintainedXactLock key wait acquire maintenance s.rolledBack).2 =
          some (.error inner) ∧
        result = some (.error
          (((LockError.new .database key cause).at .pgRollback).afterInnerFailure inner))) := by
  have hfinished := run_finished key wait acquire maintenance s
  rw [hrun] at hfinished
  rcases hfinished with ⟨r, rfl, hshape⟩ | ⟨rfl, hquiet⟩
  · obtain ⟨hendings, hreleases⟩ := hshape.counts
    refine ⟨?_, ⟨?_, ?_⟩, ?_, ?_, ?_, ?_⟩
    · intro commit hc
      obtain ⟨grant, renewed, value, hadmitted, _, _⟩ := hshape.admitted hc
      exact ⟨grant, renewed, value, hadmitted⟩
    · dsimp only at hendings
      rw [hendings]
      split <;> omega
    · intro _ hbegun
      dsimp only at hendings
      rw [hendings, if_pos hbegun]
    · intro _
      rcases hreleases with hnone | ⟨grant, pre, _, hacquired, hcalls, hpre⟩
      · exact Or.inl hnone
      · exact Or.inr ⟨grant, pre, hacquired, hcalls, hpre⟩
    · intro value
      rw [Option.some.injEq]
      exact hshape.ok_iff value
    · intro grant cleanup inner hrel hcleanup hclean
      have hvalid : maintenance.validate key acquire wait = .ok () :=
        validate_of_call (s := s) (by rw [hrun]; exact hrel)
      rcases hreleases with ⟨_, hnone⟩ | ⟨grant', pre, hacquire, _, hcalls, hpre⟩
      · exact absurd rfl (List.countP_eq_zero.mp hnone _ hrel)
      · have hgrant := mem_release hcalls hpre hrel
        subst hgrant
        have hresult := result_after_release hvalid hacquire hcleanup hclean
        rw [hrun] at hresult
        exact hresult
    · intro cause hrollback hrelease
      have hcall : .rollback (.error cause) ∈
          (withMaintainedXactLock key wait acquire maintenance s).1 := by
        rw [hrun]
        exact hrollback
      obtain ⟨inner, hclean, hresult⟩ := result_after_rollback hrelease hcall
      rw [hrun] at hresult
      exact ⟨inner, hclean, hresult⟩
  · obtain ⟨hendings, hreleases⟩ := counts_of_quiet hquiet
    dsimp only at hendings hreleases
    have hnot : ∀ {e}, e ∈ calls → e.quiet = false → False := by
      intro e hmem hfalse
      rw [hquiet e hmem] at hfalse
      cases hfalse
    refine ⟨?_, ⟨by omega, ?_⟩, ?_, ?_, ?_, ?_⟩
    · intro commit hc
      exact (hnot hc rfl).elim
    · intro hne
      exact absurd rfl hne
    · intro hne
      exact absurd rfl hne
    · intro value
      constructor
      · intro hv
        cases hv
      · intro hm
        exact (hnot hm.2.1 rfl).elim
    · intro grant cleanup inner hrel
      exact (hnot hrel rfl).elim
    · intro cause hrollback
      exact (hnot hrollback rfl).elim

def sampleKey : LockKey := ⟨"jobs/rebuild", jobsRebuild_admitted⟩

def sampleGrant : LeaseGrant := ⟨sampleKey, "worker", 7, none, 10⟩

/-- A TTL of ten milliseconds, renewed every five. -/
def sampleAcquire : AcquireOptions := ⟨10000000, 1000000, 1000000, none⟩

def sampleMaintenance : LeaseMaintenanceOptions := ⟨5000000⟩

/-- One contended poll with a renewal, then the lock, the work and the commit. -/
def sampleScript : Script Nat where
  acquire := .ok sampleGrant
  beginRenewals := []
  begin := .ok ()
  rounds := [⟨.answered false, 0, [.ok sampleGrant]⟩, ⟨.answered true, 0, []⟩]
  workRenewals := []
  work := .ok 42
  finalRenewal := .ok sampleGrant
  commit := .ok ()
  rollback := .ok ()
  release := .ok true

def sampleCalls : List (Event Nat) :=
  [.acquire (.ok sampleGrant), .beginStarted, .begin (.ok ()), .tryXactLock (.answered false),
    .renew (.ok sampleGrant), .tryXactLock (.answered true), .workStarted, .work (.ok 42),
    .renew (.ok sampleGrant), .commit (.ok ()), .release sampleGrant (.ok true)]

theorem sample_run_admitted :
    withMaintainedXactLock sampleKey true sampleAcquire sampleMaintenance sampleScript =
      (sampleCalls, some (.ok 42)) ∧
    ∃ grant renewed value,
      Admitted sampleKey true sampleAcquire sampleScript grant renewed value sampleCalls :=
  ⟨rfl, (maintained_commit_admission sampleKey true sampleAcquire sampleMaintenance sampleScript
    sampleCalls _ rfl).1 (.ok ()) (by simp [sampleCalls])⟩

end OresLocks.Maintained
