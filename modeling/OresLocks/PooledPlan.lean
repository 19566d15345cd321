import OresLocks.Plan
import OresLocks.PooledSession
import OresLocks.Shared.Traces

/-!
# The TypeScript routines carry out the plan

A run is seen as the attempts of its calls. Connecting a client and handing it back are
steps of no plan: without a client the step that needs it is given up, and a client that
cannot be handed back only changes the outcome.
-/

namespace OresLocks.Ts.Pool

set_option autoImplicit false

open Shared.Programs Shared.Brackets
open Config (PgScope)
open Plan (plan plan_leased discipline KeepsPlan keepsPlan_of_executes)

section Observed

variable {α : Type}

def Statement.step : Statement → LockStep
  | .begin => .pgBegin
  | .advisoryXactLock => .pgAdvisoryXactLock
  | .tryAdvisoryXactLock => .pgTryAdvisoryXactLock
  | .commit => .pgCommit
  | .rollback => .pgRollback
  | .advisoryLock => .pgAdvisoryLock
  | .tryAdvisoryLock => .pgTryAdvisoryLock
  | .advisoryUnlock => .pgAdvisoryUnlock

/-- The statement asks for a boolean. -/
def Statement.asks : Statement → Bool
  | .tryAdvisoryXactLock | .tryAdvisoryLock | .advisoryUnlock => true
  | _ => false

/-- A statement that asks for a boolean fails when its answer is not `true`. -/
def Statement.succeeds (sql : Statement) : Except Thrown Rows → Bool
  | .error _ => false
  | .ok rows => !sql.asks || firstBool rows

/-- The attempt that a call is. -/
def attempt? (wait : Bool) : Answered Op (Answer α) → Option (Attempt LockStep)
  | ⟨.acquire, answer⟩ =>
    some (if wait then .fiduciaAcquire else .fiduciaTryAcquire, answer.isOk)
  | ⟨.query sql, answer⟩ => some (sql.step, sql.succeeds answer)
  | ⟨.work _, answer⟩ => some (.work, answer.isOk)
  | ⟨.release _, .ok matched⟩ => some (.fiduciaRelease, matched)
  | ⟨.release _, .error _⟩ => some (.fiduciaRelease, false)
  | _ => none

def attempts (wait : Bool) (calls : List (Answered Op (Answer α))) : List (Attempt LockStep) :=
  calls.filterMap (attempt? wait)

def threwAway : Answered Op (Answer α) → Bool
  | ⟨.handBack _, .error _⟩ => true
  | _ => false

/-- No hand-back threw. -/
def handsBack (calls : List (Answered Op (Answer α))) : Bool := !calls.any threwAway

/-- The steps that need a client. -/
def needsClient : LockStep → Bool
  | .pgBegin | .pgAdvisoryLock | .pgTryAdvisoryLock => true
  | _ => false

def hadNone : Answered Op (Answer α) → Bool
  | ⟨.connect, .error _⟩ => true
  | _ => false

/-- No client could be had. -/
def refused (calls : List (Answered Op (Answer α))) : Bool := calls.any hadNone

/-- A client was had, if one was asked for, and none was lost on its way back. -/
def smooth (calls : List (Answered Op (Answer α))) : Bool := handsBack calls && !refused calls

/-- A failed `COMMIT` is followed by a `ROLLBACK`. -/
def pooled (refused : Bool) : Discipline LockStep := discipline true needsClient refused

variable (wait : Bool) {calls calls' : List (Answered Op (Answer α))}

@[simp] theorem attempts_append {wait : Bool} :
    attempts wait (calls ++ calls') = attempts wait calls ++ attempts wait calls' :=
  List.filterMap_append

@[simp] theorem handsBack_append :
    handsBack (calls ++ calls') = (handsBack calls && handsBack calls') := by
  unfold handsBack
  rw [List.any_append, Bool.not_or]

@[simp] theorem refused_append :
    refused (calls ++ calls') = (refused calls || refused calls') := List.any_append

@[simp] theorem smooth_append :
    smooth (calls ++ calls') = (smooth calls && smooth calls') := by
  unfold smooth
  rw [handsBack_append, refused_append, Bool.not_or]
  ac_rfl

theorem smooth_iff : smooth calls = true ↔ handsBack calls = true ∧ refused calls = false := by
  unfold smooth
  rw [Bool.and_eq_true, Bool.not_eq_true']

/-- The other steps need no client. -/
theorem pooled_there {refused : Bool} {step : LockStep} (h : needsClient step = false) :
    (pooled refused).missing step = false := by
  change (refused && needsClient step) = false
  rw [h, Bool.and_false]

/-- The routine makes one attempt, and returns when it succeeds. -/
def Makes {β : Type} (wait : Bool) (x : Routine α β) (step : LockStep) : Prop :=
  Shows x.run fun calls result =>
    attempts wait calls = [(step, result.isOk)] ∧ smooth calls = true

/-- The routine carries out these steps, and returns when all of them succeed. -/
def CarriesOut {β : Type} (wait : Bool) (x : Routine α β) (steps : List LockStep) : Prop :=
  Shows x.run fun calls result => ∃ ok,
    Executes (pooled (refused calls)) steps [] (attempts wait calls) ok ∧
      result.isOk = (ok && handsBack calls)

theorem Makes.carriesOut {β : Type} {wait : Bool} {x : Routine α β} {step : LockStep}
    (h : Makes wait x step) (hrole : Plan.role step = .plain) : CarriesOut wait x [step] := by
  apply Shows.mono h
  intro calls result hresult
  obtain ⟨hattempts, hsmooth⟩ := hresult
  obtain ⟨hhands, hclient⟩ := smooth_iff.mp hsmooth
  refine ⟨result.isOk, ?_, by rw [hhands, Bool.and_true]⟩
  rw [hattempts, hclient]
  cases result with
  | ok value => exact .passed hrole rfl .done
  | error thrown => exact .failed (.inl hrole) rfl rfl

theorem query_shows (sql : Statement) : Shows (query (α := α) sql).run fun calls result =>
    attempts wait calls = [(sql.step, sql.succeeds result)] ∧ smooth calls = true := by
  apply Shows.call
  intro answer
  exact Shows.done ⟨rfl, rfl⟩

theorem exec_makes (sql : Statement) (key : JsString) (step : LockStep) (h : sql.asks = false) :
    Makes wait (exec (α := α) key sql step) sql.step := by
  apply Shows.tryCatch fun calls result =>
    attempts wait calls = [(sql.step, result.isOk)] ∧ smooth calls = true
  · apply Shows.bindExcept _ (query_shows wait sql)
    · intro calls rows hrows
      apply Shows.done
      rw [List.append_nil, hrows.1]
      refine ⟨?_, hrows.2⟩
      unfold Statement.succeeds
      rw [h]
      rfl
    · intro calls cause hcause
      exact hcause
  · intro calls value hvalue
    exact hvalue
  · intro calls cause hcause
    apply Shows.done
    rw [List.append_nil]
    exact hcause

theorem tryLock_makes (sql : Statement) (key : JsString) (step : LockStep) (h : sql.asks = true) :
    Makes wait (tryLock (α := α) key sql step) sql.step := by
  apply Shows.bindExcept fun calls result =>
    attempts wait calls = [(sql.step, sql.succeeds result)] ∧ smooth calls = true
  · apply Shows.tryCatch _ (query_shows wait sql)
    · intro calls rows hrows
      exact hrows
    · intro calls cause hcause
      apply Shows.done
      rw [List.append_nil]
      exact hcause
  · intro calls rows hrows
    have hsucceeds : sql.succeeds (.ok rows) = firstBool rows := by
      unfold Statement.succeeds
      rw [h]
      rfl
    rw [hsucceeds] at hrows
    cases hfirst : firstBool rows with
    | true =>
      rw [hfirst] at hrows
      apply Shows.done
      rw [List.append_nil]
      exact hrows
    | false =>
      rw [hfirst] at hrows
      apply Shows.done
      rw [List.append_nil]
      exact hrows
  · intro calls thrown hthrown
    exact hthrown

/-- One call whose rejection is passed on in another form. -/
theorem makes_caught {β : Type} {wait : Bool} {x : Routine α β} {step : LockStep}
    (handler : Thrown → Except Thrown β) (h : Makes wait x step)
    (hhandler : ∀ thrown, (handler thrown).isOk = false) :
    Makes wait (tryCatch x fun thrown => ExceptT.mk (pure (handler thrown))) step := by
  apply Shows.tryCatch _ h
  · intro calls value hvalue
    exact hvalue
  · intro calls thrown hthrown
    apply Shows.done
    rw [List.append_nil, hhandler thrown]
    exact hthrown

theorem runWork_makes (key : JsString) (client : Bool) :
    Makes wait (runWork (α := α) key client) .work := by
  apply makes_caught fun cause => .error (.ofBuilt (LockError.work key cause))
  · apply Shows.call
    intro answer
    exact Shows.done ⟨rfl, rfl⟩
  · intro thrown
    rfl

variable {inputs : Inputs}

theorem acquireLease_makes : Makes inputs.wait (acquireLease (α := α) inputs)
    (if inputs.wait then .fiduciaAcquire else .fiduciaTryAcquire) := by
  apply makes_caught fun thrown => .error (tagStep thrown (acquireStep inputs))
  · apply Shows.call
    intro answer
    exact Shows.done ⟨rfl, rfl⟩
  · intro thrown
    rfl

theorem takeXactLock_makes : Makes inputs.wait (takeXactLock (α := α) inputs)
    (if inputs.wait then .pgAdvisoryXactLock else .pgTryAdvisoryXactLock) := by
  unfold takeXactLock
  split
  · exact exec_makes inputs.wait .advisoryXactLock inputs.key .pgAdvisoryXactLock rfl
  · exact tryLock_makes inputs.wait .tryAdvisoryXactLock inputs.key .pgTryAdvisoryXactLock rfl

theorem takeSessionLock_makes : Makes inputs.wait (takeSessionLock (α := α) inputs)
    (if inputs.wait then .pgAdvisoryLock else .pgTryAdvisoryLock) := by
  unfold takeSessionLock
  split
  · exact exec_makes inputs.wait .advisoryLock inputs.key .pgAdvisoryLock rfl
  · exact tryLock_makes inputs.wait .tryAdvisoryLock inputs.key .pgTryAdvisoryLock rfl

/-- What a failure after `BEGIN` leaves to the rollback. -/
theorem underXactLock_shows :
    Shows (underXactLock (α := α) inputs).run fun calls result => smooth calls = true ∧
      ∀ rollsBack, Executes (pooled false)
        [if inputs.wait then .pgAdvisoryXactLock else .pgTryAdvisoryXactLock, .work, .pgCommit]
        [.pgRollback]
        (attempts inputs.wait calls ++ if result.isOk then [] else [(.pgRollback, rollsBack)])
        result.isOk := by
  have hplain : (pooled false).role
      (if inputs.wait then .pgAdvisoryXactLock else .pgTryAdvisoryXactLock) = .plain := by
    cases inputs.wait with
    | true => rfl
    | false => rfl
  have hthere : (pooled false).missing
      (if inputs.wait then .pgAdvisoryXactLock else .pgTryAdvisoryXactLock) = false := rfl
  apply Shows.bindExcept _ takeXactLock_makes
  · intro calls _ hlocked
    apply Shows.bindExcept _ (runWork_makes inputs.wait inputs.key true)
    · intro calls' value hworked
      apply Shows.bindExcept _ (exec_makes inputs.wait .commit inputs.key .pgCommit rfl)
      · intro calls'' _ hcommitted
        apply Shows.done
        simp only [List.append_nil, smooth_append, attempts_append, hlocked, hworked,
          hcommitted]
        refine ⟨rfl, ?_⟩
        intro _
        exact .passed hplain hthere (.passed rfl rfl (.closed rfl .done))
      · intro calls'' thrown hcommitted
        simp only [smooth_append, attempts_append, hlocked, hworked, hcommitted]
        refine ⟨rfl, ?_⟩
        intro _
        exact .passed hplain hthere (.passed rfl rfl (.unclosed rfl rfl))
    · intro calls' thrown hworked
      simp only [smooth_append, attempts_append, hlocked, hworked]
      refine ⟨rfl, ?_⟩
      intro _
      exact .passed hplain hthere (.failed (.inl rfl) rfl rfl)
  · intro calls thrown hlocked
    simp only [hlocked]
    refine ⟨trivial, ?_⟩
    intro _
    exact .failed (.inl hplain) hthere rfl

/-- A `try` block that carries out these steps before its client is handed back. -/
def BlockCarriesOut (wait : Bool) (block : Calls α (Bool × Except Thrown α))
    (steps : List LockStep) : Prop :=
  Shows block fun calls outcome => smooth calls = true ∧
    Executes (pooled false) steps [] (attempts wait calls) outcome.2.isOk

theorem xactBlock_carriesOut : BlockCarriesOut inputs.wait (xactBlock (α := α) inputs)
    (plan ⟨false, true⟩ .transaction inputs.wait).steps := by
  apply Shows.bind _ (exec_makes inputs.wait .begin inputs.key .pgBegin rfl)
  intro calls began hbegan
  cases began with
  | error thrown =>
    apply Shows.done
    simp only [List.append_nil, hbegan]
    exact ⟨trivial, .failed (.inr ⟨_, rfl⟩) rfl rfl⟩
  | ok u =>
    apply Shows.bind _ underXactLock_shows
    intro calls' outcome houtcome
    obtain ⟨hhands, hexecutes⟩ := houtcome
    cases outcome with
    | ok value =>
      apply Shows.done
      simp only [List.append_nil, smooth_append, attempts_append, hbegan, hhands]
      have h := hexecutes false
      rw [show (Except.ok (ε := Thrown) value).isOk = true from rfl, if_pos rfl,
        List.append_nil] at h
      exact ⟨rfl, .opened rfl rfl h⟩
    | error thrown =>
      apply Shows.bind _ (query_shows inputs.wait .rollback)
      intro calls'' rolled hrolled
      apply Shows.done
      obtain ⟨hrolled, hhands'⟩ := hrolled
      simp only [List.append_nil, smooth_append, attempts_append, hbegan, hhands, hhands',
        hrolled]
      exact ⟨rfl, .opened rfl rfl (hexecutes _)⟩

theorem unlock_shows (inner : Except Thrown α) :
    Shows (unlock inputs inner) fun calls outcome => smooth calls = true ∧
      ∃ unlocked, attempts inputs.wait calls = [(.pgAdvisoryUnlock, unlocked)] ∧
        outcome.2.isOk = (inner.isOk && unlocked) := by
  have hover : ∀ cleanup, (overInner inner cleanup).isOk = false := by
    intro cleanup
    cases inner with
    | ok value => rfl
    | error thrown => rfl
  apply Shows.bind _ (query_shows inputs.wait .advisoryUnlock)
  intro calls answer hanswer
  obtain ⟨hattempts, hhands⟩ := hanswer
  cases answer with
  | error cause =>
    dsimp only
    split
    · apply Shows.done
      rw [List.append_nil]
      exact ⟨hhands, false, hattempts, by rw [Bool.and_false]; rfl⟩
    · apply Shows.done
      rw [List.append_nil]
      exact ⟨hhands, false, hattempts, by rw [Bool.and_false]; exact hover _⟩
  | ok rows =>
    have hsucceeds : Statement.advisoryUnlock.succeeds (.ok rows) = firstBool rows := rfl
    rw [hsucceeds] at hattempts
    dsimp only
    cases hfirst : firstBool rows with
    | false =>
      rw [hfirst] at hattempts
      apply Shows.done
      rw [List.append_nil]
      exact ⟨hhands, false, hattempts, by rw [Bool.and_false]; exact hover _⟩
    | true =>
      rw [hfirst] at hattempts
      apply Shows.done
      rw [List.append_nil]
      exact ⟨hhands, true, hattempts, by rw [Bool.and_true]⟩

/-- The lock and its unlock are a bracket around the work. -/
theorem sessionBlock_carriesOut : BlockCarriesOut inputs.wait (sessionBlock (α := α) inputs)
    (plan ⟨false, true⟩ .session inputs.wait).steps := by
  have hopens : (pooled false).role (if inputs.wait then .pgAdvisoryLock else .pgTryAdvisoryLock) =
      .opens .pgAdvisoryUnlock := by
    cases inputs.wait with
    | true => rfl
    | false => rfl
  apply Shows.bind _ takeSessionLock_makes
  intro calls locked hlocked
  cases locked with
  | error thrown =>
    apply Shows.done
    simp only [List.append_nil, hlocked]
    exact ⟨trivial, .failed (.inr ⟨_, hopens⟩) rfl rfl⟩
  | ok u =>
    apply Shows.bind _ (runWork_makes inputs.wait inputs.key true)
    intro calls' worked hworked
    apply Shows.mono (unlock_shows worked)
    intro calls'' outcome houtcome
    obtain ⟨hhands, unlocked, hattempts, hisOk⟩ := houtcome
    simp only [smooth_append, attempts_append, hlocked, hworked, hhands, hattempts, hisOk]
    have hwork : Executes (pooled false) [.work] [] [(.work, worked.isOk)] worked.isOk := by
      cases worked with
      | ok value => exact .passed rfl rfl .done
      | error thrown => exact .failed (.inl rfl) rfl rfl
    exact ⟨rfl, .opened hopens rfl (hwork.within rfl rfl unlocked)⟩

/-- Handing the client back is no step, but it can throw. -/
theorem handingBack_carriesOut {block : Calls α (Bool × Except Thrown α)} {steps : List LockStep}
    {wait : Bool} (h : BlockCarriesOut wait block steps) :
    CarriesOut wait (handingBack block) steps := by
  apply Shows.bindExcept fun calls result => ∃ outcome, result = .ok outcome ∧
    smooth calls = true ∧ Executes (pooled false) steps [] (attempts wait calls) outcome.2.isOk
  · apply Shows.lift
    apply Shows.mono h
    intro calls outcome houtcome
    exact ⟨outcome, rfl, houtcome⟩
  · intro calls outcome houtcome
    obtain ⟨_, heq, hsmooth, hexecutes⟩ := houtcome
    cases heq
    obtain ⟨hhands, hclient⟩ := smooth_iff.mp hsmooth
    apply Shows.call
    intro answer
    have hattempts : Executes (pooled (refused (calls ++ [⟨.handBack outcome.1, answer⟩]))) steps []
        (attempts wait (calls ++ [⟨.handBack outcome.1, answer⟩])) outcome.2.isOk := by
      rw [refused_append, hclient, attempts_append]
      change Executes (pooled false) steps [] (attempts wait calls ++ []) _
      rw [List.append_nil]
      exact hexecutes
    cases answer with
    | ok u =>
      apply Shows.done
      refine ⟨outcome.2.isOk, hattempts, ?_⟩
      rw [handsBack_append, hhands]
      exact (Bool.and_true _).symm
    | error thrown =>
      apply Shows.done
      refine ⟨outcome.2.isOk, hattempts, ?_⟩
      rw [handsBack_append, hhands]
      exact (Bool.and_false _).symm
  · intro calls thrown hthrown
    obtain ⟨_, heq, _⟩ := hthrown
    cases heq

/-- Without a client nothing is attempted, and the first step is given up. -/
theorem connected_carriesOut {wait : Bool} {block : Calls α (Bool × Except Thrown α)}
    {first : LockStep} {steps : List LockStep} (key : JsString) (step : LockStep)
    (hneeds : needsClient first = true) (h : BlockCarriesOut wait block (first :: steps)) :
    CarriesOut wait (do connect key step; handingBack block) (first :: steps) := by
  have hconnect : Shows (connect (α := α) key step).run fun calls result =>
      attempts wait calls = [] ∧ handsBack calls = true ∧ refused calls = !result.isOk := by
    apply Shows.tryCatch fun calls result =>
      attempts wait calls = [] ∧ handsBack calls = true ∧ refused calls = !result.isOk
    · apply Shows.call
      intro answer
      apply Shows.done
      refine ⟨rfl, rfl, ?_⟩
      cases answer with
      | ok u => rfl
      | error thrown => rfl
    · intro calls _ hcalls
      exact hcalls
    · intro calls cause hcalls
      apply Shows.done
      rw [List.append_nil]
      exact hcalls
  apply Shows.bindExcept _ hconnect
  · intro calls _ hcalls
    obtain ⟨hnone, hhands, hclient⟩ := hcalls
    apply Shows.mono (handingBack_carriesOut h)
    intro calls' result hresult
    rw [attempts_append, handsBack_append, refused_append, hnone, hhands, hclient]
    exact hresult
  · intro calls thrown hcalls
    obtain ⟨hnone, _, hrefused⟩ := hcalls
    refine ⟨false, ?_, rfl⟩
    rw [hnone, hrefused]
    exact .givenUp hneeds rfl

theorem runXact_carriesOut : CarriesOut inputs.wait (runXact (α := α) inputs)
    (plan ⟨false, true⟩ .transaction inputs.wait).steps :=
  connected_carriesOut inputs.key .pgBegin rfl xactBlock_carriesOut

theorem runSession_carriesOut : CarriesOut inputs.wait (runSession (α := α) inputs)
    (plan ⟨false, true⟩ .session inputs.wait).steps := by
  have hneeds : needsClient (if inputs.wait then .pgAdvisoryLock else .pgTryAdvisoryLock) =
      true := by
    cases inputs.wait with
    | true => rfl
    | false => rfl
  apply connected_carriesOut inputs.key .pgAdvisoryLock hneeds
  apply Shows.bind _ sessionBlock_carriesOut
  intro calls outcome houtcome
  apply Shows.done
  rw [List.append_nil]
  refine ⟨houtcome.1, ?_⟩
  obtain ⟨poisoned, outcome⟩ := outcome
  cases outcome with
  | ok value => exact houtcome.2
  | error thrown => exact houtcome.2

theorem settle_shows (grant : LeaseGrant) (inner : Except Thrown α) :
    Shows (settle inputs grant inner).run fun calls result => smooth calls = true ∧
      ∃ released, attempts inputs.wait calls = [(.fiduciaRelease, released)] ∧
        result.isOk = (inner.isOk && released) := by
  apply Shows.bindExcept fun calls answer => smooth calls = true ∧
    ∃ released answered, answer = .ok answered ∧
      attempts inputs.wait calls = [(.fiduciaRelease, released)] ∧
      (State.releaseFailure inputs grant answered = none ↔ released = true)
  · apply Shows.lift
    apply Shows.call
    intro answer
    apply Shows.done
    refine ⟨rfl, ?_⟩
    cases answer with
    | ok matched =>
      refine ⟨matched, .ok matched, rfl, rfl, ?_⟩
      cases matched with
      | true => exact ⟨fun _ => rfl, fun _ => rfl⟩
      | false => exact ⟨fun h => (nomatch h), fun h => (nomatch h)⟩
    | error thrown =>
      refine ⟨false, .error thrown, rfl, rfl, ?_⟩
      cases thrown with
      | _ => exact ⟨fun h => (nomatch h), fun h => (nomatch h)⟩
  · intro calls answer hanswer
    obtain ⟨hsmooth, released, _, heq, hattempts, hreleased⟩ := hanswer
    cases heq
    cases hfailure : State.releaseFailure inputs grant answer with
    | none =>
      rw [hfailure] at hreleased
      apply Shows.done
      rw [List.append_nil]
      refine ⟨hsmooth, released, hattempts, ?_⟩
      rw [hreleased.mp rfl, Bool.and_true]
    | some failure =>
      rw [hfailure] at hreleased
      have hfalse : released = false := by
        rw [← Bool.not_eq_true]
        exact fun h => nomatch hreleased.mpr h
      cases failure with
      | error thrown =>
        apply Shows.done
        rw [List.append_nil]
        exact ⟨hsmooth, released, hattempts, by rw [hfalse, Bool.and_false]; rfl⟩
      | ok cleanup =>
        apply Shows.done
        rw [List.append_nil]
        refine ⟨hsmooth, released, hattempts, ?_⟩
        rw [hfalse, Bool.and_false]
        cases inner with
        | ok value => rfl
        | error thrown => rfl
  · intro calls thrown hthrown
    obtain ⟨_, _, _, heq, _⟩ := hthrown
    cases heq

/-- What the plan needs is there. -/
def Layers.Supplied (layers : Layers) : Prop :=
  (layers.fiducia = true → layers.lease = true) ∧ (layers.pgAdvisory = true → layers.pool = true)

/-- The plan inside the lease. -/
theorem innerOutcome_shows {run : Routine α α} {layers : Layers} {scope : PgScope}
    (hsupplied : layers.Supplied)
    (hrun : CarriesOut inputs.wait run (plan ⟨false, true⟩ scope inputs.wait).steps) :
    Shows (innerOutcome inputs layers run).run fun calls result => ∃ inner, result = .ok inner ∧
      ∃ ok, Executes (pooled (refused calls))
        (plan ⟨false, layers.pgAdvisory⟩ scope inputs.wait).steps []
        (attempts inputs.wait calls) ok ∧ inner.isOk = (ok && handsBack calls) := by
  have hinner : CarriesOut inputs.wait
      (if layers.pgAdvisory && layers.pool then run else runWork inputs.key false)
      (plan ⟨false, layers.pgAdvisory⟩ scope inputs.wait).steps := by
    cases hpg : layers.pgAdvisory with
    | true =>
      rw [hsupplied.2 hpg]
      exact hrun
    | false => exact (runWork_makes inputs.wait inputs.key false).carriesOut rfl
  apply Shows.attempt
  apply Shows.mono hinner
  intro calls inner hinner
  exact ⟨inner, rfl, hinner⟩

theorem checkPlan_supplied {layers : Layers} (key : JsString) (noPool : String)
    (hsupplied : layers.Supplied) : checkPlan (α := α) key layers noPool = pure () := by
  unfold checkPlan
  rw [if_neg, if_neg]
  · intro h
    rw [Bool.and_eq_true, Bool.not_eq_true'] at h
    exact Bool.false_ne_true (h.2.symm.trans (hsupplied.2 h.1))
  · intro h
    rw [Bool.and_eq_true, Bool.not_eq_true'] at h
    exact Bool.false_ne_true (h.2.symm.trans (hsupplied.1 h.1))

/-- The lease is a bracket around the rest. -/
theorem underLease_carriesOut {run : Routine α α} {layers : Layers} {scope : PgScope}
    (noPool : String) (hsupplied : layers.Supplied)
    (hrun : CarriesOut inputs.wait run (plan ⟨false, true⟩ scope inputs.wait).steps) :
    CarriesOut inputs.wait (underLease inputs layers noPool run)
      (plan ⟨layers.fiducia, layers.pgAdvisory⟩ scope inputs.wait).steps := by
  have hopens : ∀ none, (pooled none).role
      (if inputs.wait then .fiduciaAcquire else .fiduciaTryAcquire) = .opens .fiduciaRelease := by
    intro none
    cases inputs.wait with
    | true => rfl
    | false => rfl
  have hthere : ∀ none, (pooled none).missing
      (if inputs.wait then .fiduciaAcquire else .fiduciaTryAcquire) = false := by
    intro none
    cases inputs.wait with
    | true => exact pooled_there rfl
    | false => exact pooled_there rfl
  unfold underLease
  rw [checkPlan_supplied inputs.key noPool hsupplied]
  change CarriesOut inputs.wait (if layers.fiducia then _ else _) _
  cases layers.fiducia with
  | false =>
    rw [if_neg Bool.false_ne_true]
    apply Shows.bindExcept _ (innerOutcome_shows hsupplied hrun)
    · intro calls inner hinner
      obtain ⟨_, heq, ok, hexecutes, hisOk⟩ := hinner
      cases heq
      apply Shows.done
      rw [List.append_nil]
      exact ⟨ok, hexecutes, hisOk⟩
    · intro calls thrown hthrown
      obtain ⟨_, heq, _⟩ := hthrown
      cases heq
  | true =>
    rw [if_pos rfl, plan_leased]
    apply Shows.bindExcept _ acquireLease_makes
    · intro calls grant hgrant
      apply Shows.bindExcept _ (innerOutcome_shows hsupplied hrun)
      · intro calls' inner hinner
        obtain ⟨_, heq, ok, hexecutes, hisOk⟩ := hinner
        cases heq
        apply Shows.mono (settle_shows grant inner)
        intro calls'' result hresult
        obtain ⟨hsmooth', released, hreleased, hresult⟩ := hresult
        obtain ⟨hhands, hclient⟩ := smooth_iff.mp hgrant.2
        obtain ⟨hhands', hclient'⟩ := smooth_iff.mp hsmooth'
        refine ⟨ok && released, ?_, ?_⟩
        · rw [attempts_append, attempts_append, refused_append, refused_append, hgrant.1, hreleased,
            hclient, hclient', Bool.false_or, Bool.or_false]
          exact .opened (hopens _) (hthere _) (hexecutes.within rfl rfl released)
        · rw [handsBack_append, handsBack_append, hhands, hhands', hresult, hisOk, Bool.true_and,
            Bool.and_true, Bool.and_right_comm]
      · intro calls' thrown hthrown
        obtain ⟨_, heq, _⟩ := hthrown
        cases heq
    · intro calls thrown hthrown
      refine ⟨false, ?_, rfl⟩
      rw [hthrown.1]
      exact .failed (.inr ⟨_, hopens _⟩) (hthere _) rfl

def withLease (inputs : Inputs) (engage lease : Bool) : Routine α α :=
  if !engage then runWork inputs.key false
  else if !lease then
    throw (.lockError (invalidPlan inputs.key
      "layers.fiducia is enabled but no lease authority was supplied"))
  else do
    let grant ← acquireLease inputs
    let outcome ← attempt (runWork inputs.key false)
    settle inputs grant outcome

theorem withLease_carriesOut {engage lease : Bool} (hsupplied : engage = true → lease = true) :
    CarriesOut inputs.wait (withLease (α := α) inputs engage lease)
      (plan ⟨engage, false⟩ .transaction inputs.wait).steps := by
  have hunder : CarriesOut inputs.wait
      (underLease inputs ⟨engage, false, lease, false⟩ "" (runXact (α := α) inputs))
      (plan ⟨engage, false⟩ .transaction inputs.wait).steps :=
    underLease_carriesOut "" ⟨hsupplied, fun h => (nomatch h)⟩ runXact_carriesOut
  cases engage with
  | false => exact (runWork_makes inputs.wait inputs.key false).carriesOut rfl
  | true =>
    rw [hsupplied rfl] at hunder ⊢
    exact hunder

/-- The two routines by the scope of their lock. -/
def withLock (scope : PgScope) (inputs : Inputs) (layers : Layers) : Routine α α :=
  match scope with
  | .transaction => withXactLock inputs layers
  | .session => withSessionLock inputs layers

theorem withLock_carriesOut {layers : Layers} (scope : PgScope) (hsupplied : layers.Supplied) :
    CarriesOut inputs.wait (withLock (α := α) scope inputs layers)
      (plan ⟨layers.fiducia, layers.pgAdvisory⟩ scope inputs.wait).steps := by
  cases scope with
  | transaction => exact underLease_carriesOut _ hsupplied runXact_carriesOut
  | session => exact underLease_carriesOut _ hsupplied runSession_carriesOut

/-- Without what the plan needs nothing is called. -/
theorem withLock_unsupplied {layers : Layers} (scope : PgScope) (h : ¬ layers.Supplied) :
    Shows (withLock (α := α) scope inputs layers).run fun calls result => calls = [] ∧
      ∃ message, result = .error (.lockError (invalidPlan inputs.key message)) := by
  have hcheck : ∀ noPool, ∃ message, checkPlan (α := α) inputs.key layers noPool =
      throw (.lockError (invalidPlan inputs.key message)) := by
    intro noPool
    unfold checkPlan
    by_cases hlease : (layers.fiducia && !layers.lease) = true
    · exact ⟨_, if_pos hlease⟩
    · by_cases hpool : (layers.pgAdvisory && !layers.pool) = true
      · rw [if_neg hlease]
        exact ⟨_, if_pos hpool⟩
      · rw [Bool.and_eq_true, Bool.not_eq_true', not_and, Bool.not_eq_false] at hlease hpool
        exact absurd ⟨hlease, hpool⟩ h
  have hunder : ∀ noPool (run : Routine α α), Shows (underLease inputs layers noPool run).run
      fun calls result => calls = [] ∧
        ∃ message, result = .error (.lockError (invalidPlan inputs.key message)) := by
    intro noPool run
    obtain ⟨message, hmessage⟩ := hcheck noPool
    unfold underLease
    rw [hmessage]
    exact Shows.done ⟨rfl, message, rfl⟩
  cases scope with
  | transaction => exact hunder _ _
  | session => exact hunder _ _

end Observed

section Runs

/-- Whatever its calls answer, a routine carries out the steps of its plan in their order,
and undoes what it has opened when one of them fails or is given up because `connect`
failed; it returns exactly when all of them succeeded and no hand-back of a client threw.
Without what the plan needs it calls nothing. -/
theorem routines_carry_out_plan {α : Type} (inputs : Inputs) (layers : Layers) (scope : PgScope)
    (calls : List (Answered Op (Answer α))) (result : Except Thrown α)
    (hran : Ran tracing [] (withLock scope inputs layers).run calls result) :
    (layers.Supplied → ∃ ok,
      KeepsPlan (pooled (refused calls)) (plan ⟨layers.fiducia, layers.pgAdvisory⟩ scope inputs.wait).steps
        (attempts inputs.wait calls) ok ∧ result.isOk = (ok && handsBack calls)) ∧
    (¬ layers.Supplied → calls = [] ∧
      ∃ message, result = .error (.lockError (invalidPlan inputs.key message))) := by
  constructor
  · intro hsupplied
    obtain ⟨ok, hexecutes, hisOk⟩ := (withLock_carriesOut scope hsupplied).ran hran
    exact ⟨ok, keepsPlan_of_executes hexecutes, hisOk⟩
  · intro hsupplied
    exact (withLock_unsupplied scope hsupplied).ran hran

def rebuild : Inputs := ⟨js "tenant/acme/jobs/rebuild", true, 60000, 30000, none⟩

def everyLayer : Layers := ⟨true, true, true, true⟩

def rebuildGrant : LeaseGrant := ⟨rebuild.key, js "worker-1", 7, none, 60000⟩

def stale : Thrown := .named "Error" (js "stale row")

/-- The work of a transaction fails. -/
def failingCalls : List (Answered Op (Answer Unit)) :=
  [⟨.acquire, .ok rebuildGrant⟩, ⟨.connect, .ok ()⟩, ⟨.query .begin, .ok []⟩,
    ⟨.query .advisoryXactLock, .ok []⟩, ⟨.work true, .error stale⟩, ⟨.query .rollback, .ok []⟩,
    ⟨.handBack true, .ok ()⟩, ⟨.release rebuildGrant, .ok true⟩]

theorem failing_ran : Ran tracing [] (withLock .transaction rebuild everyLayer).run failingCalls
    (.error (.ofBuilt (LockError.work rebuild.key stale))) := by
  refine .answered (.ok rebuildGrant) (.answered (.ok ()) (.answered (.ok []) ?_))
  refine .answered (.ok []) (.answered (.error stale) (.answered (.ok []) ?_))
  exact .answered (.ok ()) (.answered (.ok true) (.done _ _))

theorem failing_work_carries_out_plan :
    ∃ ok, KeepsPlan (pooled (refused failingCalls)) (plan ⟨true, true⟩ .transaction true).steps
        (attempts true failingCalls) ok ∧ false = (ok && handsBack failingCalls) :=
  (routines_carry_out_plan rebuild everyLayer .transaction failingCalls _ failing_ran).1
    ⟨fun _ => rfl, fun _ => rfl⟩

end Runs

end OresLocks.Ts.Pool
