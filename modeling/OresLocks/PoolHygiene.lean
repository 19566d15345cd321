import OresLocks.PooledSession

/-!
# What the pool gets back

A client is handed back once. It is handed back as reusable with something of the
routine left in its session exactly when a statement strayed: it was rejected after it
had opened the transaction or taken the session lock, or the lock was given up while a
transaction of the work was open.
-/

namespace OresLocks.Ts.Pool

set_option autoImplicit false

open Shared.Programs

section Logs

variable {α : Type}

def Event.strays : Event α → Bool
  | .queried .begin after (.error _) => after.transaction.isSome
  | .queried .advisoryLock after (.error _) => after.locked
  | .queried .tryAdvisoryLock after (.error _) => after.locked
  | .queried .advisoryUnlock after (.ok rows) => firstBool rows && after.transaction.isSome
  | _ => false

def Event.connects : Event α → Bool
  | .connected (.ok ()) => true
  | _ => false

/-- The flag and the session of a hand-back. -/
def Event.handBack? : Event α → Option (Bool × ServerSession)
  | .handedBack poison session _ => some (poison, session)
  | _ => none

def handBacks (log : List (Event α)) : List (Bool × ServerSession) := log.filterMap Event.handBack?

/-- Every client that was connected has been handed back once, and no other. -/
def HandedBackOnce (log : List (Event α)) : Prop :=
  (handBacks log).length = log.countP Event.connects

/-- No client is reusable with something left in its session. -/
def ReturnsClean (log : List (Event α)) : Prop :=
  ∀ session, (false, session) ∈ handBacks log → session.Clean

/-- One connected client is out. -/
structure Holding (strayed : Bool) (w : World α) : Prop where
  connects : w.log.countP Event.connects = 1
  out : handBacks w.log = []
  strayed : w.log.any Event.strays = strayed

/-- No client has been connected. -/
structure Idle (w : World α) : Prop where
  connects : w.log.countP Event.connects = 0
  out : handBacks w.log = []
  strayed : w.log.any Event.strays = false

/-- No client is out, and what came back is clean unless something strayed. -/
structure Settled (w : World α) : Prop where
  once : HandedBackOnce w.log
  clean : ReturnsClean w.log ↔ w.log.any Event.strays = false

variable {w : World α} {strayed : Bool} {e : Event α}

@[simp] theorem record_log (w : World α) (e : Event α) : (w.record e).log = w.log ++ [e] := rfl

@[simp] theorem become_log (w : World α) (after : ServerSession) (e : Event α) :
    (w.become after e).log = w.log ++ [e] := rfl

/-- A client is out for as long as only its session is used. -/
theorem Holding.become (h : Holding strayed w) (after : ServerSession)
    (hconnects : e.connects = false) (hhandBack : e.handBack? = none) :
    Holding (strayed || e.strays) (w.become after e) where
  connects := by
    rw [become_log, List.countP_append, h.connects]
    simp [hconnects]
  out := by
    unfold handBacks
    rw [become_log, List.filterMap_append]
    change handBacks w.log ++ _ = []
    rw [h.out]
    simp [hhandBack]
  strayed := by
    rw [become_log, List.any_append, h.strayed]
    simp

theorem Holding.queried {sql : Statement} {after : ServerSession} {answer : Except Thrown Rows}
    (h : Holding false w) (hstrays : Event.strays (α := α) (.queried sql after answer) = false) :
    Holding false (w.become after (.queried sql after answer)) := by
  have hbecome := h.become (e := .queried sql after answer) after rfl rfl
  rwa [hstrays] at hbecome

theorem Idle.settled (h : Idle w) : Settled w where
  once := by
    unfold HandedBackOnce
    rw [h.out, h.connects, List.length_nil]
  clean := by
    refine ⟨fun _ => h.strayed, fun _ session hmem => ?_⟩
    rw [h.out] at hmem
    cases hmem

/-- The client comes back: poisoned when nothing strayed, or else as clean as the flag
says. -/
theorem Holding.settled {poison : Bool} (h : Holding strayed w)
    (hpoison : poison = true → strayed = false)
    (hclean : poison = false → (w.session.Clean ↔ strayed = false)) (answer : Except Thrown Unit) :
    Settled (w.record (.handedBack poison w.session answer)) := by
  have hback : handBacks (w.record (.handedBack poison w.session answer)).log =
      [(poison, w.session)] := by
    unfold handBacks
    rw [record_log, List.filterMap_append]
    change handBacks w.log ++ _ = _
    rw [h.out]
    rfl
  constructor
  · unfold HandedBackOnce
    rw [hback, record_log, List.countP_append, h.connects]
    rfl
  · have hstrayed : (w.record (.handedBack poison w.session answer)).log.any Event.strays =
        strayed := by
      rw [record_log, List.any_append, h.strayed]
      simp [Event.strays]
    unfold ReturnsClean
    rw [hback, hstrayed]
    cases poison with
    | true => exact ⟨fun _ => hpoison rfl, fun _ session hmem => by simp at hmem⟩
    | false => simpa using hclean rfl

theorem Settled.released (h : Settled w) (grant : LeaseGrant) (answer : Except Thrown Bool) :
    Settled (w.record (.released grant answer)) := by
  have hback : handBacks (w.record (.released grant answer)).log = handBacks w.log := by
    simp [handBacks, Event.handBack?]
  constructor
  · have honce := h.once
    unfold HandedBackOnce at honce ⊢
    rw [hback, honce]
    simp [Event.connects]
  · have hclean := h.clean
    unfold ReturnsClean at hclean ⊢
    rw [hback, hclean]
    simp [Event.strays]

end Logs

section Calls

variable {α : Type} {w : World α} {inputs : Inputs} {key : JsString}

abbrev Keeps (w : World α) {β : Type} (x : Routine α β) (ok : World α → β → Prop)
    (err : World α → Thrown → Prop) : Prop :=
  Triple surroundings w x ok err

theorem query_spec (w : World α) (sql : Statement) :
    Keeps w (query sql)
      (fun w' rows => w' = w.become (w.session.execute sql rows)
        (.queried sql (w.session.execute sql rows) (.ok rows)))
      (fun w' cause => ∃ after, w.session.AfterRejection sql after ∧
        w' = w.become after (.queried sql after (.error cause))) := by
  refine ⟨trivial, ?_⟩
  intro answer w' hmove
  cases hmove with
  | resolved rows => rfl
  | rejected cause hafter => exact ⟨_, hafter, rfl⟩

theorem exec_spec (w : World α) (sql : Statement) (step : LockStep) :
    Keeps w (exec key sql step)
      (fun w' _ => ∃ rows, w' = w.become (w.session.execute sql rows)
        (.queried sql (w.session.execute sql rows) (.ok rows)))
      (fun w' _ => ∃ after cause, w.session.AfterRejection sql after ∧
        w' = w.become after (.queried sql after (.error cause))) := by
  unfold exec
  apply Triple.tryCatch (fun w' cause => ∃ after, w.session.AfterRejection sql after ∧
    w' = w.become after (.queried sql after (.error cause)))
  · apply Triple.bind _ (query_spec w sql)
    intro w' rows hrows
    exact Triple.pure ⟨rows, hrows⟩
  · rintro w' cause ⟨after, hafter, hw'⟩
    exact Triple.throw ⟨after, cause, hafter, hw'⟩

/-- A lock that is tried is taken, or not taken, or its query is rejected. -/
theorem tryLock_spec (w : World α) (sql : Statement) (step : LockStep) :
    Keeps w (tryLock key sql step)
      (fun w' _ => ∃ rows, firstBool rows = true ∧ w' = w.become (w.session.execute sql rows)
        (.queried sql (w.session.execute sql rows) (.ok rows)))
      (fun w' _ => (∃ rows, firstBool rows = false ∧ w' = w.become (w.session.execute sql rows)
          (.queried sql (w.session.execute sql rows) (.ok rows))) ∨
        ∃ after cause, w.session.AfterRejection sql after ∧
          w' = w.become after (.queried sql after (.error cause))) := by
  unfold tryLock
  apply Triple.bind (fun w' rows => w' = w.become (w.session.execute sql rows)
    (.queried sql (w.session.execute sql rows) (.ok rows)))
  · apply Triple.tryCatch _ (query_spec w sql)
    rintro w' cause ⟨after, hafter, hw'⟩
    exact Triple.throw (Or.inr ⟨after, cause, hafter, hw'⟩)
  · intro w' rows hrows
    cases hfirst : firstBool rows with
    | true => exact Triple.pure ⟨rows, hfirst, hrows⟩
    | false => exact Triple.throw (Or.inl ⟨rows, hfirst, hrows⟩)

theorem runWork_spec (w : World α) (client : Bool) :
    Keeps w (runWork key client)
      (fun w' value => ∃ after, w.session.AfterWork client after ∧
        w' = w.become after (.worked after (.ok value)))
      (fun w' _ => ∃ after cause, w.session.AfterWork client after ∧
        w' = w.become after (.worked after (.error cause))) := by
  unfold runWork
  apply Triple.tryCatch (fun w' cause => ∃ after, w.session.AfterWork client after ∧
    w' = w.become after (.worked after (.error cause)))
  · refine ⟨trivial, ?_⟩
    intro answer w' hmove
    cases hmove with
    | worked _ hafter =>
      cases answer with
      | ok value => exact ⟨_, hafter, rfl⟩
      | error cause => exact ⟨_, hafter, rfl⟩
  · rintro w' cause ⟨after, hafter, hw'⟩
    exact Triple.throw ⟨after, cause, hafter, hw'⟩

theorem connect_spec (h : Idle w) (step : LockStep) :
    Keeps w (connect key step)
      (fun w' _ => Holding false w' ∧ w'.session = .fresh) (fun w' _ => Idle w') := by
  unfold connect
  apply Triple.tryCatch (fun w' _ => Idle w')
  · refine ⟨trivial, ?_⟩
    intro answer w' hmove
    cases hmove with
    | connected =>
      cases answer with
      | ok u =>
        refine ⟨⟨?_, ?_, ?_⟩, rfl⟩
        · simp [h.connects, Event.connects]
        · simpa [handBacks, Event.handBack?] using h.out
        · simpa [Event.strays] using h.strayed
      | error cause =>
        refine ⟨?_, ?_, ?_⟩
        · simpa [Event.connects] using h.connects
        · simpa [handBacks, Event.handBack?] using h.out
        · simpa [Event.strays] using h.strayed
  · intro w' cause hidle
    exact Triple.throw hidle

/-- The statements of a transaction leave the session lock alone, the others the
transaction. -/
def Statement.transactional : Statement → Bool
  | .begin | .advisoryXactLock | .tryAdvisoryXactLock | .commit | .rollback => true
  | .advisoryLock | .tryAdvisoryLock | .advisoryUnlock => false

theorem execute_locked {sql : Statement} (h : sql.transactional = true) (s : ServerSession)
    (rows : Rows) : (s.execute sql rows).locked = s.locked := by
  cases sql <;> first | rfl | cases h

theorem execute_transaction {sql : Statement} (h : sql.transactional = false) (s : ServerSession)
    (rows : Rows) : (s.execute sql rows).transaction = s.transaction := by
  cases sql <;> first | rfl | cases h

theorem afterRejection_locked {sql : Statement} {s after : ServerSession}
    (h : s.AfterRejection sql after) (hsql : sql.transactional = true) (hs : s.locked = false) :
    after.locked = false := by
  rcases h with rfl | ⟨rows, rfl⟩ | rfl
  · exact hs
  · rw [execute_locked hsql, hs]
  · rfl

theorem afterRejection_transaction {sql : Statement} {s after : ServerSession}
    (h : s.AfterRejection sql after) (hsql : sql.transactional = false)
    (hs : s.transaction = none) : after.transaction = none := by
  rcases h with rfl | ⟨rows, rfl⟩ | rfl
  · exact hs
  · rw [execute_transaction hsql, hs]
  · rfl

/-- A client is out in a transaction, and nothing has strayed. -/
structure InTransaction (w : World α) : Prop where
  holding : Holding false w
  unlocked : w.session.locked = false

theorem InTransaction.queried {sql : Statement} {after : ServerSession}
    {answer : Except Thrown Rows} (h : InTransaction w) (hsql : sql.transactional = true)
    (hbegin : sql ≠ .begin) (hafter : after.locked = false) :
    InTransaction (w.become after (.queried sql after answer)) where
  holding := by
    apply h.holding.queried
    cases sql with
    | begin => exact absurd rfl hbegin
    | advisoryLock => cases hsql
    | tryAdvisoryLock => cases hsql
    | advisoryUnlock => cases hsql
    | _ => rfl
  unlocked := hafter

theorem exec_in_transaction {sql : Statement} (h : InTransaction w)
    (hsql : sql.transactional = true) (hbegin : sql ≠ .begin) (step : LockStep) :
    Keeps w (exec key sql step)
      (fun w' _ => InTransaction w' ∧ ∃ rows, w'.session = w.session.execute sql rows)
      (fun w' _ => InTransaction w') := by
  apply (exec_spec w sql step).mono
  · rintro w' _ ⟨rows, rfl⟩
    exact ⟨h.queried hsql hbegin (by rw [execute_locked hsql, h.unlocked]), rows, rfl⟩
  · rintro w' _ ⟨after, cause, hafter, rfl⟩
    exact h.queried hsql hbegin (afterRejection_locked hafter hsql h.unlocked)

theorem takeXactLock_spec (h : InTransaction w) :
    Keeps w (takeXactLock inputs) (fun w' _ => InTransaction w') (fun w' _ => InTransaction w') := by
  unfold takeXactLock
  split
  · exact (exec_in_transaction h rfl (by decide) _).mono (fun _ _ h => h.1) (fun _ _ h => h)
  · have hexecuted : ∀ rows, InTransaction (w.become (w.session.execute .tryAdvisoryXactLock rows)
        (.queried .tryAdvisoryXactLock (w.session.execute .tryAdvisoryXactLock rows) (.ok rows))) :=
      fun rows => h.queried rfl (by decide) (by rw [execute_locked rfl, h.unlocked])
    apply (tryLock_spec w _ _).mono
    · rintro w' _ ⟨rows, _, rfl⟩
      exact hexecuted rows
    · rintro w' _ (⟨rows, _, rfl⟩ | ⟨after, cause, hafter, rfl⟩)
      · exact hexecuted rows
      · exact h.queried rfl (by decide) (afterRejection_locked hafter rfl h.unlocked)

theorem InTransaction.worked {after : ServerSession} {answer : Except Thrown α}
    (h : InTransaction w) (hafter : w.session.AfterWork true after) :
    InTransaction (w.become after (.worked after answer)) where
  holding := h.holding.become (e := .worked after answer) after rfl rfl
  unlocked := by
    have hlocked : after.locked = true → w.session.locked = true := hafter.1
    rw [h.unlocked] at hlocked
    cases hafter' : after.locked with
    | true => exact absurd (hlocked hafter') (by decide)
    | false => exact hafter'

/-- The transaction is over when its block returns. -/
theorem underXactLock_spec (h : InTransaction w) :
    Keeps w (underXactLock inputs)
      (fun w' _ => Holding false w' ∧ w'.session.Clean) (fun w' _ => InTransaction w') := by
  unfold underXactLock
  apply Triple.bind _ (takeXactLock_spec h)
  intro w1 _ h1
  apply Triple.bind (fun w' _ => InTransaction w')
  · apply (runWork_spec w1 true).mono
    · rintro w' value ⟨after, hafter, rfl⟩
      exact h1.worked hafter
    · rintro w' _ ⟨after, cause, hafter, rfl⟩
      exact h1.worked hafter
  · intro w2 value h2
    apply Triple.bind _ (exec_in_transaction h2 rfl (by decide) _)
    rintro w3 _ ⟨h3, rows, hsession⟩
    exact Triple.pure ⟨h3.holding, by rw [hsession]; rfl, h3.unlocked⟩

/-- How a `try` block may end: poisoned when nothing strayed, or with a session that is
clean unless something did. -/
def Ready (w : World α) (block : Bool × Except Thrown α) : Prop :=
  ∃ strayed, Holding strayed w ∧ (block.1 = true → strayed = false) ∧
    (block.1 = false → (w.session.Clean ↔ strayed = false))

theorem ready_clean {outcome : Except Thrown α} (h : Holding false w) (hclean : w.session.Clean) :
    Ready w (false, outcome) :=
  ⟨false, h, fun h => absurd h Bool.false_ne_true, fun _ => ⟨fun _ => rfl, fun _ => hclean⟩⟩

theorem ready_poisoned {outcome : Except Thrown α} (h : Holding false w) : Ready w (true, outcome) :=
  ⟨false, h, fun _ => rfl, fun h => absurd h.symm Bool.false_ne_true⟩

theorem follows_run {β γ : Type} {x : Routine α β} {f : Except Thrown β → Calls α γ}
    {post : World α → γ → Prop} {ok : World α → β → Prop} {err : World α → Thrown → Prop}
    (h : Keeps w x ok err)
    (hok : ∀ w' value, ok w' value → Follows surroundings post w' (f (.ok value)))
    (herr : ∀ w' thrown, err w' thrown → Follows surroundings post w' (f (.error thrown))) :
    Follows surroundings post w (x.run >>= f) := by
  apply Follows.bind
  apply Follows.mono h
  intro w' result hresult
  cases result with
  | ok value => exact hok w' value hresult
  | error thrown => exact herr w' thrown hresult

theorem xactBlock_spec (h : Holding false w) (hfresh : w.session = .fresh) :
    Follows surroundings Ready w (xactBlock (α := α) inputs) := by
  have hlocked : w.session.locked = false := by rw [hfresh]; rfl
  unfold xactBlock
  apply follows_run (exec_spec w .begin .pgBegin)
  · rintro w1 _ ⟨rows, rfl⟩
    have hbegun : InTransaction (w.become (w.session.execute .begin rows)
        (.queried .begin (w.session.execute .begin rows) (.ok rows))) :=
      ⟨h.queried rfl, by rw [← hlocked]; rfl⟩
    apply follows_run (underXactLock_spec hbegun)
    · rintro w2 value ⟨h2, hclean⟩
      exact ready_clean h2 hclean
    · intro w2 thrown h2
      apply follows_run (query_spec w2 .rollback)
      · rintro w3 rows rfl
        exact ready_poisoned (h2.holding.queried rfl)
      · rintro w3 cause ⟨after, _, rfl⟩
        exact ready_poisoned (h2.holding.queried rfl)
  · rintro w1 _ ⟨after, cause, hafter, rfl⟩
    refine ⟨_, h.become after rfl rfl, fun h => absurd h Bool.false_ne_true, fun _ => ?_⟩
    have hafterLocked := afterRejection_locked hafter rfl hlocked
    show after.transaction = none ∧ after.locked = false ↔ after.transaction.isSome = false
    simp [hafterLocked]

/-- A session lock that was not taken has left its client as it was, unless its query
was rejected afterwards. -/
theorem ready_rejected {sql : Statement} {after : ServerSession} {cause : Thrown}
    {outcome : Except Thrown α} (h : Holding false w) (hnone : w.session.transaction = none)
    (hsql : sql = .advisoryLock ∨ sql = .tryAdvisoryLock)
    (hafter : w.session.AfterRejection sql after) :
    Ready (w.become after (.queried sql after (.error cause))) (false, outcome) := by
  have htransaction : after.transaction = none := by
    rcases hsql with rfl | rfl
    · exact afterRejection_transaction hafter rfl hnone
    · exact afterRejection_transaction hafter rfl hnone
  have hstrays : Event.strays (α := α) (.queried sql after (.error cause)) = after.locked := by
    rcases hsql with rfl | rfl
    · rfl
    · rfl
  have hconnects : Event.connects (α := α) (.queried sql after (.error cause)) = false := rfl
  refine ⟨_, h.become after hconnects rfl, fun h => absurd h Bool.false_ne_true, fun _ => ?_⟩
  rw [hstrays]
  show after.transaction = none ∧ after.locked = false ↔ after.locked = false
  simp [htransaction]

theorem takeSessionLock_spec (h : Holding false w) (hfresh : w.session = .fresh) :
    Keeps w (takeSessionLock inputs) (fun w' _ => Holding false w')
      (fun w' thrown => Ready w' (false, .error thrown)) := by
  have hnone : w.session.transaction = none := by rw [hfresh]; rfl
  unfold takeSessionLock
  split
  · apply (exec_spec w .advisoryLock _).mono
    · rintro w' _ ⟨rows, rfl⟩
      exact h.queried rfl
    · rintro w' thrown ⟨after, cause, hafter, rfl⟩
      exact ready_rejected h hnone (Or.inl rfl) hafter
  · apply (tryLock_spec w .tryAdvisoryLock _).mono
    · rintro w' _ ⟨rows, _, rfl⟩
      exact h.queried rfl
    · rintro w' thrown (⟨rows, hrefused, rfl⟩ | ⟨after, cause, hafter, rfl⟩)
      · apply ready_clean (h.queried rfl)
        rw [hfresh]
        exact ⟨rfl, hrefused⟩
      · exact ready_rejected h hnone (Or.inr rfl) hafter

/-- Every failed unlock poisons the client. -/
theorem unlock_spec (h : Holding false w) (inner : Except Thrown α) :
    Follows surroundings Ready w (unlock inputs inner) := by
  unfold unlock
  apply follows_run (query_spec w .advisoryUnlock)
  · rintro w1 rows rfl
    have hbecome := h.become (e := .queried .advisoryUnlock
      (w.session.execute .advisoryUnlock rows) (.ok rows))
      (w.session.execute .advisoryUnlock rows) rfl rfl
    simp only
    cases hfirst : firstBool rows with
    | false =>
      have hstrays : Event.strays (α := α) (.queried .advisoryUnlock
          (w.session.execute .advisoryUnlock rows) (.ok rows)) = false := by
        simp [Event.strays, hfirst]
      rw [hstrays] at hbecome
      exact ready_poisoned hbecome
    | true =>
      refine ⟨_, hbecome, fun h => absurd h Bool.false_ne_true, fun _ => ?_⟩
      show w.session.transaction = none ∧ (w.session.locked && !firstBool rows) = false ↔
        (firstBool rows && w.session.transaction.isSome) = false
      simp [hfirst]
  · rintro w1 cause ⟨after, _, rfl⟩
    simp only
    cases LockError.database inputs.key .pgAdvisoryUnlock cause with
    | error thrown => exact ready_poisoned (h.queried rfl)
    | ok cleanup => exact ready_poisoned (h.queried rfl)

theorem sessionBlock_spec (h : Holding false w) (hfresh : w.session = .fresh) :
    Follows surroundings Ready w (sessionBlock (α := α) inputs) := by
  unfold sessionBlock
  apply follows_run (takeSessionLock_spec h hfresh)
  · intro w1 _ h1
    apply follows_run (runWork_spec w1 true)
    · rintro w2 value ⟨after, _, rfl⟩
      exact unlock_spec (h1.become (e := .worked after (.ok value)) after rfl rfl) _
    · rintro w2 thrown ⟨after, cause, _, rfl⟩
      exact unlock_spec (h1.become (e := .worked after (.error cause)) after rfl rfl) _
  · intro w1 thrown h1
    exact h1

theorem handingBack_spec {block : Calls α (Bool × Except Thrown α)}
    (h : Follows surroundings Ready w block) :
    Keeps w (handingBack block) (fun w' _ => Settled w') (fun w' _ => Settled w') := by
  unfold handingBack
  apply Triple.bind _ (Triple.lift h)
  rintro w1 ⟨poison, outcome⟩ ⟨strayed, hholding, hpoison, hclean⟩
  apply Triple.bind (fun w' _ => Settled w')
  · refine ⟨trivial, ?_⟩
    intro answer w2 hmove
    cases hmove with
    | handedBack =>
      have hsettled := hholding.settled hpoison hclean answer
      cases answer with
      | ok u => exact hsettled
      | error thrown => exact hsettled
  · intro w2 _ h2
    cases outcome with
    | ok value => exact h2
    | error thrown => exact h2

theorem runXact_spec (h : Idle w) :
    Keeps w (runXact (α := α) inputs) (fun w' _ => Settled w') (fun w' _ => Settled w') := by
  unfold runXact
  apply Triple.bind _ ((connect_spec h .pgBegin).mono (fun _ _ h => h) (fun _ _ h => h.settled))
  rintro w1 _ ⟨h1, hfresh⟩
  exact handingBack_spec (xactBlock_spec h1 hfresh)

theorem runSession_spec (h : Idle w) :
    Keeps w (runSession (α := α) inputs) (fun w' _ => Settled w') (fun w' _ => Settled w') := by
  unfold runSession
  apply Triple.bind _
    ((connect_spec h .pgAdvisoryLock).mono (fun _ _ h => h) (fun _ _ h => h.settled))
  rintro w1 _ ⟨h1, hfresh⟩
  apply handingBack_spec
  apply Follows.bind
  apply Follows.mono (sessionBlock_spec h1 hfresh)
  rintro w2 ⟨poisoned, outcome⟩ h2
  exact h2

theorem settle_spec (h : Settled w) (grant : LeaseGrant) (inner : Except Thrown α) :
    Keeps w (settle inputs grant inner) (fun w' _ => Settled w') (fun w' _ => Settled w') := by
  have hends : ∀ {w' : World α} (outcome : Except Thrown α), Settled w' →
      Keeps w' (ExceptT.mk (pure outcome)) (fun w' _ => Settled w') (fun w' _ => Settled w') := by
    intro w' outcome h'
    cases outcome with
    | ok value => exact h'
    | error thrown => exact h'
  unfold settle
  apply Triple.bind (fun w' _ => Settled w')
  · apply Triple.lift
    refine ⟨trivial, ?_⟩
    intro answer w' hmove
    cases hmove with
    | released => exact h.released grant answer
  · intro w' answer h'
    cases State.releaseFailure inputs grant answer with
    | none => exact hends inner h'
    | some failure =>
      cases failure with
      | error thrown => exact Triple.throw h'
      | ok cleanup => exact hends _ h'

/-- Without a client a call is no concern of the pool. -/
theorem Idle.add {e : Event α} (h : Idle w) (after : ServerSession)
    (hconnects : e.connects = false) (hhandBack : e.handBack? = none) (hstrays : e.strays = false) : Idle (w.become after e) where
  connects := by simpa [hconnects] using h.connects
  out := by simpa [handBacks, hhandBack] using h.out
  strayed := by simpa [hstrays] using h.strayed

theorem acquireLease_spec (h : Idle w) :
    Keeps w (acquireLease (α := α) inputs) (fun w' _ => Idle w') (fun w' _ => Idle w') := by
  unfold acquireLease
  apply Triple.tryCatch (fun w' _ => Idle w')
  · refine ⟨trivial, ?_⟩
    intro answer w' hmove
    cases hmove with
    | acquired =>
      have hidle := h.add (e := .acquired answer) w.session rfl rfl rfl
      cases answer with
      | ok grant => exact hidle
      | error thrown => exact hidle
  · intro w' thrown h'
    exact Triple.throw h'

theorem checkPlan_spec (w : World α) (layers : Layers) (noPool : String) :
    Keeps w (checkPlan key layers noPool) (fun w' _ => w' = w) (fun w' _ => w' = w) := by
  unfold checkPlan
  split
  · exact Triple.throw rfl
  split
  · exact Triple.throw rfl
  · exact Triple.pure rfl

theorem innerOutcome_spec {run : Routine α α} (layers : Layers)
    (hrun : ∀ w, Idle w → Keeps w run (fun w' _ => Settled w') (fun w' _ => Settled w'))
    (h : Idle w) :
    Keeps w (innerOutcome inputs layers run)
      (fun w' _ => Settled w') (fun w' _ => Settled w') := by
  unfold innerOutcome
  apply Triple.attempt
  split
  · exact hrun w h
  · apply (runWork_spec w false).mono
    · rintro w' value ⟨after, _, rfl⟩
      exact (h.add (e := .worked after (.ok value)) after rfl rfl rfl).settled
    · rintro w' _ ⟨after, cause, _, rfl⟩
      exact (h.add (e := .worked after (.error cause)) after rfl rfl rfl).settled

theorem underLease_spec {run : Routine α α} (layers : Layers) (noPool : String)
    (hrun : ∀ w, Idle w → Keeps w run (fun w' _ => Settled w') (fun w' _ => Settled w'))
    (h : Idle w) :
    Keeps w (underLease inputs layers noPool run)
      (fun w' _ => Settled w') (fun w' _ => Settled w') := by
  unfold underLease
  apply Triple.bind (fun w' _ => Idle w')
  · apply (checkPlan_spec w layers noPool).mono
    · rintro w' _ rfl
      exact h
    · rintro w' _ rfl
      exact h.settled
  intro w1 _ h1
  split
  · apply Triple.bind _ ((acquireLease_spec h1).mono (fun _ _ h => h) (fun _ _ h => h.settled))
    intro w2 grant h2
    apply Triple.bind _ (innerOutcome_spec layers hrun h2)
    intro w3 inner h3
    exact settle_spec h3 grant inner
  · apply Triple.bind _ (innerOutcome_spec layers hrun h1)
    intro w2 inner h2
    cases inner with
    | ok value => exact h2
    | error thrown => exact h2

end Calls

theorem idle_start {α : Type} : Idle (World.start : World α) := ⟨rfl, rfl, rfl⟩

theorem Settled.iff {α : Type} {w : World α} (h : Settled w) :
    HandedBackOnce w.log ∧ (ReturnsClean w.log ↔ ∀ e ∈ w.log, e.strays = false) := by
  refine ⟨h.once, h.clean.trans ?_⟩
  simp only [List.any_eq_false, Bool.not_eq_true]

/-- Whatever the calls answer, each routine hands its client back once, and the pool gets
no reusable client with something of the routine in its session exactly when no
statement strayed. -/
theorem clients_return_clean_iff {α : Type} (inputs : Inputs) (layers : Layers) (w : World α)
    (result : Except Thrown α) :
    (Ran surroundings .start (withXactLock inputs layers).run w result →
      HandedBackOnce w.log ∧ (ReturnsClean w.log ↔ ∀ e ∈ w.log, e.strays = false)) ∧
    (Ran surroundings .start (withSessionLock inputs layers).run w result →
      HandedBackOnce w.log ∧ (ReturnsClean w.log ↔ ∀ e ∈ w.log, e.strays = false)) := by
  have hends : ∀ {x : Routine α α},
      Keeps .start x (fun w' _ => Settled w') (fun w' _ => Settled w') →
      Ran surroundings .start x.run w result → Settled w := by
    intro x hx hran
    have hresult := hx.ran hran
    cases result with
    | ok value => exact hresult
    | error thrown => exact hresult
  constructor
  · intro hran
    exact (hends (underLease_spec layers _ (fun _ => runXact_spec) idle_start) hran).iff
  · intro hran
    exact (hends (underLease_spec layers _ (fun _ => runSession_spec) idle_start) hran).iff

section Runs

def queued : Inputs := ⟨js "tenant/acme/jobs/rebuild", true, 60000, 30000, none⟩

def postgres : Layers := ⟨false, true, false, true⟩

def reply : Rows := [[.boolean true]]

def reset : Thrown := .named "Error" (js "connection reset")

/-- A transaction that holds its lock. -/
def holds : ServerSession := ⟨some true, false⟩

/-- A session that holds its lock. -/
def keeps : ServerSession := ⟨none, true⟩

theorem afterWork_self (s : ServerSession) : s.AfterWork true s := ⟨id, id⟩

def committed : World Unit where
  session := .fresh
  log := [.connected (.ok ()), .queried .begin ⟨some false, false⟩ (.ok reply),
    .queried .advisoryXactLock holds (.ok reply), .worked holds (.ok ()),
    .queried .commit .fresh (.ok reply), .handedBack false .fresh (.ok ())]

theorem ran_committed :
    Ran surroundings .start (withXactLock queued postgres).run committed (.ok ()) := by
  refine .call (.connected (.ok ())) (.call (.resolved .begin reply) ?_)
  refine .call (.resolved .advisoryXactLock reply) ?_
  refine .call (.worked (.ok ()) (afterWork_self _)) ?_
  exact .call (.resolved .commit reply) (.call (.handedBack false (.ok ())) (.done _ _))

def unlocked : World Unit where
  session := .fresh
  log := [.connected (.ok ()), .queried .advisoryLock keeps (.ok reply), .worked keeps (.ok ()),
    .queried .advisoryUnlock .fresh (.ok reply), .handedBack false .fresh (.ok ())]

theorem ran_unlocked :
    Ran surroundings .start (withSessionLock queued postgres).run unlocked (.ok ()) := by
  refine .call (.connected (.ok ())) (.call (.resolved .advisoryLock reply) ?_)
  refine .call (.worked (.ok ()) (afterWork_self _)) ?_
  exact .call (.resolved .advisoryUnlock reply) (.call (.handedBack false (.ok ())) (.done _ _))

theorem committed_and_unlocked_return_clean :
    (HandedBackOnce committed.log ∧ ReturnsClean committed.log) ∧
      HandedBackOnce unlocked.log ∧ ReturnsClean unlocked.log := by
  have hxact := (clients_return_clean_iff queued postgres committed (.ok ())).1 ran_committed
  have hsession := (clients_return_clean_iff queued postgres unlocked (.ok ())).2 ran_unlocked
  exact ⟨⟨hxact.1, hxact.2.mpr (by decide)⟩, hsession.1, hsession.2.mpr (by decide)⟩

/-- The reply to a `BEGIN` that was executed is lost. -/
def begunLost : World Unit where
  session := ⟨some false, false⟩
  log := [.connected (.ok ()), .queried .begin ⟨some false, false⟩ (.error reset),
    .handedBack false ⟨some false, false⟩ (.ok ())]

/-- The reply to a `pg_advisory_lock` that was executed is lost. -/
def lockLost : World Unit where
  session := keeps
  log := [.connected (.ok ()), .queried .advisoryLock keeps (.error reset),
    .handedBack false keeps (.ok ())]

def resetAt (step : LockStep) : Thrown :=
  .lockError ⟨.database, queued.key, some step, js "connection reset"⟩

theorem afterRejection_execute (s : ServerSession) (sql : Statement) :
    s.AfterRejection sql (s.execute sql reply) := Or.inr (Or.inl ⟨reply, rfl⟩)

theorem lost_replies_return_dirty :
    Ran surroundings .start (withXactLock queued postgres).run begunLost
      (.error (resetAt .pgBegin)) ∧ ¬ ReturnsClean begunLost.log ∧
    Ran surroundings .start (withSessionLock queued postgres).run lockLost
      (.error (resetAt .pgAdvisoryLock)) ∧ ¬ ReturnsClean lockLost.log := by
  refine ⟨.call (.connected (.ok ())) ?_, ?_, .call (.connected (.ok ())) ?_, ?_⟩
  · refine .call (.rejected reset (afterRejection_execute _ .begin)) ?_
    exact .call (.handedBack false (.ok ())) (.done _ _)
  · intro h
    cases (h ⟨some false, false⟩ (List.mem_singleton.mpr rfl)).1
  · refine .call (.rejected reset (afterRejection_execute _ .advisoryLock)) ?_
    exact .call (.handedBack false (.ok ())) (.done _ _)
  · intro h
    cases (h keeps (List.mem_singleton.mpr rfl)).2

end Runs

end OresLocks.Ts.Pool
