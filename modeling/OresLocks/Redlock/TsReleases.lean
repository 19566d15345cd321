import OresLocks.Redlock.Ts

/-!
# What a confirmed release leaves behind

A renewal reads the map, awaits the quorum and writes the map. A release that is
confirmed in between removes an entry that the renewal then puts back.
-/

namespace OresLocks.Ts.Redlock

set_option autoImplicit false

open Shared.Runs

abbrev Runs : State → List Input → State → Prop := Exec fun s e t => s.step e = some t

def opened (held : Held) : State := ⟨held, fun _ => none, []⟩

/-- A renewal of the grant that awaits `extend`. -/
def Call.Extends (id : JsString) : Call → Prop
  | .extending grant _ _ => grantId grant = id
  | _ => False

def Call.IsRelease (id : JsString) : Call → Prop
  | .releasing grant _ => grantId grant = id
  | .released grant _ => grantId grant = id
  | _ => False

/-- A renewal that has failed or is about to. -/
def Call.IsLost : Call → Prop
  | .cleaning _ _ => True
  | .renewed _ (.error _) => True
  | _ => False

namespace State

/-- Some release of the grant has resolved to `true`. -/
def SaidTrue (s : State) (id : JsString) : Prop :=
  ∃ call grant, s.calls call = some (.released grant (.ok true)) ∧ grantId grant = id

def Renewed (s : State) (call : Nat) (id : JsString) : Prop :=
  ∃ grant renewed, s.calls call = some (.renewed grant (.ok renewed)) ∧ grantId grant = id

/-- The quorum has confirmed a release of the grant since the renewal was sent. -/
def Crossed (s : State) (call : Nat) (id : JsString) : Prop :=
  ∃ before after, s.log = before ++ .extendIssued call :: after ∧ .releaseConfirmed id ∈ after

end State

/-- From `s`, where a release has resolved to `true`, to the later `t`: no renewal has
resolved, every release called since has resolved to `false`, and no handle is kept. -/
structure StaysReleased (id : JsString) (s t : State) : Prop where
  renewals : ∀ call, t.Renewed call id → s.Renewed call id
  releases : ∀ call c, s.calls call = none → t.calls call = some c → c.IsRelease id →
    ∃ grant, c = .released grant (.ok false)
  empty : t.held id = none

/-- No renewal is answered with a valid window after a release of its grant was
confirmed under it. -/
def Timely (id : JsString) (s : State) (input : Input) : Prop :=
  match input with
  | .extended call (.ok handle) now =>
    validExpiration handle.expiration now = true →
      (∃ c, s.calls call = some c ∧ c.Extends id) → ¬ s.Crossed call id
  | _ => True

/-- The call has not ended as a release. -/
def State.Running (s : State) (call : Nat) : Prop :=
  ∀ grant result, s.calls call ≠ some (.released grant result)

/-- What one step does. -/
inductive Move (s : State) : Input → State → Prop where
  | lose {input : Input} {call : Nat} {c : Call} {held : Held} (running : s.Running call)
      (lost : c.IsLost) (shrinks : ∀ id, held id = s.held id ∨ held id = none) :
      Move s input ({ s with held := held }.put call c)
  | extend {input : Input} {call : Nat} {grant : LeaseGrant} {ttlMs : JsNumber}
      {entry : HeldRedlock} (running : s.Running call)
      (found : s.held (grantId grant) = some entry) :
      Move s input ((s.emit (.extendIssued call)).put call (.extending grant ttlMs entry.handle))
  | renew {call : Nat} {grant renewed : LeaseGrant} {ttlMs now : JsNumber}
      {old handle : RedlockHandle} (was : s.calls call = some (.extending grant ttlMs old))
      (valid : validExpiration handle.expiration now = true) :
      Move s (.extended call (.ok handle) now)
        ({ s with held := set s.held (grantId grant) ⟨handle, renewed⟩ }.put call
          (.renewed grant (.ok renewed)))
  | refuse {input : Input} {call : Nat} {grant : LeaseGrant} (running : s.Running call) :
      Move s input (s.put call (.released grant (.ok false)))
  | send {input : Input} {call : Nat} {grant : LeaseGrant} {entry : HeldRedlock}
      (running : s.Running call) (found : s.held (grantId grant) = some entry) :
      Move s input (s.put call (.releasing grant entry.handle))
  | fail {input : Input} {call : Nat} {grant : LeaseGrant} {handle : RedlockHandle}
      {error : Thrown} (was : s.calls call = some (.releasing grant handle)) :
      Move s input (s.put call (.released grant (.error error)))
  | confirm {input : Input} {call : Nat} {grant : LeaseGrant} {handle : RedlockHandle}
      (was : s.calls call = some (.releasing grant handle)) :
      Move s input
        (({ s with held := delete s.held (grantId grant) }.emit
          (.releaseConfirmed (grantId grant))).put call (.released grant (.ok true)))

section Steps

variable {s t : State} {input : Input} {call other : Nat} {c d : Call} {id : JsString}

@[simp] theorem State.put_log : (s.put call c).log = s.log := rfl

@[simp] theorem State.put_self : (s.put call c).calls call = some c := by simp [State.put]

theorem State.put_other (h : other ≠ call) : (s.put call c).calls other = s.calls other := by
  simp [State.put, h]

theorem delete_shrinks (held : Held) (id other : JsString) :
    delete held id other = held other ∨ delete held id other = none := by
  unfold delete
  split
  · exact .inr rfl
  · exact .inl rfl

theorem running_of_none (h : s.calls call = none) : s.Running call := by
  intro grant result hcall
  rw [h] at hcall
  cases hcall

theorem running_of_extending {grant : LeaseGrant} {ttlMs : JsNumber} {handle : RedlockHandle}
    (h : s.calls call = some (.extending grant ttlMs handle)) : s.Running call := by
  intro grant result hcall
  rw [h] at hcall
  cases hcall

theorem running_of_cleaning {grant : LeaseGrant} {handle : RedlockHandle}
    (h : s.calls call = some (.cleaning grant handle)) : s.Running call := by
  intro grant result hcall
  rw [h] at hcall
  cases hcall

theorem move_of_step (hs : s.step input = some t) : Move s input t := by
  cases input with
  | renew call grant ttlMs =>
    simp only [State.step] at hs
    split at hs
    · rename_i hcall
      have hrunning := running_of_none hcall
      cases hs
      unfold State.renew
      split
      · exact .lose hrunning trivial fun _ => .inl rfl
      split
      · exact .lose hrunning trivial fun _ => .inl rfl
      · rename_i entry hin
        exact .extend hrunning hin
    · cases hs
  | release call grant =>
    simp only [State.step] at hs
    split at hs
    · rename_i hcall
      have hrunning := running_of_none hcall
      cases hs
      unfold State.release
      split
      · exact .refuse hrunning
      · rename_i entry hin
        exact .send hrunning hin
    · cases hs
  | extended call answer now =>
    simp only [State.step] at hs
    split at hs
    · rename_i grant ttlMs handle hcall
      have hrunning := running_of_extending hcall
      cases hs
      unfold State.extended
      cases answer with
      | error cause => exact .lose hrunning trivial (delete_shrinks _ _)
      | ok handle =>
        dsimp only
        split
        · exact .lose hrunning trivial (delete_shrinks _ _)
        · rename_i hvalid
          exact .renew hcall (by simpa using hvalid)
    · cases hs
  | cleaned call answer =>
    simp only [State.step] at hs
    split at hs
    · rename_i hcall
      cases hs
      exact .lose (running_of_cleaning hcall) trivial fun _ => .inl rfl
    · cases hs
  | quorumReleased call answer =>
    simp only [State.step] at hs
    split at hs
    · rename_i grant handle hcall
      cases hs
      unfold State.quorumReleased
      cases answer with
      | error cause => exact .fail hcall
      | ok value => exact .confirm hcall
    · cases hs

theorem State.calls_put (h : (s.put call c).calls other = some d) :
    other = call ∧ c = d ∨ s.calls other = some d := by
  by_cases heq : other = call
  · subst heq
    rw [State.put_self] at h
    exact .inl ⟨rfl, Option.some.inj h⟩
  · rw [State.put_other heq] at h
    exact .inr h

/-- A call with a property that the moved call lacks was there before. -/
theorem calls_of_put (P : Call → Prop) (h : (s.put call c).calls other = some d) (hc : ¬ P c)
    (hd : P d) : s.calls other = some d := by
  obtain ⟨_, rfl⟩ | hold := State.calls_put h
  · exact absurd hd hc
  · exact hold

theorem Call.IsLost.not_extends (h : c.IsLost) : ¬ c.Extends id := by
  cases c with
  | extending => cases h
  | _ => exact not_false

theorem Call.IsLost.not_release (h : c.IsLost) : ¬ c.IsRelease id := by
  cases c with
  | releasing => cases h
  | released => cases h
  | _ => exact not_false

/-- The log of a step is the log before it and at most one event more. -/
theorem log_move (h : Move s input t) : ∃ more, t.log = s.log ++ more := by
  cases h with
  | extend => exact ⟨[_], rfl⟩
  | confirm => exact ⟨[_], rfl⟩
  | _ => exact ⟨[], (List.append_nil _).symm⟩

theorem State.Crossed.move (h : s.Crossed call id) (hmove : Move s input t) :
    t.Crossed call id := by
  obtain ⟨before, after, hlog, hmem⟩ := h
  obtain ⟨more, hmore⟩ := log_move hmove
  refine ⟨before, after ++ more, ?_, List.mem_append_left _ hmem⟩
  rw [hmore, hlog, List.append_assoc, List.cons_append]

/-- Who renews the grant after a step renewed it before, unless the step is its sending. -/
theorem extends_move (hmove : Move s input t) (hcall : t.calls call = some c)
    (hext : c.Extends id) :
    s.calls call = some c ∨ s.held id ≠ none ∧ t.log = s.log ++ [.extendIssued call] := by
  cases hmove with
  | lose _ hlost _ => exact .inl (calls_of_put (Call.Extends id) hcall hlost.not_extends hext)
  | @extend _ moved grant ttlMs entry _ hfound =>
    obtain ⟨rfl, rfl⟩ | hold := State.calls_put hcall
    · obtain rfl : grantId grant = id := hext
      exact .inr ⟨by rw [hfound]; simp, rfl⟩
    · exact .inl hold
  | renew => exact .inl (calls_of_put (Call.Extends id) hcall not_false hext)
  | refuse => exact .inl (calls_of_put (Call.Extends id) hcall not_false hext)
  | send => exact .inl (calls_of_put (Call.Extends id) hcall not_false hext)
  | fail => exact .inl (calls_of_put (Call.Extends id) hcall not_false hext)
  | confirm => exact .inl (calls_of_put (Call.Extends id) hcall not_false hext)

/-- Who has resolved to `true` after a step had before, unless the step confirms it. -/
theorem saidTrue_move (hmove : Move s input t) (h : t.SaidTrue id) :
    s.SaidTrue id ∨ t.held id = none ∧ t.log = s.log ++ [.releaseConfirmed id] := by
  obtain ⟨call, grant, hcall, hid⟩ := h
  let P : Call → Prop := fun d => d = .released grant (.ok true)
  cases hmove with
  | lose _ hlost _ =>
    refine .inl ⟨call, grant, calls_of_put P hcall ?_ rfl, hid⟩
    intro heq
    rw [heq] at hlost
    exact hlost
  | extend => exact .inl ⟨call, grant, calls_of_put P hcall (by simp [P]) rfl, hid⟩
  | renew => exact .inl ⟨call, grant, calls_of_put P hcall (by simp [P]) rfl, hid⟩
  | refuse => exact .inl ⟨call, grant, calls_of_put P hcall (by simp [P]) rfl, hid⟩
  | send => exact .inl ⟨call, grant, calls_of_put P hcall (by simp [P]) rfl, hid⟩
  | fail => exact .inl ⟨call, grant, calls_of_put P hcall (by simp [P]) rfl, hid⟩
  | @confirm _ moved confirmed handle was =>
    obtain ⟨_, hmoved⟩ | hold := State.calls_put hcall
    · cases hmoved
      subst hid
      exact .inr ⟨if_pos rfl, rfl⟩
    · exact .inl ⟨call, grant, hold, hid⟩

theorem State.SaidTrue.put {held : Held} {log : List QuorumEvent} (h : s.SaidTrue id)
    (hrunning : s.Running call) :
    (State.put { s with held := held, log := log } call c).SaidTrue id := by
  obtain ⟨other, grant, hcall, hid⟩ := h
  refine ⟨other, grant, ?_, hid⟩
  rw [State.put_other]
  · exact hcall
  · rintro rfl
    exact hrunning _ _ hcall

theorem State.SaidTrue.move (h : s.SaidTrue id) (hmove : Move s input t) : t.SaidTrue id := by
  cases hmove with
  | lose hrunning _ _ => exact h.put hrunning
  | extend hrunning _ => exact h.put hrunning
  | renew was _ => exact h.put (running_of_extending was)
  | refuse hrunning => exact h.put hrunning
  | send hrunning _ => exact h.put hrunning
  | fail was => exact h.put fun _ _ => by rw [was]; simp
  | confirm was => exact h.put fun _ _ => by rw [was]; simp

/-- The release has been confirmed: the map is empty, and every renewal still under way
was sent before. -/
structure Settled (id : JsString) (s : State) : Prop where
  empty : s.held id = none
  crossed : ∀ call c, s.calls call = some c → c.Extends id → s.Crossed call id

/-- A renewal that is answered in time is one of another grant. -/
theorem Settled.other_grant {grant : LeaseGrant} {ttlMs now : JsNumber}
    {old handle : RedlockHandle} (h : Settled id s)
    (htimely : Timely id s (.extended call (.ok handle) now))
    (was : s.calls call = some (.extending grant ttlMs old))
    (hvalid : validExpiration handle.expiration now = true) : grantId grant ≠ id := by
  intro hid
  exact htimely hvalid ⟨_, was, hid⟩ (h.crossed call _ was hid)

theorem Settled.move (h : Settled id s) (htimely : Timely id s input) (hmove : Move s input t) :
    Settled id t := by
  have hempty : t.held id = none := by
    cases hmove with
    | lose _ _ hshrinks => exact (hshrinks id).elim (fun heq => heq.trans h.empty) fun heq => heq
    | renew was hvalid =>
      have hother := h.other_grant htimely was hvalid
      exact (if_neg fun heq => hother heq.symm).trans h.empty
    | confirm was =>
      exact (delete_shrinks s.held _ id).elim (fun heq => heq.trans h.empty) fun heq => heq
    | extend => exact h.empty
    | refuse => exact h.empty
    | send => exact h.empty
    | fail => exact h.empty
  refine ⟨hempty, ?_⟩
  intro call c hcall hext
  obtain hold | ⟨hfull, _⟩ := extends_move hmove hcall hext
  · exact (h.crossed call c hold hext).move hmove
  · exact absurd h.empty hfull

theorem Settled.renewals (h : Settled id s) (htimely : Timely id s input)
    (hmove : Move s input t) (hrenewed : t.Renewed call id) : s.Renewed call id := by
  obtain ⟨grant, renewed, hcall, hid⟩ := hrenewed
  let P : Call → Prop := fun d => d = .renewed grant (.ok renewed)
  cases hmove with
  | lose _ hlost _ =>
    refine ⟨grant, renewed, calls_of_put P hcall ?_ rfl, hid⟩
    intro heq
    rw [heq] at hlost
    exact hlost
  | @renew moved grant' renewed' _ _ _ _ was hvalid =>
    refine ⟨grant, renewed, calls_of_put P hcall ?_ rfl, hid⟩
    intro heq
    cases heq
    exact h.other_grant htimely was hvalid hid
  | extend => exact ⟨grant, renewed, calls_of_put P hcall (by simp [P]) rfl, hid⟩
  | refuse => exact ⟨grant, renewed, calls_of_put P hcall (by simp [P]) rfl, hid⟩
  | send => exact ⟨grant, renewed, calls_of_put P hcall (by simp [P]) rfl, hid⟩
  | fail => exact ⟨grant, renewed, calls_of_put P hcall (by simp [P]) rfl, hid⟩
  | confirm => exact ⟨grant, renewed, calls_of_put P hcall (by simp [P]) rfl, hid⟩

/-- A release that a step has moved was waiting before, or finds the map empty. -/
theorem Settled.releases (h : Settled id s) (hmove : Move s input t)
    (hcall : t.calls call = some c) (hrelease : c.IsRelease id) :
    (∃ grant, c = .released grant (.ok false)) ∨ s.calls call = some c ∨
      ∃ grant handle, s.calls call = some (.releasing grant handle) ∧ grantId grant = id := by
  cases hmove with
  | lose _ hlost _ =>
    exact .inr (.inl (calls_of_put (Call.IsRelease id) hcall hlost.not_release hrelease))
  | extend => exact .inr (.inl (calls_of_put (Call.IsRelease id) hcall not_false hrelease))
  | renew => exact .inr (.inl (calls_of_put (Call.IsRelease id) hcall not_false hrelease))
  | @refuse _ moved grant _ =>
    obtain ⟨_, rfl⟩ | hold := State.calls_put hcall
    · exact .inl ⟨grant, rfl⟩
    · exact .inr (.inl hold)
  | @send _ moved grant entry _ hfound =>
    refine .inr (.inl (calls_of_put (Call.IsRelease id) hcall ?_ hrelease))
    rintro rfl
    rw [h.empty] at hfound
    cases hfound
  | @fail _ moved grant handle error was =>
    obtain ⟨rfl, rfl⟩ | hold := State.calls_put hcall
    · exact .inr (.inr ⟨grant, handle, was, hrelease⟩)
    · exact .inr (.inl hold)
  | @confirm _ moved grant handle was =>
    obtain ⟨rfl, rfl⟩ | hold := State.calls_put hcall
    · exact .inr (.inr ⟨grant, handle, was, hrelease⟩)
    · exact .inr (.inl hold)

end Steps

section Histories

variable {held : Held} {es : List Input} {s t : State} {id : JsString}

theorem runs_unique {u : State} (h : Runs s es t) (h' : Runs s es u) : t = u := by
  apply Exec.unique ?_ h h'
  intro a e b b' hb hb'
  exact Option.some.inj (hb.symm.trans hb')

/-- What the log says of the calls: a renewal under way has been sent, and a confirmed
release has resolved to `true`. -/
structure Logged (s : State) : Prop where
  sent : ∀ call c id, s.calls call = some c → c.Extends id → .extendIssued call ∈ s.log
  confirmed : ∀ id, .releaseConfirmed id ∈ s.log → s.SaidTrue id

theorem logged_opened : Logged (opened held) := by
  refine ⟨?_, ?_⟩
  · intro call c id hcall
    cases hcall
  · intro id hmem
    cases hmem

theorem Logged.move {input : Input} (h : Logged s) (hmove : Move s input t) : Logged t := by
  refine ⟨?_, ?_⟩
  · intro call c id hcall hext
    obtain hold | ⟨_, hlog⟩ := extends_move hmove hcall hext
    · obtain ⟨more, hmore⟩ := log_move hmove
      rw [hmore]
      exact List.mem_append_left _ (h.sent call c id hold hext)
    · rw [hlog]
      simp
  · intro id hmem
    have hkeep : .releaseConfirmed id ∈ s.log → t.SaidTrue id :=
      fun hold => (h.confirmed id hold).move hmove
    cases hmove with
    | extend =>
      rw [State.put_log] at hmem
      obtain hold | hnew := List.mem_append.mp hmem
      · exact hkeep hold
      · cases List.mem_singleton.mp hnew
    | @confirm _ moved grant handle was =>
      rw [State.put_log] at hmem
      obtain hold | hnew := List.mem_append.mp hmem
      · exact hkeep hold
      · cases List.mem_singleton.mp hnew
        exact ⟨moved, grant, State.put_self, rfl⟩
    | lose => exact hkeep hmem
    | renew => exact hkeep hmem
    | refuse => exact hkeep hmem
    | send => exact hkeep hmem
    | fail => exact hkeep hmem

theorem logged_of_runs (h : Runs (opened held) es s) : Logged s :=
  h.stateInvariant logged_opened (fun hi hs => hi.move (move_of_step hs))

/-- Along a timely run, `true` means that the release is settled. -/
theorem settled_of_runs (h : Runs (opened held) es s)
    (hall : ∀ pre input post u, es = pre ++ input :: post → Runs (opened held) pre u →
      Timely id u input) : s.SaidTrue id → Settled id s := by
  induction h with
  | nil =>
    rintro ⟨call, grant, hcall, _⟩
    cases hcall
  | @snoc es u input v hu hs ih =>
    have hbefore := ih (fun pre input' post w hes hw =>
      hall pre input' (post ++ [input]) w (by simp [hes]) hw)
    have hmove := move_of_step hs
    intro hsaid
    obtain hsaid | ⟨hempty, hlog⟩ := saidTrue_move hmove hsaid
    · exact (hbefore hsaid).move (hall es input [] u rfl hu) hmove
    refine ⟨hempty, ?_⟩
    intro call c hcall hext
    obtain hold | ⟨_, hlog'⟩ := extends_move hmove hcall hext
    · obtain ⟨before, after, hsent⟩ :=
        List.append_of_mem ((logged_of_runs hu).sent call c id hold hext)
      refine ⟨before, after ++ [.releaseConfirmed id], ?_, by simp⟩
      rw [hlog, hsent]
      simp
    · rw [hlog] at hlog'
      simp at hlog'

/-- From a settled release on, a timely run keeps it. -/
theorem stays_of_runs (hsettled : Settled id s) (h : Runs s es t)
    (hall : ∀ pre input post u, es = pre ++ input :: post → Runs s pre u → Timely id u input) :
    Settled id t ∧ StaysReleased id s t := by
  induction h with
  | nil =>
    refine ⟨hsettled, fun _ hrenewed => hrenewed, ?_, hsettled.empty⟩
    intro call c hnone hcall
    rw [hnone] at hcall
    cases hcall
  | @snoc es u input v hu hs ih =>
    obtain ⟨hmid, hstays⟩ := ih (fun pre input' post w hes hw =>
      hall pre input' (post ++ [input]) w (by simp [hes]) hw)
    have htimely := hall es input [] u rfl hu
    have hmove := move_of_step hs
    have hend := hmid.move htimely hmove
    refine ⟨hend, ?_, ?_, hend.empty⟩
    · exact fun call hrenewed => hstays.renewals call (hmid.renewals htimely hmove hrenewed)
    · intro call c hnone hcall hrelease
      obtain hfalse | hold | ⟨grant, handle, hold, hid⟩ := hmid.releases hmove hcall hrelease
      · exact hfalse
      · exact hstays.releases call c hnone hold hrelease
      · obtain ⟨_, hfalse⟩ := hstays.releases call _ hnone hold hid
        cases hfalse

/-- In a run a release that resolved to `true` stays so, from that moment to every later
one, exactly when no renewal is answered with a valid window after the quorum confirmed a
release of the grant under it. -/
theorem release_stays_released_iff_timely (h : Runs (opened held) es t) (id : JsString) :
    (∀ pre mid post s u, es = pre ++ mid ++ post → Runs (opened held) pre s → Runs s mid u →
      s.SaidTrue id → StaysReleased id s u) ↔
    (∀ pre input post s, es = pre ++ input :: post → Runs (opened held) pre s →
      Timely id s input) := by
  constructor
  · intro hstays pre input post s hes hs
    obtain ⟨u, v, hu, hstep, _⟩ := (hes ▸ h).split_at
    cases runs_unique hs hu
    unfold Timely
    split
    · rename_i call handle now
      rintro hvalid ⟨c, hcall, hext⟩ ⟨before, after, hlog, hmem⟩
      have hsaid : s.SaidTrue id := by
        apply (logged_of_runs hs).confirmed id
        rw [hlog]
        exact List.mem_append_right _ (List.mem_cons_of_mem _ hmem)
      have hbad := hstays pre [.extended call (.ok handle) now] post s v (by simp [hes]) hs
        (.single hstep) hsaid
      cases c with
      | extending grant ttlMs old =>
        -- the answer is accepted, so the renewal resolves now
        simp only [State.step, hcall, Option.some.injEq] at hstep
        subst hstep
        have hnew : (s.extended call grant ttlMs (.ok handle) now).Renewed call id := by
          refine ⟨grant, { grant with ttlMs, leaseExpiresMs := some handle.expiration }, ?_, hext⟩
          simp [State.extended, hvalid]
        obtain ⟨_, _, hold, _⟩ := hbad.renewals call hnew
        rw [hcall] at hold
        cases hold
      | cleaning => cases hext
      | renewed => cases hext
      | releasing => cases hext
      | released => cases hext
    · trivial
  · intro hall pre mid post s u hes hs hu hsaid
    have hsettled := settled_of_runs hs (fun pre' input post' w hpre hw =>
      hall pre' input (post' ++ mid ++ post) w (by simp [hes, hpre]) hw) hsaid
    exact (stays_of_runs hsettled hu (fun pre' input post' w hmid hw =>
      hall (pre ++ pre') input (post' ++ post) w (by simp [hes, hmid]) (hs.append hw))).2

end Histories

section Sample

def renewedGrant : LeaseGrant :=
  ⟨js "orders", js "worker", 7, some (.ofInt 9000), .ofInt 1000⟩

def renewedHeld : Held :=
  set (fun _ => none) (grantId renewedGrant) ⟨⟨0, .ofInt 9000⟩, renewedGrant⟩

/-- A release that is confirmed under a renewal. -/
def overlapped : List Input :=
  [.renew 0 renewedGrant (.ofInt 1000), .release 1 renewedGrant, .quorumReleased 1 (.ok ())]

def overlappedEnd : State :=
  (((opened renewedHeld).renew 0 renewedGrant (.ofInt 1000)).release 1 renewedGrant).quorumReleased
    1 renewedGrant (.ok ())

def resurrectedEnd : State :=
  overlappedEnd.extended 0 renewedGrant (.ofInt 1000) (.ok ⟨0, .ofInt 9500⟩) (.ofInt 8500)

theorem confirmed_release_resurrected :
    ¬ ∀ (held : Held) (es mid : List Input) (s u : State) (id : JsString),
      Runs (opened held) es s → Runs s mid u → s.SaidTrue id → StaysReleased id s u := by
  intro h
  have hstays := h renewedHeld overlapped
    [.extended 0 (.ok ⟨0, .ofInt 9500⟩) (.ofInt 8500)] overlappedEnd resurrectedEnd
    (grantId renewedGrant) (Exec.of_foldlM rfl) (Exec.of_foldlM rfl) ⟨1, renewedGrant, rfl, rfl⟩
  obtain ⟨_, _, hold, _⟩ := hstays.renewals 0 ⟨renewedGrant, _, rfl, rfl⟩
  cases hold

theorem overlapped_release_confirmed :
    Runs (opened renewedHeld) overlapped overlappedEnd ∧
    ((∀ pre mid post s u, overlapped = pre ++ mid ++ post → Runs (opened renewedHeld) pre s →
      Runs s mid u → s.SaidTrue (grantId renewedGrant) →
        StaysReleased (grantId renewedGrant) s u) ↔
    (∀ pre input post s, overlapped = pre ++ input :: post → Runs (opened renewedHeld) pre s →
      Timely (grantId renewedGrant) s input)) := by
  have hrun : Runs (opened renewedHeld) overlapped overlappedEnd := Exec.of_foldlM rfl
  exact ⟨hrun, release_stays_released_iff_timely hrun (grantId renewedGrant)⟩

end Sample

end OresLocks.Ts.Redlock
