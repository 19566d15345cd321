import OresLocks.LocalFile.MixedRecovery

/-!
# The invariant of runs with recoveries

Every call follows its protocol from a stage that describes the lock path. A holder loses
that only when a recovery that names its owner has claimed its marker.
-/

namespace OresLocks.LocalFile

set_option autoImplicit false

open Shared.Programs JsString

variable {κ : Type} {R : κ → RecoveryRuntime}

/-- What the filesystem says about a call that acquires and releases. -/
def MemberAt (fs : Fs) (call : Call) : Member R → Prop
  | .locking party => PartyAt fs call party
  | _ => True

/-- What the filesystem says about a call that recovers. -/
def RecovererAt (fs : Fs) (owners : Call → Option JsString) (call : Call) : Member R → Prop
  | .recovering kind expected program =>
    ∃ stage, RecoverAt fs owners ((R kind).text expected) call stage ∧
      Follows (recoverProtocol ((R kind).accepts expected)) (fun _ _ => True) stage program
  | .recovered kind expected => ∃ stage, RecoverAt fs owners ((R kind).text expected) call stage
  | _ => True

/-- A recovery that names the owner of the call has claimed its marker. -/
structure Taken (s : Fleet R) (call : Call) : Prop where
  notTenant : NotTenant s.fs call
  named : ∃ owner ∈ s.named, s.owners call = some owner ∧ validateLocalFileLockOwner owner = .ok ()
  claimed : s.RecoveredByName call

/-- A recovery removes and renames the things of a call with its expected owner, and only
markers that hold it. Calls that have not started have done nothing. -/
structure Rightful (s : Fleet R) (e : Effect) : Prop where
  started : (s.members e.call).owner ≠ none ∨ (s.members e.call).expectedOwner ≠ none
  recoverer : ∀ expected, (s.members e.call).expectedOwner = some expected →
    (∃ holder, e.creator = some holder ∧ s.owners holder = some expected) ∧
    (e.removal ≠ .removedDirectory → e.content = encode expected)

structure FleetInv (s : Fleet R) : Prop where
  holder : ∀ call, MemberAt s.fs call (s.members call) ∨ Taken s call
  recoverer : ∀ call, RecovererAt s.fs s.owners call (s.members call)
  effects : ∀ e ∈ s.fs.trace, Rightful s e
  native : Native s.fs
  named : ∀ call expected, (s.members call).expectedOwner = some expected → expected ∈ s.named

theorem fleetInv_initial {s : Fleet R} (h : s.Initial) : FleetInv s where
  holder call := by
    left
    rw [h.members]
    intro node hnode
    rw [h.absent] at hnode
    cases hnode
  recoverer call := by
    rw [h.members]
    trivial
  effects e he := by
    rw [h.trace] at he
    cases he
  native node hnode := by
    rw [h.absent] at hnode
    cases hnode
  named call expected hexpected := by
    rw [h.members] at hexpected
    cases hexpected

section Growth

variable {s s' : Fleet R} {call : Call} {e : Effect}

/-- Calls that have started keep their owners, and nothing named or done is forgotten. -/
structure Grows (s s' : Fleet R) : Prop where
  owners : ∀ c owner, s.owners c = some owner → s'.owners c = some owner
  expected : ∀ c, (s.members c).owner ≠ none ∨ (s.members c).expectedOwner ≠ none →
    (s'.members c).expectedOwner = (s.members c).expectedOwner
  named : ∀ owner ∈ s.named, owner ∈ s'.named
  effects : ∀ e ∈ s.fs.trace, e ∈ s'.fs.trace

theorem Rightful.grows (h : Rightful s e) (hgrows : Grows s s') : Rightful s' e := by
  have hsame := hgrows.expected e.call h.started
  refine ⟨?_, ?_⟩
  · rcases h.started with howner | hexpected
    · obtain ⟨owner, howner⟩ := Option.ne_none_iff_exists'.mp howner
      left
      rw [show (s'.members e.call).owner = some owner from hgrows.owners e.call owner howner]
      exact Option.some_ne_none owner
    · right
      rw [hsame]
      exact hexpected
  · intro expected hexpected
    rw [hsame] at hexpected
    obtain ⟨⟨holder, hcreator, howner⟩, hcontent⟩ := h.recoverer expected hexpected
    exact ⟨⟨holder, hcreator, hgrows.owners holder expected howner⟩, hcontent⟩

theorem Taken.grows (h : Taken s call) (hgrows : Grows s s') (hnot : NotTenant s'.fs call) :
    Taken s' call := by
  obtain ⟨_, ⟨owner, hnamed, howner, hvalid⟩, e, he, hremoval, hcreator, hexpected⟩ := h
  rw [howner] at hexpected
  refine ⟨hnot, ⟨owner, hgrows.named owner hnamed, hgrows.owners call owner howner, hvalid⟩,
    e, hgrows.effects e he, hremoval, hcreator, ?_⟩
  have hstarted : (s.members e.call).expectedOwner ≠ none := by
    rw [hexpected]
    exact Option.some_ne_none owner
  rw [hgrows.expected e.call (Or.inr hstarted), hexpected, hgrows.owners call owner howner]

/-- A replaced call that agrees with the old one in a field leaves that field of every call. -/
theorem Fleet.setMember_congr {β : Type} (f : Member R → β) {member : Member R}
    (h : f member = f (s.members call)) (c : Call) :
    f ((s.setMember call member).members c) = f (s.members c) := by
  change f (if c = call then member else s.members c) = f (s.members c)
  split
  · rename_i hc
    rw [hc, h]
  · rfl

end Growth

section Others

variable {fs fs' : Fs} {actor call : Call} {victim : Option Call} {new : List Effect}
  {owners owners' : Call → Option JsString} {member : Member R}

/-- A call that is no recovery is idle or a holder in some stage. -/
theorem PartyAt.holderAt {party : Party fun kind => (R kind).toLockRuntime}
    (h : PartyAt fs call party) :
    NotTenant fs call ∨ ∃ owner stage, (Member.locking party : Member R).owner = some owner ∧
      HolderAt fs owner call stage := by
  cases party with
  | idle => exact Or.inl h
  | acquiring kind owner program =>
    obtain ⟨stage, hat, _⟩ := h
    exact Or.inr ⟨_, stage, rfl, hat⟩
  | refused kind owner =>
    obtain ⟨stage, hat⟩ := h
    exact Or.inr ⟨_, stage, rfl, hat⟩
  | holding kind lock =>
    obtain ⟨stage, hat, _⟩ := h
    exact Or.inr ⟨_, stage, rfl, hat⟩
  | releasing kind lock program =>
    obtain ⟨stage, hat, _⟩ := h
    exact Or.inr ⟨_, stage, rfl, hat⟩

theorem MemberAt.frame (hf : Frame actor victim fs fs') (hne : call ≠ actor)
    (hvictim : some call ≠ victim) (htrace : fs'.trace = fs.trace ++ new)
    (h : MemberAt fs call member) : MemberAt fs' call member := by
  cases member with
  | locking party => exact PartyAt.frame hf hne hvictim htrace h
  | recovering kind expected program => trivial
  | recovered kind expected => trivial

theorem RecovererAt.frame (hf : Frame actor victim fs fs') (hne : call ≠ actor)
    (hvictim : member.owner = none → some call ≠ victim)
    (h : RecovererAt fs owners call member) : RecovererAt fs' owners call member := by
  cases member with
  | locking party => trivial
  | recovering kind expected program =>
    obtain ⟨stage, hat, hfollows⟩ := h
    exact ⟨stage, hat.frame hf hne (hvictim rfl) (fun _ _ h => h), hfollows⟩
  | recovered kind expected =>
    obtain ⟨stage, hat⟩ := h
    exact ⟨stage, hat.frame hf hne (hvictim rfl) (fun _ _ h => h)⟩

theorem RecovererAt.owners_mono (howners : ∀ c o, owners c = some o → owners' c = some o)
    (h : RecovererAt fs owners call member) : RecovererAt fs owners' call member := by
  cases member with
  | locking party => trivial
  | recovering kind expected program =>
    obtain ⟨stage, hat, hfollows⟩ := h
    exact ⟨stage, hat.owners_mono howners, hfollows⟩
  | recovered kind expected =>
    obtain ⟨stage, hat⟩ := h
    exact ⟨stage, hat.owners_mono howners⟩

end Others

section Inv

variable {s : Fleet R} {call : Call}

/-- A call with an active owner follows its protocol. -/
theorem FleetInv.active (h : FleetInv s) {owner : JsString} (howner : s.owners call = some owner)
    (hactive : validateLocalFileLockOwner owner = .ok () → owner ∉ s.named) :
    MemberAt s.fs call (s.members call) := by
  rcases h.holder call with hmember | htaken
  · exact hmember
  · obtain ⟨owner', hnamed, howner', hvalid⟩ := htaken.named
    cases howner.symm.trans howner'
    exact absurd hnamed (hactive hvalid)

theorem FleetInv.occupied (h : FleetInv s) : Occupied s.fs s.owners := by
  intro node file hlock hlookup
  obtain ⟨call, htenant⟩ := Option.ne_none_iff_exists'.mp (h.native node hlock)
  have hmember : MemberAt s.fs call (s.members call) := by
    rcases h.holder call with hmember | htaken
    · exact hmember
    · exact absurd htenant (htaken.notTenant node hlock)
  have hrecover := h.recoverer call
  cases hcall : s.members call with
  | locking party =>
    rw [hcall] at hmember
    rcases PartyAt.holderAt hmember with hnot | ⟨owner, stage, howner, hat⟩
    · exact absurd htenant (hnot node hlock)
    · obtain ⟨hinside, hcreator, hvalid⟩ := hat.published_of_lookup hlock htenant hlookup
      exact ⟨call, owner, hinside, hcreator, (congrArg Member.owner hcall).trans howner, hvalid⟩
  | recovering kind expected program =>
    rw [hcall] at hrecover
    obtain ⟨stage, hat, _⟩ := hrecover
    exact absurd hlookup (hat.no_owner hlock htenant)
  | recovered kind expected =>
    rw [hcall] at hrecover
    obtain ⟨stage, hat⟩ := hrecover
    exact absurd hlookup (hat.no_owner hlock htenant)

/-- A call that has not started is not the tenant. -/
theorem FleetInv.notTenant_idle (h : FleetInv s) (hidle : s.members call = .locking .idle) :
    NotTenant s.fs call := by
  rcases h.holder call with hmember | htaken
  · rw [hidle] at hmember
    exact hmember
  · exact htaken.notTenant

end Inv

section Advance

variable {s : Fleet R} {call : Call}

/-- One call moves with its filesystem step, and everyone else stays. -/
theorem FleetInv.advanced (h : FleetInv s) {member : Member R} {fs' : Fs} {victim : Option Call}
    {new : List Effect} (hframe : Frame call victim s.fs fs')
    (howner : member.owner = (s.members call).owner)
    (hexpected : member.expectedOwner = (s.members call).expectedOwner)
    (hmember : MemberAt fs' call member) (hrecover : RecovererAt fs' s.owners call member)
    (hnative : Native fs') (htrace : fs'.trace = s.fs.trace ++ new)
    (hnew : ∀ e ∈ new, Rightful s e)
    (hvictim : ∀ c, victim = some c → NotTenant fs' c ∧ ∃ owner ∈ s.named, s.owners c = some owner ∧
      validateLocalFileLockOwner owner = .ok () ∧ ∃ e ∈ new, e.removal = .renamed .owner .recovering ∧
        e.creator = some c ∧ (s.members e.call).expectedOwner = some owner) :
    FleetInv { s.setMember call member with fs := fs' } := by
  have howners : ∀ c, Fleet.owners { s.setMember call member with fs := fs' } c = s.owners c :=
    Fleet.setMember_congr Member.owner howner
  have hnamed : ∀ c, (({ s.setMember call member with fs := fs' } : Fleet R).members c).expectedOwner =
      (s.members c).expectedOwner := Fleet.setMember_congr Member.expectedOwner hexpected
  have hother : ∀ c, c ≠ call → ({ s.setMember call member with fs := fs' } : Fleet R).members c =
      s.members c := fun c hc => if_neg hc
  have hmoved : ({ s.setMember call member with fs := fs' } : Fleet R).members call = member :=
    if_pos rfl
  have hgrows : Grows s { s.setMember call member with fs := fs' } := by
    refine ⟨fun c owner hc => (howners c).trans hc, fun c _ => hnamed c, fun x hx => hx, ?_⟩
    intro e he
    change e ∈ fs'.trace
    rw [htrace]
    exact List.mem_append_left _ he
  refine ⟨?_, ?_, ?_, hnative, ?_⟩
  · intro c
    by_cases hc : c = call
    · subst hc
      left
      rw [hmoved]
      exact hmember
    rcases h.holder c with hat | htaken
    · by_cases hv : some c = victim
      · right
        obtain ⟨hnot, owner, howner, hc', hvalid, e, he, hremoval, hcreator, hname⟩ := hvictim c hv.symm
        refine ⟨hnot, ⟨owner, howner, (howners c).trans hc', hvalid⟩, e, ?_, hremoval, hcreator, ?_⟩
        · change e ∈ fs'.trace
          rw [htrace]
          exact List.mem_append_right _ he
        · rw [hnamed, howners, hname, hc']
      · left
        rw [hother c hc]
        exact hat.frame hframe hc hv htrace
    · exact Or.inr (htaken.grows hgrows (hframe.notTenant c hc htaken.notTenant))
  · intro c
    apply RecovererAt.owners_mono hgrows.owners
    by_cases hc : c = call
    · subst hc
      rw [hmoved]
      exact hrecover
    · rw [hother c hc]
      apply (h.recoverer c).frame hframe hc
      intro hnone hv
      obtain ⟨_, owner, _, hc', _⟩ := hvictim c hv.symm
      cases hnone.symm.trans hc'
  · intro e he
    change e ∈ fs'.trace at he
    rw [htrace] at he
    rcases List.mem_append.mp he with hbefore | hafter
    · exact (h.effects e hbefore).grows hgrows
    · exact (hnew e hafter).grows hgrows
  · intro c expected hexp
    rw [hnamed] at hexp
    exact h.named c expected hexp

theorem recover_answered {fs : Fs} (outcome : Outcome) {owners : Call → Option JsString}
    {accepts : Bytes → Prop} (hocc : Occupied fs owners) {expected : JsString} {stage : RecoverStage}
    {op : FsOp} (h : RecoverAt fs owners expected call stage)
    (hallows : (recoverProtocol accepts).allows stage op)
    (hcurrent : ∀ choice, outcome = .performed choice → op = .rename .owner .recovering →
      OpenedLast fs call ∧ MarkerExpected fs accepts expected) :
    ∃ stage' victim, (recoverProtocol accepts).moves stage op (outcome.run fs call op).1 stage' ∧
      RecoverStep owners expected call stage' fs (outcome.run fs call op).2 victim ∧
      ∀ holder, victim = some holder → owners holder = some expected ∧
        validateLocalFileLockOwner expected = .ok () := by
  cases outcome with
  | performed choice => exact recover_step hocc h hallows (hcurrent choice rfl) choice
  | failed error =>
    refine ⟨stage, none, ?_, .stay h, fun _ hv => nomatch hv⟩
    cases op <;> exact rfl

theorem Native.answered {fs : Fs} (h : Native fs) (outcome : Outcome) (op : FsOp) :
    Native (outcome.run fs call op).2 := by
  cases outcome with
  | performed choice => exact h.perform call choice op
  | failed error => exact h

/-- The owner of a party does not change with its steps. -/
theorem owner_settleRelease (kind : κ) {lock : (R kind).Lock} {program : FsProg (R kind).Lock}
    {stage : HolderStage}
    (hfollows : Follows (holderProtocol ((R kind).text ((R kind).owner lock)))
      (fun stage result => (R kind).owner result = (R kind).owner lock ∧
        Unspent ((R kind).text ((R kind).owner lock)) stage ((R kind).Held result)) stage program) :
    (Member.locking (.settleRelease kind lock program) : Member R).owner =
      some ((R kind).text ((R kind).owner lock)) := by
  cases program with
  | call op next => rfl
  | done result => exact congrArg (fun o => some ((R kind).text o)) hfollows.1

theorem owner_settleAcquire (kind : κ) {owner : (R kind).Owner}
    {program : FsProg (Option (R kind).Lock)} {stage : HolderStage}
    (hfollows : Follows (holderProtocol ((R kind).text owner))
      (fun stage result => ∀ lock, result = some lock →
        (R kind).owner lock = owner ∧ ∃ file, stage = published ((R kind).text owner) file)
      stage program) :
    (Member.locking (.settleAcquire kind owner program) : Member R).owner =
      some ((R kind).text owner) := by
  cases program with
  | call op next => rfl
  | done result =>
    cases result with
    | none => rfl
    | some lock => exact congrArg (fun o => some ((R kind).text o)) (hfollows lock rfl).1

/-- The pending step of a party, answered, with its owner. -/
theorem PartyAt.advance_owner {fs fs' : Fs} {party party' : Party fun kind => (R kind).toLockRuntime}
    (outcome : Outcome) (h : PartyAt fs call party)
    (hadvance : party.advance (outcome.run fs call) = some (party', fs')) :
    (Member.locking party' : Member R).owner = (Member.locking party : Member R).owner ∧
      (Member.locking party : Member R).owner ≠ none := by
  cases party with
  | acquiring kind owner program =>
    cases program with
    | done result => cases hadvance
    | call op next =>
      cases hadvance
      obtain ⟨stage, hat, hallows, hnext⟩ := h
      obtain ⟨stage', hmoves, _⟩ := holder_answered outcome hat hallows
      exact ⟨owner_settleAcquire kind (hnext _ stage' hmoves), Option.some_ne_none _⟩
  | releasing kind lock program =>
    cases program with
    | done result => cases hadvance
    | call op next =>
      cases hadvance
      obtain ⟨stage, hat, ⟨hallows, hnext⟩, _⟩ := h
      obtain ⟨stage', hmoves, _⟩ := holder_answered outcome hat hallows
      exact ⟨owner_settleRelease kind (hnext _ stage' hmoves), Option.some_ne_none _⟩
  | _ => cases hadvance

theorem memberAt_settleRecover {fs : Fs} {kind : κ} {expected : (R kind).Owner}
    {program : FsProg (Option Bool)} : MemberAt fs call (Member.settleRecover kind expected program) := by
  cases program with
  | done result => trivial
  | call op next => trivial

theorem settleRecover_at {fs : Fs} {owners : Call → Option JsString} {kind : κ}
    {expected : (R kind).Owner} {stage : RecoverStage} {program : FsProg (Option Bool)}
    (hat : RecoverAt fs owners ((R kind).text expected) call stage)
    (hfollows : Follows (recoverProtocol ((R kind).accepts expected)) (fun _ _ => True) stage program) :
    RecovererAt fs owners call (Member.settleRecover kind expected program) ∧
      (Member.settleRecover kind expected program).owner = none ∧
      (Member.settleRecover kind expected program).expectedOwner = some ((R kind).text expected) := by
  cases program with
  | call op next => exact ⟨⟨stage, hat, hfollows⟩, rfl, rfl⟩
  | done result => exact ⟨⟨stage, hat⟩, rfl, rfl⟩

theorem Native.advanced {fs fs' : Fs} {party party' : Party fun kind => (R kind).toLockRuntime}
    (h : Native fs) (outcome : Outcome)
    (hadvance : party.advance (outcome.run fs call) = some (party', fs')) : Native fs' := by
  cases party with
  | acquiring kind owner program =>
    cases program with
    | done result => cases hadvance
    | call op next =>
      cases hadvance
      exact h.answered outcome op
  | releasing kind lock program =>
    cases program with
    | done result => cases hadvance
    | call op next =>
      cases hadvance
      exact h.answered outcome op
  | _ => cases hadvance

theorem FleetInv.answer_locking (h : FleetInv s) (outcome : Outcome)
    {party party' : Party fun kind => (R kind).toLockRuntime} {fs' : Fs}
    (hcall : s.members call = .locking party) (hat : PartyAt s.fs call party)
    (hadvance : party.advance (outcome.run s.fs call) = some (party', fs')) :
    FleetInv { s.setMember call (.locking party') with fs := fs' } := by
  obtain ⟨hafter, hframe, new, htrace, hnew⟩ := hat.advance outcome hadvance
  obtain ⟨howner, hsome⟩ := hat.advance_owner outcome hadvance
  apply h.advanced hframe
  · rw [howner, hcall]
  · rw [hcall]
    rfl
  · exact hafter
  · trivial
  · exact h.native.advanced outcome hadvance
  · exact htrace
  · intro e he
    obtain ⟨rfl, _⟩ := hnew e he
    rw [← hcall] at hsome
    refine ⟨Or.inl hsome, ?_⟩
    intro expected hexpected
    rw [hcall] at hexpected
    cases hexpected
  · intro c hc
    cases hc

theorem FleetInv.answer_recovering (h : FleetInv s) (outcome : Outcome) {kind : κ}
    {expected : (R kind).Owner} {op : FsOp} {next : FsAnswer op → FsProg (Option Bool)}
    (hcall : s.members call = .recovering kind expected (.call op next))
    (hcurrent : ∀ choice, outcome = .performed choice → op = .rename .owner .recovering →
      OpenedLast s.fs call ∧ MarkerExpected s.fs ((R kind).accepts expected) ((R kind).text expected)) :
    FleetInv { s.setMember call (.settleRecover kind expected (next (outcome.run s.fs call op).1)) with
      fs := (outcome.run s.fs call op).2 } := by
  have hexpected : (s.members call).expectedOwner = some ((R kind).text expected) := by
    rw [hcall]
    rfl
  have hrecover := h.recoverer call
  rw [hcall] at hrecover
  obtain ⟨stage, hat, hallows, hnext⟩ := hrecover
  obtain ⟨stage', victim, hmoves, hstep, hvictim⟩ :=
    recover_answered outcome h.occupied hat hallows hcurrent
  obtain ⟨new, htrace, hnew, hclaimed⟩ := hstep.effects
  obtain ⟨hafter, howner, hname⟩ := settleRecover_at hstep.after (hnext _ stage' hmoves)
  apply h.advanced hstep.frame
  · rw [howner, hcall]
    rfl
  · rw [hname, hexpected]
  · exact memberAt_settleRecover
  · exact hafter
  · exact h.native.answered outcome op
  · exact htrace
  · intro e he
    obtain ⟨rfl, hcreator, hcontent⟩ := hnew e he
    refine ⟨Or.inr ?_, ?_⟩
    · rw [hexpected]
      exact Option.some_ne_none _
    · intro expected' heq
      cases hexpected.symm.trans heq
      exact ⟨hcreator, hcontent⟩
  · intro holder hholder
    obtain ⟨hnot, e, he, hremoval, hcreator⟩ := hclaimed holder hholder
    obtain ⟨howner', hvalid⟩ := hvictim holder hholder
    refine ⟨hnot, _, h.named call _ hexpected, howner', hvalid, e, he, hremoval, hcreator, ?_⟩
    rw [(hnew e he).1, hexpected]

end Advance

section Starts

variable {s : Fleet R} {call : Call}

/-- A call starts without touching the filesystem. -/
theorem FleetInv.started (h : FleetInv s) {member : Member R} {used named : List JsString}
    (hidle : s.members call = .locking .idle) (hmember : MemberAt s.fs call member)
    (hrecover : RecovererAt s.fs s.owners call member) (hnamed : ∀ x ∈ s.named, x ∈ named)
    (hexpected : ∀ x, member.expectedOwner = some x → x ∈ named) :
    FleetInv { s.setMember call member with used, named } := by
  have hother : ∀ c, c ≠ call →
      (({ s.setMember call member with used, named } : Fleet R).members c) = s.members c :=
    fun c hc => if_neg hc
  have hstarts : (({ s.setMember call member with used, named } : Fleet R).members call) = member :=
    if_pos rfl
  have hgrows : Grows s { s.setMember call member with used, named } := by
    refine ⟨?_, ?_, hnamed, fun e he => he⟩
    · intro c o ho
      have hc : c ≠ call := by
        rintro rfl
        rw [Fleet.owners, hidle] at ho
        cases ho
      rw [Fleet.owners, hother c hc]
      exact ho
    · intro c hstarted
      have hc : c ≠ call := by
        rintro rfl
        rw [hidle] at hstarted
        rcases hstarted with hnone | hnone
        · exact hnone rfl
        · exact hnone rfl
      rw [hother c hc]
  refine ⟨?_, ?_, ?_, h.native, ?_⟩
  · intro c
    by_cases hc : c = call
    · subst hc
      left
      rw [hstarts]
      exact hmember
    rcases h.holder c with hat | htaken
    · rw [hother c hc]
      exact Or.inl hat
    · exact Or.inr (htaken.grows hgrows htaken.notTenant)
  · intro c
    apply RecovererAt.owners_mono hgrows.owners
    by_cases hc : c = call
    · subst hc
      rw [hstarts]
      exact hrecover
    · rw [hother c hc]
      exact h.recoverer c
  · exact fun e he => (h.effects e he).grows hgrows
  · intro c x hx
    by_cases hc : c = call
    · subst hc
      rw [hstarts] at hx
      exact hexpected x hx
    · rw [hother c hc] at hx
      exact hnamed x (h.named c x hx)

theorem FleetInv.start_acquire (h : FleetInv s) (kind : κ) (owner : (R kind).Owner)
    (hidle : s.members call = .locking .idle) :
    FleetInv { s.setMember call (.locking (.settleAcquire kind owner ((R kind).tryAcquire owner))) with
      used := (R kind).text owner :: s.used } := by
  have hat : HolderAt s.fs ((R kind).text owner) call .outside := h.notTenant_idle hidle
  apply h.started hidle
  · exact settleAcquire_at (R := fun kind => (R kind).toLockRuntime) hat ((R kind).acquires owner)
  · trivial
  · exact fun _ hx => hx
  · intro x hx
    cases hx

theorem FleetInv.start_recover (h : FleetInv s) (kind : κ) (expected : (R kind).Owner)
    (confirmedInactive : Bool) (hidle : s.members call = .locking .idle) :
    FleetInv { s.setMember call
        (.settleRecover kind expected ((R kind).recover expected confirmedInactive)) with
      named := (R kind).text expected :: s.named } := by
  have hat : RecoverAt s.fs s.owners ((R kind).text expected) call .looking := h.notTenant_idle hidle
  obtain ⟨hafter, _, hname⟩ := settleRecover_at hat ((R kind).recovers expected confirmedInactive)
  apply h.started hidle memberAt_settleRecover hafter
  · exact fun x hx => List.mem_cons_of_mem _ hx
  · intro x hx
    cases hname.symm.trans hx
    exact List.mem_cons_self

theorem FleetInv.start_release (h : FleetInv s) {kind : κ} {lock : (R kind).Lock}
    (hcall : s.members call = .locking (.holding kind lock))
    (hat : MemberAt s.fs call (s.members call)) :
    FleetInv (s.setMember call (.locking (.settleRelease kind lock ((R kind).release lock)))) := by
  rw [hcall] at hat
  obtain ⟨stage, hat, hunspent, hmarker⟩ := hat
  have hfollows := (R kind).releases lock stage hunspent
  have hsame : Frame call none s.fs s.fs := (SameLock.refl call s.fs).frame
  apply h.advanced hsame
  · rw [owner_settleRelease kind hfollows, hcall]
    rfl
  · rw [hcall]
    rfl
  · exact settleRelease_at (R := fun kind => (R kind).toLockRuntime) hat hfollows hmarker
  · trivial
  · exact h.native
  · exact (List.append_nil _).symm
  · exact fun _ he => nomatch he
  · exact fun _ hv => nomatch hv

end Starts

end OresLocks.LocalFile
