import Mathlib.Tactic.Common

/-!
# Programs that call an environment

A program is a tree of calls: each node issues one operation and continues with the
answer. Interleaved parties are such trees over one shared state. A protocol says, in
stages, what a party may call and where an answer takes it; a program is checked
against it by recursion on the tree, without the state.
-/

namespace Shared.Programs

set_option autoImplicit false

universe u v w

inductive Prog (Op : Type u) (Ans : Op → Type v) (α : Type w) where
  | done (value : α)
  | call (op : Op) (next : Ans op → Prog Op Ans α)

variable {Op : Type u} {Ans : Op → Type v} {α β ε ε' : Type w}

namespace Prog

def bind (p : Prog Op Ans α) (f : α → Prog Op Ans β) : Prog Op Ans β :=
  match p with
  | .done value => f value
  | .call op next => .call op fun answer => (next answer).bind f

instance : Monad (Prog Op Ans) where
  pure := .done
  bind := bind

end Prog

/-- The outcome of a program that may throw, as a value. -/
def attempt (x : ExceptT ε (Prog Op Ans) α) : ExceptT ε (Prog Op Ans) (Except ε α) :=
  ExceptT.lift x.run

/-- `finally`: the cleanup runs in both cases, and its own error goes first. -/
def finallyDo (x : ExceptT ε (Prog Op Ans) α) (cleanup : ExceptT ε (Prog Op Ans) PUnit) :
    ExceptT ε (Prog Op Ans) α := do
  let outcome ← attempt x
  cleanup
  ExceptT.mk (pure outcome)

/-- `allows` is what a party may call in a stage, `moves` the stage after an answer. An
answer that no stage follows is impossible. -/
structure Protocol (Op : Type u) (Ans : Op → Type v) (Stage : Type*) where
  allows : Stage → Op → Prop
  moves : Stage → (op : Op) → Ans op → Stage → Prop

variable {Stage : Type*} {P : Protocol Op Ans Stage}

/-- Every call of the program is allowed, and its value satisfies `post` in the stage
it ends in. -/
def Follows (P : Protocol Op Ans Stage) (post : Stage → α → Prop) :
    Stage → Prog Op Ans α → Prop
  | stage, .done value => post stage value
  | stage, .call op next => P.allows stage op ∧
      ∀ answer stage', P.moves stage op answer stage' → Follows P post stage' (next answer)

theorem Follows.mono {post post' : Stage → α → Prop} {stage : Stage} {p : Prog Op Ans α}
    (h : Follows P post stage p) (hpost : ∀ stage value, post stage value → post' stage value) :
    Follows P post' stage p := by
  induction p generalizing stage with
  | done value => exact hpost stage value h
  | call op next ih => exact ⟨h.1, fun answer stage' hm => ih answer (h.2 answer stage' hm)⟩

theorem Follows.bind {post : Stage → β → Prop} {stage : Stage} {p : Prog Op Ans α}
    {f : α → Prog Op Ans β}
    (h : Follows P (fun stage value => Follows P post stage (f value)) stage p) :
    Follows P post stage (p >>= f) := by
  induction p generalizing stage with
  | done value => exact h
  | call op next ih => exact ⟨h.1, fun answer stage' hm => ih answer (h.2 answer stage' hm)⟩

/-- One way a program can go: the stage and the value it ends in. -/
inductive Ran (P : Protocol Op Ans Stage) : Stage → Prog Op Ans α → Stage → α → Prop where
  | done (stage : Stage) (value : α) : Ran P stage (.done value) stage value
  | call {stage stage' final : Stage} {op : Op} {next : Ans op → Prog Op Ans α} {answer : Ans op}
      {value : α} (move : P.moves stage op answer stage') (rest : Ran P stage' (next answer) final value) :
      Ran P stage (.call op next) final value

theorem Follows.ran {post : Stage → α → Prop} {stage stage' : Stage} {p : Prog Op Ans α} {value : α}
    (h : Follows P post stage p) (hran : Ran P stage p stage' value) : post stage' value := by
  induction hran with
  | done stage value => exact h
  | call hmove _ ih => exact ih (h.2 _ _ hmove)

/-- Where every call is answered, every program can go some way. -/
theorem Ran.total (answered : ∀ stage op, ∃ answer stage', P.moves stage op answer stage')
    (stage : Stage) (p : Prog Op Ans α) : ∃ stage' value, Ran P stage p stage' value := by
  induction p generalizing stage with
  | done value => exact ⟨stage, value, .done stage value⟩
  | call op next ih =>
    obtain ⟨answer, stage', hmove⟩ := answered stage op
    obtain ⟨final, value, hrest⟩ := ih answer stage'
    exact ⟨final, value, .call hmove hrest⟩

theorem Ran.mono {Q : Protocol Op Ans Stage} {stage final : Stage} {p : Prog Op Ans α} {value : α}
    (h : ∀ stage op answer stage', P.moves stage op answer stage' → Q.moves stage op answer stage')
    (hran : Ran P stage p final value) : Ran Q stage p final value := by
  induction hran with
  | done stage value => exact .done stage value
  | call hmove _ ih => exact .call (h _ _ _ _ hmove) ih

/-- How a program that may throw ends. -/
def Ends (ok : Stage → α → Prop) (err : Stage → ε → Prop) (stage : Stage) :
    Except ε α → Prop
  | .ok value => ok stage value
  | .error error => err stage error

/-- From `stage` the program follows the protocol, ends in `ok` when it returns and in
`err` when it throws. -/
def Triple (P : Protocol Op Ans Stage) (stage : Stage) (x : ExceptT ε (Prog Op Ans) α)
    (ok : Stage → α → Prop) (err : Stage → ε → Prop) : Prop :=
  Follows P (Ends ok err) stage x.run

namespace Triple

variable {stage : Stage} {ok : Stage → α → Prop} {err : Stage → ε → Prop}

theorem pure {value : α} (h : ok stage value) :
    Triple P stage (pure value : ExceptT ε (Prog Op Ans) α) ok err := h

theorem throw {error : ε} (h : err stage error) :
    Triple P stage (throw error : ExceptT ε (Prog Op Ans) α) ok err := h

theorem mono {x : ExceptT ε (Prog Op Ans) α} {ok' : Stage → α → Prop} {err' : Stage → ε → Prop}
    (h : Triple P stage x ok' err') (hok : ∀ stage value, ok' stage value → ok stage value)
    (herr : ∀ stage error, err' stage error → err stage error) : Triple P stage x ok err := by
  apply Follows.mono h
  intro stage' result hresult
  cases result with
  | ok value => exact hok stage' value hresult
  | error error => exact herr stage' error hresult

theorem bind {x : ExceptT ε (Prog Op Ans) β} {f : β → ExceptT ε (Prog Op Ans) α}
    (mid : Stage → β → Prop) (h : Triple P stage x mid err)
    (hf : ∀ stage value, mid stage value → Triple P stage (f value) ok err) :
    Triple P stage (x >>= f) ok err := by
  change Follows P _ stage (x.run >>= ExceptT.bindCont f)
  apply Follows.bind
  apply Follows.mono h
  intro stage' result hresult
  cases result with
  | ok value => exact hf stage' value hresult
  | error error => exact hresult

theorem tryCatch {x : ExceptT ε (Prog Op Ans) α} {handler : ε → ExceptT ε (Prog Op Ans) α}
    (caught : Stage → ε → Prop) (h : Triple P stage x ok caught)
    (hh : ∀ stage error, caught stage error → Triple P stage (handler error) ok err) :
    Triple P stage (tryCatch x handler) ok err := by
  apply Follows.bind
  apply Follows.mono h
  intro stage' result hresult
  cases result with
  | ok value => exact hresult
  | error error => exact hh stage' error hresult

theorem adapt {x : ExceptT ε (Prog Op Ans) α} {f : ε → ε'} {err' : Stage → ε' → Prop}
    (h : Triple P stage x ok (fun stage error => err' stage (f error))) :
    Triple P stage (x.adapt f) ok err' := by
  apply Follows.bind
  apply Follows.mono h
  intro stage' result hresult
  cases result with
  | ok value => exact hresult
  | error error => exact hresult

theorem lift {p : Prog Op Ans α} (h : Follows P ok stage p) :
    Triple P stage (ExceptT.lift p) ok err := by
  apply Follows.bind
  exact Follows.mono h (fun _ _ h => h)

theorem attempt {x : ExceptT ε (Prog Op Ans) β} {ok : Stage → Except ε β → Prop}
    (h : Triple P stage x (fun stage value => ok stage (.ok value))
      (fun stage error => ok stage (.error error))) :
    Triple P stage (attempt x) ok err := by
  apply lift
  apply Follows.mono h
  intro stage' result hresult
  cases result with
  | ok value => exact hresult
  | error error => exact hresult

/-- What a program ends in is what its caught result says. -/
theorem attempted {x : ExceptT ε (Prog Op Ans) β} {returns : Stage → β → Prop}
    {throws : Stage → ε → Prop} (h : Triple P stage x returns throws) :
    Triple P stage (Shared.Programs.attempt x) (Ends returns throws) err := attempt h

/-- A cleanup that stays in its stage keeps what the body established. -/
theorem finallyDo {x : ExceptT ε (Prog Op Ans) α} {cleanup : ExceptT ε (Prog Op Ans) PUnit}
    (h : Triple P stage x ok err)
    (hc : ∀ stage outcome, Ends ok err stage outcome →
      Triple P stage cleanup (fun stage' _ => stage' = stage) err) :
    Triple P stage (finallyDo x cleanup) ok err := by
  unfold Shared.Programs.finallyDo
  have hattempt : Triple P stage (Shared.Programs.attempt x) (Ends ok err) err :=
    attempt (mono h (fun _ _ h => h) (fun _ _ h => h))
  apply bind _ hattempt
  intro stage' outcome houtcome
  apply bind _ (hc stage' outcome houtcome)
  intro stage'' _ heq
  subst heq
  cases outcome with
  | ok value => exact houtcome
  | error error => exact houtcome

end Triple

/-- Every operation the program can issue is an allowed one. -/
def Uses (allowed : Op → Prop) : Prog Op Ans α → Prop
  | .done _ => True
  | .call op next => allowed op ∧ ∀ answer, Uses allowed (next answer)

namespace Uses

variable {allowed : Op → Prop}

/-- What every allowed operation keeps, the whole program keeps. -/
theorem follows {I : Stage → Prop} {p : Prog Op Ans α} (h : Uses allowed p)
    (keep : ∀ stage op, I stage → allowed op → P.allows stage op ∧
      ∀ answer stage', P.moves stage op answer stage' → I stage')
    {stage : Stage} (hstage : I stage) : Follows P (fun stage _ => I stage) stage p := by
  induction p generalizing stage with
  | done value => exact hstage
  | call op next ih =>
    obtain ⟨hallows, hmoves⟩ := keep stage op hstage h.1
    exact ⟨hallows, fun answer stage' hm => ih answer (h.2 answer) (hmoves answer stage' hm)⟩

theorem triple {I : Stage → Prop} {x : ExceptT ε (Prog Op Ans) α} (h : Uses allowed x.run)
    (keep : ∀ stage op, I stage → allowed op → P.allows stage op ∧
      ∀ answer stage', P.moves stage op answer stage' → I stage')
    {stage : Stage} (hstage : I stage) :
    Triple P stage x (fun stage _ => I stage) (fun stage _ => I stage) := by
  apply Follows.mono (h.follows keep hstage)
  intro stage' result hresult
  cases result with
  | ok value => exact hresult
  | error error => exact hresult

theorem bindProg {p : Prog Op Ans α} {f : α → Prog Op Ans β} (h : Uses allowed p)
    (hf : ∀ value, Uses allowed (f value)) : Uses allowed (p >>= f) := by
  induction p with
  | done value => exact hf value
  | call op next ih => exact ⟨h.1, fun answer => ih answer (h.2 answer)⟩

theorem pure (value : α) :
    Uses allowed (Pure.pure value : ExceptT ε (Prog Op Ans) α).run := trivial

theorem throw (error : ε) :
    Uses allowed (MonadExcept.throw error : ExceptT ε (Prog Op Ans) α).run := trivial

theorem bind {x : ExceptT ε (Prog Op Ans) α} {f : α → ExceptT ε (Prog Op Ans) β}
    (h : Uses allowed x.run) (hf : ∀ value, Uses allowed (f value).run) :
    Uses allowed (x >>= f).run := by
  apply bindProg h
  intro result
  cases result with
  | ok value => exact hf value
  | error error => trivial

theorem tryCatch {x : ExceptT ε (Prog Op Ans) α} {handler : ε → ExceptT ε (Prog Op Ans) α}
    (h : Uses allowed x.run) (hh : ∀ error, Uses allowed (handler error).run) :
    Uses allowed (MonadExcept.tryCatch x handler).run := by
  apply bindProg h
  intro result
  cases result with
  | ok value => trivial
  | error error => exact hh error

theorem attempt {x : ExceptT ε (Prog Op Ans) α} (h : Uses allowed x.run) :
    Uses allowed (attempt x).run := bindProg h fun _ => trivial

theorem finallyDo {x : ExceptT ε (Prog Op Ans) α} {cleanup : ExceptT ε (Prog Op Ans) PUnit}
    (h : Uses allowed x.run) (hc : Uses allowed cleanup.run) :
    Uses allowed (finallyDo x cleanup).run :=
  bind (attempt h) fun _ => bind hc fun _ => trivial

end Uses

end Shared.Programs
