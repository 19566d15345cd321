import OresLocks.Shared.Programs

/-!
# What a program calls

The calls of a run with their answers, whatever the environment answers. `Shows` is a
postcondition on them and on the value that the program ends in.
-/

namespace Shared.Programs

set_option autoImplicit false

universe u v w

variable {Op : Type u} {Ans : Op → Type v} {α β ε : Type w}

/-- An operation with its answer. -/
abbrev Answered (Op : Type u) (Ans : Op → Type v) := (op : Op) × Ans op

/-- Every operation may be called and may be answered in every way. -/
def tracing : Protocol Op Ans (List (Answered Op Ans)) where
  allows _ _ := True
  moves calls op answer calls' := calls' = calls ++ [⟨op, answer⟩]

/-- A run whose first call is answered so. -/
theorem Ran.answered {op : Op} {next : Ans op → Prog Op Ans α}
    {calls final : List (Answered Op Ans)} {value : α} (answer : Ans op)
    (rest : Ran tracing (calls ++ [⟨op, answer⟩]) (next answer) final value) :
    Ran tracing calls (.call op next) final value := .call rfl rest

/-- Whatever is answered, the calls that the program adds and its value satisfy `post`. -/
def Shows (p : Prog Op Ans α) (post : List (Answered Op Ans) → α → Prop) : Prop :=
  ∀ calls,
    Follows tracing (fun calls' value => ∃ new, calls' = calls ++ new ∧ post new value) calls p

namespace Shows

variable {post : List (Answered Op Ans) → β → Prop}

theorem ran {p : Prog Op Ans β} (h : Shows p post) {calls : List (Answered Op Ans)} {value : β}
    (hran : Ran tracing [] p calls value) : post calls value := by
  obtain ⟨new, hnew, hpost⟩ := (h []).ran hran
  rw [List.nil_append] at hnew
  rw [hnew]
  exact hpost

theorem mono {p : Prog Op Ans β} {post' : List (Answered Op Ans) → β → Prop} (h : Shows p post')
    (hpost : ∀ new value, post' new value → post new value) : Shows p post := by
  intro calls
  apply (h calls).mono
  intro calls' value hvalue
  obtain ⟨new, hnew, hvalue⟩ := hvalue
  exact ⟨new, hnew, hpost new value hvalue⟩

theorem done {value : β} (h : post [] value) : Shows (.done value : Prog Op Ans β) post := by
  intro calls
  exact ⟨[], (List.append_nil calls).symm, h⟩

theorem call {op : Op} {next : Ans op → Prog Op Ans β}
    (h : ∀ answer, Shows (next answer) fun new value => post (⟨op, answer⟩ :: new) value) :
    Shows (.call op next) post := by
  intro calls
  refine ⟨trivial, ?_⟩
  intro answer calls' hmove
  cases hmove
  apply Follows.mono (h answer _)
  intro final value hvalue
  obtain ⟨new, hnew, hvalue⟩ := hvalue
  refine ⟨⟨op, answer⟩ :: new, ?_, hvalue⟩
  rw [hnew, List.append_assoc, List.singleton_append]

theorem bind {p : Prog Op Ans α} {f : α → Prog Op Ans β}
    (mid : List (Answered Op Ans) → α → Prop) (h : Shows p mid)
    (hf : ∀ new value, mid new value →
      Shows (f value) fun new' result => post (new ++ new') result) :
    Shows (p >>= f) post := by
  intro calls
  apply Follows.bind
  apply (h calls).mono
  intro calls' value hvalue
  obtain ⟨new, hnew, hvalue⟩ := hvalue
  apply (hf new value hvalue calls').mono
  intro final result hresult
  obtain ⟨new', hnew', hresult⟩ := hresult
  refine ⟨new ++ new', ?_, hresult⟩
  rw [hnew', hnew, List.append_assoc]

end Shows

section Throwing

variable {post : List (Answered Op Ans) → Except ε β → Prop}

theorem Shows.bindExcept {x : ExceptT ε (Prog Op Ans) α} {f : α → ExceptT ε (Prog Op Ans) β}
    (mid : List (Answered Op Ans) → Except ε α → Prop) (h : Shows x.run mid)
    (hok : ∀ new value, mid new (.ok value) →
      Shows (f value).run fun new' result => post (new ++ new') result)
    (herror : ∀ new error, mid new (.error error) → post new (.error error)) :
    Shows (x >>= f).run post := by
  apply Shows.bind _ h
  intro new result hresult
  cases result with
  | ok value => exact hok new value hresult
  | error error =>
    apply Shows.done
    rw [List.append_nil]
    exact herror new error hresult

theorem Shows.tryCatch {x : ExceptT ε (Prog Op Ans) β} {handler : ε → ExceptT ε (Prog Op Ans) β}
    (mid : List (Answered Op Ans) → Except ε β → Prop) (h : Shows x.run mid)
    (hok : ∀ new value, mid new (.ok value) → post new (.ok value))
    (herror : ∀ new error, mid new (.error error) →
      Shows (handler error).run fun new' result => post (new ++ new') result) :
    Shows (MonadExcept.tryCatch x handler).run post := by
  apply Shows.bind _ h
  intro new result hresult
  cases result with
  | ok value =>
    apply Shows.done
    rw [List.append_nil]
    exact hok new value hresult
  | error error => exact herror new error hresult

theorem Shows.lift {p : Prog Op Ans β} (h : Shows p fun new value => post new (.ok value)) :
    Shows (ExceptT.lift p : ExceptT ε (Prog Op Ans) β).run post := by
  apply Shows.bind _ h
  intro new value hvalue
  apply Shows.done
  rw [List.append_nil]
  exact hvalue

theorem Shows.attempt {x : ExceptT ε (Prog Op Ans) α}
    {post : List (Answered Op Ans) → Except ε (Except ε α) → Prop}
    (h : Shows x.run fun new result => post new (.ok result)) :
    Shows (Shared.Programs.attempt x).run post := Shows.lift h

/-- What follows on a caught result. -/
theorem Shows.bindAttempt {x : ExceptT ε (Prog Op Ans) α}
    {f : Except ε α → ExceptT ε (Prog Op Ans) β} (mid : List (Answered Op Ans) → Except ε α → Prop)
    (h : Shows x.run mid)
    (hf : ∀ new result, mid new result →
      Shows (f result).run fun new' final => post (new ++ new') final) :
    Shows (Shared.Programs.attempt x >>= f).run post := by
  apply Shows.bindExcept fun new result => ∃ inner, result = .ok inner ∧ mid new inner
  · apply Shows.attempt
    apply Shows.mono h
    intro new inner hinner
    exact ⟨inner, rfl, hinner⟩
  · intro new result hresult
    obtain ⟨_, heq, hmid⟩ := hresult
    cases heq
    exact hf new result hmid
  · intro new error hresult
    obtain ⟨_, heq, _⟩ := hresult
    cases heq

end Throwing

end Shared.Programs
