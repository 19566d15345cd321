import OresLocks.BeamScale.Rust

/-!
# The Rust adapter keeps custody

Every step of the adapter is at most two moves of the abstract one.
-/

namespace OresLocks.BeamScale

set_option autoImplicit false

open Relation

/-- The entries under the names of their grants. -/
def named (tokens : Tokens) (name : Name String) : Option Token :=
  match name.fencingToken with
  | .ofNat fencingToken => tokens ⟨name.key, name.holder, fencingToken⟩
  | .negSucc _ => none

def attempt : Option Call → Attempt String
  | none => .fresh
  | some (.acquiring inputs ambiguousRetries) => .running inputs.identity ambiguousRetries
  | some (.sleeping inputs ambiguousRetries) => .running inputs.identity ambiguousRetries
  | some _ => .ended

def view : View Tokens Call String := ⟨named, attempt⟩

/-! ## The map -/

section Tokens

variable {tokens : Tokens} {grant : LeaseGrant} {token : Token}

theorem named_insert (tokens : Tokens) (key holder : String) (fencingToken : Nat) (token : Token) :
    named (insert tokens ⟨key, holder, fencingToken⟩ token) =
      Function.update (named tokens) ⟨key, holder, fencingToken⟩ (some token) := by
  funext ⟨otherKey, otherHolder, number⟩
  cases number with
  | ofNat n =>
    by_cases h : (⟨otherKey, otherHolder, n⟩ : RegistryKey) = ⟨key, holder, fencingToken⟩
    · cases h
      simp [named, insert]
    · have hname : (⟨otherKey, otherHolder, .ofNat n⟩ : Name String) ≠
          ⟨key, holder, fencingToken⟩ := by
        simpa using h
      rw [Function.update_of_ne hname]
      simp [named, insert, h]
  | negSucc n =>
    rw [Function.update_of_ne (by simp)]
    rfl

theorem named_forget (tokens : Tokens) (grant : LeaseGrant) :
    named (forget tokens grant) = Function.update (named tokens) (grantName grant) none := by
  funext ⟨otherKey, otherHolder, number⟩
  cases number with
  | ofNat n =>
    by_cases h : (⟨otherKey, otherHolder, n⟩ : RegistryKey) = registryKey grant
    · cases h
      simp [named, forget, remove, registryKey, grantName]
    · have hname : (⟨otherKey, otherHolder, .ofNat n⟩ : Name String) ≠ grantName grant := by
        simpa [registryKey, grantName] using h
      rw [Function.update_of_ne hname]
      simp [named, forget, remove, h]
  | negSucc n =>
    rw [Function.update_of_ne (by simp [grantName])]
    rfl

theorem named_of_lookup (h : lookup tokens grant = .ok token) :
    named tokens (grantName grant) = some token := by
  unfold lookup at h
  split at h
  · cases h
    assumption
  · cases h

theorem named_of_remember {key : LockKey} {holder : String} {native : CriticalSectionGrant}
    {fencingToken : Nat} {remembered : Tokens}
    (h : remember tokens key holder native = .ok (fencingToken, remembered)) :
    named remembered = Function.update (named tokens)
      ⟨key.text, holder, native.token.sequence⟩ (some native.token) := by
  unfold remember at h
  split at h
  · cases h
  · cases h
    exact named_insert tokens key.text holder native.token.sequence native.token

end Tokens

/-! ## Steps -/

section Steps

variable {s t : State} {call : Nat} {inputs : Inputs} {ambiguousRetries : Nat} {grant : LeaseGrant}

theorem move_acquire (h : s.calls call = none) :
    Move (s.core view) ((State.acquire s call inputs).core view) := by
  unfold State.acquire
  split
  · exact view.quiet rfl
  · exact view.note (congrArg attempt h) (.first inputs.identity) rfl

theorem moves_contended (waited : Duration)
    (h : attempt (s.calls call) = .running inputs.identity ambiguousRetries) :
    ReflTransGen Move (s.core view)
      ((State.contended s call inputs ambiguousRetries waited).core view) := by
  unfold State.contended
  split
  · exact .single (view.quiet rfl)
  split
  · exact .single (view.quiet rfl)
  · exact view.waiting h

theorem moves_acquireAnswered (answer : Except String AcquireResult) (waited : Duration)
    (h : attempt (s.calls call) = .running inputs.identity ambiguousRetries) :
    ReflTransGen Move (s.core view)
      ((State.acquireAnswered s call inputs ambiguousRetries answer waited).core view) := by
  rcases answer with message | native | _ | _
  · simp only [State.acquireAnswered]
    split
    · subst ambiguousRetries
      exact view.retry h rfl
    · exact .single (view.fail h rfl)
  · simp only [State.acquireAnswered]
    split
    · exact .single (view.fail h rfl)
    · rename_i hremember
      exact .single (view.grant h rfl (named_of_remember hremember))
  · exact moves_contended waited h
  · exact .single (view.quiet rfl)

theorem move_renew (ttl : Duration) :
    Move (s.core view) ((State.renew s call grant ttl).core view) := by
  simp only [State.renew]
  split
  · exact view.quiet rfl
  split
  · exact view.quiet rfl
  · rename_i hlookup
    exact view.send rfl rfl rfl (named_of_lookup hlookup)

theorem move_release : Move (s.core view) ((State.release s call grant).core view) := by
  unfold State.release
  split
  · exact view.quiet rfl
  · rename_i hlookup
    exact view.send rfl rfl rfl (named_of_lookup hlookup)

theorem move_renewAnswered {ttlMs : Nat} {expected : Token} (answer : Except String RenewResult) :
    Move (s.core view) ((State.renewAnswered s call grant ttlMs expected answer).core view) := by
  rcases answer with message | native | _
  · exact view.quiet rfl
  · simp only [State.renewAnswered]
    split
    · exact view.forget rfl (Event.effect_of_answered ..) rfl (named_forget s.tokens grant)
    · rename_i hsame
      rw [not_or, not_not] at hsame
      rw [hsame.1]
      exact view.note rfl (.other _ _ rfl) (Event.effect_of_kept ..)
  · exact view.forget rfl (Event.effect_of_answered ..) rfl (named_forget s.tokens grant)

theorem move_releaseAnswered (answer : Except String Bool) :
    Move (s.core view) ((State.releaseAnswered s call grant answer).core view) := by
  cases answer with
  | error message => exact view.quiet rfl
  | ok released => exact view.forget rfl (Or.inl rfl) rfl (named_forget s.tokens grant)

theorem moves_of_step {input : Input} (h : State.step s input = some t) :
    ReflTransGen Move (s.core view) (t.core view) := by
  cases input with
  | acquire call inputs =>
    simp only [State.step] at h
    split at h <;> cases h
    rename_i hnone
    exact .single (move_acquire hnone)
  | renew call grant ttl =>
    simp only [State.step] at h
    split at h <;> cases h
    exact .single (move_renew ttl)
  | release call grant =>
    simp only [State.step] at h
    split at h <;> cases h
    exact .single move_release
  | acquireAnswered call answer waited =>
    simp only [State.step] at h
    split at h <;> cases h
    rename_i hcall
    exact moves_acquireAnswered answer waited (congrArg attempt hcall)
  | slept call =>
    simp only [State.step] at h
    split at h <;> cases h
    rename_i hcall
    exact .single (view.again (congrArg attempt hcall) rfl)
  | renewAnswered call answer =>
    simp only [State.step] at h
    split at h <;> cases h
    exact .single (move_renewAnswered answer)
  | releaseAnswered call answer =>
    simp only [State.step] at h
    split at h <;> cases h
    exact .single (move_releaseAnswered answer)

end Steps

theorem core_opened : opened.core view = Core.opened := by
  unfold Adapter.core Core.opened
  congr 1
  funext ⟨_, _, number⟩
  cases number <;> rfl

end OresLocks.BeamScale
