import OresLocks.BeamScale.Ts

/-!
# The TypeScript adapter keeps custody

The map is keyed by a JSON text that tells the names of two grants apart. Every step of the
adapter is at most two moves of the abstract one.
-/

namespace OresLocks.Ts.BeamScale

set_option autoImplicit false

open Shared.Numeral Relation
open OresLocks.BeamScale

/-! ## Registry keys -/

theorem bigintText_injective : Function.Injective bigintText := by
  have hsign (m n : Nat) : (0x2d :: numeral m : JsString) ≠ numeral n := by
    intro h
    have hdigits := isDigits_numeral (α := UInt16) n
    rw [← h, isDigits_cons] at hdigits
    cases hdigits
  intro m n h
  unfold bigintText at h
  split_ifs at h with hm hn hn
  · have habs := numeral_injective (List.cons.inj h).2
    omega
  · exact absurd h (hsign _ _)
  · exact absurd h.symm (hsign _ _)
  · have habs := numeral_injective (List.nil_append _ ▸ List.nil_append _ ▸ h)
    omega

theorem tokenRegistryKey_inj {key holder key' holder' : JsString} {fencingToken fencingToken' : Int}
    (h : tokenRegistryKey key holder fencingToken = tokenRegistryKey key' holder' fencingToken') :
    key = key' ∧ holder = holder' ∧ fencingToken = fencingToken' := by
  have hparts := Shared.Json.writeArray_injective h
  simp only [List.cons.injEq, and_true] at hparts
  exact ⟨hparts.1, hparts.2.1, bigintText_injective hparts.2.2⟩

/-- The entries under the names of their grants. -/
def named (tokens : Tokens) (name : Name JsString) : Option Token :=
  tokens (tokenRegistryKey name.key name.holder name.fencingToken)

theorem registryKey_eq_iff (name : Name JsString) (key holder : JsString) (fencingToken : Int) :
    tokenRegistryKey name.key name.holder name.fencingToken =
      tokenRegistryKey key holder fencingToken ↔ name = ⟨key, holder, fencingToken⟩ := by
  constructor
  · intro h
    obtain ⟨rfl, rfl, rfl⟩ := tokenRegistryKey_inj h
    rfl
  · rintro rfl
    rfl

theorem named_set (tokens : Tokens) (key holder : JsString) (fencingToken : Int) (token : Token) :
    named (set tokens (tokenRegistryKey key holder fencingToken) token) =
      Function.update (named tokens) ⟨key, holder, fencingToken⟩ (some token) := by
  funext name
  simp only [named, set, registryKey_eq_iff]
  by_cases h : name = ⟨key, holder, fencingToken⟩
  · rw [if_pos h, h, Function.update_self]
  · rw [if_neg h, Function.update_of_ne h]
    rfl

theorem named_forget (tokens : Tokens) (grant : LeaseGrant) :
    named (forget tokens grant) = Function.update (named tokens) (grantName grant) none := by
  funext name
  simp only [named, forget, delete, registryKey_eq_iff]
  by_cases h : name = grantName grant
  · rw [h, Function.update_self]
    exact if_pos rfl
  · rw [Function.update_of_ne h]
    exact if_neg h

theorem named_of_lookup {tokens : Tokens} {grant : LeaseGrant} {token : Token}
    (h : lookup tokens grant = .ok token) : named tokens (grantName grant) = some token := by
  unfold lookup at h
  split at h
  · cases h
    assumption
  · cases h

theorem sameToken_iff (left right : Token) : sameToken left right = true ↔ left = right := by
  cases left
  cases right
  simp [sameToken, and_assoc]

/-! ## Steps -/

def attempt : Option Call → Attempt JsString
  | none => .fresh
  | some (.acquiring inputs ambiguousRetries _) => .running inputs.identity ambiguousRetries
  | some (.sleeping inputs ambiguousRetries) => .running inputs.identity ambiguousRetries
  | some _ => .ended

def view : View Tokens Call JsString := ⟨named, attempt⟩

section Steps

variable {s t : State} {call : Nat} {inputs : Inputs} {ambiguousRetries : Nat} {grant : LeaseGrant}

theorem moves_acquireThrown (rejection : Rejection)
    (h : attempt (s.calls call) = .running inputs.identity ambiguousRetries) :
    ReflTransGen Move (s.core view)
      ((State.acquireThrown s call inputs ambiguousRetries rejection).core view) := by
  simp only [State.acquireThrown]
  split
  · exact .single (view.fail h rfl)
  split
  · rename_i hretry
    obtain ⟨_, rfl⟩ := hretry
    exact view.retry h rfl
  · exact .single (view.fail h rfl)

theorem moves_contended (now : Int)
    (h : attempt (s.calls call) = .running inputs.identity ambiguousRetries) :
    ReflTransGen Move (s.core view)
      ((State.contended s call inputs ambiguousRetries now).core view) := by
  simp only [State.contended]
  split
  · exact .single (view.quiet rfl)
  split
  · exact .single (view.quiet rfl)
  · exact view.waiting h

theorem moves_acquireAnswered (answer : Answer) (now : Int)
    (h : attempt (s.calls call) = .running inputs.identity ambiguousRetries) :
    ReflTransGen Move (s.core view)
      ((State.acquireAnswered s call inputs ambiguousRetries answer now).core view) := by
  simp only [State.acquireAnswered]
  split
  · split
    · rename_i token leaseExpiresMs _ _
      exact .single (view.grant h rfl
        (named_set s.tokens inputs.key inputs.holder token.sequence token))
    · exact .single (view.fail h rfl)
  split
  · exact .single (view.quiet rfl)
  split
  · exact moves_contended now h
  · exact .single (view.fail h rfl)

theorem move_renew (ttlMs : JsNumber) :
    Move (s.core view) ((State.renew s call grant ttlMs).core view) := by
  unfold State.renew
  split
  · exact view.quiet rfl
  · rename_i hlookup
    exact view.send rfl rfl rfl (named_of_lookup hlookup)

theorem move_release : Move (s.core view) ((State.release s call grant).core view) := by
  unfold State.release
  split
  · exact view.quiet rfl
  · rename_i hlookup
    exact view.send rfl rfl rfl (named_of_lookup hlookup)

theorem move_renewAnswered {ttlMs : JsNumber} {token : Token} (answer : Answer) :
    Move (s.core view) ((State.renewAnswered s call grant ttlMs token answer).core view) := by
  have hforget := named_forget s.tokens grant
  simp only [State.renewAnswered]
  split
  · exact view.forget rfl (Event.effect_of_answered ..) rfl hforget
  split
  · exact view.quiet rfl
  split
  · rename_i renewedToken leaseExpiresMs htoken _
    split
    · rename_i hsame
      rw [htoken, (sameToken_iff token renewedToken).mp hsame]
      exact view.note rfl (.other _ _ rfl) (Event.effect_of_kept ..)
    · exact view.forget rfl (Event.effect_of_answered ..) rfl hforget
  · exact view.forget rfl (Event.effect_of_answered ..) rfl hforget

theorem move_releaseAnswered (answer : Answer) :
    Move (s.core view) ((State.releaseAnswered s call grant answer).core view) := by
  have hforget := named_forget s.tokens grant
  simp only [State.releaseAnswered]
  split
  · exact view.forget rfl (Or.inl rfl) rfl hforget
  split
  · exact view.quiet rfl
  · exact view.forget rfl (Or.inl rfl) rfl hforget

theorem moves_fetched {response : Except Thrown Nat} (h : State.fetched s call response = some t) :
    ReflTransGen Move (s.core view) (t.core view) := by
  unfold State.fetched at h
  split at h
  · rename_i hcall
    cases h
    apply view.waiting
    rw [hcall]
    rfl
  · rename_i hcall
    cases h
    exact moves_acquireThrown _ (congrArg attempt hcall)
  · rename_i hcall
    cases h
    apply view.waiting
    rw [hcall]
    rfl
  · cases h
    exact .single (view.quiet rfl)
  · rename_i hcall
    cases h
    apply view.waiting
    rw [hcall]
    rfl
  · cases h
    exact .single (view.quiet rfl)
  · cases h

theorem moves_read {body : Except Rejection Body} {now : Int}
    (h : State.read s call body now = some t) :
    ReflTransGen Move (s.core view) (t.core view) := by
  unfold State.read at h
  split at h
  · rename_i hcall
    split at h <;> cases h
    · exact moves_acquireThrown _ (congrArg attempt hcall)
    · exact moves_acquireAnswered _ now (congrArg attempt hcall)
  · split at h <;> cases h
    · exact .single (view.quiet rfl)
    · exact .single (move_renewAnswered _)
  · split at h <;> cases h
    · exact .single (view.quiet rfl)
    · exact .single (move_releaseAnswered _)
  · cases h

theorem moves_of_step {input : Input} (h : State.step s input = some t) :
    ReflTransGen Move (s.core view) (t.core view) := by
  cases input with
  | acquire call inputs =>
    simp only [State.step] at h
    split at h <;> cases h
    rename_i hnone
    exact .single (view.note (congrArg attempt hnone) (.first inputs.identity) rfl)
  | renew call grant ttlMs =>
    simp only [State.step] at h
    split at h <;> cases h
    exact .single (move_renew ttlMs)
  | release call grant =>
    simp only [State.step] at h
    split at h <;> cases h
    exact .single move_release
  | fetched call response => exact moves_fetched h
  | read call body now => exact moves_read h
  | slept call =>
    simp only [State.step] at h
    split at h <;> cases h
    rename_i hcall
    exact .single (view.again (congrArg attempt hcall) rfl)

end Steps

end OresLocks.Ts.BeamScale
