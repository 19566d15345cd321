import OresLocks.Shared.Registry
import Mathlib.Logic.Relation

/-!
# Custody of full authority tokens

The full token of BeamScale is a runtime epoch, an owner epoch and a sequence number; a
grant shows its holder the sequence number only. An adapter keeps the full tokens under the
names of their grants. This is what it may do, whatever its language: a log of what it
sends and is told, the tokens it keeps, and how far each of its acquisitions has come.
-/

namespace OresLocks.BeamScale

set_option autoImplicit false

open Shared.Logs Shared.Registry

structure Token where
  runtimeEpoch : Nat
  ownerEpoch : Nat
  sequence : Nat
  deriving DecidableEq

variable {κ : Type}

/-- What one acquisition calls itself in its requests. -/
structure Identity (κ : Type) where
  key : κ
  holder : κ
  requestId : κ

/-- What a grant is known by. -/
structure Name (κ : Type) where
  key : κ
  holder : κ
  fencingToken : Int
  deriving DecidableEq

/-- The name of the grant that the token is handed out with. -/
def Identity.granted (identity : Identity κ) (token : Token) : Name κ :=
  ⟨identity.key, identity.holder, token.sequence⟩

/-- The answer to a renewal; the token it carries may be unreadable. -/
inductive Renewal where
  | lost
  | renewed (token : Option Token)
  deriving DecidableEq

inductive Event (κ : Type) where
  | acquireSent (call : Nat) (identity : Identity κ)
  | acquireFailed (call : Nat)
  | acquired (call : Nat) (identity : Identity κ) (token : Token)
  | renewSent (call : Nat) (name : Name κ) (token : Token)
  | renewAnswered (call : Nat) (name : Name κ) (sent : Token) (answer : Renewal)
  | releaseSent (call : Nat) (name : Name κ) (token : Token)
  | released (call : Nat) (name : Name κ)

namespace Event

/-- The full token a renewal or a release is sent with. -/
def carried : Event κ → Option (Name κ × Token)
  | .renewSent _ name token => some (name, token)
  | .releaseSent _ name token => some (name, token)
  | _ => none

/-- A renewal was answered lost or with another full token, or a release is complete. -/
def Ends (name : Name κ) : Event κ → Prop
  | .renewAnswered _ other sent answer => other = name ∧ answer ≠ .renewed (some sent)
  | .released _ other => other = name
  | _ => False

/-- The acquisition the event belongs to. -/
def acquirer : Event κ → Option Nat
  | .acquireSent call _ => some call
  | .acquireFailed call => some call
  | .acquired call _ _ => some call
  | _ => none

def isFailure (call : Nat) : Event κ → Bool
  | .acquireFailed other => other == call
  | _ => false

def effect : Event κ → Effect (Name κ) Token
  | .acquired _ identity token => .enter (identity.granted token) token
  | .renewSent _ name token => .use name token
  | .releaseSent _ name token => .use name token
  | .renewAnswered _ name sent answer =>
    if answer = .renewed (some sent) then .silent else .close name
  | .released _ name => .close name
  | _ => .silent

end Event

/-- The authority has not answered acquires of one key with two full tokens of one
sequence number. -/
def Consistent (log : List (Event κ)) : Prop :=
  ∀ call call' identity identity' token token',
    .acquired call identity token ∈ log → .acquired call' identity' token' ∈ log →
    identity.key = identity'.key → token.sequence = token'.sequence → token = token'

def Grants (log : List (Event κ)) (name : Name κ) (token : Token) : Prop :=
  ∃ call identity, .acquired call identity token ∈ log ∧ identity.granted token = name

/-- What the log of an adapter shows. -/
structure Custody (log : List (Event κ)) : Prop where
  exact_token : ∀ pre e post name token, log = pre ++ e :: post → e.carried = some (name, token) →
    Grants pre name token ∧ ∀ other, Grants log name other → other = token
  not_after_end : ∀ pre ending between e post name token,
    log = pre ++ ending :: between ++ e :: post → ending.Ends name →
    e.carried = some (name, token) → ∃ other, Grants between name other
  same_identity : ∀ call identity identity', .acquireSent call identity ∈ log →
    .acquireSent call identity' ∈ log → identity = identity'
  one_failure : ∀ pre e post call, log = pre ++ e :: post → e.acquirer = some call →
    pre.countP (Event.isFailure call) ≤ 1

/-- How far an acquisition has come, with the transport failures it went on after. -/
inductive Attempt (κ : Type) where
  | fresh
  | running (identity : Identity κ) (failures : Nat)
  | ended

structure Core (κ : Type) where
  tokens : Name κ → Option Token
  attempts : Nat → Attempt κ
  log : List (Event κ)

namespace Core

def opened : Core κ := ⟨fun _ => none, fun _ => .fresh, []⟩

def put (s : Core κ) (call : Nat) (attempt : Attempt κ) : Core κ :=
  { s with attempts := fun other => if other = call then attempt else s.attempts other }

def emit (s : Core κ) (e : Event κ) : Core κ := { s with log := s.log ++ [e] }

theorem put_eq_self {s : Core κ} {call : Nat} {attempt : Attempt κ}
    (h : s.attempts call = attempt) :
    s.put call attempt = s := by
  unfold put
  congr 1
  funext other
  split
  · subst other
    exact h.symm
  · rfl

end Core

/-- What an event makes of the call it belongs to. -/
inductive Advances (call : Nat) : Attempt κ → Event κ → Attempt κ → Prop where
  | first (identity : Identity κ) :
      Advances call .fresh (.acquireSent call identity) (.running identity 0)
  | again (identity : Identity κ) (failures : Nat) :
      Advances call (.running identity failures) (.acquireSent call identity)
        (.running identity failures)
  | retried (identity : Identity κ) :
      Advances call (.running identity 0) (.acquireFailed call) (.running identity 1)
  | failed (identity : Identity κ) (failures : Nat) :
      Advances call (.running identity failures) (.acquireFailed call) .ended
  | acquired (identity : Identity κ) (failures : Nat) (token : Token) :
      Advances call (.running identity failures) (.acquired call identity token) .ended
  | other (attempt : Attempt κ) (e : Event κ) (h : e.acquirer = none) :
      Advances call attempt e .ended

/-- One event of a call, or its end without one. -/
inductive Move (s : Core κ) : Core κ → Prop where
  | settle (call : Nat) (tokens : Name κ → Option Token)
      (fewer : ∀ name token, tokens name = some token → s.tokens name = some token) :
      Move s ({ s with tokens }.put call .ended)
  | record (call : Nat) (e : Event κ) (attempt : Attempt κ) (tokens : Name κ → Option Token)
      (admits : Admits s.tokens e.effect tokens)
      (advances : Advances call (s.attempts call) e attempt) :
      Move s (({ s with tokens }.put call attempt).emit e)

namespace Move

variable {s : Core κ} {name : Name κ} {token : Token} {e : Event κ}

/-- A call ends and says nothing. -/
theorem quiet (s : Core κ) (call : Nat) : Move s (s.put call .ended) :=
  .settle call s.tokens fun _ _ => id

/-- A renewal or a release is sent with the token that is kept. -/
theorem send (call : Nat) (he : e.effect = .use name token) (hacquirer : e.acquirer = none)
    (h : s.tokens name = some token) : Move s ((s.put call .ended).emit e) :=
  .record call e .ended s.tokens (he ▸ admits_use h) (.other _ e hacquirer)

/-- An event that leaves the tokens as they are. -/
theorem note (call : Nat) {attempt attempt' : Attempt κ} (h : s.attempts call = attempt)
    (advances : Advances call attempt e attempt') (he : e.effect = .silent) :
    Move s ((s.put call attempt').emit e) := by
  refine .record call e attempt' s.tokens ?_ (h ▸ advances)
  rw [he]
  exact admits_of_fewer (by simp) (fun _ _ => id) (fun _ => False.elim)

theorem grant [DecidableEq κ] {call : Nat} {identity : Identity κ} {failures : Nat}
    (h : s.attempts call = .running identity failures) (token : Token) :
    Move s (({ s with
      tokens := Function.update s.tokens (identity.granted token) (some token) }.put call .ended).emit
        (.acquired call identity token)) :=
  .record call _ .ended _ admits_enter (h ▸ .acquired identity failures token)

/-- A token is forgotten on an answer that allows no further use of it. -/
theorem forget [DecidableEq κ] (call : Nat) (he : e.effect = .close name ∨ e.effect = .silent)
    (hacquirer : e.acquirer = none) :
    Move s (({ s with tokens := Function.update s.tokens name none }.put call .ended).emit e) := by
  refine .record call e .ended _ ?_ (.other _ e hacquirer)
  apply admits_of_fewer
  · rcases he with he | he <;> simp [he]
  · intro other kept hkept
    by_cases hother : other = name
    · simp [hother] at hkept
    · rwa [Function.update_of_ne hother] at hkept
  · intro other hreplaces
    rcases he with he | he
    · rw [he] at hreplaces
      cases hreplaces
      exact Function.update_self ..
    · rw [he] at hreplaces
      exact hreplaces.elim

end Move

/-- What the log has recorded of a call. -/
def Attempt.Recorded (call : Nat) (log : List (Event κ)) : Attempt κ → Prop
  | .fresh => ∀ e ∈ log, e.acquirer ≠ some call
  | .running identity failures =>
    (∀ other, .acquireSent call other ∈ log → other = identity) ∧
      log.countP (Event.isFailure call) = failures ∧ failures ≤ 1
  | .ended => True

structure Kept (s : Core κ) : Prop where
  backed : Backed Event.effect s.log s.tokens
  inCustody : InCustody Event.effect s.log
  attempts : ∀ call, (s.attempts call).Recorded call s.log
  identities : ∀ call identity identity', .acquireSent call identity ∈ s.log →
    .acquireSent call identity' ∈ s.log → identity = identity'
  failures : ∀ call, BeforeEach (fun e => e.acquirer = some call)
    (fun pre => pre.countP (Event.isFailure call) ≤ 1) s.log

section Events

variable {e : Event κ} {name : Name κ} {token : Token} {call other : Nat}
  {attempt attempt' : Attempt κ} {log : List (Event κ)}

theorem Event.effect_of_carried (h : e.carried = some (name, token)) :
    e.effect = .use name token := by
  cases e with
  | renewSent | releaseSent =>
    cases h
    rfl
  | acquireSent | acquireFailed | acquired | renewAnswered | released => cases h

theorem Event.effect_of_ends (h : e.Ends name) : e.effect = .close name := by
  cases e with
  | renewAnswered call other sent answer =>
    obtain ⟨rfl, hanswer⟩ := h
    exact if_neg hanswer
  | released call other =>
    cases h
    rfl
  | acquireSent | acquireFailed | acquired | renewSent | releaseSent => exact h.elim

/-- A renewal that is answered with the token it was sent with changes nothing. -/
theorem Event.effect_of_kept (call : Nat) (name : Name κ) (token : Token) :
    (Event.renewAnswered call name token (.renewed (some token))).effect = .silent :=
  if_pos rfl

theorem Event.effect_of_answered (call : Nat) (name : Name κ) (sent : Token) (answer : Renewal) :
    (Event.renewAnswered call name sent answer).effect = .close name ∨
      (Event.renewAnswered call name sent answer).effect = .silent := by
  simp only [Event.effect]
  split
  · exact Or.inr rfl
  · exact Or.inl rfl

theorem grants_of_effect (hmem : e ∈ log) (h : e.effect = .enter name token) :
    Grants log name token := by
  cases e with
  | acquired call identity granted =>
    cases h
    exact ⟨call, identity, hmem, rfl⟩
  | renewAnswered call other sent answer =>
    simp only [Event.effect] at h
    split at h <;> cases h
  | acquireSent | acquireFailed | renewSent | releaseSent | released => cases h

theorem Event.not_failure (h : e.acquirer ≠ some call) : e.isFailure call = false := by
  cases e with
  | acquireFailed other => simpa [Event.isFailure, Event.acquirer] using h
  | acquireSent | acquired | renewSent | renewAnswered | releaseSent | released => rfl

theorem Advances.acquirer_eq (h : Advances call attempt e attempt')
    (hacquirer : e.acquirer = some other) : other = call := by
  cases h with
  | first | again | retried | failed | acquired =>
    cases hacquirer
    rfl
  | other _ _ hnone =>
    rw [hnone] at hacquirer
    cases hacquirer

end Events

section Steps

variable {s t : Core κ} {e : Event κ} {call other : Nat} {attempt attempt' : Attempt κ}
  {log : List (Event κ)}

/-- A call is not concerned by the events of others. -/
theorem Attempt.Recorded.concat (h : attempt.Recorded call log) (he : e.acquirer ≠ some call) :
    attempt.Recorded call (log ++ [e]) := by
  cases attempt with
  | fresh =>
    intro e' hmem
    rcases List.mem_append.mp hmem with hmem | hmem
    · exact h e' hmem
    · rw [List.mem_singleton.mp hmem]
      exact he
  | running identity failures =>
    obtain ⟨hsame, hcount, hfew⟩ := h
    refine ⟨?_, ?_, hfew⟩
    · intro other hmem
      rcases List.mem_append.mp hmem with hmem | hmem
      · exact hsame other hmem
      · rw [← List.mem_singleton.mp hmem] at he
        exact absurd rfl he
    · rw [List.countP_append, List.countP_singleton, Event.not_failure he, hcount]
      rfl
  | ended => exact trivial

/-- The first request of a call leaves no other identity in the log, and no failure. -/
theorem Attempt.Recorded.fresh (h : (Attempt.fresh : Attempt κ).Recorded call log) :
    (∀ identity, Event.acquireSent call identity ∉ log) ∧
      log.countP (Event.isFailure call) = 0 := by
  refine ⟨fun identity hmem => h _ hmem rfl, ?_⟩
  rw [List.countP_eq_zero]
  intro e hmem
  simp [Event.not_failure (h e hmem)]

theorem Advances.recorded (h : Advances call attempt e attempt')
    (hlog : attempt.Recorded call log) : attempt'.Recorded call (log ++ [e]) := by
  cases h with
  | first identity =>
    obtain ⟨hnone, hzero⟩ := hlog.fresh
    refine ⟨?_, ?_, by omega⟩
    · intro other hmem
      rcases List.mem_append.mp hmem with hmem | hmem
      · exact absurd hmem (hnone other)
      · cases List.mem_singleton.mp hmem
        rfl
    · rw [List.countP_append, hzero]
      rfl
  | again identity failures =>
    obtain ⟨hsame, hcount, hfew⟩ := hlog
    refine ⟨?_, ?_, hfew⟩
    · intro other hmem
      rcases List.mem_append.mp hmem with hmem | hmem
      · exact hsame other hmem
      · cases List.mem_singleton.mp hmem
        rfl
    · rw [List.countP_append, hcount]
      rfl
  | retried identity =>
    obtain ⟨hsame, hcount, _⟩ := hlog
    refine ⟨?_, ?_, by omega⟩
    · intro other hmem
      rcases List.mem_append.mp hmem with hmem | hmem
      · exact hsame other hmem
      · cases List.mem_singleton.mp hmem
    · rw [List.countP_append, hcount]
      simp [Event.isFailure]
  | failed | acquired | other => exact trivial

theorem Advances.failures_le (h : Advances call attempt e attempt')
    (hlog : attempt.Recorded call log) (he : e.acquirer = some call) :
    log.countP (Event.isFailure call) ≤ 1 := by
  cases h with
  | first =>
    rw [hlog.fresh.2]
    exact Nat.zero_le 1
  | again | retried | failed | acquired =>
    rw [hlog.2.1]
    exact hlog.2.2
  | other _ _ hnone =>
    rw [hnone] at he
    cases he

/-- A request calls itself what the earlier requests of its call did. -/
theorem Advances.identity_eq {identity earlier : Identity κ}
    (h : Advances call attempt (.acquireSent other identity) attempt')
    (hlog : attempt.Recorded call log) (hmem : .acquireSent other earlier ∈ log) :
    earlier = identity := by
  cases h with
  | first => exact absurd hmem (hlog.fresh.1 earlier)
  | again => exact hlog.1 earlier hmem
  | other _ _ hnone => cases hnone

theorem kept_opened : Kept (Core.opened : Core κ) where
  backed := backed_empty
  inCustody := inCustody_nil
  attempts := by simp [Core.opened, Attempt.Recorded]
  identities := by simp [Core.opened]
  failures _ := BeforeEach.of_forall_not (by simp [Core.opened])

theorem Kept.record {tokens : Name κ → Option Token} (h : Kept s)
    (admits : Admits s.tokens e.effect tokens)
    (advances : Advances call (s.attempts call) e attempt) :
    Kept (({ s with tokens }.put call attempt).emit e) where
  backed := h.backed.concat admits
  inCustody := h.inCustody.concat h.backed admits
  attempts := by
    intro other
    by_cases hother : other = call
    · subst other
      simpa [Core.emit, Core.put] using advances.recorded (h.attempts call)
    · have hforeign : e.acquirer ≠ some other := fun he => hother (advances.acquirer_eq he)
      simpa [Core.emit, Core.put, hother] using (h.attempts other).concat hforeign
  identities := by
    have hnew {other : Nat} {identity earlier : Identity κ} (he : e = .acquireSent other identity)
        (hmem : .acquireSent other earlier ∈ s.log) : earlier = identity := by
      subst e
      exact advances.identity_eq (h.attempts call) hmem
    intro other identity identity' hmem hmem'
    rcases List.mem_append.mp hmem with hmem | hmem <;>
      rcases List.mem_append.mp hmem' with hmem' | hmem'
    · exact h.identities other identity identity' hmem hmem'
    · exact hnew (List.mem_singleton.mp hmem').symm hmem
    · exact (hnew (List.mem_singleton.mp hmem).symm hmem').symm
    · cases (List.mem_singleton.mp hmem).trans (List.mem_singleton.mp hmem').symm
      rfl
  failures := by
    intro other
    apply (h.failures other).concat
    intro he
    obtain rfl := advances.acquirer_eq he
    exact advances.failures_le (h.attempts other) he

theorem Move.kept (hmove : Move s t) (h : Kept s) : Kept t := by
  cases hmove with
  | settle call tokens fewer =>
    refine ⟨h.backed.mono fewer, h.inCustody, ?_, h.identities, h.failures⟩
    intro other
    by_cases hother : other = call
    · simp [Core.put, hother, Attempt.Recorded]
    · simpa [Core.put, hother] using h.attempts other
  | record call e attempt tokens admits advances => exact h.record admits advances

theorem Kept.moves (h : Kept s) (hmoves : Relation.ReflTransGen Move s t) : Kept t := by
  induction hmoves with
  | refl => exact h
  | tail _ hmove ih => exact hmove.kept ih

/-- With a consistent authority, what an adapter sends is in custody. -/
theorem Kept.custody (h : Kept s) (hconsistent : Consistent s.log) : Custody s.log where
  exact_token := by
    intro pre e post name token hlog hcarried
    have hkept := h.inCustody
    rw [hlog] at hkept
    obtain ⟨x, hmem, henter⟩ := hkept.entered (Event.effect_of_carried hcarried)
    have hgrants := grants_of_effect hmem henter
    refine ⟨hgrants, ?_⟩
    rintro other ⟨call, identity, hother, rfl⟩
    obtain ⟨call', identity', htoken, hname⟩ := hgrants
    obtain ⟨hkey, _, hsequence⟩ := Name.mk.inj hname
    have hlogged : .acquired call' identity' token ∈ s.log := by
      rw [hlog]
      exact List.mem_append_left _ htoken
    exact (hconsistent call' call identity' identity token other hlogged hother hkey
      (Int.ofNat.inj hsequence)).symm
  not_after_end := by
    intro pre ending between e post name token hlog hends hcarried
    have hkept := h.inCustody
    rw [hlog] at hkept
    obtain ⟨x, hmem, henter⟩ :=
      hkept.reentered (Event.effect_of_ends hends) (Event.effect_of_carried hcarried)
    exact ⟨token, grants_of_effect hmem henter⟩
  same_identity := h.identities
  one_failure := fun pre e post call hlog he => h.failures call pre e post hlog he

end Steps

end OresLocks.BeamScale
