import OresLocks.Postgres.Fencing

/-!
# `try_advance_fence` is serializable in commit order

A transaction that has been given a decision owns the row until it ends, so the
watermark it decided against is still the committed one when it commits. The
committed row and all committed decisions are therefore those of `evaluate_fence`
applied to the committed requests one after the other.
-/

namespace OresLocks.Postgres.Fencing

set_option autoImplicit false

open Shared.Numeral Shared.RowLocks Shared.Runs Shared.Utf8 Fence

universe u

/-- The decision of the crate as the row the function returns. -/
def Decision.ofFence (decision : FenceDecision) : Decision where
  decision := match decision.kind with
    | .advanced => "advanced"
    | .replay => "replay"
    | .stale => "stale"
    | .tokenReuse => "token_reuse"
  shouldApply := decision.shouldApply
  incomingToken := decision.incomingToken.text
  currentToken := decision.currentToken.text
  previousToken := decision.previousToken.map FencingTokenText.text

def stored (w : FenceWatermark) : Watermark :=
  ⟨some w.tenantScope, some w.resourceKey.text, some w.fencingToken.value, some w.operationId,
    some w.payloadSha256, w.holder, w.leaseId⟩

/-- The decisions of `evaluate_fence` for requests that come one after the other. -/
def serialDecisions (current : Option FenceWatermark) :
    List FencedWriteRequest → List (Except FenceValidationError Decision)
  | [] => []
  | request :: rest =>
    (evaluateFence current request).map Decision.ofFence ::
      serialDecisions (advance current request) rest

def serialWatermark (requests : List FencedWriteRequest) : Option FenceWatermark :=
  requests.foldl advance none

def validated (r : FencedWriteRequest) : Validated :=
  ⟨r.tenantScope, r.resourceKey.text, r.fencingToken.text, r.fencingToken.value, r.operationId,
    r.payloadSha256, r.holder, r.leaseId⟩

section Validation

theorem octetsWithin_of_validate {field : Field} {value : String} {max : Nat}
    (h : validateNonEmpty field value max = .ok ()) : octetsWithin max value = true := by
  obtain ⟨hlow, hhigh⟩ := validateNonEmpty_iff.mp h
  simp [octetsWithin, hlow, hhigh]

theorem all_octets_of_validate {field : Field} {value : Option String}
    (h : validateOptional field value maxFenceMetadataBytes = .ok ()) :
    value.all (octetsWithin 256) = true := by
  cases value with
  | none => rfl
  | some value => exact octetsWithin_of_validate h

theorem matchesSha256_of_validate {value : String} (h : validateSha256 value = .ok ()) :
    matchesSha256 value = true := by
  unfold validateSha256 at h
  split at h
  · cases h
  · rename_i hok
    push Not at hok
    simp [matchesSha256, hok.1, hok.2]

theorem requireToken_text (token : FencingTokenText) :
    requireToken (some token.text) = .ok (token.text, token.value) := by
  have hrange := token.inRange
  have hmax : ¬ maxToken < token.value := by
    unfold maxToken
    omega
  have hlength : (numeral token.value : List UInt8).length ≤ 20 :=
    length_numeral_le (by decide) (by omega)
  simp [requireToken, matchesToken, token_text, isNumeral_numeral, hlength, hmax]

/-- The checks of the crate, by field. -/
theorem validate_fields {r : FencedWriteRequest} (h : r.validate = .ok ()) :
    octetsWithin 256 r.tenantScope = true ∧ octetsWithin 512 r.resourceKey.text = true ∧
    octetsWithin 128 r.operationId = true ∧ matchesSha256 r.payloadSha256 = true ∧
    r.holder.all (octetsWithin 256) = true ∧ r.leaseId.all (octetsWithin 256) = true := by
  obtain ⟨htenant, hresource, hop, hsha, hholder, hlease⟩ := checks_of_validate h
  exact ⟨octetsWithin_of_validate htenant, octetsWithin_of_validate hresource,
    octetsWithin_of_validate hop, matchesSha256_of_validate hsha, all_octets_of_validate hholder,
    all_octets_of_validate hlease⟩

/-- A valid request passes the checks of the function. -/
theorem validate_argumentsOf {r : FencedWriteRequest} (h : r.validate = .ok ()) :
    validate (argumentsOf r) = .ok (validated r) := by
  obtain ⟨htenant, hresource, hop, hsha, hholder, hlease⟩ := validate_fields h
  simp only [validate, argumentsOf, requireText, htenant, hresource, hop, requireToken_text,
    requireSha256, Option.filter_some, hsha, if_true, optionalText, hholder, hlease]
  rfl

theorem wellFormed_stored {w : FenceWatermark} (h : w.validate = .ok ()) :
    wellFormed (stored w) = some (w.fencingToken.value : Int) := by
  obtain ⟨htenant, hresource, hop, hsha, hholder, hlease⟩ := validate_fields h
  have hrange := w.fencingToken.inRange
  have hmax : (w.fencingToken.value : Int) ≤ maxToken := by
    unfold maxToken
    omega
  simp only at htenant hresource hop hsha hholder hlease
  simp [wellFormed, stored, htenant, hresource, hop, hsha, hholder, hlease, hmax]

end Validation

/-- A valid request for the protected resource. -/
structure For (tenantScope : String) (resourceKey : LockKey) (r : FencedWriteRequest) : Prop where
  valid : r.validate = .ok ()
  tenantScope : r.tenantScope = tenantScope
  resourceKey : r.resourceKey = resourceKey

/-- A valid watermark of the protected resource, or none. -/
def KeptFor (tenantScope : String) (resourceKey : LockKey) (current : Option FenceWatermark) :
    Prop :=
  ∀ w, current = some w → w.validate = .ok () ∧ w.tenantScope = tenantScope ∧
    w.resourceKey = resourceKey

section Decisions

variable {tenantScope : String} {resourceKey : LockKey} {r : FencedWriteRequest}
  {w : FenceWatermark} {current : Option FenceWatermark}

theorem advance_of_ok {decision : FenceDecision} (h : evaluateFence current r = .ok decision) :
    advance current r = if decision.shouldApply then some (.fromRequest r) else current := by
  simp [advance, h]

theorem KeptFor.advance (hk : KeptFor tenantScope resourceKey current)
    (hr : For tenantScope resourceKey r) :
    KeptFor tenantScope resourceKey (Fence.advance current r) := by
  intro w hw
  unfold Fence.advance at hw
  split at hw
  · split at hw
    · cases hw
      exact ⟨hr.valid, hr.tenantScope, hr.resourceKey⟩
    · exact hk w hw
  · exact hk w hw

/-- The decision of the function is the crate's, and the version it leaves is the
advanced watermark. -/
def Decided (current : Option FenceWatermark) (r : FencedWriteRequest) (decision : Decision)
    (version : Option Watermark) : Prop :=
  ∃ fence, evaluateFence current r = .ok fence ∧ decision = .ofFence fence ∧
    version = (advance current r).map stored

theorem decided_insert (hr : For tenantScope resourceKey r) :
    Decided none r (advanced (validated r) none) (some (inserted (validated r))) := by
  have heval := evaluateFence_first hr.valid
  refine ⟨_, heval, rfl, ?_⟩
  rw [advance_of_ok heval]
  rfl

theorem evaluateFence_kept (hk : KeptFor tenantScope resourceKey (some w))
    (hr : For tenantScope resourceKey r) :
    w.validate = .ok () ∧ w.tenantScope = r.tenantScope ∧ w.resourceKey = r.resourceKey := by
  obtain ⟨hvalid, htenant, hresource⟩ := hk w rfl
  exact ⟨hvalid, by rw [htenant, hr.tenantScope], by rw [hresource, hr.resourceKey]⟩

theorem decided_update (hk : KeptFor tenantScope resourceKey (some w))
    (hr : For tenantScope resourceKey r) (hlt : w.fencingToken.value < r.fencingToken.value) :
    Decided (some w) r (advanced (validated r) (some (toString (w.fencingToken.value : Int))))
      (some (updated (validated r) (stored w))) := by
  obtain ⟨hvalid, htenant, hresource⟩ := evaluateFence_kept hk hr
  have heval := evaluateFence_found hr.valid hvalid htenant hresource
  rw [Nat.compare_eq_gt.mpr hlt] at heval
  refine ⟨_, heval, ?_, ?_⟩
  · have htext : toString (w.fencingToken.value : Int) = w.fencingToken.text := by
      rw [w.fencingToken.canonical]
      rfl
    rw [htext]
    rfl
  · rw [advance_of_ok heval]
    simp only [if_true, Option.map_some, Option.some.injEq]
    simp [updated, stored, FenceWatermark.fromRequest, validated, htenant, hresource]

/-- A found row that is not below the request keeps its watermark. -/
theorem decided_kept (hk : KeptFor tenantScope resourceKey (some w))
    (hr : For tenantScope resourceKey r) (hle : r.fencingToken.value ≤ w.fencingToken.value) :
    ∃ decision, afterSelect (validated r) (some (stored w)) = .finish decision ∧
      Decided (some w) r decision (some (stored w)) := by
  obtain ⟨hvalid, htenant, hresource⟩ := evaluateFence_kept hk hr
  have heval := evaluateFence_found hr.valid hvalid htenant hresource
  have htext : toString (w.fencingToken.value : Int) = w.fencingToken.text := by
    rw [w.fencingToken.canonical]
    rfl
  have hnot : ¬ (w.fencingToken.value : Int) < (validated r).incoming := by
    change ¬ (w.fencingToken.value : Int) < (r.fencingToken.value : Int)
    omega
  have hkept : ∀ {fence : FenceDecision}, evaluateFence (some w) r = .ok fence →
      fence.shouldApply = false → some (stored w) = (advance (some w) r).map stored := by
    intro fence hf happly
    rw [advance_of_ok hf, happly]
    rfl
  simp only [afterSelect, wellFormed_stored hvalid, if_neg hnot]
  rcases lt_or_eq_of_le hle with hlt | heq
  · have hlt' : ((validated r).incoming : Int) < w.fencingToken.value := by
      change (r.fencingToken.value : Int) < w.fencingToken.value
      omega
    rw [Nat.compare_eq_lt.mpr hlt] at heval
    rw [if_pos hlt']
    refine ⟨_, rfl, _, heval, ?_, hkept heval rfl⟩
    rw [kept, htext]
    rfl
  · have hnlt : ¬ ((validated r).incoming : Int) < w.fencingToken.value := by
      change ¬ (r.fencingToken.value : Int) < w.fencingToken.value
      omega
    rw [Nat.compare_eq_eq.mpr heq] at heval
    rw [if_neg hnlt]
    have hsame : ((stored w).operationId = some (validated r).operationId ∧
        (stored w).payloadSha256 = some (validated r).payloadSha256) ↔
        (w.operationId = r.operationId ∧ w.payloadSha256 = r.payloadSha256) := by
      simp [stored, validated]
    simp only [hsame]
    split
    · rename_i hid
      simp only [if_pos hid] at heval
      refine ⟨_, rfl, _, heval, ?_, hkept heval rfl⟩
      rw [kept, htext]
      rfl
    · rename_i hid
      simp only [if_neg hid] at heval
      refine ⟨_, rfl, _, heval, ?_, hkept heval rfl⟩
      rw [kept, htext]
      rfl

theorem afterSelect_lower (hk : KeptFor tenantScope resourceKey (some w))
    (hlt : w.fencingToken.value < r.fencingToken.value) :
    afterSelect (validated r) (some (stored w)) = .update (stored w) w.fencingToken.value := by
  have hlt' : (w.fencingToken.value : Int) < (validated r).incoming := by
    change (w.fencingToken.value : Int) < r.fencingToken.value
    omega
  simp only [afterSelect, wellFormed_stored (hk w rfl).1, if_pos hlt']

end Decisions

section Runs

variable {τ : Type u} {tenantScope : String} {resourceKey : LockKey}

/-- What holds of a transaction at each place of its call. It owns the row from the
moment it has found or inserted it. -/
def Holds (tenantScope : String) (resourceKey : LockKey) (current : Option FenceWatermark)
    (row : Row τ Watermark) (t : τ) : Txn → Prop
  | .ready => row.owner ≠ some t
  | .selecting r args => row.owner ≠ some t ∧ For tenantScope resourceKey r ∧ args = validated r
  | .inserting r args => row.owner ≠ some t ∧ For tenantScope resourceKey r ∧ args = validated r
  | .updating r args found token => row.owner = some t ∧ For tenantScope resourceKey r ∧
      args = validated r ∧ ∃ w, current = some w ∧ found = stored w ∧
        token = w.fencingToken.value ∧ w.fencingToken.value < r.fencingToken.value ∧
        row.working = some (stored w)
  | .returned r decision => row.owner = some t ∧ For tenantScope resourceKey r ∧
      Decided current r decision row.working
  | .failed => False
  | .ended => row.owner ≠ some t

/-- A transaction that does not own the row is not affected by what others do to it. -/
theorem Holds.of_not_owner {current current' : Option FenceWatermark} {row row' : Row τ Watermark}
    {t : τ} {txn : Txn} (h : Holds tenantScope resourceKey current row t txn)
    (hnot : row.owner ≠ some t) (hnot' : row'.owner ≠ some t) :
    Holds tenantScope resourceKey current' row' t txn := by
  cases txn with
  | ready | ended => exact hnot'
  | selecting r args => exact ⟨hnot', h.2⟩
  | inserting r args => exact ⟨hnot', h.2⟩
  | updating r args found token => exact absurd h.1 hnot
  | returned r decision => exact absurd h.1 hnot
  | failed => exact h.elim

def requests (ls : List (Label τ)) : List FencedWriteRequest := (commits ls).map Prod.fst

structure Inv (tenantScope : String) (resourceKey : LockKey) (ls : List (Label τ))
    (s : State τ) : Prop where
  kept : KeptFor tenantScope resourceKey (serialWatermark (requests ls))
  committed : s.row.committed = (serialWatermark (requests ls)).map stored
  decisions : (commits ls).map (fun c => .ok c.2) = serialDecisions none (requests ls)
  txns : ∀ t, Holds tenantScope resourceKey (serialWatermark (requests ls)) s.row t (s.txns t)

theorem serialDecisions_concat (current : Option FenceWatermark) (rs : List FencedWriteRequest)
    (r : FencedWriteRequest) :
    serialDecisions current (rs ++ [r]) = serialDecisions current rs ++
      [(evaluateFence (rs.foldl advance current) r).map Decision.ofFence] := by
  induction rs generalizing current with
  | nil => rfl
  | cons r' rs ih => simp only [List.cons_append, serialDecisions, ih, List.foldl_cons]

/-- Taking a row that is free for `t` concerns no other transaction. -/
theorem others_of_take {t : τ} {row : Row τ Watermark} {version : Watermark} (ha : row.Available t) :
    ∀ t', t' ≠ t → row.take t version = row ∨
      (row.owner ≠ some t' ∧ (row.take t version).owner ≠ some t') := by
  intro t' hne
  exact Or.inr ⟨Row.owner_of_available ha hne, by simp [Ne.symm hne]⟩

variable [DecidableEq τ] {t : τ}

theorem Inv.put {ls : List (Label τ)} {l : Label τ} {s : State τ} {txn : Txn}
    {row : Row τ Watermark} (h : Inv tenantScope resourceKey ls s) (hl : l.committed = none)
    (hcommitted : row.committed = s.row.committed)
    (hself : Holds tenantScope resourceKey (serialWatermark (requests ls)) row t txn)
    (hothers : ∀ t', t' ≠ t → row = s.row ∨ (s.row.owner ≠ some t' ∧ row.owner ≠ some t')) :
    Inv tenantScope resourceKey (ls ++ [l]) (s.put t txn row) := by
  have hcommits : commits (ls ++ [l]) = commits ls := by simp [commits, hl]
  have hrequests : requests (ls ++ [l]) = requests ls := by rw [requests, hcommits, requests]
  refine ⟨?_, ?_, ?_, ?_⟩
  · rw [hrequests]
    exact h.kept
  · rw [hrequests, State.put, hcommitted]
    exact h.committed
  · rw [hrequests, hcommits]
    exact h.decisions
  · intro t'
    rw [hrequests]
    simp only [State.put]
    split
    · rename_i heq
      subst heq
      exact hself
    · rename_i hne
      rcases hothers t' hne with hrow | ⟨hnot, hnot'⟩
      · rw [hrow]
        exact h.txns t'
      · exact (h.txns t').of_not_owner hnot hnot'

theorem Inv.select {ls : List (Label τ)} {s : State τ} {r : FencedWriteRequest} {args : Validated}
    {found : Option Watermark} {row : Row τ Watermark} (h : Inv tenantScope resourceKey ls s)
    (ht : s.txns t = .selecting r args) (hselect : s.row.selectForUpdate t = some (found, row)) :
    Inv tenantScope resourceKey (ls ++ [.select t])
      (s.put t (.afterSelect r args (afterSelect args found)) row) := by
  have hself := h.txns t
  rw [ht] at hself
  obtain ⟨hnot, hfor, rfl⟩ := hself
  rcases Row.selectForUpdate_cases hselect with ⟨rfl, _, rfl⟩ | ⟨version, rfl, hv, ha, rfl⟩
  · apply h.put rfl rfl
    · exact ⟨hnot, hfor, rfl⟩
    · intro t' _
      exact Or.inl rfl
  · rw [Row.visible_other hnot, h.committed] at hv
    obtain ⟨w, hw, rfl⟩ := Option.map_eq_some_iff.mp hv
    have hkept := h.kept
    rw [hw] at hkept
    refine h.put rfl rfl ?_ (others_of_take ha)
    rw [hw]
    rcases lt_or_ge w.fencingToken.value r.fencingToken.value with hlt | hle
    · rw [afterSelect_lower hkept hlt]
      exact ⟨rfl, hfor, rfl, w, rfl, rfl, rfl, hlt, rfl⟩
    · obtain ⟨decision, hafter, hdecided⟩ := decided_kept hkept hfor hle
      rw [hafter]
      exact ⟨rfl, hfor, hdecided⟩

theorem Inv.inserts {ls : List (Label τ)} {s : State τ} {r : FencedWriteRequest} {args : Validated}
    {row : Row τ Watermark} (h : Inv tenantScope resourceKey ls s)
    (ht : s.txns t = .inserting r args)
    (hinsert : s.row.insertOrNothing t (inserted args) = some (true, row)) :
    Inv tenantScope resourceKey (ls ++ [.insert t])
      (s.put t (.returned r (advanced args none)) row) := by
  have hself := h.txns t
  rw [ht] at hself
  obtain ⟨hnot, hfor, rfl⟩ := hself
  rcases Row.insertOrNothing_cases hinsert with ⟨hfalse, _⟩ | ⟨_, hv, ha, rfl⟩
  · cases hfalse
  · rw [Row.visible_other hnot, h.committed, Option.map_eq_none_iff] at hv
    refine h.put rfl rfl ?_ (others_of_take ha)
    rw [hv]
    exact ⟨rfl, hfor, decided_insert hfor⟩

theorem Inv.update {ls : List (Label τ)} {s : State τ} {r : FencedWriteRequest} {args : Validated}
    {current : Watermark} {token : Int} {row : Row τ Watermark}
    (h : Inv tenantScope resourceKey ls s) (ht : s.txns t = .updating r args current token)
    (hupdate : s.row.update t (updated args current) = some row) :
    Inv tenantScope resourceKey (ls ++ [.update t])
      (s.put t (.returned r (advanced args (some (toString token)))) row) := by
  have hself := h.txns t
  rw [ht] at hself
  obtain ⟨howner, hfor, rfl, w, hw, rfl, rfl, hlt, hwork⟩ := hself
  have ha : s.row.Available t := Or.inr howner
  have hrow : row = s.row.take t (updated (validated r) (stored w)) := by
    rw [Row.update, Row.visible_owner howner, hwork] at hupdate
    simp only [if_pos ha, Option.some.injEq] at hupdate
    exact hupdate.symm
  subst hrow
  have hkept := h.kept
  rw [hw] at hkept
  refine h.put rfl rfl ?_ (others_of_take ha)
  rw [hw]
  exact ⟨rfl, hfor, decided_update hkept hfor hlt⟩

theorem Inv.commit {ls : List (Label τ)} {s : State τ} {r : FencedWriteRequest}
    {decision : Decision} (h : Inv tenantScope resourceKey ls s)
    (ht : s.txns t = .returned r decision) :
    Inv tenantScope resourceKey (ls ++ [.commit t r decision])
      (s.put t .ended (s.row.commit t)) := by
  have hself := h.txns t
  rw [ht] at hself
  obtain ⟨howner, hfor, fence, heval, hdecision, hwork⟩ := hself
  have hcommits : commits (ls ++ [.commit t r decision]) = commits ls ++ [(r, decision)] := by
    simp [commits, Label.committed]
  have hrequests : requests (ls ++ [.commit t r decision]) = requests ls ++ [r] := by
    simp [requests, hcommits]
  have hwatermark : serialWatermark (requests ls ++ [r]) =
      advance (serialWatermark (requests ls)) r := by
    simp [serialWatermark]
  refine ⟨?_, ?_, ?_, ?_⟩
  · rw [hrequests, hwatermark]
    exact h.kept.advance hfor
  · rw [hrequests, hwatermark, State.put, Row.commit_owner howner, ← hwork]
    rfl
  · rw [hrequests, hcommits, List.map_append, h.decisions, serialDecisions_concat]
    change _ = _ ++ [(evaluateFence (serialWatermark (requests ls)) r).map Decision.ofFence]
    rw [heval, hdecision]
    rfl
  · intro t'
    simp only [State.put, Row.commit_owner howner]
    split
    · simp [Holds, Row.stored]
    · rename_i hne
      apply (h.txns t').of_not_owner
      · rw [howner]
        simpa using Ne.symm hne
      · simp [Row.stored]

theorem Inv.rollback {ls : List (Label τ)} {s : State τ} (h : Inv tenantScope resourceKey ls s) :
    Inv tenantScope resourceKey (ls ++ [.rollback t]) (s.put t .ended (s.row.rollback t)) := by
  apply h.put rfl (Row.rollback_committed t s.row)
  · by_cases howner : s.row.owner = some t
    · simp [Holds, Row.rollback_owner howner, Row.stored]
    · simpa [Holds, Row.rollback_other howner] using howner
  · intro t' hne
    by_cases howner : s.row.owner = some t
    · right
      rw [Row.rollback_owner howner, howner]
      exact ⟨by simpa using Ne.symm hne, by simp [Row.stored]⟩
    · exact Or.inl (Row.rollback_other howner)

theorem Step.inv {ls : List (Label τ)} {l : Label τ} {s s' : State τ}
    (h : Inv tenantScope resourceKey ls s)
    (hcall : ∀ t r, l = .call t r → For tenantScope resourceKey r) (hs : Step s l s') :
    Inv tenantScope resourceKey (ls ++ [l]) s' := by
  cases hs with
  | call t r args ht hvalid =>
    have hfor := hcall t r rfl
    have hself := h.txns t
    rw [ht] at hself
    rw [validate_argumentsOf hfor.valid] at hvalid
    cases hvalid
    refine h.put rfl rfl ⟨hself, hfor, rfl⟩ ?_
    intro t' _
    exact Or.inl rfl
  | callRaises t r raised ht hinvalid =>
    rw [validate_argumentsOf (hcall t r rfl).valid] at hinvalid
    cases hinvalid
  | select t r args found row ht hselect => exact h.select ht hselect
  | inserts t r args row ht hinsert => exact h.inserts ht hinsert
  | insertConflicts t r args row ht hinsert =>
    have hself := h.txns t
    rw [ht] at hself
    rcases Row.insertOrNothing_cases hinsert with ⟨_, rfl⟩ | ⟨htrue, _⟩
    · refine h.put rfl rfl hself ?_
      intro t' _
      exact Or.inl rfl
    · cases htrue
  | update t r args current token row ht hupdate => exact h.update ht hupdate
  | commit t r decision ht => exact h.commit ht
  | rollback t ht => exact h.rollback

theorem inv_of_exec {ls : List (Label τ)} {s : State τ} (h : Exec Step start ls s)
    (hcalls : ∀ t r, .call t r ∈ ls → For tenantScope resourceKey r) :
    Inv tenantScope resourceKey ls s := by
  induction h with
  | nil =>
    refine ⟨?_, rfl, rfl, ?_⟩
    · intro w hw
      cases hw
    · intro t
      simp [start, Holds, Row.stored]
  | @snoc ls s l s' _ hs ih =>
    apply Step.inv (ih fun t r hr => hcalls t r (List.mem_append_left _ hr)) _ hs
    intro t r hl
    exact hcalls t r (by simp [hl])

end Runs

section Previous

variable {r : FencedWriteRequest} {fence : FenceDecision}

theorem validate_of_evaluateFence {current : Option FenceWatermark}
    (h : evaluateFence current r = .ok fence) : r.validate = .ok () := by
  cases hv : r.validate with
  | ok => rfl
  | error invalid => simp [evaluateFence, hv, bind, Except.bind] at h

theorem previousToken_of_some {w : FenceWatermark} (h : evaluateFence (some w) r = .ok fence) :
    fence.previousToken = some w.fencingToken := by
  simp only [evaluateFence, bind, Except.bind] at h
  split at h
  · cases h
  split at h
  · cases h
  split at h
  · cases h
  · cases h
    rfl

theorem advance_some (w : FenceWatermark) (r : FencedWriteRequest) :
    ∃ w', advance (some w) r = some w' := by
  unfold advance
  split
  · split
    · exact ⟨_, rfl⟩
    · exact ⟨w, rfl⟩
  · exact ⟨w, rfl⟩

/-- Every decision against an existing watermark names a previous token. -/
theorem previousToken_of_serial (w : FenceWatermark) (cs : List (FencedWriteRequest × Decision))
    (h : cs.map (fun c => .ok c.2) = serialDecisions (some w) (cs.map Prod.fst)) :
    ∀ c ∈ cs, c.2.previousToken ≠ none := by
  induction cs generalizing w with
  | nil => simp
  | cons c cs ih =>
    simp only [List.map_cons, serialDecisions, List.cons.injEq] at h
    obtain ⟨hc, hcs⟩ := h
    obtain ⟨w', hw'⟩ := advance_some w c.1
    rw [hw'] at hcs
    intro c' hc'
    rcases List.mem_cons.mp hc' with rfl | hmem
    · cases heval : evaluateFence (some w) c'.1 with
      | error invalid => simp [heval, Except.map] at hc
      | ok fence =>
        rw [heval, Except.map, Except.ok.injEq] at hc
        rw [hc, Decision.ofFence, previousToken_of_some heval]
        simp
    · exact ih w' hcs c' hmem

/-- The first decision advances from no watermark. -/
theorem first_of_serial {c : FencedWriteRequest × Decision}
    {cs : List (FencedWriteRequest × Decision)}
    (h : (c :: cs).map (fun c => .ok c.2) = serialDecisions none ((c :: cs).map Prod.fst)) :
    c.2.decision = "advanced" ∧ c.2.previousToken = none ∧
      ∀ c' ∈ cs, c'.2.previousToken ≠ none := by
  simp only [List.map_cons, serialDecisions, List.cons.injEq] at h
  obtain ⟨hc, hcs⟩ := h
  cases heval : evaluateFence none c.1 with
  | error invalid => simp [heval, Except.map] at hc
  | ok fence =>
    rw [heval, Except.map, Except.ok.injEq] at hc
    have hadvance := advance_of_ok heval
    rw [evaluateFence_first (validate_of_evaluateFence heval)] at heval
    cases heval
    rw [hadvance] at hcs
    rw [hc]
    exact ⟨rfl, rfl, previousToken_of_serial _ cs hcs⟩

end Previous

/-- Serializability in commit order. In every interleaving of transactions that call the
function once for one resource, the decisions of those that commit are the decisions of
`evaluate_fence` applied one after the other in commit order, from no watermark on; the
committed row is what these leave, so a rolled back transaction has no effect; and of the
committed transactions exactly the first is told `advanced` with no previous token. -/
theorem try_advance_fence_serializable (τ : Type u) [DecidableEq τ] (tenantScope : String)
    (resourceKey : LockKey) (ls : List (Label τ)) (s : State τ) (h : Exec Step start ls s)
    (hcalls : ∀ t r, .call t r ∈ ls →
      r.validate = .ok () ∧ r.tenantScope = tenantScope ∧ r.resourceKey = resourceKey) :
    (commits ls).map (fun c => .ok c.2) = serialDecisions none ((commits ls).map Prod.fst) ∧
    s.row.committed = (serialWatermark ((commits ls).map Prod.fst)).map stored ∧
    (∀ t s', Step s (.rollback t) s' → s'.row.committed = s.row.committed) ∧
    (commits ls = [] ∨ ∃ first rest, commits ls = first :: rest ∧
      first.2.decision = "advanced" ∧ first.2.previousToken = none ∧
      ∀ c ∈ rest, c.2.previousToken ≠ none) := by
  have hfor : ∀ t r, .call t r ∈ ls → For tenantScope resourceKey r := by
    intro t r hr
    obtain ⟨hvalid, htenant, hresource⟩ := hcalls t r hr
    exact ⟨hvalid, htenant, hresource⟩
  have hinv := inv_of_exec h hfor
  have hserial := hinv.decisions
  unfold requests at hserial
  refine ⟨hserial, hinv.committed, ?_, ?_⟩
  · intro t s' hs
    cases hs with
    | rollback _ ht => exact Row.rollback_committed t s.row
  · cases hcommits : commits ls with
    | nil => exact Or.inl rfl
    | cons first rest =>
      rw [hcommits] at hserial
      obtain ⟨hadvanced, hprevious, hrest⟩ := first_of_serial hserial
      exact Or.inr ⟨first, rest, rfl, hadvanced, hprevious, hrest⟩

/-- A well formed watermark is decided on or updated. -/
theorem afterSelect_stored (args : Validated) {w : FenceWatermark} (h : w.validate = .ok ()) :
    (∃ current token, afterSelect args (some (stored w)) = .update current token) ∨
      ∃ decision, afterSelect args (some (stored w)) = .finish decision := by
  unfold afterSelect
  simp only [wellFormed_stored h]
  split
  · exact .inl ⟨_, _, rfl⟩
  split
  · exact .inr ⟨_, rfl⟩
  split
  · exact .inr ⟨_, rfl⟩
  · exact .inr ⟨_, rfl⟩

/-- On a row that nobody owns a call needs no other transaction to get its decision. -/
theorem decided_alone {τ : Type u} [DecidableEq τ] {tenantScope : String} {resourceKey : LockKey}
    {ls : List (Label τ)} {s : State τ} {t : τ} {r : FencedWriteRequest}
    (h : Inv tenantScope resourceKey ls s) (hr : For tenantScope resourceKey r)
    (ht : s.txns t = .ready) (hfree : s.row.owner = none) :
    ∃ ls' s' decision, Exec Step s (.call t r :: ls') s' ∧ s'.txns t = .returned r decision := by
  have hvalid := validate_argumentsOf hr.valid
  have hother : s.row.owner ≠ some t := by simp [hfree]
  have hvisible : s.row.visible t = s.row.committed := Row.visible_other hother
  have havailable : s.row.Available t := Or.inl hfree
  have hput : ∀ (s : State τ) txn row, (s.put t txn row).txns t = txn :=
    fun _ _ _ => if_pos rfl
  have hcalled : Exec Step s [.call t r] _ := .single (.call t r _ ht hvalid)
  have hselecting := hput s (.selecting r (validated r)) s.row
  cases hcommitted : s.row.committed with
  | none =>
    rw [hcommitted] at hvisible
    have hselect : s.row.selectForUpdate t = some (none, s.row) := by
      unfold Row.selectForUpdate
      rw [hvisible]
    have hinsert : s.row.insertOrNothing t (inserted (validated r)) =
        some (true, s.row.take t (inserted (validated r))) := by
      unfold Row.insertOrNothing
      rw [hvisible]
      exact if_pos havailable
    have hselected := hcalled.snoc (.select t r _ none s.row hselecting hselect)
    have hinserted := hselected.snoc (.inserts t r _ _ (hput _ _ _) hinsert)
    exact ⟨_, _, _, hinserted, hput _ _ _⟩
  | some found =>
    rw [hcommitted] at hvisible
    obtain ⟨w, hw, hstored⟩ := Option.map_eq_some_iff.mp (h.committed.symm.trans hcommitted)
    subst hstored
    have hselect : s.row.selectForUpdate t = some (some (stored w), s.row.take t (stored w)) := by
      unfold Row.selectForUpdate
      rw [hvisible]
      exact if_pos havailable
    have hselected := hcalled.snoc (.select t r _ _ _ hselecting hselect)
    have hnext := hput (s.put t (.selecting r (validated r)) s.row)
      (.afterSelect r (validated r) (afterSelect (validated r) (some (stored w))))
      (s.row.take t (stored w))
    rcases afterSelect_stored (validated r) (h.kept w hw).1 with ⟨current, token, hafter⟩ |
      ⟨decision, hafter⟩
    · rw [hafter] at hnext hselected
      have hupdate : (s.row.take t (stored w)).update t (updated (validated r) current) =
          some ((s.row.take t (stored w)).take t (updated (validated r) current)) := by
        unfold Row.update
        rw [Row.visible_owner rfl]
        exact if_pos (Or.inr rfl)
      exact ⟨_, _, _, hselected.snoc (.update t r _ current token _ hnext hupdate), hput _ _ _⟩
    · rw [hafter] at hnext hselected
      exact ⟨_, _, decision, hselected, hnext⟩

theorem sampleToken_inRange : 7 < 2 ^ 64 := by decide

def sampleRequest : FencedWriteRequest where
  tenantScope := "acme"
  resourceKey := ⟨"jobs/rebuild", jobsRebuild_admitted⟩
  fencingToken := .fromU64 7 sampleToken_inRange
  operationId := "op-1"
  payloadSha256 := "0123456789abcdef0123456789abcdef0123456789abcdef0123456789abcdef"
  holder := none
  leaseId := none

def laterRequest : FencedWriteRequest :=
  { sampleRequest with fencingToken := .fromU64 9 (by decide), operationId := "op-2" }

/-- Both transactions find no row. The first inserts and commits, the second finds the
conflict, selects again and updates. -/
def sampleRace : List (Label Bool) :=
  [.call true sampleRequest, .call false laterRequest, .select true, .select false, .insert true,
    .commit true sampleRequest (advanced (validated sampleRequest) none),
    .insert false, .select false, .update false,
    .commit false laterRequest (advanced (validated laterRequest) (some (toString (7 : Int))))]

theorem sampleRace_exec : ∃ s, Exec Step start sampleRace s := by
  have hfirst : sampleRequest.validate = .ok () := by decide
  have hlater : laterRequest.validate = .ok () := by decide
  have hlower : afterSelect (validated laterRequest) (some (inserted (validated sampleRequest))) =
      .update (inserted (validated sampleRequest)) 7 := by decide
  have h₁ : Exec Step start [.call true sampleRequest] _ :=
    .single (.call true _ _ rfl (validate_argumentsOf hfirst))
  have h₂ := h₁.snoc (.call false laterRequest _ rfl (validate_argumentsOf hlater))
  have h₃ := h₂.snoc (.select true _ _ none _ rfl rfl)
  have h₄ := h₃.snoc (.select false _ _ none _ rfl rfl)
  have h₅ := h₄.snoc (.inserts true _ _ _ rfl rfl)
  have h₆ := h₅.snoc (.commit true sampleRequest _ rfl)
  have h₇ := h₆.snoc (.insertConflicts false _ _ _ rfl rfl)
  have h₈ := h₇.snoc (.select false _ _ (some (inserted (validated sampleRequest))) _ rfl rfl)
  rw [hlower] at h₈
  have h₉ := h₈.snoc (.update false laterRequest _ _ 7 _ rfl rfl)
  have h₁₀ := h₉.snoc (.commit false laterRequest _ rfl)
  exact ⟨_, h₁₀⟩

theorem sampleRace_serializable :
    ∃ s, Exec Step start sampleRace s ∧ (commits sampleRace).map (fun c => Except.ok c.2) =
      serialDecisions none ((commits sampleRace).map Prod.fst) := by
  obtain ⟨s, hs⟩ := sampleRace_exec
  refine ⟨s, hs, ?_⟩
  refine (try_advance_fence_serializable Bool "acme" sampleRequest.resourceKey sampleRace s hs ?_).1
  intro t r hr
  have hcases : r = sampleRequest ∨ r = laterRequest := by
    simp only [sampleRace, List.mem_cons, Label.call.injEq, reduceCtorEq, List.not_mem_nil,
      or_false] at hr
    rcases hr with ⟨_, h⟩ | ⟨_, h⟩
    · exact Or.inl h
    · exact Or.inr h
  rcases hcases with rfl | rfl
  · exact ⟨by decide, rfl, rfl⟩
  · exact ⟨by decide, rfl, rfl⟩

end OresLocks.Postgres.Fencing
