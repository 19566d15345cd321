import OresLocks.BeamScale.RustMoves
import OresLocks.BeamScale.TsMoves

/-!
# Token custody of both adapters
-/

namespace OresLocks.BeamScale

set_option autoImplicit false

/-- The calls interleave in any order and the transports answer anything; the authority does
not share a sequence number between two full tokens of a key. -/
theorem tokens_in_custody :
    (∀ (inputs : List Input) (s : State), Runs opened inputs s → Consistent s.log →
      Custody s.log) ∧
    (∀ (inputs : List Ts.BeamScale.Input) (s : Ts.BeamScale.State),
      Ts.BeamScale.Runs Ts.BeamScale.opened inputs s → Consistent s.log → Custody s.log) := by
  constructor
  · intro inputs s hrun hconsistent
    exact (kept_of_exec moves_of_step core_opened hrun).custody hconsistent
  · intro inputs s hrun hconsistent
    exact (kept_of_exec Ts.BeamScale.moves_of_step rfl hrun).custody hconsistent

section Sample

def sampleToken : Token := ⟨2, 5, 9⟩

def sampleGrant : LeaseGrant := ⟨⟨"orders", orders_admitted⟩, "worker", 9, some 8000, 60000⟩

def sampleInputs : Inputs :=
  ⟨⟨"orders", orders_admitted⟩, ⟨60 * 10 ^ 9, 0, 0, some "worker", none⟩, "", "request", false⟩

/-- An acquisition whose first answer is lost, a renewal that is refused, another renewal, the
same grant again and its release. -/
def sampleRun : List Input :=
  [.acquire 0 sampleInputs, .acquireAnswered 0 (.error "reset") 0,
    .acquireAnswered 0 (.ok (.acquired ⟨sampleToken, 8000⟩)) 0,
    .renew 1 sampleGrant (10 ^ 9), .renewAnswered 1 (.ok .lost), .renew 2 sampleGrant (10 ^ 9),
    .acquire 3 sampleInputs, .acquireAnswered 3 (.ok (.acquired ⟨sampleToken, 8000⟩)) 0,
    .release 4 sampleGrant, .releaseAnswered 4 (.ok true)]

def fetchInputs : Ts.BeamScale.Inputs :=
  ⟨Ts.js "orders", ⟨.ofInt 60000, .ofInt 0, .ofInt 0, some (Ts.js "worker"), none⟩, [],
    Ts.js "request", false, 0⟩

def fetchGrant : Ts.BeamScale.LeaseGrant :=
  ⟨Ts.js "orders", Ts.js "worker", 9, some (.ofInt 8000), .ofInt 60000⟩

/-- The text is read as an object with these members. -/
def objectBody (members : List (String × Ts.Fiducia.Json)) :
    Except Ts.BeamScale.Rejection Ts.BeamScale.Body :=
  .ok ⟨Ts.js "\x7b\x7d", .ok (.object (members.map fun entry => (Ts.js entry.1, entry.2))), .ok []⟩

def acquiredBody : Except Ts.BeamScale.Rejection Ts.BeamScale.Body :=
  objectBody [("ok", .boolean true), ("expires_at_ms", .number (.ofInt 8000)),
    ("token", .object [(Ts.js "runtime_epoch", .number (.ofInt 2)),
      (Ts.js "owner_epoch", .number (.ofInt 5)), (Ts.js "sequence", .number (.ofInt 9))])]

def staleBody : Except Ts.BeamScale.Rejection Ts.BeamScale.Body :=
  objectBody [("error_code", .string (Ts.js "stale_or_not_owner"))]

/-- The same calls over `fetch`. -/
def fetchRun : List Ts.BeamScale.Input :=
  [.acquire 0 fetchInputs, .fetched 0 (.error .undefined), .fetched 0 (.ok 200),
    .read 0 acquiredBody 0, .renew 1 fetchGrant (.ofInt 1000), .fetched 1 (.ok 409),
    .read 1 staleBody 0, .renew 2 fetchGrant (.ofInt 1000), .acquire 3 fetchInputs,
    .fetched 3 (.ok 200), .read 3 acquiredBody 0, .release 4 fetchGrant, .fetched 4 (.ok 200),
    .read 4 (objectBody [("ok", .boolean true)]) 0]

def sampleLog {κ : Type} (text : String → κ) : List (Event κ) :=
  let identity : Identity κ := ⟨text "orders", text "worker", text "request"⟩
  let name : Name κ := ⟨text "orders", text "worker", 9⟩
  [.acquireSent 0 identity, .acquireFailed 0, .acquireSent 0 identity,
    .acquired 0 identity sampleToken, .renewSent 1 name sampleToken,
    .renewAnswered 1 name sampleToken .lost, .acquireSent 3 identity,
    .acquired 3 identity sampleToken, .releaseSent 4 name sampleToken, .released 4 name]

theorem sampleLog_consistent {κ : Type} (text : String → κ) : Consistent (sampleLog text) := by
  intro call call' identity identity' token token' h h' _ _
  simp only [sampleLog, List.mem_cons, Event.acquired.injEq, reduceCtorEq, false_or,
    List.not_mem_nil, or_false] at h h'
  rcases h with ⟨_, _, rfl⟩ | ⟨_, _, rfl⟩ <;> rcases h' with ⟨_, _, rfl⟩ | ⟨_, _, rfl⟩ <;> rfl

theorem sampleRun_logs : ∃ s, Runs opened sampleRun s ∧ s.log = sampleLog id :=
  ⟨_, Shared.Runs.Exec.of_foldlM rfl, rfl⟩

theorem fetchRun_logs :
    ∃ s, Ts.BeamScale.Runs Ts.BeamScale.opened fetchRun s ∧ s.log = sampleLog Ts.js :=
  ⟨_, Shared.Runs.Exec.of_foldlM rfl, rfl⟩

theorem sample_in_custody :
    (∃ s, Runs opened sampleRun s ∧ s.log = sampleLog id ∧ Custody s.log) ∧
    ∃ s, Ts.BeamScale.Runs Ts.BeamScale.opened fetchRun s ∧ s.log = sampleLog Ts.js ∧
      Custody s.log := by
  obtain ⟨s, hrun, hlog⟩ := sampleRun_logs
  obtain ⟨t, hrun', hlog'⟩ := fetchRun_logs
  refine ⟨⟨s, hrun, hlog, tokens_in_custody.1 sampleRun s hrun ?_⟩,
    ⟨t, hrun', hlog', tokens_in_custody.2 fetchRun t hrun' ?_⟩⟩
  · rw [hlog]
    exact sampleLog_consistent id
  · rw [hlog']
    exact sampleLog_consistent Ts.js

end Sample

end OresLocks.BeamScale
