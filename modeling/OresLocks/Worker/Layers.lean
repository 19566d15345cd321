import OresLocks.Worker.Isolation

/-!
# The layers of validation, and the reading of a body

A body that the public boundary accepts is accepted by every layer behind it, over
either transport. How a body arrives in chunks has no part in what is read.
-/

namespace OresLocks.Worker

set_option autoImplicit false

open Shared.Numeral OresLocks.Authority Ts

variable {p : Platform} {env : Env}

/-! ## Behind the boundary -/

/-- The body that the public boundary forwards over `fetch`. -/
def withoutKey (members : Members) : Members := members.filter fun member => member.1 != js "key"

theorem field_withoutKey (members : Members) (name : JsString) (h : name ≠ js "key") :
    field (withoutKey members) name = field members name := by
  unfold field withoutKey
  congr 1
  induction members with
  | nil => rfl
  | cons member members ih =>
    rw [List.filter_cons, List.find?_cons]
    split
    · rw [List.find?_cons, ih]
    · rename_i hkey
      have hname : (member.1 == name) = false := by
        rw [Bool.not_eq_true, bne_eq_false_iff_eq] at hkey
        rw [hkey, beq_eq_false_iff_ne]
        exact h.symm
      rw [hname, ih]

theorem internalBody_withoutKey (path : Path) (members : Members) :
    internalBody path (withoutKey members) = internalBody path members := by
  have hholder := field_withoutKey members (js "holder") (by decide)
  have hrequest := field_withoutKey members (js "request_id") (by decide)
  have httl := field_withoutKey members (js "ttl_ms") (by decide)
  have htoken := field_withoutKey members (js "fencing_token") (by decide)
  cases path with
  | acquire => rw [internalBody, internalBody, hholder, hrequest, httl]
  | renew => rw [internalBody, internalBody, hholder, httl, htoken]
  | release => rw [internalBody, internalBody, hholder, htoken]

theorem mem_internalFields {path : Path} {name : JsString} (h : name ∈ publicFields path)
    (hkey : name ≠ js "key") : name ∈ internalFields path := by
  cases path with
  | _ => exact (List.mem_cons.mp h).resolve_left hkey

/-- What the public boundary accepts, the authority's own boundary accepts. -/
theorem validateInternal_withoutKey {path : Path} {members : Members}
    (h : validatePublicOperation path (.object members) = none) :
    validateInternalOperation path (.object (withoutKey members)) = none := by
  obtain ⟨_, _, hmembers, hclosed, _, _, hholder, hrequest, httl, htoken⟩ := validatePublic_ok h
  cases hmembers
  have honly : hasOnlyFields (withoutKey members) (internalFields path) = true := by
    unfold hasOnlyFields
    rw [List.all_eq_true]
    intro member hmember
    obtain ⟨hmem, hne⟩ := List.mem_filter.mp hmember
    exact List.contains_iff_mem.mpr (mem_internalFields (hclosed member hmem) (by simpa using hne))
  unfold validateInternalOperation validateOperation
  dsimp only
  rw [honly, Bool.false_and, field_withoutKey members (js "holder") (by decide),
    field_withoutKey members (js "request_id") (by decide),
    field_withoutKey members (js "ttl_ms") (by decide),
    field_withoutKey members (js "fencing_token") (by decide), hholder]
  rw [if_neg (by decide), if_neg (by decide), if_neg (by decide), if_neg, if_neg, if_neg]
  · rintro ⟨hpath, hnone⟩
    exact htoken hpath hnone
  · rintro ⟨hpath, hinvalid⟩
    rw [httl hpath] at hinvalid
    cases hinvalid
  · rintro ⟨hpath, hinvalid⟩
    rw [hrequest hpath] at hinvalid
    cases hinvalid

/-- A canonical token is its own canonical form. -/
theorem canonicalToken_canonical {token : JsValue} {text : JsString}
    (h : canonicalToken token = some text) : canonicalToken (.string text) = some text := by
  have hnumeral : ∀ n : Nat, n ≠ 0 → n ≤ maxPersistedFencingToken →
      canonicalToken (.string (numeral n)) = some (numeral n) := by
    intro n hpos hmax
    have hmatch : JsString.matchesPositiveDecimal (numeral n) = true := by
      rw [JsString.matchesPositiveDecimal_iff, natOf_numeral]
      exact ⟨isNumeral_numeral n, hpos⟩
    unfold canonicalToken
    simp only [hmatch, natOf_numeral, Bool.not_true, Bool.false_eq_true, if_false]
    rw [if_neg (by omega)]
  cases token with
  | number n =>
    unfold canonicalToken at h
    dsimp only at h
    split at h
    · cases h
    · rename_i hvalid
      cases h
      rw [Bool.or_eq_true, not_or, Bool.not_eq_true', Bool.not_eq_false, decide_eq_true_eq]
        at hvalid
      obtain ⟨hsafe, hpos⟩ := hvalid
      apply hnumeral
      · omega
      · cases n with
        | finite q =>
          have hbound : q.num.natAbs ≤ JsNumber.maxSafeInteger := by
            simp only [JsNumber.isSafeInteger, Bool.and_eq_true, decide_eq_true_eq] at hsafe
            exact hsafe.2
          unfold maxPersistedFencingToken
          unfold JsNumber.maxSafeInteger at hbound
          change q.num.toNat ≤ _
          omega
        | nan => cases hsafe
        | infinity negative => cases hsafe
  | string s =>
    unfold canonicalToken at h
    dsimp only at h
    split at h
    · cases h
    · rename_i hmatch
      split at h
      · cases h
      · rename_i hmax
        cases h
        rw [Bool.not_eq_true', Bool.not_eq_false, JsString.matchesPositiveDecimal_iff] at hmatch
        exact hnumeral _ hmatch.2 (by omega)
  | _ => cases h

theorem acquire_error {body : LeaseBody} {now : Int} {s : Storage} {error : AcquireError}
    (hholder : validHolder body.holder = true) (hrequest : validRequestId body.requestId = true)
    (httl : validTtl body.ttlMs = true) (h : (acquire body now s).1 = .error error) :
    error = .fencingTokenExhausted := by
  unfold acquire at h
  simp only [hholder, hrequest, httl, Bool.not_true, Bool.false_eq_true, if_false] at h
  rcases free_or_active s.row now with hfree | ⟨owner, expires, hh, he, hlt⟩
  · simp only [transactionSync, acquireTransaction_free hfree, acquireFresh] at h
    cases hn : nextToken s.row.nextToken with
    | ok token =>
      rw [hn] at h
      cases h
    | error fault =>
      rw [hn] at h
      cases fault with
      | corruptFencingCounter => cases h
      | fencingTokenExhausted =>
        cases h
        rfl
  · simp only [transactionSync, acquireTransaction_active hh he hlt] at h
    unfold acquireActive at h
    split at h
    · cases h
    split at h
    · cases h
    split at h
    · cases h
    · cases h

/-- An authority never finds fault with the input of an accepted request. -/
theorem serve_accepted {path : Path} {members : Members}
    (h : validatePublicOperation path (.object members) = none) (now : Int) (s : Storage)
    {response : Response}
    (hanswer : rpcAnswer (serve (rpcRequest path (internalBody path members) now) s).1 =
      some response) : response.status ≠ 400 := by
  obtain ⟨_, _, hmembers, _, _, _, hholder, hrequest, httl, htoken⟩ := validatePublic_ok h
  cases hmembers
  have hcanonical : path ≠ .acquire →
      (canonicalToken (tokenValue (field members (js "fencing_token")))).isSome = true := by
    intro hpath
    obtain ⟨text, htext⟩ := Option.ne_none_iff_exists'.mp (htoken hpath)
    unfold tokenValue
    rw [htext]
    exact Option.isSome_iff_exists.mpr ⟨text, canonicalToken_canonical htext⟩
  cases path with
  | acquire =>
    change rpcAnswer (.acquire _ now (acquire (internalBody .acquire members) now s).1) = _
      at hanswer
    cases houtcome : (acquire (internalBody .acquire members) now s).1 with
    | error error =>
      have hexhausted := acquire_error hholder (hrequest rfl) (httl (by decide)) houtcome
      rw [houtcome, hexhausted] at hanswer
      cases hanswer
      exact fun hstatus => (nomatch hstatus)
    | threw fault =>
      rw [houtcome] at hanswer
      cases hanswer
    | _ =>
      rw [houtcome] at hanswer
      cases hanswer
      exact fun hstatus => (nomatch hstatus)
  | renew =>
    change rpcAnswer (.renew _ now (renew (internalBody .renew members) now s).1) = _ at hanswer
    have hspec := renew_spec (internalBody .renew members) now s
    generalize (renew (internalBody .renew members) now s).2.row = row at hspec
    cases houtcome : (renew (internalBody .renew members) now s).1 with
    | error error =>
      rw [houtcome] at hspec
      cases hspec with
      | invalid error hinvalid =>
        have hvalid : (validHolder (field members (js "holder")) &&
            validTtl (field members (js "ttl_ms")) &&
            (canonicalToken (tokenValue (field members (js "fencing_token")))).isSome) = false :=
          hinvalid
        rw [hholder, httl (by decide), hcanonical (by decide)] at hvalid
        cases hvalid
    | _ =>
      rw [houtcome] at hanswer
      cases hanswer
      exact fun hstatus => (nomatch hstatus)
  | release =>
    change rpcAnswer (.release _ now (release (internalBody .release members) now s).1) = _
      at hanswer
    have hspec := release_spec (internalBody .release members) now s
    generalize (release (internalBody .release members) now s).2.row = row at hspec
    cases houtcome : (release (internalBody .release members) now s).1 with
    | error error =>
      rw [houtcome] at hspec
      cases hspec with
      | invalid error hinvalid =>
        have hvalid : (validHolder (field members (js "holder")) &&
            (canonicalToken (tokenValue (field members (js "fencing_token")))).isSome) = false :=
          hinvalid
        rw [hholder, hcanonical (by decide)] at hvalid
        cases hvalid
    | _ =>
      rw [houtcome] at hanswer
      cases hanswer
      exact fun hstatus => (nomatch hstatus)

/-- A request the public boundary accepts is never answered with an input error, and an
authority's own `fetch` makes the same call of it when the key is left out of the body. -/
theorem accepted_by_every_layer (p : Platform) (env : Env) (request : Request) (path : Path)
    (key : JsString) (body : LeaseBody) (h : fetch p env request = .call path key body) :
    (∀ now s response, rpcAnswer (serve (rpcRequest path body now) s).1 = some response →
      response.status ≠ 400) ∧
    ∃ members, readBoundedJson p request = .ok (.object members) ∧
      ∀ forwarded : Request, forwarded.pathname = request.pathname →
        forwarded.method = js "POST" →
        readBoundedJson p forwarded = .ok (.object (withoutKey members)) →
        fetchObject p key forwarded = .call path key body := by
  obtain ⟨members, hadmits, hvalid, rfl⟩ := fetch_call h
  refine ⟨fun now s response hanswer => serve_accepted hvalid now s hanswer, members, hadmits.body,
    ?_⟩
  intro forwarded hpathname hmethod hread
  unfold fetchObject
  rw [if_neg (by rw [hmethod]; exact fun hne => hne rfl), hpathname, hadmits.known]
  dsimp only
  rw [hread]
  dsimp only
  rw [validateInternal_withoutKey hvalid]
  dsimp only
  rw [internalBody_withoutKey]

theorem sample_accepted_by_every_layer :
    fetch samplePlatform sampleEnv sampleRequest = .call .acquire (js "a")
        ⟨.string (js "h"), .undefined, .number (.ofInt 1000), .undefined⟩ ∧
      (⟨200, .acquired (.granted (numeral 1) 1000 1000)⟩ : Response).status ≠ 400 := by
  have hcall : fetch samplePlatform sampleEnv sampleRequest = .call .acquire (js "a")
      ⟨.string (js "h"), .undefined, .number (.ofInt 1000), .undefined⟩ := by decide +kernel
  have h := accepted_by_every_layer samplePlatform sampleEnv sampleRequest .acquire (js "a") _ hcall
  exact ⟨hcall, h.1 0 fresh _ (by decide +kernel)⟩

/-! ## The body -/

/-- The bytes of the chunks before the first read that fails. -/
def received : List Read → Bytes
  | .chunk bytes :: reads => bytes ++ received reads
  | _ => []

def breaks : List Read → Bool
  | [] => false
  | .chunk _ :: reads => breaks reads
  | .failed :: _ => true

/-- The loop stops at the first chunk past the bound, or at the first failure. -/
theorem readChunks_eq (cancelFails : Bool) (reads : List Read) (chunks : List Bytes) (total : Nat)
    (htotal : total = chunks.flatten.length) (hbound : total ≤ maxBodyBytes) :
    readChunks cancelFails reads chunks total =
      if maxBodyBytes < total + (received reads).length then
        .error (if cancelFails then invalidJson else bodyTooLarge)
      else if breaks reads then .error invalidJson
      else .ok (chunks.flatten ++ received reads) := by
  induction reads generalizing chunks total with
  | nil =>
    rw [if_neg (by change ¬ maxBodyBytes < total + 0; omega)]
    change Except.ok chunks.flatten = .ok (chunks.flatten ++ [])
    rw [List.append_nil]
  | cons read reads ih =>
    cases read with
    | failed => rw [if_neg (by change ¬ maxBodyBytes < total + 0; omega)]; rfl
    | chunk value =>
      have hlength : (received (.chunk value :: reads)).length =
          value.length + (received reads).length := List.length_append
      unfold readChunks
      split
      · rename_i hlarge
        rw [if_pos (show maxBodyBytes < total + (received (.chunk value :: reads)).length by omega)]
      · rename_i hroom
        have hnext : total + value.length = (chunks ++ [value]).flatten.length := by
          rw [List.flatten_append, List.length_append, htotal]
          simp
        rw [ih (chunks ++ [value]) (total + value.length) hnext (by omega), hlength,
          ← Nat.add_assoc]
        congr 2
        rw [List.flatten_append, List.append_assoc]
        simp [received]

/-- What is read of a body depends on the bytes and not on the chunks they come in, and a
body that is accepted has arrived whole and within the bound. -/
theorem body_independent_of_chunks (p : Platform) (request request' : Request)
    (stream stream' : Stream) (hbody : request.body = some stream)
    (hbody' : request'.body = some stream')
    (hlength : request.contentLength = request'.contentLength)
    (hbytes : received stream.reads = received stream'.reads)
    (hbreaks : breaks stream.reads = breaks stream'.reads)
    (hcancel : stream.cancelFails = stream'.cancelFails) :
    readBoundedJson p request = readBoundedJson p request' ∧
      ∀ body, readBoundedJson p request = .ok body → breaks stream.reads = false ∧
        (received stream.reads).length ≤ maxBodyBytes ∧
        p.parse (p.decode (received stream.reads)) = some body := by
  have hread : ∀ stream : Stream, readChunks stream.cancelFails stream.reads [] 0 =
      if maxBodyBytes < (received stream.reads).length then
        .error (if stream.cancelFails then invalidJson else bodyTooLarge)
      else if breaks stream.reads then .error invalidJson
      else .ok (received stream.reads) := by
    intro stream
    rw [readChunks_eq stream.cancelFails stream.reads [] 0 rfl (Nat.zero_le _), Nat.zero_add]
    rfl
  constructor
  · unfold readBoundedJson
    rw [hbody, hbody', hlength]
    dsimp only
    rw [hread stream, hread stream', hbytes, hbreaks, hcancel]
  · intro body hok
    unfold readBoundedJson at hok
    rw [hbody] at hok
    dsimp only at hok
    rw [hread stream] at hok
    split at hok
    · cases hok
    split at hok
    · cases hok
    rename_i bytes hbytes'
    split at hbytes'
    · cases hbytes'
    rename_i hsmall
    split at hbytes'
    · cases hbytes'
    rename_i hwhole
    cases hbytes'
    split at hok
    · cases hok
    rename_i parsed hparsed
    cases hok
    exact ⟨Bool.eq_false_iff.mpr hwhole, Nat.le_of_not_lt hsmall, hparsed⟩

/-- The sample request with its body in two chunks. -/
def splitRequest : Request :=
  { sampleRequest with
    body := some ⟨[.chunk ((Shared.Utf8.utf8 sampleText).take 7),
      .chunk ((Shared.Utf8.utf8 sampleText).drop 7)], false⟩ }

theorem split_body_reads_alike :
    readBoundedJson samplePlatform sampleRequest = readBoundedJson samplePlatform splitRequest :=
  (body_independent_of_chunks samplePlatform sampleRequest splitRequest _ _ rfl rfl rfl
    (by decide +kernel) rfl rfl).1

end OresLocks.Worker
