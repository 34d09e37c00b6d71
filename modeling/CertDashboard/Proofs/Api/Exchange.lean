import CertDashboard.Api.Wire
import Mathlib.Data.List.Basic

set_option autoImplicit false
set_option relaxedAutoImplicit false

/-!
# Calls are settled one by one

A client may call again before its earlier calls are settled. Each reply settles the oldest call,
and what it says about that depends on nothing else: not on the other calls that wait, nor on what
they were told.

## Main definitions

* `CertDashboard.Api.Result.error?` — the error of a result, if it is one.
* `CertDashboard.Api.Call.Reads` — what a call asks of the body of a response.
* `CertDashboard.Api.Reply.errorStatus` — the status of the error that a reply may lead to.
* `CertDashboard.Api.Exchanged` — calls and replies in any order, and the client behind them.

## Main results

* `CertDashboard.Api.error?_result_eq_none_iff`, `CertDashboard.Api.status_of_error?_result`,
  `CertDashboard.Api.exists_unauthorized_iff` — what a reply means to a call.
* `CertDashboard.Api.Exchanged.isInTurn` — where the client is behind any calls and replies.
* `CertDashboard.Api.Exchanged.settles_inTurn` — both together.

## Design

Replies and calls come in any order, but no reply comes when no call waits for one: there is nobody
who could send it.
-/

namespace CertDashboard

namespace Api

/-! ## What a reply means -/

/-- The error that something ended with, if it did. -/
def errorOf {α : Type} : Except Error α → Option Error
  | .error e => some e
  | .ok _ => none

/-- What ended with an error is that error. -/
theorem errorOf_eq_some_iff {α : Type} {r : Except Error α} {e : Error} :
    errorOf r = some e ↔ r = .error e := by
  cases r <;> simp [errorOf]

/-- **The error of a result**, if it is one. -/
def Result.error? : Result → Option Error
  | .auth r => errorOf r
  | .login r => errorOf r
  | .inventory r => errorOf r

/-- **What a call asks of the body of a response**: that it can be read. A login asks nothing. -/
def Call.Reads (body : String) : Call → Prop
  | .authMethod => ∃ auth, authMethodOfText body = .ok auth
  | .login _ => True
  | .inventory => ∃ certificates, inventoryOfText body = .ok certificates

/-- **The status of the error that a reply may lead to**: that of a response that reports no
success, and zero otherwise. -/
def Reply.errorStatus : Reply → UInt16
  | .failed _ => 0
  | .response r => if 200 ≤ r.status ∧ r.status ≤ 299 then 0 else r.status

/-- The statuses that report success. -/
theorem isSuccess_iff (status : UInt16) :
    isSuccess status = true ↔ 200 ≤ status ∧ status ≤ 299 := by
  have hlt : status < 300 ↔ status ≤ 299 := by
    rw [UInt16.lt_iff_toNat_lt, UInt16.le_iff_toNat_le]
    exact Nat.lt_succ_iff
  rw [isSuccess, Bool.and_eq_true, decide_eq_true_iff, decide_eq_true_iff, hlt]

/-- What a reply means to a call depends on the kind of the call: on nothing but its path. -/
theorem Call.result_congr {call other : Call} (h : call.path = other.path) :
    call.result = other.result := by
  cases call <;> cases other <;> first | rfl | exact absurd h (by simp [Call.path])

/-- **How the reply to a call is read**: as what the call asks for, or with a failure that has no
status.

**Proof sketch.** By the kinds of calls. The method and the inventory are decoded from the body,
where a fault has no status; a login has nothing to read, and so no reading of it fails. -/
theorem Call.exists_read (call : Call) : ∃ (α : Type) (read : String → Except Failure α),
    (∀ reply, (call.result reply).error? = errorOf (collapse (reply.body.bind read))) ∧
      (∀ body, (∃ a, read body = .ok a) ↔ call.Reads body) ∧
      ∀ body failure, read body = .error failure → failure.status = 0 := by
  have hok : ∀ {α : Type} (r : Except Json.Fault α), (∃ a, decoded r = .ok a) ↔ ∃ a, r = .ok a := by
    intro α r
    cases r <;> simp [decoded]
  have hstatus : ∀ {α : Type} (r : Except Json.Fault α) failure, decoded r = .error failure →
      failure.status = 0 := by
    intro α r failure h
    cases r with
    | error fault => exact Except.error.inj h ▸ rfl
    | ok a => exact absurd h (by simp [decoded])
  cases call with
  | authMethod =>
    exact ⟨_, fun body => decoded (authMethodOfText body), fun _ => rfl, fun _ => hok _,
      fun _ => hstatus _⟩
  | login credentials =>
    refine ⟨Unit, fun _ => .ok (), fun reply => ?_, fun _ => by simp [Reads], nofun⟩
    rw [result, loginOf]
    rcases reply.body with failure | body <;> rfl
  | inventory =>
    exact ⟨_, fun body => decoded (inventoryOfText body), fun _ => rfl, fun _ => hok _,
      fun _ => hstatus _⟩

/-- The error of a reply that reports no success is its failure. -/
theorem error?_result_of_body_error {reply : Reply} {failure : Failure}
    (h : reply.body = .error failure) (call : Call) :
    (call.result reply).error? = some (.ofFailure failure) := by
  obtain ⟨α, read, hresult, -, -⟩ := call.exists_read
  rw [hresult, h]
  rfl

/-- A reply that reports success is no error if and only if it can be read. -/
theorem error?_result_of_body_ok {reply : Reply} {body : String} (h : reply.body = .ok body)
    (call : Call) : ((call.result reply).error? = none ↔ call.Reads body) ∧
      ∀ e, (call.result reply).error? = some e → e.status = 0 := by
  obtain ⟨α, read, hresult, hreads, hstatus⟩ := call.exists_read
  have hbind : reply.body.bind read = read body := by
    rw [h]
    rfl
  rw [hresult, hbind, ← hreads]
  rcases hread : read body with failure | a
  · refine ⟨by simp [collapse, errorOf], fun e he => ?_⟩
    obtain rfl : Error.ofFailure failure = e := Option.some.inj he
    exact hstatus body failure hread
  · exact ⟨by simp [collapse, errorOf], fun e he => absurd he (by simp [collapse, errorOf])⟩

/-- The body of a reply: there is one if its status reports success. -/
theorem body_eq_ok_iff {reply : Reply} {body : String} : reply.body = .ok body ↔
    ∃ response, reply = .response response ∧ 200 ≤ response.status ∧ response.status ≤ 299 ∧
      response.body = body := by
  cases reply with
  | failed reason => simp [Reply.body]
  | response r =>
    by_cases hsuccess : isSuccess r.status = true
    · have hrange := (isSuccess_iff _).mp hsuccess
      simp [Reply.body, hsuccess, hrange]
    · have hrange := mt (isSuccess_iff _).mpr hsuccess
      simp only [Reply.body, if_neg hsuccess, reduceCtorEq, false_iff]
      rintro ⟨_, heq, hlow, hhigh, -⟩
      obtain rfl := Reply.response.inj heq
      exact hrange ⟨hlow, hhigh⟩

/-- The failure of a reply that reports no success has the status of the response, if there is
one. -/
theorem status_of_body_error {reply : Reply} {failure : Failure} (h : reply.body = .error failure) :
    failure.status = reply.errorStatus := by
  cases reply with
  | failed reason => exact Except.error.inj h ▸ rfl
  | response r =>
    by_cases hsuccess : isSuccess r.status = true
    · simp [Reply.body, hsuccess] at h
    · rw [Reply.body, if_neg hsuccess] at h
      obtain rfl := Except.error.inj h
      rw [Reply.errorStatus, if_neg (mt (isSuccess_iff _).mpr hsuccess)]
      rfl

/-- A reply that reports success leads to no status. -/
theorem errorStatus_of_body_ok {reply : Reply} {body : String} (h : reply.body = .ok body) :
    reply.errorStatus = 0 := by
  obtain ⟨response, rfl, hlow, hhigh, -⟩ := body_eq_ok_iff.mp h
  exact if_pos ⟨hlow, hhigh⟩

/-- **A result is no error if and only if the reply reports success and can be read.** -/
theorem error?_result_eq_none_iff (call : Call) (reply : Reply) :
    (call.result reply).error? = none ↔ ∃ response, reply = .response response ∧
      200 ≤ response.status ∧ response.status ≤ 299 ∧ call.Reads response.body := by
  rcases hbody : reply.body with failure | body
  · have hsome := error?_result_of_body_error hbody call
    simp only [hsome, reduceCtorEq, false_iff]
    rintro ⟨response, hreply, hlow, hhigh, -⟩
    have hok := body_eq_ok_iff.mpr ⟨response, hreply, hlow, hhigh, rfl⟩
    exact absurd (hbody.symm.trans hok) (by simp)
  · obtain ⟨response, rfl, hlow, hhigh, rfl⟩ := body_eq_ok_iff.mp hbody
    rw [(error?_result_of_body_ok hbody call).1]
    simp [hlow, hhigh]

/-- **The status of an error** is that of a response that reports no success, and zero otherwise. -/
theorem status_of_error?_result {call : Call} {reply : Reply} {e : Error}
    (h : (call.result reply).error? = some e) : e.status = reply.errorStatus := by
  rcases hbody : reply.body with failure | body
  · rw [error?_result_of_body_error hbody] at h
    obtain rfl := Option.some.inj h
    exact status_of_body_error hbody
  · rw [(error?_result_of_body_ok hbody call).2 e h, errorStatus_of_body_ok hbody]

/-- **A call is refused as unauthorized if and only if the response has that status.**

**Proof sketch.** An error has the status of the reply (`status_of_error?_result`), and being
unauthorized is a matter of this status alone. It is that of the response only if this reports no
success, and `401` is none, so the call did fail then (`error?_result_eq_none_iff`). -/
theorem exists_unauthorized_iff (call : Call) (reply : Reply) :
    (∃ e, (call.result reply).error? = some e ∧ e.isUnauthorized = true) ↔
      ∃ response, reply = .response response ∧ response.status = 401 := by
  have hunauthorized : ∀ e : Error, e.isUnauthorized = true ↔ e.status = 401 := by
    intro e
    simp [Error.isUnauthorized, Error.unauthorized]
  simp only [hunauthorized]
  constructor
  · rintro ⟨e, he, hstatus⟩
    rw [status_of_error?_result he] at hstatus
    cases reply with
    | failed reason => exact absurd hstatus (by simp [Reply.errorStatus])
    | response r =>
      by_cases hrange : 200 ≤ r.status ∧ r.status ≤ 299
      · rw [Reply.errorStatus, if_pos hrange] at hstatus
        exact absurd hstatus (by decide)
      · rw [Reply.errorStatus, if_neg hrange] at hstatus
        exact ⟨r, rfl, hstatus⟩
  · rintro ⟨r, rfl, hstatus⟩
    have hfailed : (call.result (.response r)).error? ≠ none := by
      rw [Ne, error?_result_eq_none_iff]
      rintro ⟨_, heq, -, hhigh, -⟩
      obtain rfl := Reply.response.inj heq
      rw [hstatus] at hhigh
      exact absurd hhigh (by decide)
    obtain ⟨e, he⟩ := Option.ne_none_iff_exists'.mp hfailed
    refine ⟨e, he, ?_⟩
    rw [status_of_error?_result he, Reply.errorStatus, hstatus]
    decide

/-! ## Calls and replies in any order -/

/-- **Calls and replies in any order**, and the client behind them. A reply comes only if a call
waits for it. -/
inductive Exchanged (client : Client) : List Call → List Reply → Exchange → Prop where
  /-- No calls and no replies. -/
  | start : Exchanged client [] [] (.start client)
  /-- One more call. -/
  | call {calls : List Call} {replies : List Reply} {x : Exchange} (call : Call) :
    Exchanged client calls replies x → Exchanged client (calls ++ [call]) replies (x.call call)
  /-- One more reply. -/
  | reply {calls : List Call} {replies : List Reply} {x : Exchange} (reply : Reply) :
    x.wire.waiting ≠ [] → Exchanged client calls replies x →
      Exchanged client calls (replies ++ [reply]) (x.reply reply)

/-- **Where a client is behind so many calls and replies**: the calls are numbered in order, and the
replies settled the first ones of them. -/
structure IsInTurn (client : Client) (calls : List Call) (replies : List Reply) (x : Exchange) :
    Prop where
  /-- The client is the same. -/
  client_eq : x.client = client
  /-- All calls were counted. -/
  calls_eq : x.calls = calls.length
  /-- No more replies came than there were calls. -/
  length_le : replies.length ≤ calls.length
  /-- The calls that are not settled wait, in order. -/
  waiting_eq : x.wire.waiting = ((calls.zipIdx).drop replies.length).map fun (call, number) =>
    (client.request call, number, call)
  /-- Each reply settled the call in its place. -/
  results_eq : x.results =
    (List.zipWith Call.result calls replies).mapIdx fun k result => (k, result)

/-- What comes together with a list that ends later. -/
theorem zipWith_append_of_le {α β γ : Type} (f : α → β → γ) {as : List α} {bs : List β}
    (h : bs.length ≤ as.length) (a : α) :
    List.zipWith f (as ++ [a]) bs = List.zipWith f as bs := by
  induction bs generalizing as with
  | nil => simp
  | cons b bs ih =>
    cases as with
    | nil => exact absurd h (by simp)
    | cons a' as => simpa using ih (by simpa using h)

/-- One more that comes together with what is in its place. -/
theorem zipWith_concat {α β γ : Type} (f : α → β → γ) {as : List α} {bs : List β} {a : α}
    (h : as[bs.length]? = some a) (b : β) :
    List.zipWith f as (bs ++ [b]) = List.zipWith f as bs ++ [f a b] := by
  induction bs generalizing as with
  | nil =>
    cases as with
    | nil => exact absurd h (by simp)
    | cons a' as =>
      obtain rfl : a' = a := by simpa using h
      simp
  | cons b' bs ih =>
    cases as with
    | nil => exact absurd h (by simp)
    | cons a' as => simpa using ih (by simpa using h)

namespace IsInTurn

variable {client : Client} {calls : List Call} {replies : List Reply} {x : Exchange}

/-- One more call waits behind the others.

**Proof sketch.** What waits is the calls without as many as there are replies. No more calls are
settled than were made, so that one more call stays behind them in this list, and no result is
paired with it. -/
theorem call (h : IsInTurn client calls replies x) (call : Call) :
    IsInTurn client (calls ++ [call]) replies (x.call call) where
  client_eq := h.client_eq
  calls_eq := by simp [Exchange.call, h.calls_eq]
  length_le := by
    have hle := h.length_le
    simp only [List.length_append, List.length_singleton]
    omega
  waiting_eq := by
    have hle : replies.length ≤ calls.zipIdx.length := by simpa using h.length_le
    simp only [Exchange.call, Wire.park, h.waiting_eq, h.client_eq, h.calls_eq, List.zipIdx_append,
      List.drop_append_of_le_length hle, List.map_append]
    simp
  results_eq := by
    rw [zipWith_append_of_le _ h.length_le]
    exact h.results_eq

/-- If a call waits, the next reply is for the first one that is not settled. -/
theorem exists_next (h : IsInTurn client calls replies x) (hne : x.wire.waiting ≠ []) :
    ∃ call, calls[replies.length]? = some call ∧ x.wire.waiting =
      (client.request call, replies.length, call) ::
        ((calls.zipIdx).drop (replies.length + 1)).map fun (call, number) =>
          (client.request call, number, call) := by
  have hlt : replies.length < calls.length := by
    by_contra hge
    rw [h.waiting_eq, List.drop_eq_nil_iff.mpr (by simpa using hge)] at hne
    exact hne rfl
  refine ⟨calls[replies.length], List.getElem?_eq_getElem hlt, ?_⟩
  rw [h.waiting_eq, List.drop_eq_getElem_cons (by simpa using hlt)]
  simp

/-- **A reply settles the first call that is not settled**, and that call alone.

**Proof sketch.** The first request that waits is that of the call behind the settled ones
(`exists_next`). It is taken away, and its result comes behind the others with the number of the
call. -/
theorem reply (h : IsInTurn client calls replies x) (hne : x.wire.waiting ≠ []) (reply : Reply) :
    IsInTurn client calls (replies ++ [reply]) (x.reply reply) := by
  obtain ⟨call, hcall, hwaiting⟩ := h.exists_next hne
  have hlt := (List.getElem?_eq_some_iff.mp hcall).1
  have hreply : x.reply reply = { x with
      wire := { x.wire with
        waiting := ((calls.zipIdx).drop (replies.length + 1)).map fun (call, number) =>
          (client.request call, number, call) }
      results := x.results ++ [(replies.length, call.result reply)] } := by
    simp [Exchange.reply, Wire.pop?, hwaiting]
  have hlength : (List.zipWith Call.result calls replies).length = replies.length := by
    rw [List.length_zipWith]
    omega
  rw [hreply]
  refine ⟨h.client_eq, h.calls_eq, by simpa using Nat.succ_le_of_lt hlt, by simp, ?_⟩
  rw [zipWith_concat _ hcall, List.mapIdx_append, ← h.results_eq, hlength]
  simp

end IsInTurn

namespace Exchanged

variable {client : Client} {calls : List Call} {replies : List Reply} {x : Exchange}

/-- **Behind any calls and replies a client is in turn.** -/
theorem isInTurn (h : Exchanged client calls replies x) : IsInTurn client calls replies x := by
  induction h with
  | start => exact ⟨rfl, rfl, Nat.le_refl _, rfl, rfl⟩
  | call call _ ih => exact ih.call call
  | reply reply hne _ ih => exact ih.reply hne reply

/-- **Calls are settled one by one.** Whatever the address of the backend is and in whichever order
calls and replies come, each reply settles the call in its place, and the calls that are not settled
wait in order. What a reply means depends on nothing but the kind of that call: it succeeds if and
only if the status reports success and what the call asks for can be read. Otherwise it leads to an
error, with the status of a response that reports no success and with none in all other cases; and
so it is refused as unauthorized if and only if that is the status of the response.

**Proof sketch.** All of it is read off the invariant `IsInTurn`, which every run has by induction
on its steps (`Exchanged.isInTurn`): the results are those of calls and replies in pairs, and the
requests that wait are those of the remaining calls. The meaning of a reply is three lemmas about
one call: `error?_result_eq_none_iff`, `status_of_error?_result` and `exists_unauthorized_iff`. -/
theorem settles_inTurn (h : Exchanged client calls replies x) :
    (x.results.length = replies.length ∧ ∀ (k : Nat) (reply : Reply), replies[k]? = some reply →
        ∃ call, calls[k]? = some call ∧ x.results[k]? = some (k, call.result reply)) ∧
      (x.wire.waitingPaths = (calls.drop replies.length).map Call.path ∧
        x.wire.waiting.map Prod.fst = (calls.drop replies.length).map client.request) ∧
      (∀ call other : Call, call.path = other.path → call.result = other.result) ∧
      ∀ (call : Call) (reply : Reply),
        ((call.result reply).error? = none ↔ ∃ response, reply = .response response ∧
          200 ≤ response.status ∧ response.status ≤ 299 ∧ call.Reads response.body) ∧
        (∀ e, (call.result reply).error? = some e → e.status = reply.errorStatus) ∧
        ((∃ e, (call.result reply).error? = some e ∧ e.isUnauthorized = true) ↔
          ∃ response, reply = .response response ∧ response.status = 401) := by
  have hturn := h.isInTurn
  have hle := hturn.length_le
  have hrequests : x.wire.waiting.map Prod.fst =
      (calls.drop replies.length).map client.request := by
    have hcalls : (calls.drop replies.length).map client.request =
        ((calls.zipIdx.map Prod.fst).drop replies.length).map client.request := by
      rw [List.zipIdx_map_fst]
    rw [hturn.waiting_eq, hcalls, ← List.map_drop, List.map_map, List.map_map]
    rfl
  refine ⟨⟨?_, fun k reply hk => ?_⟩, ⟨?_, hrequests⟩, ?_, fun call reply =>
    ⟨error?_result_eq_none_iff call reply, fun _ => status_of_error?_result,
      exists_unauthorized_iff call reply⟩⟩
  · rw [hturn.results_eq, List.length_mapIdx, List.length_zipWith]
    omega
  · have hlt := (List.getElem?_eq_some_iff.mp hk).1
    have hcall := List.getElem?_eq_getElem (show k < calls.length by omega)
    refine ⟨_, hcall, ?_⟩
    rw [hturn.results_eq, List.getElem?_mapIdx, List.getElem?_zipWith, hcall, hk]
    rfl
  · have hpaths : x.wire.waitingPaths =
        (x.wire.waiting.map Prod.fst).map fun request => request.url.path := by
      rw [Wire.waitingPaths, List.map_map]
      rfl
    rw [hpaths, hrequests, List.map_map]
    exact List.map_congr_left fun call _ => client.path_request call
  · exact fun _ _ => Call.result_congr

end Exchanged

/-- A client that asks for the inventory while its login is not settled. The login is refused, and
so the second call is the one that waits.

**Proof sketch.** The exchange is a run of two calls and one reply. `settles_inTurn` gives its
single result and the path that waits, and that the error of the login is unauthorized. -/
theorem settles_inTurn_refused :
    let client : Client := ⟨⟨.http, ⟨[], [], .ipv4 0x7f000001, some 8111⟩, ⟨[[]], none, none⟩⟩⟩
    let login : Call := .login ⟨"admin", "sesame"⟩
    let calling := ((Exchange.start client).call login).call .inventory
    let answered := calling.reply (.response ⟨401, "\x7b\x7d"⟩)
    Client.connect "http://127.0.0.1:8111" = .ok client ∧ calling.wire.waiting ≠ [] ∧
      answered.results.map Prod.fst = [0] ∧ answered.wire.waitingPaths = ["/v1/cache"] ∧
      ∃ e, (login.result (.response ⟨401, "\x7b\x7d"⟩)).error? = some e ∧
        e.isUnauthorized = true := by
  intro client login calling answered
  have hwaiting : calling.wire.waiting ≠ [] := by
    simp [calling, Exchange.call, Wire.park, Exchange.start]
  have hexchanged : Exchanged client [login, .inventory] [.response ⟨401, "\x7b\x7d"⟩] answered :=
    .reply _ hwaiting (.call .inventory (.call login .start))
  obtain ⟨⟨hlength, hresults⟩, ⟨hpaths, -⟩, -, hmeaning⟩ := hexchanged.settles_inTurn
  obtain ⟨call, -, hfirst⟩ := hresults 0 _ rfl
  refine ⟨rfl, hwaiting, ?_, hpaths, (hmeaning login _).2.2.mpr ⟨_, rfl, rfl⟩⟩
  obtain ⟨result, hsingle⟩ := List.length_eq_one_iff.mp hlength
  rw [hsingle] at hfirst ⊢
  obtain rfl : result = (0, call.result _) := by simpa using hfirst
  rfl

end Api

end CertDashboard
