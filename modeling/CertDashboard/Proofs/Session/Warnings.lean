import CertDashboard.Proofs.Api.Exchange
import CertDashboard.Proofs.Session.Causes
import CertDashboard.Proofs.Session.Outcome

set_option autoImplicit false
set_option relaxedAutoImplicit false

/-!
# What the client warns of

The client warns once of each call that has no response, or one that reports no success, and of
nothing else. It warns before it looks into the body of the response: if a response reports success
and its body cannot be read, then the caller is told, and nobody is warned.

## Main definitions

* `CertDashboard.Purpose.Asks` — the call that a purpose has a request for.
* `CertDashboard.Session.warned`, `CertDashboard.Session.complete` — a reply is warned about, and
  whoever called is told the result.
* `CertDashboard.Session.settledBy` — the requests that an action settles, with their replies.

## Main results

* `CertDashboard.Session.settle_eq_complete` — a reply is warned about, and then its meaning is
  told.
* `CertDashboard.Session.warnings_apply` — the warnings behind an action.
* `CertDashboard.Session.warns_once` — both, with what the warnings say and when there are none.
-/

namespace CertDashboard

namespace Api

variable {call : Call} {reply : Reply}

/-- A reply that reports no success is warned about, with the error that it leads to. -/
theorem exists_warning (call : Call) {failure : Failure} (h : reply.body = .error failure)
    (client : Client) :
    ∃ e, (call.result reply).error? = some e ∧ (client.request call).replyEvents reply =
      [.requestFailed (client.request call).method call.path e] := by
  refine ⟨.ofFailure failure, error?_result_of_body_error h call, ?_⟩
  rw [Request.replyEvents, h, client.path_request call]

/-- **A reply is not warned about if and only if it reports success.** -/
theorem replyEvents_eq_nil_iff (request : Request) :
    request.replyEvents reply = [] ↔ ∃ body, reply.body = .ok body := by
  rcases hbody : reply.body with failure | body <;> simp [Request.replyEvents, hbody]

/-- **A reply is not warned about** if and only if it leads to no error, or reports success and
cannot be read. -/
theorem not_warned_iff (request : Request) : request.replyEvents reply = [] ↔
    (call.result reply).error? = none ∨ ∃ response, reply = .response response ∧
      200 ≤ response.status ∧ response.status ≤ 299 ∧ ¬ call.Reads response.body := by
  rw [replyEvents_eq_nil_iff]
  constructor
  · rintro ⟨body, hbody⟩
    obtain ⟨response, hreply, hlow, hhigh, rfl⟩ := body_eq_ok_iff.mp hbody
    by_cases hreads : call.Reads response.body
    · exact .inl ((error?_result_of_body_ok hbody call).1.mpr hreads)
    · exact .inr ⟨response, hreply, hlow, hhigh, hreads⟩
  · rintro (hnone | ⟨response, hreply, hlow, hhigh, -⟩)
    · obtain ⟨response, hreply, hlow, hhigh, -⟩ := (error?_result_eq_none_iff call reply).mp hnone
      exact ⟨response.body, body_eq_ok_iff.mpr ⟨response, hreply, hlow, hhigh, rfl⟩⟩
    · exact ⟨response.body, body_eq_ok_iff.mpr ⟨response, hreply, hlow, hhigh, rfl⟩⟩

end Api

/-- **The call that a purpose has a request for.** -/
def Purpose.Asks : Purpose → Api.Call → Prop
  | .firstPage, .authMethod | .login _, .login _ | .refresh _, .inventory => True
  | .firstPage, _ | .login _, _ | .refresh _, _ => False

namespace Session

/-- **Whoever called is told the result**, if it is still there to be told. -/
def complete (purpose : Purpose) (result : Api.Result) (s : Session) : Session × List Task :=
  match purpose, result with
  | .firstPage, .auth r => s.settleFirst r
  | .login p, .login r => if (s.active? p).isSome then s.settleLogin r else (s.log .staleLogin, [])
  | .refresh p, .inventory r =>
    if (s.active? p).isSome then s.settleRefresh p r else (s.log .staleRefresh, [])
  | _, _ => (s, [])

/-- What is logged when a reply comes is logged. -/
def warned (request : Api.Request) (reply : Api.Reply) (s : Session) : Session :=
  (request.replyEvents reply).foldl (fun s e => s.log e) s

/-- **A reply is warned about, and then its meaning is told** to whoever called.

**Proof sketch.** By the purposes, each of which asks for one kind of call. Settling then is the
warning and the completion, by definition. -/
theorem settle_eq_complete {purpose : Purpose} {call : Api.Call} (h : purpose.Asks call)
    (request : Api.Request) (reply : Api.Reply) (s : Session) : s.settle purpose request reply =
      (s.warned request reply).complete purpose (call.result reply) := by
  cases purpose with
  | firstPage =>
    cases call with
    | authMethod => rfl
    | _ => exact h.elim
  | login p =>
    cases call with
    | login credentials => rfl
    | _ => exact h.elim
  | refresh p =>
    cases call with
    | inventory => rfl
    | _ => exact h.elim

/-- **The requests that an action settles**, with their replies, in order. -/
def settledBy (action : Action) (s : Session) : List (Api.Request × Api.Reply) :=
  let (s, tasks) := s.begin action
  s.settled tasks

/-- A reply settles the oldest request that waits, before anything else. -/
theorem settledBy_reply {s : Session} {request : Api.Request} {purpose : Purpose}
    {rest : List (Api.Request × Purpose)} (h : s.wire.waiting = (request, purpose) :: rest)
    (reply : Api.Reply) : ∃ more, s.settledBy (.reply reply) = (request, reply) :: more := by
  simp [settledBy, begin, Api.Wire.pop?, h, settled_cons, Task.settled?]

/-- With the start of an action the client warns of nothing. -/
theorem warnings_begin (action : Action) (s : Session) :
    (s.begin action).1.warnings = s.warnings := by
  cases hmade : action.made? with
  | none =>
    obtain ⟨hyields, -⟩ := yields_begin action s (by simp [hmade])
    exact hyields.warnings_eq.trans (List.append_nil _)
  | some made =>
    cases action with
    | keep body plans => rfl
    | present body plans => rfl
    | _ => cases hmade

/-- **The warnings behind an action** are those about the replies that it settles requests by. -/
theorem warnings_apply (action : Action) (s : Session) :
    (s.apply action).warnings = s.warnings ++ warningsAbout (s.settledBy action) := by
  obtain ⟨opened, hrun, -⟩ := exists_yields_run (s.begin action).2 (s.begin action).1
  exact hrun.warnings_eq.trans (congrArg (· ++ _) (warnings_begin action s))

/-- **The client warns once of each call that has no response, or one that reports no success**,
with the error that the caller is told, and of nothing else. Of a response that reports success it
never warns, whether the caller is told of an error or not.

**Proof sketch.** The warnings of an action are those of the replies that it settles
(`warnings_apply`). A reply without a body is warned about with the error of the caller
(`Api.exists_warning`), and one with a body is not (`Api.replyEvents_eq_nil_iff`). -/
theorem warns_once (s : Session) :
    (∀ action, (s.apply action).warnings =
      s.warnings ++ (s.settledBy action).flatMap fun r => r.1.replyEvents r.2) ∧
    (∀ request purpose rest reply, s.wire.waiting = (request, purpose) :: rest →
      ∃ more, s.settledBy (.reply reply) = (request, reply) :: more) ∧
    ∀ (client : Api.Client) (call : Api.Call) (reply : Api.Reply),
      let request := client.request call
      (∀ purpose : Purpose, purpose.Asks call → s.settle purpose request reply =
        (s.warned request reply).complete purpose (call.result reply)) ∧
      (request.replyEvents reply ≠ [] → ∃ e event, (call.result reply).error? = some e ∧
        request.replyEvents reply = [event] ∧ event.level = .warn ∧
        event.fields = [("stage", .text "client"), ("action", .text "request_failed"),
          ("method", .text request.method.name), ("path", .text call.path),
          ("status", .number e.status.toNat), ("detail", .text e.message)]) ∧
      (request.replyEvents reply = [] ↔ (call.result reply).error? = none ∨
        ∃ response, reply = .response response ∧ 200 ≤ response.status ∧ response.status ≤ 299 ∧
          ¬ call.Reads response.body) := by
  refine ⟨fun action => warnings_apply action s, fun _ _ _ reply h => settledBy_reply h reply,
    fun client call reply => ⟨fun purpose h => settle_eq_complete h _ reply s, fun hwarned => ?_,
      Api.not_warned_iff _⟩⟩
  rcases hbody : reply.body with failure | body
  · obtain ⟨e, herror, hevent⟩ := Api.exists_warning call hbody client
    exact ⟨e, _, herror, hevent, rfl, rfl⟩
  · exact absurd ((Api.replyEvents_eq_nil_iff _).mpr ⟨body, hbody⟩) hwarned

/-- A session by the defaults that is told how users prove who they are by a response that reports
success and cannot be read: it knows of an error, and the client never warned of one.

**Proof sketch.** The session asks for the method and nothing else. The reply has a body, so the
client has nothing to warn of, but decoding it fails, which is the error that is reported.
`warnings_apply` counts the warnings. -/
theorem never_warned_unreadable :
    let asked := (start standardServices 0 "" []).bootstrap
    let reply : Api.Reply := .response ⟨200, "\x7b"⟩
    let e : Api.Error := ⟨"response decode failure: malformed JSON", 0⟩
    asked.settledBy (.reply reply) = [(standardServices.client.request .authMethod, reply)] ∧
      (Api.Call.authMethod.result reply).error? = some e ∧
      .ready (.error e) ∈ (asked.apply (.reply reply)).trace ∧
      (asked.apply (.reply reply)).warnings = [] := by
  intro asked reply e
  have hasked : asked = ((start standardServices 0 "" []).log (.started version)).asking
      .firstPage .authMethod := bootstrap_start standardServices 0 ""
  have hwaiting : asked.wire.waiting =
      [(standardServices.client.request .authMethod, .firstPage)] := by
    rw [hasked]
    rfl
  have hresult : Api.authMethodOf reply = .error e := by decide +kernel
  have hsilent : (standardServices.client.request .authMethod).replyEvents reply = [] := rfl
  have hsettled : asked.settledBy (.reply reply) =
      [(standardServices.client.request .authMethod, reply)] := by
    simp [settledBy, begin, Api.Wire.pop?, hwaiting, settled_cons, Task.settled?, perform, settle,
      hsilent, settleFirst, hresult]
  refine ⟨hsettled, ?_, ?_, ?_⟩
  · simp [Api.Call.result, Api.Result.error?, hresult, Api.errorOf]
  · simp [apply, begin, Api.Wire.pop?, hwaiting, run_cons, perform, settle, hsilent, settleFirst,
      hresult, emit]
  · rw [warnings_apply, hsettled, hasked]
    simp only [warningsAbout, List.flatMap_singleton, hsilent, List.append_nil]
    decide

end Session

end CertDashboard
