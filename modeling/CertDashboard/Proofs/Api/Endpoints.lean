import CertDashboard.Api.Client
import CertDashboard.Proofs.Json.Values

set_option autoImplicit false
set_option relaxedAutoImplicit false

/-!
# The addresses of the calls

The path of a call is resolved at the address of the backend as any reference is. It has one slash
in front, so it leads to the same authority, whatever the address is; nothing but the authority and
the scheme is taken from there.

## Main results

* `CertDashboard.Api.join_path` — the path of a call is a reference at every address.
* `CertDashboard.Api.Client.connect_eq_ok_iff` — a text is the address of a backend if it is a web
  address.
* `CertDashboard.Api.Client.connect_endpoints` — which texts are addresses of a backend, and where
  its calls go.
-/

namespace CertDashboard

namespace Api

/-! ## Paths -/

/-- **The path of a call is a reference at every address**, and leads to the same authority. -/
theorem join_path (url : Url) {path : String} (h : path ∈ Call.paths) :
    url.join path = .ok (.web (url.withPath path)) := by
  have htidy : Url.tidy path.toList = path.toList ∧
      path.toList.takeWhile Url.isSlash = ['/'] := by
    revert path
    decide
  rw [url.join_of_slash (htidy.1.symm ▸ htidy.2), htidy.1, Url.withPath]

namespace Client

/-! ## Connecting -/

/-- The paths of all calls are references at every address. -/
theorem mapM_resolvePath (url : Url) : Call.paths.mapM (resolvePath url) =
    .ok (Call.paths.map fun path => .web (url.withPath path)) := by
  rw [← List.map_id (l := Call.paths)]
  refine Json.mapM_map_pure fun path h => ?_
  rw [resolvePath, id, join_path url h]
  rfl

/-- **A text is the address of a backend if it is a web address**: the path of no call stands in the
way. -/
theorem connect_eq_ok_iff {base : String} {client : Client} :
    connect base = .ok client ↔ Url.Target.parse base = .ok (.web client.baseUrl) := by
  unfold connect
  split
  · next hparse => simp [hparse]
  · next hparse => simp [hparse]
  · next url hparse =>
    rw [mapM_resolvePath, hparse]
    obtain ⟨baseUrl⟩ := client
    simp [Except.map]

/-- A text is the address of a backend if and only if it is a web address. -/
theorem exists_connect_iff {base : String} :
    (∃ client, connect base = .ok client) ↔ Url.isWeb base = true := by
  rw [Url.isWeb_iff]
  constructor
  · rintro ⟨client, hclient⟩
    exact ⟨client.baseUrl, connect_eq_ok_iff.mp hclient⟩
  · rintro ⟨url, hparse⟩
    exact ⟨⟨url⟩, connect_eq_ok_iff.mpr hparse⟩

/-- **Where the calls of a client go.** A text is the address of a backend if and only if it is a
web address. Every call goes to where its path leads from there: the scheme and the authority are
those of the address, the path is that of the call, and there is neither a query nor a fragment.

**Proof sketch.** An address is accepted if and only if it parses as a web address
(`exists_connect_iff`). The path of a call is absolute and parses alone, without a query or a
fragment (`Call.parse_path`), so joining it replaces the resource and leaves the rest
(`join_path`). -/
theorem connect_endpoints (base : String) :
    ((∃ client, connect base = .ok client) ↔ Url.isWeb base = true) ∧
      ∀ client, connect base = .ok client →
        Url.Target.parse base = .ok (.web client.baseUrl) ∧
        ∀ call : Call,
          client.baseUrl.join call.path = .ok (.web (client.endpoint call)) ∧
          (client.endpoint call).scheme = client.baseUrl.scheme ∧
          (client.endpoint call).authority = client.baseUrl.authority ∧
          (client.endpoint call).path = call.path ∧
          (client.endpoint call).resource.query = none ∧
          (client.endpoint call).resource.fragment = none := by
  refine ⟨exists_connect_iff, fun client hclient => ⟨connect_eq_ok_iff.mp hclient, fun call => ?_⟩⟩
  have hpath := call.path_mem_paths
  obtain ⟨-, hquery, hfragment⟩ := Call.parse_path hpath
  exact ⟨join_path _ hpath, Url.scheme_withPath _ _, Url.authority_withPath _ _,
    client.path_request call, hquery, hfragment⟩

/-- An address with a user, a password, an unusual port, a path with backslashes and dots, a query
and a fragment. -/
theorem connect_endpoints_wild :
    let client : Client := ⟨⟨.http,
      ⟨"me".toList, "secret".toList, .ipv4 0x7f000001, some 8111⟩,
      ⟨["b".toList], some "q".toList, some "f".toList⟩⟩⟩
    connect "http:\\\\me:secret@127.0.0.1:8111\\a\\..\\%2e/b?q#f" = .ok client ∧
      (client.endpoint .inventory).authority = client.baseUrl.authority ∧
      (client.endpoint .inventory).path = "/v1/cache" ∧
      (client.endpoint .inventory).resource.query = none := by
  intro client
  have hconnect : connect "http:\\\\me:secret@127.0.0.1:8111\\a\\..\\%2e/b?q#f" = .ok client := rfl
  obtain ⟨-, hcall⟩ := (connect_endpoints _).2 client hconnect
  obtain ⟨-, -, hauthority, hpath, hquery, -⟩ := hcall .inventory
  exact ⟨hconnect, hauthority, hpath, hquery⟩

end Client

end Api

end CertDashboard
