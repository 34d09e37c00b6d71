import CertDashboard.Url

set_option autoImplicit false
set_option relaxedAutoImplicit false

/-!
# References

A reference is read where an address is known already: what it leaves out is taken from there.

## Main definitions

* `CertDashboard.Url.Resource.beside` — a resource, seen from another one.
* `CertDashboard.Url.within` — an address with the scheme of another one, seen from that.
* `CertDashboard.Url.join` — what a reference addresses, seen from an address.

## Main results

* `CertDashboard.Url.join_of_slash` — one slash in front leads to the same authority, and never
  fails.
-/

namespace CertDashboard

namespace Url

/-- **A resource, seen from another one**: nothing drops the fragment of that, a fragment or a query
replaces its own and what is behind it, and segments replace the last one of its path. -/
def Resource.beside (seen : Resource) (cs : List Char) : Resource :=
  let given := Resource.parse cs
  match cs with
  | [] => { seen with fragment := none }
  | '#' :: _ => { seen with fragment := given.fragment }
  | '?' :: _ => { given with path := seen.path }
  | _ =>
    let body := cs.takeWhile fun c => c ≠ '#' ∧ c ≠ '?'
    { given with path := resolve seen.path.dropLast.reverse (segments body) }

/-- **An address with the scheme of another one, seen from that**: two slashes in front lead to
another authority, one slash to another resource at the same one, and none to a resource beside. -/
def within (seen : Url) (cs : List Char) : Except Fault Url :=
  match cs.takeWhile isSlash with
  | [] => .ok { seen with resource := seen.resource.beside cs }
  | [_] => .ok { seen with resource := Resource.parse cs }
  | _ :: _ :: _ => ofRest seen.scheme cs

/-- **What a reference addresses, seen from an address.** A reference with another scheme is an
address by itself. -/
def join (seen : Url) (reference : String) : Except Fault Target :=
  match scheme? (tidy reference.toList) with
  | none => (seen.within (tidy reference.toList)).map .web
  | some (scheme, rest) =>
    if scheme = seen.scheme.name then (seen.within rest).map .web else Target.parse reference

example : join ⟨.http, ⟨[], [], .ipv4 0x7f000001, none⟩, ⟨["a".toList, "b".toList], none, none⟩⟩
    "../c?q" = .ok (.web
      ⟨.http, ⟨[], [], .ipv4 0x7f000001, none⟩, ⟨["c".toList], some "q".toList, none⟩⟩) := rfl

/-- No scheme starts with a slash. -/
theorem scheme?_of_isSlash {c : Char} (h : isSlash c = true) (cs : List Char) :
    scheme? (c :: cs) = none := by
  obtain rfl | rfl : c = '/' ∨ c = '\\' := by simpa [isSlash] using h
  · simp [scheme?, inScheme]
  · simp [scheme?, inScheme]

/-- **One slash in front leads to the same authority**, with a path, a query and a fragment of its
own: it never fails, whatever address it is seen from. -/
theorem join_of_slash (seen : Url) {reference : String} {slash : Char}
    (h : (tidy reference.toList).takeWhile isSlash = [slash]) : seen.join reference =
      .ok (.web { seen with resource := Resource.parse (tidy reference.toList) }) := by
  -- With a slash in front there is no scheme, so the reference is seen from the address.
  have hscheme : scheme? (tidy reference.toList) = none := by
    cases hcs : tidy reference.toList with
    | nil => rfl
    | cons c cs =>
      rw [hcs, List.takeWhile_cons] at h
      cases hc : isSlash c with
      | true => exact scheme?_of_isSlash hc cs
      | false => simp [hc] at h
  simp only [join, hscheme, within, h]
  rfl

end Url

end CertDashboard
