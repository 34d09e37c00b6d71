import CertDashboard.Proofs.Config.Environment
import Mathlib.Logic.Relation

set_option autoImplicit false
set_option relaxedAutoImplicit false

/-!
# Settings from the query of a page

The query of a page tunes the dashboard as the environment does, by fields in the place of
variables. Of several fields of one name the last one counts, and a field of any other name counts
for nothing. The address of the backend has no field: it is the origin of the page, whatever the
query is.

## Main definitions

* `CertDashboard.Url.Form.IsLast` — the last value of a name among fields.
* `CertDashboard.Url.Form.Retouch` — a change to fields that leaves the last values of some names.
* `CertDashboard.Config.asEnvironment` — the environment that gives what a query gives.
* `CertDashboard.Config.Fault.onPage` — what is said of a variable, said of the field in its place.

## Main results

* `CertDashboard.Url.Form.lastOf_eq_iff` — which value is the last one.
* `CertDashboard.Config.fromPage_eq` — the query says what the environment would say.
* `CertDashboard.Config.fromPage_tunes` — that, and what does not matter in a query.
-/

namespace CertDashboard

/-! ## The last field of a name -/

namespace Url.Form

/-- **The last value of a name among fields**: that of a field with no other one of the name behind
it, and none if there is no field of the name. -/
def IsLast (fields : List (String × String)) (name : String) : Option String → Prop
  | some value => ∃ before after, fields = before ++ (name, value) :: after ∧
      ∀ f ∈ after, f.1 ≠ name
  | none => ∀ f ∈ fields, f.1 ≠ name

/-- The fields that are further back go first. -/
theorem lastOf_append (front back : List (String × String)) (name : String) :
    lastOf (front ++ back) name = (lastOf back name).or (lastOf front name) := by
  rw [lastOf, List.reverse_append, List.find?_append, Option.map_or]
  rfl

/-- One field in front of others. -/
theorem lastOf_cons (f : String × String) (fields : List (String × String)) (name : String) :
    lastOf (f :: fields) name =
      (lastOf fields name).or (if f.1 = name then some f.2 else none) := by
  rw [← List.singleton_append, lastOf_append]
  by_cases hf : f.1 = name <;> simp [lastOf, hf]

/-- There is no last value if and only if there is no field of the name. -/
theorem lastOf_eq_none_iff {fields : List (String × String)} {name : String} :
    lastOf fields name = none ↔ ∀ f ∈ fields, f.1 ≠ name := by
  simp [lastOf]

/-- **Which value is the last one** of a name.

**Proof sketch.** No last value means no field of the name (`lastOf_eq_none_iff`). For one direction
of the rest the fields are looked through from the front, by induction: a field counts only if the
others have none of the name. For the other one the fields behind the last one add nothing. -/
theorem lastOf_eq_iff {fields : List (String × String)} {name : String} {value? : Option String} :
    lastOf fields name = value? ↔ IsLast fields name value? := by
  cases value? with
  | none => exact lastOf_eq_none_iff
  | some value =>
    constructor
    · -- From the front: a field counts only if there is no later one of the name.
      intro h
      induction fields with
      | nil => exact nomatch h
      | cons f rest ih =>
        rw [lastOf_cons] at h
        cases hrest : lastOf rest name with
        | none =>
          rw [hrest, Option.none_or] at h
          split at h
          · next hf =>
            obtain rfl := Option.some_inj.mp h
            exact ⟨[], rest, by rw [← hf]; rfl, lastOf_eq_none_iff.mp hrest⟩
          · exact nomatch h
        | some other =>
          rw [hrest, Option.some_or] at h
          obtain ⟨before, after, hsplit, hafter⟩ := ih (hrest.trans h)
          exact ⟨f :: before, after, by rw [hsplit, List.cons_append], hafter⟩
    · rintro ⟨before, after, rfl, hafter⟩
      rw [lastOf_append, lastOf_cons, lastOf_eq_none_iff.mpr hafter]
      simp

/-- **A change to fields that leaves the last values of some names**: a field of another name comes
or goes, or one that has another of its name behind it, or two neighbours of different names change
places. -/
inductive Retouch (names : List String) :
    List (String × String) → List (String × String) → Prop where
  /-- A field of another name. -/
  | foreign {before after : List (String × String)} {f : String × String} :
    f.1 ∉ names → Retouch names (before ++ f :: after) (before ++ after)
  /-- A field with another one of its name behind it. -/
  | earlier {before after : List (String × String)} {f g : String × String} :
    g ∈ after → g.1 = f.1 → Retouch names (before ++ f :: after) (before ++ after)
  /-- Two neighbours of different names. -/
  | swap {before after : List (String × String)} {f g : String × String} :
    f.1 ≠ g.1 → Retouch names (before ++ f :: g :: after) (before ++ g :: f :: after)

/-- It leaves them.

**Proof sketch.** By the kinds of retouching. A foreign field is not of the name; an earlier one is
hidden by the later field of its name; and of two fields that are swapped one at most is of the
name, since they have different ones. -/
theorem Retouch.lastOf_eq {names : List String} {fields fields' : List (String × String)}
    (h : Retouch names fields fields') {name : String} (hname : name ∈ names) :
    lastOf fields name = lastOf fields' name := by
  cases h with
  | @foreign before after f hf =>
    have hne : f.1 ≠ name := fun heq => hf (heq ▸ hname)
    simp only [lastOf_append, lastOf_cons, if_neg hne, Option.or_none]
  | @earlier before after f g hg hfg =>
    simp only [lastOf_append, lastOf_cons]
    by_cases hf : f.1 = name
    · have hafter : lastOf after name ≠ none := fun hnone =>
        lastOf_eq_none_iff.mp hnone g hg (hfg.trans hf)
      obtain ⟨value, hvalue⟩ := Option.ne_none_iff_exists'.mp hafter
      simp [hvalue]
    · rw [if_neg hf, Option.or_none]
  | @swap before after f g hfg =>
    simp only [lastOf_append, lastOf_cons]
    by_cases hf : f.1 = name
    · have hg : g.1 ≠ name := fun hg => hfg (hf.trans hg.symm)
      rw [if_neg hg, Option.or_none, Option.or_none]
    · rw [if_neg hf, Option.or_none, Option.or_none]

/-- Any number of such changes leave them. -/
theorem lastOf_eq_of_eqvGen {names : List String} {fields fields' : List (String × String)}
    (h : Relation.EqvGen (Retouch names) fields fields') {name : String} (hname : name ∈ names) :
    lastOf fields name = lastOf fields' name := by
  induction h with
  | rel fields fields' h => exact h.lastOf_eq hname
  | refl fields => rfl
  | symm fields fields' _ ih => exact ih.symm
  | trans fields fields' fields'' _ _ ih ih' => exact ih.trans ih'

/-- Without the fields of a name there is no last value of it, and all others stay.

**Proof sketch.** Induction on the fields, by whether the first one is of the name that is taken
out, and whether that is the name that is asked for. -/
theorem lastOf_filter (fields : List (String × String)) (name other : String) :
    lastOf (fields.filter fun f => f.1 ≠ name) other =
      if other = name then none else lastOf fields other := by
  induction fields with
  | nil => simp [lastOf]
  | cons f rest ih =>
    by_cases hf : f.1 = name
    · have hdrop : (f :: rest).filter (fun f => f.1 ≠ name) = rest.filter fun f => f.1 ≠ name :=
        List.filter_cons_of_neg (by simpa using hf)
      rw [hdrop, ih, lastOf_cons]
      by_cases hother : other = name
      · rw [if_pos hother, if_pos hother]
      · have hne : f.1 ≠ other := fun h => hother (h.symm.trans hf)
        rw [if_neg hother, if_neg hother, if_neg hne, Option.or_none]
    · have hkeep : (f :: rest).filter (fun f => f.1 ≠ name) =
          f :: rest.filter fun f => f.1 ≠ name :=
        List.filter_cons_of_pos (by simpa using hf)
      rw [hkeep, lastOf_cons, ih, lastOf_cons]
      by_cases hother : other = name
      · rw [if_pos hother, if_pos hother, if_neg (hother ▸ hf), Option.none_or]
      · rw [if_neg hother, if_neg hother]

end Url.Form

namespace Config

open Url.Form (last? IsLast Retouch fields lastOf_eq_iff lastOf_eq_of_eqvGen lastOf_filter)

/-! ## The query as an environment -/

/-- **The environment that gives three values** and no address of a backend. -/
def asEnvironment (refreshSeconds horizonDays logLevel : Option String) (name : String) :
    Option String :=
  if name = environment.refreshSeconds then refreshSeconds
  else if name = environment.horizonDays then horizonDays
  else if name = environment.logLevel then logLevel
  else none

/-- The field in the place of a variable. -/
def fieldFor (name : String) : String :=
  if name = environment.refreshSeconds then query.refreshSeconds
  else if name = environment.horizonDays then query.horizonDays
  else if name = environment.logLevel then query.logLevel
  else name

/-- **What is said of a variable**, said of the field in its place. -/
def Fault.onPage : Fault → Fault
  | .apiUrl given => .apiUrl given
  | .value name given => .value (fieldFor name) given

/-- Readers that say the same of different names do so behind a default. -/
theorem orDefault_mapError {α : Type} {given? : Option String} {default : α}
    {read read' : String → Except Fault α} {f : Fault → Fault}
    (h : ∀ value, read' value = (read value).mapError f) :
    orDefault given? default read' = (orDefault given? default read).mapError f := by
  cases given? with
  | none => rfl
  | some value => exact h value

/-- A number is read alike under all names. -/
theorem map_readPositive {N : Type} (ofNat : Nat → N) (bound : Nat) (name value : String) :
    (readPositive bound (fieldFor name) value).map ofNat =
      ((readPositive bound name value).map ofNat).mapError Fault.onPage := by
  unfold readPositive
  split <;> rfl

/-- A level is read alike under all names. -/
theorem readLevel_fieldFor (name value : String) :
    readLevel (fieldFor name) value = (readLevel name value).mapError Fault.onPage := by
  unfold readLevel
  split <;> rfl

/-- Steps whose results are the same, but for what is said, have the same end, but for what is
said. -/
theorem bind_mapError {α β : Type} {x x' : Except Fault α} {next next' : α → Except Fault β}
    {f : Fault → Fault} {change : β → β} (hx : x' = x.mapError f)
    (hnext : ∀ a, next' a = ((next a).map change).mapError f) :
    (x' >>= next') = ((x >>= next).map change).mapError f := by
  subst hx
  cases x with
  | error fault => rfl
  | ok a => exact hnext a

/-- **The query says what the environment would say**, but for the address of the backend. -/
theorem fromPage_eq (origin pageQuery : String) :
    fromPage origin pageQuery =
      ((fromEnvironment (asEnvironment (last? pageQuery "refresh_seconds")
        (last? pageQuery "horizon_days") (last? pageQuery "log"))).map
          fun c => { c with apiBaseUrl := origin }).mapError Fault.onPage := by
  have hpage : fromPage origin pageQuery = tune query (last? pageQuery) (forOrigin origin) := rfl
  have henvironment : ∀ r h l, fromEnvironment (asEnvironment r h l) =
    tune environment (asEnvironment r h l) standard := fun _ _ _ => rfl
  rw [hpage, henvironment]
  exact
    bind_mapError (orDefault_mapError (map_readPositive _ _ environment.refreshSeconds)) fun _ =>
    bind_mapError (orDefault_mapError (map_readPositive _ _ environment.horizonDays)) fun _ =>
    bind_mapError (orDefault_mapError (readLevel_fieldFor environment.logLevel)) fun _ => rfl

/-! ## What does not matter in a query -/

/-- **The address of the backend is the origin of the page**, and the cookie is the usual one. -/
theorem apiBaseUrl_of_fromPage {origin pageQuery : String} {c : Config}
    (h : fromPage origin pageQuery = .ok c) :
    c.apiBaseUrl = origin ∧ c.sessionCookie = Cookie.sessionName := by
  obtain ⟨hcookie, hholds⟩ := override_eq_ok_iff.mp h
  refine ⟨?_, hcookie⟩
  rcases (forall_settings_iff.mp hholds).1 with ⟨value, ⟨name, hname, -⟩, -⟩ | ⟨-, hsame⟩
  · exact nomatch hname
  · exact hsame

/-- A name whose last value is blank may as well have no fields.

**Proof sketch.** The name itself has no field any more, and had a blank value before, so nothing is
given in both cases (`given_eq_none_iff`). For every other name the last value is the same
(`lastOf_filter`). -/
theorem given_lastOf_filter {pageQuery other name value : String}
    (hlast : IsLast (fields pageQuery) name (some value))
    (hblank : ∀ ch ∈ value.toList, Text.isBlank ch = true)
    (hother : fields other = (fields pageQuery).filter fun f => f.1 ≠ name) (asked : String) :
    given (last? other) asked = given (last? pageQuery) asked := by
  have hvalue : last? pageQuery name = some value := lastOf_eq_iff.mpr hlast
  have hlookup : last? other asked = if asked = name then none else last? pageQuery asked := by
    rw [last?, hother, lastOf_filter]
    rfl
  by_cases hasked : asked = name
  · subst hasked
    rw [if_pos rfl] at hlookup
    have hnone : given (last? pageQuery) asked = none := by
      refine given_eq_none_iff.mpr fun raw hraw => ?_
      obtain rfl := Option.some_inj.mp (hvalue.symm.trans hraw)
      exact hblank
    rw [hnone, given, hlookup]
    rfl
  · rw [if_neg hasked] at hlookup
    rw [given, given, hlookup]

/-- **The query of a page tunes the dashboard as the environment does**, with the last values of its
fields, and never moves the backend. Fields of other names, fields with another one of their name
behind them, and the order of different names do not matter, and neither do question marks in front.
A blank last value is as good as no field of its name.

**Proof sketch.** A page reads the same settings from last values (`fromPage_eq`), and all that it
reads is what these give (`override_congr`). Retouching keeps the last values
(`lastOf_eq_of_eqvGen`), and a blank one is as none (`given_lastOf_filter`). Question marks in front
are dropped before the fields are read. -/
theorem fromPage_tunes (origin pageQuery : String) :
    (∀ name value?, last? pageQuery name = value? ↔ IsLast (fields pageQuery) name value?) ∧
      fromPage origin pageQuery =
        ((fromEnvironment (asEnvironment (last? pageQuery "refresh_seconds")
          (last? pageQuery "horizon_days") (last? pageQuery "log"))).map
            fun c => { c with apiBaseUrl := origin }).mapError Fault.onPage ∧
      (∀ c, fromPage origin pageQuery = .ok c →
        c.apiBaseUrl = origin ∧ c.sessionCookie = Cookie.sessionName) ∧
      (∀ other, Relation.EqvGen (Retouch query.all) (fields pageQuery) (fields other) →
        fromPage origin other = fromPage origin pageQuery) ∧
      (∀ name value other, IsLast (fields pageQuery) name (some value) →
        (∀ ch ∈ value.toList, Text.isBlank ch = true) →
        fields other = (fields pageQuery).filter (fun f => f.1 ≠ name) →
        fromPage origin other = fromPage origin pageQuery) ∧
      ∀ other : String, other.toList.dropWhile (· = '?') = pageQuery.toList.dropWhile (· = '?') →
        fromPage origin other = fromPage origin pageQuery := by
  refine ⟨fun name value? => lastOf_eq_iff, fromPage_eq origin pageQuery,
    fun c => apiBaseUrl_of_fromPage, fun other h => ?_,
    fun name value other hlast hblank hother => ?_, fun other h => ?_⟩
  · refine override_congr fun name hname => ?_
    have hlast : last? other name = last? pageQuery name :=
      (lastOf_eq_of_eqvGen h hname).symm
    rw [given, given, hlast]
  · exact override_congr fun asked _ => given_lastOf_filter hlast hblank hother asked
  · have hfields : fields other = fields pageQuery := by rw [fields, fields, h]
    refine override_congr fun name _ => ?_
    rw [given, given, last?, last?, hfields]

/-- A query with a field of another name, a number with a plus sign and a blank, and a name that was
given before it was left blank.

**Proof sketch.** Reading the first query is a computation. The second one is a retouching of it, by
a foreign field, so `fromPage_tunes` gives the same configuration. -/
theorem fromPage_tunes_retouched :
    let c : Config := { forOrigin "https://certs.example.com" with refreshSeconds := 15 }
    fromPage "https://certs.example.com"
        "??horizon_days=7&unrelated=1&refresh_seconds=%2B15+&horizon_days=+" = .ok c ∧
      fromPage "https://certs.example.com"
        "horizon_days=7&refresh_seconds=%2B15+&horizon_days=+" = .ok c ∧
      c.apiBaseUrl = "https://certs.example.com" := by
  intro c
  have hc : fromPage "https://certs.example.com"
    "??horizon_days=7&unrelated=1&refresh_seconds=%2B15+&horizon_days=+" = .ok c := rfl
  obtain ⟨-, -, hmoves, hretouch, -, -⟩ := fromPage_tunes "https://certs.example.com"
    "??horizon_days=7&unrelated=1&refresh_seconds=%2B15+&horizon_days=+"
  have hforeign : Retouch query.all
      ([("horizon_days", "7")] ++ ("unrelated", "1") ::
        [("refresh_seconds", "+15 "), ("horizon_days", " ")])
      ([("horizon_days", "7")] ++ [("refresh_seconds", "+15 "), ("horizon_days", " ")]) :=
    .foreign (by decide)
  have hother := hretouch "horizon_days=7&refresh_seconds=%2B15+&horizon_days=+" (.rel _ _ hforeign)
  exact ⟨hc, hother.trans hc, (hmoves c hc).1⟩

end Config

end CertDashboard
