import CertDashboard.Proofs.Api.Endpoints
import CertDashboard.Proofs.Config.Values
import CertDashboard.Proofs.Json.Acceptance
import CertDashboard.Startup
import Mathlib.Logic.Function.Basic

set_option autoImplicit false
set_option relaxedAutoImplicit false

/-!
# Settings from a source

A setting is a name, a part of the configuration, what its values denote, and what is said about a
value that denotes nothing. The settings of a source are judged one by one, in a fixed order: the
first unusable one is complained about, and if all are usable, each part is what the value of its
setting denotes, or what it was before.

## Main definitions

* `CertDashboard.Config.Setting` — a setting, and `Setting.Complains`, `Setting.Holds`.
* `CertDashboard.Config.settings` — the settings of a source, in the order in which they are judged.
* `CertDashboard.Config.FirstComplaint` — what is said about the first unusable value.

## Main results

* `CertDashboard.Config.override_eq_error_iff`, `CertDashboard.Config.override_eq_ok_iff` — when the
  settings of a source are unusable, and what they say otherwise.
* `CertDashboard.Config.fromEnvironment_sound` — the configuration of an environment.

## Design

Names and values are looked up, so the environment is a function. That it is asked for four names
only is said by comparing two of them.
-/

namespace CertDashboard

namespace Config

open Json (bind_eq_ok_iff)

/-! ## Settings -/

/-- **A setting of a source.** -/
structure Setting where
  /-- What can be set. -/
  {Value : Type}
  /-- Its name, if the source may give it. -/
  name : Option String
  /-- The part of the configuration that it sets. -/
  value : Config → Value
  /-- What its values denote. -/
  Denotes : String → Value → Prop
  /-- What is said about a value that denotes nothing. -/
  fault : String → Fault

namespace Setting

/-- A value that the source gives. -/
def IsGiven (S : Setting) (lookup : String → Option String) (value : String) : Prop :=
  ∃ name ∈ S.name, Config.IsGiven lookup name value

/-- A value that denotes something. -/
def IsUsable (S : Setting) (value : String) : Prop :=
  ∃ x, S.Denotes value x

/-- **The setting is unusable**, and this is said about it. -/
def Complains (S : Setting) (lookup : String → Option String) (fault : Fault) : Prop :=
  ∃ value, S.IsGiven lookup value ∧ ¬ S.IsUsable value ∧ S.fault value = fault

/-- **The setting holds** in a configuration: the part is what the value denotes, or the same as in
another configuration, if no value is given. -/
def Holds (S : Setting) (lookup : String → Option String) (base c : Config) : Prop :=
  (∃ value, S.IsGiven lookup value ∧ S.Denotes value (S.value c)) ∨
    ((∀ value, ¬ S.IsGiven lookup value) ∧ S.value c = S.value base)

/-- The value that the source gives, if there is one. -/
def given? (S : Setting) (lookup : String → Option String) : Option String :=
  S.name.bind (given lookup)

/-- It is the value that is given. -/
theorem given?_eq_some_iff {S : Setting} {lookup : String → Option String} {value : String} :
    S.given? lookup = some value ↔ S.IsGiven lookup value := by
  simp only [given?, Option.bind_eq_some_iff, given_eq_some_iff, IsGiven, Option.mem_def]

/-- **A reader of a setting**: it reads what a value denotes, and complains about any other
value. -/
structure Reads (S : Setting) (read : String → Except Fault S.Value) : Prop where
  /-- What is read is denoted. -/
  ok : ∀ value x, read value = .ok x ↔ S.Denotes value x
  /-- What is said about other values. -/
  error : ∀ value fault, read value = .error fault → S.fault value = fault

namespace Reads

variable {S : Setting} {read : String → Except Fault S.Value} {lookup : String → Option String}

/-- Reading fails on unusable values only. -/
theorem error_iff (h : S.Reads read) {value : String} {fault : Fault} :
    read value = .error fault ↔ ¬ S.IsUsable value ∧ S.fault value = fault := by
  constructor
  · intro herror
    refine ⟨?_, h.error value fault herror⟩
    rintro ⟨x, hx⟩
    rw [(h.ok value x).mpr hx] at herror
    exact nomatch herror
  · rintro ⟨hunusable, rfl⟩
    cases hread : read value with
    | error fault => rw [h.error value fault hread]
    | ok x => exact absurd ⟨x, (h.ok value x).mp hread⟩ hunusable

/-- **Reading with a default fails** if and only if the setting is unusable. -/
theorem orDefault_eq_error_iff (h : S.Reads read) {default : S.Value} {fault : Fault} :
    orDefault (S.given? lookup) default read = .error fault ↔ S.Complains lookup fault := by
  simp only [Complains, ← given?_eq_some_iff]
  cases S.given? lookup with
  | none => simp [orDefault]
  | some value => simpa [orDefault] using h.error_iff

/-- **What is read with a default** makes the setting hold, and nothing else does. -/
theorem orDefault_eq_ok_iff (h : S.Reads read) {base c : Config} :
    orDefault (S.given? lookup) (S.value base) read = .ok (S.value c) ↔ S.Holds lookup base c := by
  simp only [Holds, ← given?_eq_some_iff]
  cases S.given? lookup with
  | none => simp [orDefault, eq_comm]
  | some value => simp [orDefault, h.ok]

end Reads

end Setting

/-! ## The first unusable setting -/

/-- **What is said about the first unusable setting.** -/
def FirstComplaint (settings : List Setting) (lookup : String → Option String) (fault : Fault) :
    Prop :=
  ∃ before S after, settings = before ++ S :: after ∧
    (∀ T ∈ before, ∀ other, ¬ T.Complains lookup other) ∧ S.Complains lookup fault

/-- Nothing is said if there are no settings. -/
theorem not_firstComplaint_nil {lookup : String → Option String} {fault : Fault} :
    ¬ FirstComplaint [] lookup fault := by
  rintro ⟨before, S, after, h, -⟩
  simp at h

/-- What is said is about the first setting, or else about the others, if that is usable.

**Proof sketch.** By whether there are settings in front of the one that complains. With none of
them it is the first setting; otherwise the first one is among them, and does not complain. -/
theorem firstComplaint_cons {S : Setting} {rest : List Setting} {lookup : String → Option String}
    {fault : Fault} : FirstComplaint (S :: rest) lookup fault ↔ S.Complains lookup fault ∨
      (∀ other, ¬ S.Complains lookup other) ∧ FirstComplaint rest lookup fault := by
  constructor
  · rintro ⟨before, T, after, h, hbefore, hT⟩
    cases before with
    | nil =>
      obtain ⟨rfl, rfl⟩ := List.cons.inj h
      exact .inl hT
    | cons U before =>
      obtain ⟨rfl, rfl⟩ := List.cons.inj h
      refine .inr ⟨hbefore S List.mem_cons_self, before, T, after, rfl, ?_, hT⟩
      exact fun V hV => hbefore V (List.mem_cons_of_mem S hV)
  · rintro (hS | ⟨hS, before, T, after, rfl, hbefore, hT⟩)
    · exact ⟨[], S, rest, rfl, nofun, hS⟩
    · refine ⟨S :: before, T, after, rfl, ?_, hT⟩
      intro V hV
      rcases List.mem_cons.mp hV with rfl | hV
      · exact hS
      · exact hbefore V hV

/-- Something is said if and only if some setting is unusable. -/
theorem exists_firstComplaint_iff {settings : List Setting} {lookup : String → Option String} :
    (∃ fault, FirstComplaint settings lookup fault) ↔
      ∃ S ∈ settings, ∃ fault, S.Complains lookup fault := by
  -- If the first setting is usable, the first complaint is about the others.
  induction settings with
  | nil => simp [not_firstComplaint_nil]
  | cons S rest ih =>
    simp only [firstComplaint_cons, List.mem_cons, exists_eq_or_imp, ← ih]
    by_cases hS : ∃ fault, S.Complains lookup fault
    · obtain ⟨fault, hfault⟩ := hS
      exact ⟨fun _ => .inl ⟨fault, hfault⟩, fun _ => ⟨fault, .inl hfault⟩⟩
    · simp only [not_exists] at hS
      simp [hS]

/-- **Settings are judged one by one**: what is said about the first one is said, and otherwise what
is said about the others. -/
theorem bind_eq_error_iff {S : Setting} {rest : List Setting} {lookup : String → Option String}
    {α β : Type} {x : Except Fault α} {f : α → Except Fault β} {fault : Fault}
    (hx : ∀ other, x = .error other ↔ S.Complains lookup other)
    (hf : ∀ a, f a = .error fault ↔ FirstComplaint rest lookup fault) :
    (x >>= f) = .error fault ↔ FirstComplaint (S :: rest) lookup fault := by
  rw [firstComplaint_cons]
  simp only [← hx]
  cases x with
  | error other => simp [bind, Except.bind]
  | ok a => simpa [bind, Except.bind] using hf a

/-! ## The settings of a source -/

/-- The address of the backend. -/
def apiUrlSetting (name : Option String) : Setting where
  name := name
  value := apiBaseUrl
  Denotes value url := value = url ∧ Url.isWeb value = true
  fault := .apiUrl

/-- **A positive number.** -/
def positiveSetting {N : Type} (toNat : N → Nat) (value : Config → N) (name : String) : Setting where
  name := some name
  value := value
  Denotes value n := Decimal.Denotes value (toNat n) ∧ 0 < toNat n
  fault := .value name

/-- How much is logged. -/
def levelSetting (name : String) : Setting where
  name := some name
  value := logLevel
  Denotes := LogLevel.IsSpelled
  fault := .value name

/-- **The settings of a source**, in the order in which they are judged. -/
def settings (names : Names) : List Setting :=
  [apiUrlSetting names.apiUrl,
    positiveSetting UInt64.toNat refreshSeconds names.refreshSeconds,
    positiveSetting UInt32.toNat horizonDays names.horizonDays,
    levelSetting names.logLevel]

/-- All settings of a source, one by one. -/
theorem forall_settings_iff {names : Names} {P : Setting → Prop} :
    (∀ S ∈ settings names, P S) ↔ P (apiUrlSetting names.apiUrl) ∧
      P (positiveSetting UInt64.toNat refreshSeconds names.refreshSeconds) ∧
      P (positiveSetting UInt32.toNat horizonDays names.horizonDays) ∧
      P (levelSetting names.logLevel) := by
  simp [settings]

/-! ## Readers -/

/-- The address of a backend is a web address. -/
theorem readApiUrl_eq_ok_iff {value url : String} :
    readApiUrl value = .ok url ↔ value = url ∧ Url.isWeb value = true := by
  unfold readApiUrl
  split
  · next h => simp [h]
  · next h => simp [h]

/-- The reader of an address. -/
theorem reads_readApiUrl (name : Option String) : (apiUrlSetting name).Reads readApiUrl where
  ok _ _ := readApiUrl_eq_ok_iff
  error value fault h := by
    unfold readApiUrl at h
    split at h
    · exact nomatch h
    · exact Except.error.inj h

/-- A number is positive and keeps its bound. -/
theorem readPositive_eq_ok_iff {bound n : Nat} {name value : String} :
    readPositive bound name value = .ok n ↔ Decimal.Denotes value n ∧ 0 < n ∧ n ≤ bound := by
  have hread : readPositive bound name value = .ok n ↔
      Decimal.unsigned? bound value = some n ∧ 0 < n := by
    unfold readPositive
    split
    · next hzero => simpa [hzero] using fun h : 0 = n => h.symm
    · next m hzero hm =>
      have hpos : m ≠ 0 := fun h => hzero (h ▸ rfl)
      rw [hm]
      simp
      omega
    · next hnone => simp [hnone]
  rw [hread, Decimal.unsigned?_eq_some_iff, and_assoc, and_comm (a := n ≤ bound)]

/-- Nothing but the value is complained about. -/
theorem readPositive_eq_error {bound : Nat} {name value : String} {fault : Fault}
    (h : readPositive bound name value = .error fault) : Fault.value name value = fault := by
  unfold readPositive at h
  split at h
  · exact Except.error.inj h
  · exact nomatch h
  · exact Except.error.inj h

/-- **The reader of a number of a fixed size**: it reads the positive ones of that size.

**Proof sketch.** The reader gives a number of the size or says why not (`readPositive_eq_ok_iff`,
`readPositive_eq_error`). Numbers of the size are in bijection with those up to the bound, and a
text denotes one number only (`Decimal.Denotes.unique`). -/
theorem reads_readPositive {N : Type} {toNat : N → Nat} {ofNat : Nat → N} {bound : Nat}
    (hle : ∀ n, toNat n ≤ bound) (hto : ∀ n ≤ bound, toNat (ofNat n) = n)
    (hof : ∀ n, ofNat (toNat n) = n) (part : Config → N) (name : String) :
    (positiveSetting toNat part name).Reads fun value =>
      (readPositive bound name value).map ofNat where
  ok value n := by
    show (readPositive bound name value).map ofNat = .ok n ↔
      Decimal.Denotes value (toNat n) ∧ 0 < toNat n
    cases hread : readPositive bound name value with
    | ok m =>
      obtain ⟨hdenotes, hpos, hm⟩ := readPositive_eq_ok_iff.mp hread
      constructor
      · intro h
        obtain rfl := Except.ok.inj h
        rw [hto m hm]
        exact ⟨hdenotes, hpos⟩
      · rintro ⟨hn, -⟩
        rw [hdenotes.unique hn]
        exact congrArg Except.ok (hof n)
    | error fault =>
      refine ⟨nofun, ?_⟩
      rintro ⟨hn, hpos⟩
      rw [readPositive_eq_ok_iff.mpr ⟨hn, hpos, hle n⟩] at hread
      exact nomatch hread
  error value fault h := by
    cases hread : readPositive bound name value with
    | ok m =>
      rw [hread] at h
      exact nomatch h
    | error other =>
      rw [hread] at h
      obtain rfl := Except.error.inj h
      exact readPositive_eq_error hread

/-- A level is read from what it is spelled by. -/
theorem readLevel_eq_ok_iff {name value : String} {level : LogLevel} :
    readLevel name value = .ok level ↔ LogLevel.IsSpelled value level := by
  rw [← LogLevel.read?_eq_some_iff, readLevel]
  split
  · next h => simp [h]
  · next h => simp [h]

/-- The reader of a level. -/
theorem reads_readLevel (name : String) : (levelSetting name).Reads (readLevel name) where
  ok _ _ := readLevel_eq_ok_iff
  error value fault h := by
    unfold readLevel at h
    split at h
    · exact nomatch h
    · exact Except.error.inj h

/-! ## Sources -/

variable {names : Names} {lookup : String → Option String} {base : Config}

/-- The reader of the seconds between two refreshes. -/
theorem reads_refreshSeconds (name : String) :
    (positiveSetting UInt64.toNat refreshSeconds name).Reads fun value =>
      (readPositive (UInt64.size - 1) name value).map UInt64.ofNat :=
  reads_readPositive (fun n => Nat.le_sub_one_of_lt n.toNat_lt)
    (fun _ hn => UInt64.toNat_ofNat_of_lt' (Nat.lt_of_le_sub_one (by decide) hn))
    (fun _ => UInt64.ofNat_toNat) _ _

/-- The reader of the days that the collapsed view shows. -/
theorem reads_horizonDays (name : String) :
    (positiveSetting UInt32.toNat horizonDays name).Reads fun value =>
      (readPositive (UInt32.size - 1) name value).map UInt32.ofNat :=
  reads_readPositive (fun n => Nat.le_sub_one_of_lt n.toNat_lt)
    (fun _ hn => UInt32.toNat_ofNat_of_lt' (Nat.lt_of_le_sub_one (by decide) hn))
    (fun _ => UInt32.ofNat_toNat) _ _

/-- **When the settings of a source are unusable**, and what is said then. -/
theorem override_eq_error_iff {fault : Fault} :
    override names lookup base = .error fault ↔ FirstComplaint (settings names) lookup fault :=
  bind_eq_error_iff (fun _ => (reads_readApiUrl _).orDefault_eq_error_iff) fun _ =>
  bind_eq_error_iff (fun _ => (reads_refreshSeconds _).orDefault_eq_error_iff) fun _ =>
  bind_eq_error_iff (fun _ => (reads_horizonDays _).orDefault_eq_error_iff) fun _ =>
  bind_eq_error_iff (fun _ => (reads_readLevel _).orDefault_eq_error_iff) fun _ =>
  ⟨nofun, fun h => absurd h not_firstComplaint_nil⟩

/-- **What the settings of a source say**: each of them holds, and the cookie is what it was.

**Proof sketch.** Each of the four readers with its default says what its setting says
(`Reads.orDefault_eq_ok_iff`). They are run one after another, so all of them succeed if and only if
the whole does (`bind_eq_ok_iff`), and the cookie is not touched. -/
theorem override_eq_ok_iff {c : Config} : override names lookup base = .ok c ↔
    c.sessionCookie = base.sessionCookie ∧ ∀ S ∈ settings names, S.Holds lookup base c := by
  rw [forall_settings_iff, ← (reads_readApiUrl _).orDefault_eq_ok_iff,
    ← (reads_refreshSeconds _).orDefault_eq_ok_iff, ← (reads_horizonDays _).orDefault_eq_ok_iff,
    ← (reads_readLevel _).orDefault_eq_ok_iff]
  constructor
  · intro h
    obtain ⟨url, hurl, h⟩ := bind_eq_ok_iff.mp h
    obtain ⟨seconds, hseconds, h⟩ := bind_eq_ok_iff.mp h
    obtain ⟨days, hdays, h⟩ := bind_eq_ok_iff.mp h
    obtain ⟨level, hlevel, h⟩ := bind_eq_ok_iff.mp h
    obtain rfl := Except.ok.inj h
    exact ⟨rfl, hurl, hseconds, hdays, hlevel⟩
  · rintro ⟨hcookie, hurl, hseconds, hdays, hlevel⟩
    refine bind_eq_ok_iff.mpr ⟨_, hurl, bind_eq_ok_iff.mpr ⟨_, hseconds,
      bind_eq_ok_iff.mpr ⟨_, hdays, bind_eq_ok_iff.mpr ⟨_, hlevel, ?_⟩⟩⟩⟩
    rw [← hcookie]
    rfl

/-- All names of the settings of a source. -/
def Names.all (names : Names) : List String :=
  names.apiUrl.toList ++ [names.refreshSeconds, names.horizonDays, names.logLevel]

/-- **A source is asked for the names of its settings only**, and what is given there decides. -/
theorem override_congr {lookup' : String → Option String}
    (h : ∀ name ∈ names.all, given lookup' name = given lookup name) :
    override names lookup' base = override names lookup base := by
  have hurl : names.apiUrl.bind (given lookup') = names.apiUrl.bind (given lookup) := by
    cases hname : names.apiUrl with
    | none => rfl
    | some name => exact h name (by simp [Names.all, hname])
  have hseconds := h names.refreshSeconds (by simp [Names.all])
  have hdays := h names.horizonDays (by simp [Names.all])
  have hlevel := h names.logLevel (by simp [Names.all])
  simp only [override, tune, hurl, hseconds, hdays, hlevel]

/-- A blank value decides as none would. -/
theorem given_update_none {name : String}
    (h : ∀ raw ∈ lookup name, ∀ ch ∈ raw.toList, Text.isBlank ch = true) (other : String) :
    given (Function.update lookup name none) other = given lookup other := by
  by_cases hother : other = name
  · subst hother
    rw [given_eq_none_iff.mpr h, given, Function.update_self]
    rfl
  · rw [given, given, Function.update_of_ne hother]

/-! ## The environment -/

/-- Days as seconds, without a limit to it. -/
theorem toInt_ofDays (days : UInt32) :
    ∃ seconds, Horizon.ofDays days = .within seconds ∧ seconds.toInt = 86400 * days.toNat := by
  refine ⟨_, rfl, ?_⟩
  have hlt := days.toNat_lt
  rw [Expiry.toInt_clamp, Expiry.secondsPerDay]
  omega

/-- **What the settings of an environment say** is sound: there is a second between two refreshes
and a day that the collapsed view shows, that day has all of its seconds, and the backend can be
connected to.

**Proof sketch.** Each of the three settings is given or has its default. A given number is
positive, a given address is that of the web, and the defaults are evaluated. To such an address a
client connects (`Api.Client.exists_connect_iff`). -/
theorem sound_of_holds {c : Config} (h : ∀ S ∈ settings environment, S.Holds lookup standard c) :
    0 < c.refreshSeconds.toNat ∧ 0 < c.horizonDays.toNat ∧
      ∃ services, Startup.services c = .ok services := by
  obtain ⟨hurl, hseconds, hdays, -⟩ := forall_settings_iff.mp h
  refine ⟨?_, ?_, ?_⟩
  · rcases hseconds with ⟨value, -, -, hpos⟩ | ⟨-, hsame⟩
    · exact hpos
    · have hsixty : c.refreshSeconds = 60 := hsame
      rw [hsixty]
      decide
  · rcases hdays with ⟨value, -, -, hpos⟩ | ⟨-, hsame⟩
    · exact hpos
    · have hninety : c.horizonDays = 90 := hsame
      rw [hninety]
      decide
  · have hweb : Url.isWeb c.apiBaseUrl = true := by
      rcases hurl with ⟨value, -, hvalue, hweb⟩ | ⟨-, hsame⟩
      · have heq : value = c.apiBaseUrl := hvalue
        exact heq ▸ hweb
      · have hlocal : c.apiBaseUrl = "http://127.0.0.1:8111" := hsame
        rw [hlocal]
        rfl
    obtain ⟨client, hclient⟩ := Api.Client.exists_connect_iff.mpr hweb
    exact ⟨⟨client, c.tuning, c.sessionCookie⟩, by rw [Startup.services, hclient]⟩

/-- **The configuration of an environment.** Nothing but the variables is looked up, and a blank
value is as good as none. What is said is said about the first unusable setting, and something is
said if and only if there is one. Otherwise every setting holds, the cookie is the usual one, and
the configuration is sound: pages can be built from it.

**Proof sketch.** The result depends only on what the variables give (`override_congr`), and a blank
value gives nothing (`given_update_none`). Success and failure are those of the settings
(`override_eq_ok_iff`, `override_eq_error_iff`), and what holds of them is sound (`sound_of_holds`).
The horizon is exact because the days fit into a word (`toInt_ofDays`). -/
theorem fromEnvironment_sound (lookup : String → Option String) :
    (∀ lookup' : String → Option String, (∀ name ∈ environment.all, lookup' name = lookup name) →
        fromEnvironment lookup' = fromEnvironment lookup) ∧
      (∀ name, (∀ raw ∈ lookup name, ∀ ch ∈ raw.toList, Text.isBlank ch = true) →
        fromEnvironment (Function.update lookup name none) = fromEnvironment lookup) ∧
      ((∃ fault, fromEnvironment lookup = .error fault) ↔
        ∃ S ∈ settings environment, ∃ value, S.IsGiven lookup value ∧ ¬ S.IsUsable value) ∧
      (∀ fault, fromEnvironment lookup = .error fault ↔
        FirstComplaint (settings environment) lookup fault) ∧
      (∀ c, fromEnvironment lookup = .ok c ↔ c.sessionCookie = Cookie.sessionName ∧
        ∀ S ∈ settings environment, S.Holds lookup standard c) ∧
      ∀ c, fromEnvironment lookup = .ok c →
        1 ≤ c.refreshSeconds.toNat ∧ 1 ≤ c.horizonDays.toNat ∧
          (∃ seconds, c.tuning.horizon = .within seconds ∧
            seconds.toInt = 86400 * c.horizonDays.toNat) ∧
          ∃ services, Startup.services c = .ok services := by
  refine ⟨fun lookup' h => ?_, fun name h => ?_, ?_, fun fault => override_eq_error_iff,
    fun c => override_eq_ok_iff, fun c hc => ?_⟩
  · refine override_congr fun name hname => ?_
    rw [given, given, h name hname]
  · exact override_congr fun other _ => given_update_none h other
  · simp only [fromEnvironment, override_eq_error_iff, exists_firstComplaint_iff,
      Setting.Complains]
    simp
  · obtain ⟨hseconds, hdays, hservices⟩ := sound_of_holds (override_eq_ok_iff.mp hc).2
    exact ⟨hseconds, hdays, toInt_ofDays c.horizonDays, hservices⟩

/-- An environment with a number between blanks and a level of nothing but a blank.

**Proof sketch.** Reading the environment is a computation. The level is a blank only, so
`fromEnvironment_sound` allows to leave it away, and gives the rest. -/
theorem fromEnvironment_sound_blanks :
    let lookup := fun name => [("DOOMSDAY_REFRESH_SECONDS", " +015\t"),
      ("DOOMSDAY_LOG", "\u3000")].lookup name
    let c := { standard with refreshSeconds := 15 }
    fromEnvironment lookup = .ok c ∧
      fromEnvironment (Function.update lookup "DOOMSDAY_LOG" none) = .ok c ∧
      1 ≤ c.refreshSeconds.toNat ∧ ∃ services, Startup.services c = .ok services := by
  intro lookup c
  have hc : fromEnvironment lookup = .ok c := rfl
  obtain ⟨-, hblank, -, -, -, hsound⟩ := fromEnvironment_sound lookup
  obtain ⟨hseconds, -, -, hservices⟩ := hsound c hc
  have hlog : ∀ raw ∈ lookup "DOOMSDAY_LOG", ∀ ch ∈ raw.toList, Text.isBlank ch = true := by
    intro raw hraw
    obtain rfl : "\u3000" = raw := Option.some_inj.mp hraw
    exact List.all_eq_true.mp rfl
  exact ⟨hc, (hblank _ hlog).trans hc, hseconds, hservices⟩

example : fromEnvironment (fun name => [("DOOMSDAY_LOG", "chatty"),
    ("DOOMSDAY_HORIZON_DAYS", " 4294967296 ")].lookup name) =
      .error (.value "DOOMSDAY_HORIZON_DAYS" "4294967296") := rfl

end Config

end CertDashboard
