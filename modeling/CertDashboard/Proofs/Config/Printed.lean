import CertDashboard.Proofs.Config.Environment

set_option autoImplicit false
set_option relaxedAutoImplicit false

/-!
# Printed settings read back

The program prints its settings, one in a line, with the variable that each of them can be set by.
An environment with those values in those variables gives the same settings, and so the program
prints the same again.

## Main definitions

* `CertDashboard.Config.Setting.ReadsBack` — a text that gives a setting the value it has.
* `CertDashboard.Startup.Line` — a line of the report, and `Startup.lines`, those of some settings.

## Main results

* `CertDashboard.Startup.holds_of_lines` — what is printed reads back, setting by setting.
* `CertDashboard.Startup.fromEnvironment_lines` — what is printed is the configuration it was
  printed of.
-/

namespace CertDashboard

/-! ## Texts without blanks around them -/

namespace Text

/-- Without the blanks around it, a text has none around it. -/
theorem trim_trim (s : String) : trim (trim s) = trim s := by
  rw [← String.toList_inj, toList_trim, toList_trim, trimChars_trimChars]

/-- A text without blanks is as it is. -/
theorem trim_of_forall_not {s : String} (h : ∀ c ∈ s.toList, isBlank c = false) : trim s = s := by
  have hfront : ∀ {cs : List Char}, (∀ c ∈ cs, isBlank c = false) → cs.dropWhile isBlank = cs := by
    intro cs hcs
    cases cs with
    | nil => rfl
    | cons c rest => simp [hcs c List.mem_cons_self]
  have hback : ∀ c ∈ s.toList.reverse, isBlank c = false := fun c hc => h c (List.mem_reverse.mp hc)
  rw [← String.toList_inj, toList_trim, trimChars, hfront h, trimEnd, hfront hback,
    List.reverse_reverse]

end Text

namespace Decimal

/-- A digit is not blank. -/
theorem isBlank_of_isDigit {c : Char} (h : c.isDigit = true) : Text.isBlank c = false := by
  have hrange : 48 ≤ c.toNat ∧ c.toNat ≤ 57 := by
    simp only [Char.isDigit, Bool.and_eq_true, decide_eq_true_eq] at h
    exact h
  simp only [Text.isBlank, Bool.or_eq_false_iff, Bool.and_eq_false_iff, decide_eq_false_iff_not,
    beq_eq_false_iff_ne]
  omega

/-- There are no blanks around a written number. -/
theorem trim_natural (n : Nat) : Text.trim (natural n) = natural n := by
  refine Text.trim_of_forall_not fun c hc => isBlank_of_isDigit ?_
  rw [toList_natural] at hc
  exact isDigit_of_mem_digits hc

/-- A written number denotes what it was written for. -/
theorem denotes_natural (n : Nat) : Denotes (natural n) n :=
  ⟨digits n, digits_ne_nil n, fun _ => isDigit_of_mem_digits, .inl (toList_natural n),
    ofDigitChars_digits n⟩

end Decimal

/-! ## Settings that read back -/

namespace Config

/-- **A text that gives a setting the value it has.** -/
structure Setting.ReadsBack (S : Setting) (c : Config) (text : String) : Prop where
  /-- There are no blanks around it. -/
  trim : Text.trim text = text
  /-- It is not blank. -/
  ne_empty : text ≠ ""
  /-- It denotes the value. -/
  denotes : S.Denotes text (S.value c)

/-- Where such a text is looked up, the setting holds. -/
theorem Setting.ReadsBack.holds {S : Setting} {c : Config} {text name : String}
    (h : S.ReadsBack c text) (hname : S.name = some name) {lookup : String → Option String}
    (hlookup : lookup name = some text) (base : Config) : S.Holds lookup base c :=
  .inl ⟨text, ⟨name, hname, text, hlookup, h.trim, h.ne_empty⟩, h.denotes⟩

/-- A positive number reads back. -/
theorem readsBack_natural {N : Type} {toNat : N → Nat} {value : Config → N} {c : Config}
    (hpos : 0 < toNat (value c)) (name : String) :
    (positiveSetting toNat value name).ReadsBack c (Decimal.natural (toNat (value c))) where
  trim := Decimal.trim_natural _
  ne_empty := by
    rw [← String.toList_inj.ne, Decimal.toList_natural, String.toList_empty]
    exact Decimal.digits_ne_nil _
  denotes := ⟨Decimal.denotes_natural _, hpos⟩

/-- The name of a level reads back. -/
theorem readsBack_level (name : String) (c : Config) :
    (levelSetting name).ReadsBack c c.logLevel.name := by
  have hlevel : ∀ level : LogLevel, Text.trim level.name = level.name ∧ level.name ≠ "" ∧
      LogLevel.IsSpelled level.name level := by
    intro level
    refine ⟨?_, ?_, .inr ?_⟩ <;> cases level <;> decide
  obtain ⟨htrim, hne, hspelled⟩ := hlevel c.logLevel
  exact ⟨htrim, hne, hspelled⟩

/-- The address of the backend reads back: it is one that was read, or the usual one. -/
theorem readsBack_apiUrl {name : Option String} {lookup : String → Option String} {c : Config}
    (h : (apiUrlSetting name).Holds lookup standard c) :
    (apiUrlSetting name).ReadsBack c c.apiBaseUrl := by
  rcases h with ⟨value, ⟨key, -, raw, -, htrim, hne⟩, hvalue, hweb⟩ | ⟨-, hsame⟩
  · obtain rfl : value = c.apiBaseUrl := hvalue
    refine ⟨?_, hne, rfl, hweb⟩
    rw [← htrim, Text.trim_trim]
  · have hlocal : c.apiBaseUrl = "http://127.0.0.1:8111" := hsame
    rw [hlocal]
    exact ⟨rfl, by decide, hlocal.symm, rfl⟩

end Config

/-! ## The report -/

namespace Startup

open Config

/-- **A line of the report**: what is set, to which value, and by which variable. -/
structure Line where
  /-- What is set. -/
  label : String
  /-- The value it is set to. -/
  value : String
  /-- The variable that sets it. -/
  variableName : String

/-- The line as it is printed. -/
def Line.text (l : Line) : String :=
  settingLine l.label l.value l.variableName

/-- **The lines that show some settings.** -/
def lines (c : Config) : List Line :=
  [⟨"api_base_url", c.apiBaseUrl, "DOOMSDAY_API_URL"⟩,
    ⟨"refresh_seconds", Decimal.natural c.refreshSeconds.toNat, "DOOMSDAY_REFRESH_SECONDS"⟩,
    ⟨"horizon_days", Decimal.natural c.horizonDays.toNat, "DOOMSDAY_HORIZON_DAYS"⟩,
    ⟨"log_level", c.logLevel.name, "DOOMSDAY_LOG"⟩]

/-- Settings are printed line by line. -/
theorem settingLines_eq (c : Config) : settingLines c = String.join ((lines c).map Line.text) := by
  simp [settingLines, lines, Line.text, String.join, environment]

/-- The report of an environment that says some settings. -/
theorem report_of_ok {lookup : String → Option String} {c : Config}
    (h : fromEnvironment lookup = .ok c) : report lookup = ⟨0, "doomsday-app " ++ Session.version ++
      "\n" ++ String.join ((lines c).map Line.text), "", []⟩ := by
  simp only [report, h, settingLines_eq]

/-- **What is printed reads back**, setting by setting. -/
theorem holds_of_lines {lookup lookup' : String → Option String} {c : Config}
    (h : ∀ S ∈ settings environment, S.Holds lookup standard c)
    (hlines : ∀ l ∈ lines c, lookup' l.variableName = some l.value) :
    ∀ S ∈ settings environment, S.Holds lookup' standard c := by
  obtain ⟨hurl, -, -, -⟩ := forall_settings_iff.mp h
  obtain ⟨hseconds, hdays, -⟩ := sound_of_holds h
  simp only [lines, List.forall_mem_cons] at hlines
  obtain ⟨hurl', hseconds', hdays', hlevel', -⟩ := hlines
  exact forall_settings_iff.mpr ⟨(readsBack_apiUrl hurl).holds rfl hurl' _,
    (readsBack_natural hseconds _).holds rfl hseconds' _,
    (readsBack_natural hdays _).holds rfl hdays' _, (readsBack_level _ c).holds rfl hlevel' _⟩

/-- **What is printed is the configuration it was printed of.** An environment that says some
settings makes a report of one line for each variable, and any environment with the printed values
in those variables, whatever its other ones are, says the same settings and makes the same
report. -/
theorem fromEnvironment_lines (lookup : String → Option String) (c : Config)
    (h : fromEnvironment lookup = .ok c) :
    report lookup = ⟨0, "doomsday-app " ++ Session.version ++ "\n" ++
        String.join ((lines c).map Line.text), "", []⟩ ∧
      (lines c).map Line.variableName = environment.all ∧
      ∀ lookup' : String → Option String,
        (∀ l ∈ lines c, lookup' l.variableName = some l.value) →
          fromEnvironment lookup' = .ok c ∧ report lookup' = report lookup := by
  refine ⟨report_of_ok h, rfl, fun lookup' hlines => ?_⟩
  obtain ⟨hcookie, hholds⟩ := override_eq_ok_iff.mp h
  have hagain : fromEnvironment lookup' = .ok c :=
    override_eq_ok_iff.mpr ⟨hcookie, holds_of_lines hholds hlines⟩
  exact ⟨hagain, by rw [report_of_ok hagain, report_of_ok h]⟩

/-- An environment with an address between blanks, a signed number and a level by its number; the
largest number of seconds that there is.

**Proof sketch.** Reading the first environment is a computation. The second one has the values of
the printed lines, so `fromEnvironment_lines` says that both report the same. -/
theorem fromEnvironment_lines_trimmed :
    let lookup := fun name => [("DOOMSDAY_API_URL", "\u3000HTTPS://doomsday.test\t"),
      ("DOOMSDAY_REFRESH_SECONDS", "+018446744073709551615"), ("DOOMSDAY_LOG", "05")].lookup name
    let lookup' := fun name => [("DOOMSDAY_API_URL", "HTTPS://doomsday.test"),
      ("DOOMSDAY_REFRESH_SECONDS", "18446744073709551615"), ("DOOMSDAY_HORIZON_DAYS", "90"),
      ("DOOMSDAY_LOG", "TRACE")].lookup name
    let c : Config :=
      ⟨"HTTPS://doomsday.test", 18446744073709551615, 90, Cookie.sessionName, .trace⟩
    fromEnvironment lookup = .ok c ∧ fromEnvironment lookup' = .ok c ∧
      report lookup' = report lookup := by
  intro lookup lookup' c
  have hc : fromEnvironment lookup = .ok c := rfl
  obtain ⟨-, -, hagain⟩ := fromEnvironment_lines lookup c hc
  have hlines : ∀ l ∈ lines c, lookup' l.variableName = some l.value := by
    simp only [lines, List.forall_mem_cons]
    exact ⟨rfl, by decide, by decide, rfl, nofun⟩
  exact ⟨hc, hagain lookup' hlines⟩

end Startup

end CertDashboard
