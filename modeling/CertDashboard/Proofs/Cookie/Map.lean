import CertDashboard.Proofs.Cookie.Jar
import Mathlib.Data.List.Induction
import Mathlib.Data.List.Nodup

set_option autoImplicit false
set_option relaxedAutoImplicit false

/-!
# A jar is a map

A jar is written one assignment after another, each of which edits the text of the cookie string.
What is found in it behind them is what a map from names to values would hold.

## Main definitions

* `CertDashboard.Cookie.Assignment`, `CertDashboard.Cookie.Writing` — what is written into a jar.
* `CertDashboard.Cookie.written` — the jar behind some writings, empty at first.
* `CertDashboard.Cookie.latest?` — the latest assignment to a name.
* `CertDashboard.Cookie.Jar.Holds` — a jar is the text of a map.

## Main results

* `CertDashboard.Cookie.Jar.Holds.write` — an assignment changes the map at its name only.
* `CertDashboard.Cookie.holds_written` — a jar holds the latest assignment to each name.
* `CertDashboard.Cookie.written_isMap` — what is found in a jar, and what becomes of the session
  token.

## Design

The pairs of a jar are in the order of their assignments, and no name has two of them. A map says
nothing about order, and is a function here.
-/

namespace CertDashboard

namespace Cookie

/-! ## Writings -/

/-- **An assignment to a cookie**: a name and a value, with attributes behind a semicolon or
without. -/
structure Assignment where
  /-- Name. -/
  name : List Char
  /-- Value. -/
  value : List Char
  /-- What stands behind the first semicolon, if there is one. -/
  attributes : Option (List Char)
  /-- Name and value are a pair. -/
  isPair : IsPair (name, value)

namespace Assignment

/-- What stands behind the value. -/
def ending (a : Assignment) : List Char :=
  a.attributes.elim [] (';' :: ·)

/-- The text of an assignment. -/
def text (a : Assignment) : String :=
  String.ofList (pairText (a.name, a.value) ++ a.ending)

/-- Whether an assignment removes its cookie: there is a date in the past in it. -/
def isExpiry (a : Assignment) : Bool :=
  Text.occurs pastDate.toList a.text.toList

/-- **The value that an assignment leaves** in the jar, if it leaves any. -/
def kept? (a : Assignment) : Option (List Char) :=
  if a.isExpiry then none else some a.value

/-- The text of an assignment is cut at its first equals sign. -/
theorem toList_text (a : Assignment) : a.text.toList = a.name ++ '=' :: (a.value ++ a.ending) := by
  rw [text, String.toList_ofList, pairText, List.append_assoc, List.cons_append]

/-- The value ends at the first semicolon. -/
theorem takeWhile_value (a : Assignment) :
    (a.value ++ a.ending).takeWhile (· ≠ ';') = a.value := by
  have hvalue : ∀ c ∈ a.value, decide (c ≠ ';') = true := fun c hc =>
    decide_eq_true fun heq => a.isPair.value (heq ▸ hc)
  rw [List.takeWhile_append_of_pos hvalue]
  rcases hattributes : a.attributes with _ | attributes <;> simp [ending, hattributes]

/-- **The assignment that removes a cookie.** -/
def clearing {name : List Char} (h : IsName name) : Assignment where
  name := name
  value := []
  attributes := some (" Path=/; " ++ pastDate ++ " 00:00:01 GMT;").toList
  isPair := ⟨h, List.not_mem_nil⟩

/-- Its text is that of an expiry. -/
theorem text_clearing {name : String} (h : IsName name.toList) :
    (clearing h).text = expiry name := by
  refine String.toList_inj.mp ?_
  simp [toList_text, clearing, ending, expiry]

/-- It leaves nothing. -/
theorem kept?_clearing {name : String} (h : IsName name.toList) : (clearing h).kept? = none := by
  rw [kept?, isExpiry, text_clearing, occurs_expiry, if_pos rfl]

end Assignment

/-- **What is written into a jar**: an assignment, or a text that is none. -/
inductive Writing where
  /-- An assignment. -/
  | assignment (a : Assignment)
  /-- A text without an equals sign. -/
  | idle (text : String) (noEquals : '=' ∉ text.toList)

namespace Writing

/-- The text of a writing. -/
def text : Writing → String
  | .assignment a => a.text
  | .idle text _ => text

/-- The assignment, if it is one. -/
def assignment? : Writing → Option Assignment
  | .assignment a => some a
  | .idle _ _ => none

end Writing

/-- The jar behind further writings. -/
def Jar.writeAll (jar : Jar) (ws : List Writing) : Jar :=
  ws.foldl (fun jar w => jar.write w.text) jar

/-- **The jar behind some writings**, which was empty at first. -/
def written (ws : List Writing) : Jar :=
  Jar.writeAll ⟨""⟩ ws

/-- **The latest assignment to a name.** -/
def latest? (name : List Char) (ws : List Writing) : Option Assignment :=
  (ws.filterMap Writing.assignment?).reverse.find? fun a => a.name == name

/-- **What a map holds at a name** behind some writings: the value of the latest assignment to that,
if there was one and it did not remove the cookie. -/
def held (ws : List Writing) (name : List Char) : Option (List Char) :=
  (latest? name ws).bind Assignment.kept?

/-- One more assignment changes the map at its name. -/
theorem held_assignment (ws : List Writing) (a : Assignment) :
    held (ws ++ [.assignment a]) = Function.update (held ws) a.name a.kept? := by
  funext name
  have hlatest : latest? name (ws ++ [.assignment a]) =
      if a.name = name then some a else latest? name ws := by
    by_cases hname : a.name = name <;> simp [latest?, Writing.assignment?, hname]
  unfold held
  rw [hlatest, Function.update_apply]
  by_cases hname : a.name = name
  · simp [hname]
  · simp [hname, Ne.symm hname]

/-- A text that is no assignment does not change the map. -/
theorem held_idle (ws : List Writing) {text : String} (h : '=' ∉ text.toList) :
    held (ws ++ [.idle text h]) = held ws := by
  have hnone : (Writing.idle text h).assignment? = none := rfl
  funext name
  simp [held, latest?, hnone]

/-! ## Jars and maps -/

/-- **A jar is the text of a map**: of its pairs, with one pair for each name at most. -/
structure Jar.Holds (jar : Jar) (ps : List (List Char × List Char))
    (values : List Char → Option (List Char)) : Prop where
  /-- The jar is the cookie string of the pairs. -/
  raw : jar.raw = String.ofList (ofPairs ps)
  /-- They are pairs. -/
  isPair : ∀ pair ∈ ps, IsPair pair
  /-- No name has two of them. -/
  nodup : (ps.map Prod.fst).Nodup
  /-- They are the values of the map. -/
  value : ∀ name, valueOf name ps = values name

/-- The value of a name among pairs of which those of one name are taken out, and for which one is
put in.

**Proof sketch.** For the name itself no pair is left by the filter, so the pair that is put in is
the first one found. For another name the filter takes away nothing that is looked for, and the new
pair is not of it. -/
theorem valueOf_filter_append (ps : List (List Char × List Char)) (key name : List Char)
    (kept? : Option (List Char)) :
    valueOf name (ps.filter (fun pair => pair.1 != key) ++ kept?.toList.map (key, ·)) =
      if name = key then kept? else valueOf name ps := by
  have hothers : (ps.filter fun pair => pair.1 != key).find? (fun pair => pair.1 == name) =
      if name = key then none else ps.find? fun pair => pair.1 == name := by
    rw [List.find?_filter]
    by_cases hname : name = key
    · rw [if_pos hname, List.find?_eq_none]
      rintro pair -
      simp [hname]
    · rw [if_neg hname]
      congr 1
      funext pair
      by_cases hpair : pair.1 = name <;> simp [hpair, hname]
  rw [valueOf, valueOf, List.find?_append, hothers]
  by_cases hname : name = key
  · rcases kept? with _ | value <;> simp [hname]
  · rcases kept? with _ | value <;> simp [hname, Ne.symm hname]

namespace Jar

variable {jar : Jar} {ps : List (List Char × List Char)} {values : List Char → Option (List Char)}

/-- A text without an equals sign is no assignment. -/
theorem write_of_notMem (jar : Jar) {text : String} (h : '=' ∉ text.toList) :
    jar.write text = jar := by
  have hdrop : text.toList.dropWhile (· ≠ '=') = [] :=
    List.dropWhile_eq_nil_iff.mpr fun c hc => decide_eq_true fun heq => h (heq ▸ hc)
  rw [write, hdrop]

/-- **An assignment changes the map at its name only.**

**Proof sketch.** The jar is that of its pairs, so the assignment filters and appends
(`assign_ofPairs`); what it keeps is its value up to the first semicolon, unless it is an expiry.
All pairs are well formed again, no name occurs twice since its own were taken out, and the map is
updated as `valueOf_filter_append` says. -/
theorem Holds.write (h : jar.Holds ps values) (a : Assignment) :
    (jar.write a.text).Holds
      (ps.filter (fun pair => pair.1 != a.name) ++ a.kept?.toList.map (a.name, ·))
      (Function.update values a.name a.kept?) where
  raw := by
    obtain rfl : jar = ⟨String.ofList (ofPairs ps)⟩ := congrArg Jar.mk h.raw
    have hname := a.isPair.name.noEquals
    rw [write_eq _ hname a.toList_text, assign_ofPairs h.isPair hname, a.takeWhile_value,
      Assignment.kept?, Assignment.isExpiry]
    split <;> rfl
  isPair := by
    intro pair hpair
    rcases List.mem_append.mp hpair with hpair | hpair
    · exact h.isPair pair (List.mem_filter.mp hpair).1
    · obtain ⟨value, hvalue, rfl⟩ := List.mem_map.mp hpair
      have hkept : a.kept? = some value := Option.mem_toList.mp hvalue
      unfold Assignment.kept? at hkept
      split at hkept
      · exact absurd hkept (by simp)
      · obtain rfl := Option.some.inj hkept
        exact a.isPair
  nodup := by
    have hothers : ((ps.filter fun pair => pair.1 != a.name).map Prod.fst).Nodup :=
      h.nodup.sublist (List.filter_sublist.map Prod.fst)
    have hgone : a.name ∉ (ps.filter fun pair => pair.1 != a.name).map Prod.fst := by
      simp
    rcases a.kept? with _ | value
    · simpa using hothers
    · rw [Option.toList_some, List.map_singleton, List.map_append, List.map_singleton,
        ← List.concat_eq_append]
      exact hothers.concat hgone
  value name := by
    rw [valueOf_filter_append, Function.update_apply, h.value]

/-- A jar without cookies is the text of a map that holds nothing. -/
theorem holds_empty : Holds ⟨""⟩ [] fun _ => none :=
  ⟨rfl, by simp, List.nodup_nil, fun _ => rfl⟩

/-- **What is found in a jar** is what the map holds. -/
theorem Holds.lookup_eq (h : jar.Holds ps values) (name : String) :
    lookup jar.raw name = (values name.toList).map String.ofList := by
  rw [h.raw, lookup_ofPairs h.isPair, h.value]

/-- The pairs that are read in a jar are those of its map. -/
theorem Holds.pairs_eq (h : jar.Holds ps values) : pairs jar.raw.toList = ps := by
  rw [h.raw, String.toList_ofList, pairs_ofPairs h.isPair]

end Jar

/-- **Behind any writings a jar holds the latest assignment to each name.**

**Proof sketch.** Induction on the writings from the last one. An assignment is a step of the map
(`Holds.write`), and an idle writing is none, of the jar and of the map. -/
theorem holds_written (ws : List Writing) : ∃ ps, (written ws).Holds ps (held ws) := by
  induction ws using List.reverseRecOn with
  | nil => exact ⟨[], Jar.holds_empty⟩
  | append_singleton ws w ih =>
    obtain ⟨ps, hps⟩ := ih
    have hstep : written (ws ++ [w]) = (written ws).write w.text := by
      simp [written, Jar.writeAll]
    rw [hstep]
    cases w with
    | assignment a =>
      rw [held_assignment]
      exact ⟨_, hps.write a⟩
    | idle text noEquals =>
      rw [held_idle, Writing.text, Jar.write_of_notMem _ noEquals]
      exact ⟨ps, hps⟩

/-- What is found in a jar behind any writings. -/
theorem lookup_written (ws : List Writing) (name : String) :
    lookup (written ws).raw name = (held ws name.toList).map String.ofList := by
  obtain ⟨ps, hps⟩ := holds_written ws
  exact hps.lookup_eq name

/-! ## The session cookie -/

/-- Clearing a cookie is one more writing. -/
theorem written_clearing (ws : List Writing) {name : String} (h : IsName name.toList) :
    (written ws).write (expiry name) = written (ws ++ [.assignment (.clearing h)]) := by
  simp [written, Jar.writeAll, Writing.text, Assignment.text_clearing h]

/-- Behind that the cookie is gone. -/
theorem token_written_clearing (ws : List Writing) {name : String} (h : IsName name.toList) :
    token (written (ws ++ [.assignment (.clearing h)])).raw name = none := by
  have hgone : held (ws ++ [.assignment (.clearing h)]) name.toList = none := by
    rw [held_assignment, Assignment.kept?_clearing]
    exact Function.update_self _ _ _
  rw [token, lookup_written, hgone]
  rfl

/-- All others are as they were. -/
theorem lookup_written_clearing (ws : List Writing) {name other : String} (h : IsName name.toList)
    (hother : other ≠ name) : lookup (written (ws ++ [.assignment (.clearing h)])).raw other =
      lookup (written ws).raw other := by
  have hne : other.toList ≠ name.toList := fun heq => hother (String.toList_inj.mp heq)
  rw [lookup_written, lookup_written, held_assignment]
  exact congrArg _ (Function.update_of_ne hne _ _)

/-- A token that was just assigned is there, if it is not empty. -/
theorem token_written_assignment (ws : List Writing) {a : Assignment} {name : String}
    (hname : a.name = name.toList) (hlasting : a.isExpiry = false) (hvalue : a.value ≠ []) :
    token (written (ws ++ [.assignment a])).raw name = some (String.ofList a.value) := by
  have hheld : held (ws ++ [.assignment a]) name.toList = some a.value := by
    rw [held_assignment, ← hname, Function.update_self, Assignment.kept?, hlasting]
    rfl
  have hnonempty : String.ofList a.value ≠ "" := by
    intro hempty
    exact hvalue (by simpa using congrArg String.toList hempty)
  rw [token, lookup_written, hheld]
  simp [hnonempty]

/-- **A jar is a map.** Behind any writings the value of the latest assignment to a name is found,
or nothing if there was none or it removed the cookie; no name has two pairs, and what is no
assignment changes nothing. So a cookie that is cleared is gone, and all others are as they were;
the session token is there again as soon as one that is not empty is assigned.

**Proof sketch.** From the map that the jar holds (`holds_written`) follow the values and the
distinct names. Clearing and assigning again are writings like others: the jar behind them is that
of a longer list, so the last assignment decides (`token_written_clearing`,
`token_written_assignment`). -/
theorem written_isMap (ws : List Writing) :
    (∀ name, lookup (written ws).raw name = (held ws name.toList).map String.ofList) ∧
      ((pairs (written ws).raw.toList).map Prod.fst).Nodup ∧
      (∀ text : String, '=' ∉ text.toList → (written ws).write text = written ws) ∧
      ∀ name : String, IsName name.toList →
        let cleared := (written ws).write (expiry name)
        token cleared.raw name = none ∧
          (∀ other, other ≠ name → lookup cleared.raw other = lookup (written ws).raw other) ∧
          ∀ (later : List Writing) (a : Assignment), a.name = name.toList → a.isExpiry = false →
            a.value ≠ [] →
              token ((cleared.writeAll later).write a.text).raw name =
                some (String.ofList a.value) := by
  refine ⟨lookup_written ws, ?_, fun text h => Jar.write_of_notMem _ h, fun name hname => ?_⟩
  · obtain ⟨ps, hps⟩ := holds_written ws
    rw [hps.pairs_eq]
    exact hps.nodup
  · intro cleared
    have hcleared : cleared = written (ws ++ [.assignment (.clearing hname)]) :=
      written_clearing ws hname
    rw [hcleared]
    refine ⟨token_written_clearing ws hname, fun _ => lookup_written_clearing ws hname,
      fun later a ha hlasting hvalue => ?_⟩
    have hbehind : ((written (ws ++ [.assignment (.clearing hname)])).writeAll later).write a.text =
        written (ws ++ [.assignment (.clearing hname)] ++ later ++ [.assignment a]) := by
      simp [written, Jar.writeAll, Writing.text]
    rw [hbehind]
    exact token_written_assignment _ ha hlasting hvalue

/-- The session cookie has a name that keeps apart. -/
theorem isName_sessionName : IsName sessionName.toList :=
  ⟨by decide, by decide, by simp [sessionName]⟩

/-- A jar with a session token and a theme. The token is cleared and assigned again, an equals sign
in it; a text that is no assignment is written before and in between.

**Proof sketch.** The map is applied to three writings and the clearing of the token. What is found
before that is evaluated from the writings, without the text of the jar. -/
theorem written_isMap_session :
    let theme : Assignment :=
      ⟨"theme".toList, "dark".toList, none, ⟨⟨by decide, by decide, by simp⟩, by decide⟩⟩
    let first : Assignment :=
      ⟨sessionName.toList, "abc".toList, some " Path=/".toList, ⟨isName_sessionName, by decide⟩⟩
    let second : Assignment :=
      ⟨sessionName.toList, "d=e".toList, none, ⟨isName_sessionName, by decide⟩⟩
    let idle : Writing := .idle "Secure" (by decide)
    let ws : List Writing := [.assignment first, .assignment theme, idle]
    let cleared := (written ws).write (expiry sessionName)
    lookup (written ws).raw "theme" = some "dark" ∧
      lookup (written ws).raw sessionName = some "abc" ∧
      token cleared.raw sessionName = none ∧ lookup cleared.raw "theme" = some "dark" ∧
      token ((cleared.writeAll [idle]).write second.text).raw sessionName = some "d=e" := by
  intro theme first second idle ws cleared
  obtain ⟨hlookup, -, -, hclear⟩ := written_isMap ws
  obtain ⟨hgone, hothers, hagain⟩ := hclear sessionName isName_sessionName
  have htheme : lookup (written ws).raw "theme" = some "dark" := by
    rw [hlookup]
    decide
  have htoken : lookup (written ws).raw sessionName = some "abc" := by
    rw [hlookup]
    decide
  exact ⟨htheme, htoken, hgone, (hothers "theme" (by decide)).trans htheme,
    hagain [idle] second rfl (by decide) (by decide)⟩

end Cookie

end CertDashboard
