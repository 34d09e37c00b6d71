import CertDashboard.Contract.Catalogue

set_option autoImplicit false
set_option relaxedAutoImplicit false

/-!
# What it means to keep a schema

A schema is checked by listing violations, each of them with a path to the part that breaks a rule.
What a rule says of a value needs no paths, and a value keeps a schema if and only if nothing is
listed.

## Main definitions

* `CertDashboard.Contract.Rule.Kept`, `CertDashboard.Contract.AllKept` — what it means to keep a
  rule, and several ones.

## Main results

* `CertDashboard.Contract.check_eq_nil_iff` — a rule has no violations if and only if it is kept.
* `CertDashboard.Contract.violations_eq_nil_iff` — the same for a schema.
-/

namespace CertDashboard

namespace Contract

open Json (Value)

mutual

/-- **A value keeps a rule.** -/
def Rule.Kept (value : Value) : Rule → Prop
  | .kinds ks => ∃ k ∈ ks, k.holds value = true
  | .required name => ∀ members, value = .object members → Value.member? name members ≠ none
  | .only names => ∀ members, value = .object members → ∀ m ∈ members, m.1 ∈ names
  | .property name rules => ∀ members, value = .object members →
      ∀ part, Value.member? name members = some part → AllKept part rules
  | .elements rules => ∀ elements, value = .array elements → ∀ part ∈ elements, AllKept part rules
  | .notEmpty => value ≠ .array []
  | .notBlank => value ≠ .string ""
  | .oneOf texts => ∃ s ∈ texts, value = .string s
  | .hexColor => ∀ s, value = .string s → isColor s = true

/-- **A value keeps several rules.** -/
def AllKept (value : Value) : List Rule → Prop
  | [] => True
  | rule :: rest => rule.Kept value ∧ AllKept value rest

end

/-- Several rules are kept one by one. -/
theorem allKept_iff {value : Value} {rules : List Rule} :
    AllKept value rules ↔ ∀ rule ∈ rules, rule.Kept value := by
  induction rules with
  | nil => simp [AllKept]
  | cons rule rest ih => simp [AllKept, ih]

/-- There is a breach of the whole value, or none. -/
@[simp] theorem breachIf_eq_nil_iff {bad : Bool} {path : List String} {breach : Breach} :
    breachIf bad path breach = [] ↔ bad = false := by
  cases bad <;> simp [breachIf]

/-- Numbered parts have nothing to list if and only if none of them has. -/
theorem flatten_zipIdx_eq_nil_iff {α β : Type} {list : α → Nat → List β} {good : α → Prop}
    (xs : List α) (k : Nat) (h : ∀ x i, list x i = [] ↔ good x) :
    ((xs.zipIdx k).map fun (x, i) => list x i).flatten = [] ↔ ∀ x ∈ xs, good x := by
  induction xs generalizing k with
  | nil => simp
  | cons x xs ih => simp [h, ih]

mutual

/-- **A rule has no violations if and only if it is kept**, wherever the value stands.

**Proof sketch.** By the rules, along with their lists (`checkAll_eq_nil_iff`). A rule that
looks into a value goes to its member or to its elements; every other one is a test that both
sides make. -/
theorem check_eq_nil_iff : ∀ (rule : Rule) (path : List String) (value : Value),
    rule.check path value = [] ↔ rule.Kept value
  | .kinds ks, path, value => by simp [Rule.check, Rule.Kept]
  | .required name, path, value => by
    cases value <;> simp [Rule.check, Rule.Kept, Option.isNone_eq_false_iff, Option.isSome_iff_ne_none]
  | .only names, path, value => by
    cases value <;> simp [Rule.check, Rule.Kept]
  | .property name rules, path, value => by
    cases value with
    | object members =>
      cases hpart : Value.member? name members <;>
        simp [Rule.check, Rule.Kept, hpart, checkAll_eq_nil_iff rules]
    | _ => simp [Rule.check, Rule.Kept]
  | .elements rules, path, value => by
    cases value with
    | array elements =>
      have hparts := flatten_zipIdx_eq_nil_iff elements 0 fun part i =>
        checkAll_eq_nil_iff rules (path ++ [Decimal.natural i]) part
      simp [Rule.check, Rule.Kept, hparts]
    | _ => simp [Rule.check, Rule.Kept]
  | .notEmpty, path, value => by cases value <;> simp [Rule.check, Rule.Kept]
  | .notBlank, path, value => by cases value <;> simp [Rule.check, Rule.Kept]
  | .oneOf texts, path, value => by cases value <;> simp [Rule.check, Rule.Kept]
  | .hexColor, path, value => by cases value <;> simp [Rule.check, Rule.Kept]
  termination_by rule => sizeOf rule

/-- Several rules have no violations if and only if they are kept. -/
theorem checkAll_eq_nil_iff : ∀ (rules : List Rule) (path : List String) (value : Value),
    checkAll path value rules = [] ↔ AllKept value rules
  | [], _, _ => by simp [checkAll, AllKept]
  | rule :: rest, path, value => by
    simp [checkAll, AllKept, check_eq_nil_iff rule, checkAll_eq_nil_iff rest]
  termination_by rules => sizeOf rules

end

/-- **A schema has no violations if and only if all of its rules are kept.** -/
theorem violations_eq_nil_iff {schema : Schema} {value : Value} :
    violations schema value = [] ↔ AllKept value schema :=
  checkAll_eq_nil_iff schema [] value

end Contract

end CertDashboard
