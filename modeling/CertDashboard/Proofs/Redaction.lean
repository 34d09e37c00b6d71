import CertDashboard.Api.Client
import CertDashboard.Redaction
import Mathlib.Data.List.TakeWhile

set_option autoImplicit false
set_option relaxedAutoImplicit false

/-!
# What redaction hides of a login

The body of a login is a text like any other to redaction: it is cut at its separators, wherever
these stand. A separator inside of a password ends the field of the password, and what follows it is
a field of its own, with a key of its own or none.

## Main definitions

* `CertDashboard.Redaction.beyond` — what is shown of a text from its first separator on.
* `CertDashboard.Redaction.leaked` — what is shown of the body of a login behind the mask of its
  password.

## Main results

* `CertDashboard.Redaction.redactFrom_append` — redaction works field by field.
* `CertDashboard.Redaction.redact_loginBody` — the body of a login without its secrets.
* `CertDashboard.Redaction.redact_loginBody_eq_iff` — when it says the same for two passwords.
-/

namespace CertDashboard

namespace Redaction

/-! ## Field by field -/

/-- **What is shown of a text from its first separator on.** -/
def beyond (cs : List Char) : List Char :=
  match cs.dropWhile fun c => !isSeparator c with
  | [] => []
  | separator :: rest => separator :: redactFrom [] rest

/-- A text without its secrets is its first field without its secret, and what is shown beyond. -/
theorem redactFrom_eq (field cs : List Char) : redactFrom field cs =
    redactField (field.reverse ++ cs.takeWhile fun c => !isSeparator c) ++ beyond cs := by
  induction cs generalizing field with
  | nil => simp [redactFrom, beyond]
  | cons c cs ih =>
    by_cases hc : isSeparator c = true
    · simp [redactFrom, beyond, hc]
    · have hbeyond : beyond (c :: cs) = beyond cs := by simp [beyond, hc]
      rw [redactFrom, if_neg hc, ih, hbeyond]
      simp [hc]

/-- **Redaction works field by field**: what is in front of a separator does not matter behind
it. -/
theorem redactFrom_append {c : Char} (hc : isSeparator c = true) (field cs rest : List Char) :
    redactFrom field (cs ++ c :: rest) = redactFrom field cs ++ c :: redactFrom [] rest := by
  induction cs generalizing field with
  | nil => simp [redactFrom, hc]
  | cons d cs ih =>
    by_cases hd : isSeparator d = true
    · simp [redactFrom, hd, ih]
    · simp [redactFrom, hd, ih]

/-- Nothing is shown beyond a text if and only if it has no separator. -/
theorem beyond_eq_nil_iff (cs : List Char) :
    beyond cs = [] ↔ ∀ c ∈ cs, isSeparator c = false := by
  have hdrop : beyond cs = [] ↔ (cs.dropWhile fun c => !isSeparator c) = [] := by
    unfold beyond
    split
    · next h => simp [h]
    · next h => simp [h]
  rw [hdrop, List.dropWhile_eq_nil_iff]
  simp

/-- **A secret field without its secret** ends behind the mark of its key. -/
theorem redactField_of_isSecret {key : List Char} {mark : Char} (hkey : ∀ c ∈ key, isMark c = false)
    (hmark : isMark mark = true) (hsecret : isSecret key = true) (value : List Char) :
    redactField (key ++ mark :: value) = key ++ mark :: mask := by
  have hkey' : ∀ c ∈ key, (!isMark c) = true := fun c hc => by simp [hkey c hc]
  simp [redactField, List.dropWhile_append_of_pos hkey', List.takeWhile_append_of_pos hkey', hmark,
    hsecret]

/-! ## Literals -/

/-- A hexadecimal digit is no separator. -/
theorem isSeparator_digit (n : Nat) : isSeparator (Hex.digit n) = false := by
  have h : ∀ m < 16, isSeparator (Nat.digitChar m) = false := by decide
  exact h _ (Nat.mod_lt _ (by decide))

/-- **The separators of a literal** are those of its text, but for line ends, which are escaped.

**Proof sketch.** By the three ways to write a character (`Json.Literal.encodeChar_cases`). Neither
the characters of an escape nor what they stand for are any of the three. What is written as it is,
is not the line end, which would be the fourth one. -/
theorem any_isSeparator_encodeChar (c : Char) :
    (Json.Literal.encodeChar c).any isSeparator = (c == ';' || c == '&' || c == ',') := by
  have hslash : isSeparator '\\' = false := rfl
  rcases Json.Literal.encodeChar_cases c with ⟨e, he, hc⟩ | ⟨hlt, hc⟩ | ⟨-, -, hge, hc⟩
  · have hshort : ∀ p ∈ Json.Literal.shortEscapes, isSeparator p.1 = false ∧
        (p.2 == ';' || p.2 == '&' || p.2 == ',') = false := by decide
    obtain ⟨hescape, hchar⟩ := hshort _ he
    rw [hc, hchar]
    simp [hslash, hescape]
  · have hne : ∀ d : Char, 0x20 ≤ d.toNat → (c == d) = false := fun d hd =>
      beq_eq_false_iff_ne.mpr fun h => absurd hd (by subst h; omega)
    have hzero : isSeparator '0' = false := rfl
    have hu : isSeparator 'u' = false := rfl
    rw [hc]
    simp [isSeparator_digit, hzero, hu, hslash, hne ';' (by decide), hne '&' (by decide),
      hne ',' (by decide)]
  · have hend : (c == '\n') = false := by
      refine beq_eq_false_iff_ne.mpr ?_
      rintro rfl
      exact absurd hge (by decide)
    rw [hc]
    simp [isSeparator, hend]

/-! ## The body of a login -/

/-- **What is shown of the body of a login behind the mask** of its password: what follows the first
separator in the password. -/
def leaked (password : String) : List Char :=
  beyond (Json.Literal.encode password.toList ++ ['"', '\x7d'])

/-- Nothing of a password is shown behind its mask if and only if it has no separator; a line end is
escaped and is none.

**Proof sketch.** Nothing is left beyond the first separator if and only if there is none in the
encoded password and the two characters that close the body (`beyond_eq_nil_iff`). Character by
character that is `any_isSeparator_encodeChar`. -/
theorem leaked_eq_nil_iff (password : String) :
    leaked password = [] ↔ ∀ c ∈ password.toList, c ≠ ';' ∧ c ≠ '&' ∧ c ≠ ',' := by
  have hend : ∀ c ∈ ['"', '\x7d'], isSeparator c = false := by simp [isSeparator]
  have hchar : ∀ c, (∀ d ∈ Json.Literal.encodeChar c, isSeparator d = false) ↔
      c ≠ ';' ∧ c ≠ '&' ∧ c ≠ ',' := by
    intro c
    have hany : (∀ d ∈ Json.Literal.encodeChar c, isSeparator d = false) ↔
        (Json.Literal.encodeChar c).any isSeparator = false := by simp
    rw [hany, any_isSeparator_encodeChar]
    simp [and_assoc]
  rw [leaked, beyond_eq_nil_iff, List.forall_mem_append, and_iff_left hend, Json.Literal.encode]
  simp only [List.mem_flatMap, forall_exists_index, and_imp]
  constructor
  · exact fun h c hc => (hchar c).mp fun d hd => h d c hc hd
  · exact fun h d c hc hd => (hchar c).mpr (h c hc) d hd

/-- What is shown of the body of a login in front of its password. -/
def front (username : String) : List Char :=
  redactFrom [] ('\x7b' :: Json.renderString "username" ++ ':' :: Json.renderString username)

/-- **The body of a login without its secrets**: the password is masked up to its first separator,
and what follows that is shown.

**Proof sketch.** The body is the member of the user name, a comma, and the member of the password.
The line is redacted field by field (`redactFrom_append`). The key of the password has a mark and no
separator, so the field reaches to the first separator of the password and is masked behind the
colon; what is beyond it stays. -/
theorem redact_loginBody (username password : String) :
    redact (Api.loginBody ⟨username, password⟩).text = String.ofList
      (front username ++ ',' :: (Json.renderString "password" ++ ':' :: mask) ++ leaked password) := by
  have hbody : (Api.loginBody ⟨username, password⟩).render =
      ('\x7b' :: Json.renderString "username" ++ ':' :: Json.renderString username) ++
        ',' :: (Json.renderString "password" ++ ':' ::
          ('"' :: (Json.Literal.encode password.toList ++ ['"', '\x7d']))) := by
    simp [Api.loginBody, Json.render, Json.renderMembers, Json.renderString]
  -- The key of the password has no separator, so that its field reaches as far as the password's.
  have hfield : ∀ cs : List Char,
      redactFrom [] (Json.renderString "password" ++ ':' :: '"' :: cs) =
        Json.renderString "password" ++ ':' :: mask ++ beyond cs := by
    intro cs
    have hkey : ∀ c ∈ Json.renderString "password", (!isSeparator c) = true :=
      List.all_eq_true.mp (by decide)
    have hmarks : ∀ c ∈ Json.renderString "password", isMark c = false := fun c hc =>
      Bool.eq_false_iff.mpr (List.any_eq_false.mp (by decide) c hc)
    have hcolon : (!isSeparator ':') = true := by decide
    have hquote : (!isSeparator '"') = true := by decide
    have hbeyond : beyond (Json.renderString "password" ++ ':' :: '"' :: cs) = beyond cs := by
      simp [beyond, List.dropWhile_append_of_pos hkey, hcolon, hquote]
    rw [redactFrom_eq, hbeyond, List.reverse_nil, List.nil_append,
      List.takeWhile_append_of_pos hkey, List.takeWhile_cons, if_pos hcolon,
      redactField_of_isSecret hmarks (by decide) (by decide)]
  rw [redact, Json.toList_text, hbody, redactFrom_append (by decide), hfield]
  simp [front, leaked]

/-- **The body of a login says the same for two passwords** if and only if the same is shown of both
behind the mask; and nothing is shown there if and only if a password has no separator. -/
theorem redact_loginBody_eq_iff (username p q : String) :
    (redact (Api.loginBody ⟨username, p⟩).text = redact (Api.loginBody ⟨username, q⟩).text ↔
      leaked p = leaked q) ∧
    (leaked p = [] ↔ ∀ c ∈ p.toList, c ≠ ';' ∧ c ≠ '&' ∧ c ≠ ',') := by
  refine ⟨?_, leaked_eq_nil_iff p⟩
  rw [redact_loginBody, redact_loginBody, String.ofList_inj, List.append_cancel_left_eq]

/-- A password with a comma is told from one without: what follows the comma is shown. -/
theorem redact_loginBody_ne : ¬∀ username p q : String,
    redact (Api.loginBody ⟨username, p⟩).text = redact (Api.loginBody ⟨username, q⟩).text := by
  intro h
  have heq := h "admin" "hunter2" "hunter2,sesame"
  rw [redact_loginBody, redact_loginBody, String.ofList_inj, List.append_cancel_left_eq] at heq
  exact absurd heq (by decide)

end Redaction

end CertDashboard
