import Klik.Common.Account
import Klik.Common.PhoneGrammar

/-!
# The grammar of account identifiers

An IBAN and the numbers of an American account are written in capital letters
and digits of ASCII.  The patterns of the code are wider: `\d` takes the
digits of every script, `$` leaves room for a line feed, and `str.upper` makes
letters of ASCII out of others.
-/

namespace Klik.Common

open Klik.Lib

/-! ## The grammar -/

/-- A digit of ASCII. -/
def AsciiDigit (point : Nat) : Prop :=
  48 ≤ point ∧ point ≤ 57

/-- A capital letter of ASCII. -/
def Capital (point : Nat) : Prop :=
  65 ≤ point ∧ point ≤ 90

/-- Two letters, two digits of some kind, and eleven to thirty letters and
digits of ASCII. -/
def IbanForm (digit : Nat → Prop) : PyStr → Prop
  | first :: second :: third :: fourth :: rest =>
      Capital first ∧ Capital second ∧ digit third ∧ digit fourth ∧
        (11 ≤ rest.length ∧ rest.length ≤ 30) ∧
          ∀ point ∈ rest, Capital point ∨ AsciiDigit point
  | _ => False

/-- At least `least` and at most `most` digits of some kind. -/
def DigitsForm (digit : Nat → Prop) (least most : Nat) (text : PyStr) : Prop :=
  (least ≤ text.length ∧ text.length ≤ most) ∧ ∀ point ∈ text, digit point

/-- `value.replace(' ', '')`. -/
def spaceless (text : PyStr) : PyStr :=
  text.filter (· ≠ 32)

/-- The text begins as the IBANs of the zone do. -/
def BeginsForZone (zone : Zone) (text : PyStr) : Prop :=
  ∀ expected, zoneToIbanPrefix zone = some expected → expected <+: text

/-- An object of the type of the zone, with texts which satisfy what is asked
of an IBAN, or of a routing number and an account number. -/
def AccountForm
    (iban : PyStr → Prop) (american : PyStr → PyStr → Prop) (zone : Zone) : PyValue → Prop
  | .dict items =>
      PyValue.getD items (py "type") .none = .str (zoneToAccountType zone) ∧
        match zone with
        | .PL | .EU | .UK =>
            ∃ text, PyValue.getD items (py "value") .none = .str text ∧ iban text
        | .US =>
            ∃ routing account,
              PyValue.getD items (py "routing_number") .none = .str routing ∧
              PyValue.getD items (py "account_number") .none = .str account ∧
              american routing account
  | _ => False

/-- An IBAN of the zone, possibly with spaces and in small letters. -/
def UsableIban (zone : Zone) (text : PyStr) : Prop :=
  IbanForm AsciiDigit (asciiUpper (spaceless text)) ∧
    BeginsForZone zone (asciiUpper (spaceless text))

/-- A routing number and an account number of the United States. -/
def UsableNumbers (routing account : PyStr) : Prop :=
  DigitsForm AsciiDigit 9 9 routing ∧ DigitsForm AsciiDigit 4 17 account

/-- The account identifiers of a zone, by their grammar. -/
def UsableAccount (zone : Zone) : PyValue → Prop :=
  AccountForm (UsableIban zone) UsableNumbers zone

/-! ## What lies outside -/

/-- A text whose copy in capitals is an IBAN in digits of any script, though the
text is not in ASCII or ends in a line feed. -/
def WiderIban
    (runtime : PyRuntime) (value : Nat → Option Nat) (zone : Zone) (text : PyStr) : Prop :=
  (∃ body ending, runtime.upper (spaceless text) = body ++ ending ∧
    IbanForm (fun point => (value point).isSome) body ∧
    (ending = [10] ∨ ending = [] ∧ ∃ point ∈ text, 128 ≤ point)) ∧
  BeginsForZone zone (runtime.upper (spaceless text))

/-- Digits with one of another script among them, or with a line feed behind
them. -/
def WiderDigits
    (value : Nat → Option Nat) (least most : Nat) (text : PyStr) : Prop :=
  ∃ body ending, text = body ++ ending ∧
    DigitsForm (fun point => (value point).isSome) least most body ∧
    (ending = [10] ∨ ending = [] ∧ ∃ point ∈ body, 128 ≤ point)

/-- A routing number and an account number of which one is wider. -/
def WiderNumbers (value : Nat → Option Nat) (routing account : PyStr) : Prop :=
  (DigitsForm AsciiDigit 9 9 routing ∨ WiderDigits value 9 9 routing) ∧
    (DigitsForm AsciiDigit 4 17 account ∨ WiderDigits value 4 17 account) ∧
    (WiderDigits value 9 9 routing ∨ WiderDigits value 4 17 account)

/-- What looks like an account identifier of the zone only to the patterns. -/
def WiderAccount
    (runtime : PyRuntime) (value : Nat → Option Nat) (zone : Zone) : PyValue → Prop :=
  AccountForm (WiderIban runtime value zone) (WiderNumbers value) zone

/-- On texts in ASCII `str.upper` replaces the small letters. -/
def UppersAscii (runtime : PyRuntime) : Prop :=
  ∀ text, (∀ point ∈ text, point < 128) → runtime.upper text = asciiUpper text

/-! ## Digits -/

section Digits

variable {runtime : PyRuntime} {value : Nat → Option Nat}

/-- The pattern for digits takes the digits of ASCII and the wider texts. -/
theorem repeats_digits_iff
    (digits : ReadsDigits runtime value) {least most : Nat} {text : PyStr} :
    repeats least most runtime.isDigit (beforeEnd text) = true ↔
      DigitsForm AsciiDigit least most text ∨ WiderDigits value least most text := by
  simp only [DigitsForm, AsciiDigit, WiderDigits, and_assoc, repeats_beforeEnd_iff digits]

/-- Digits of ASCII are no wider text. -/
theorem not_widerDigits
    {least most : Nat} {text : PyStr} (plain : DigitsForm AsciiDigit least most text) :
    ¬ WiderDigits value least most text := by
  rintro ⟨body, ending, rfl, _, wider⟩
  rcases wider with rfl | ⟨_, point, member, past⟩
  · have feed : AsciiDigit 10 :=
      plain.2 10 (List.mem_append_right _ (List.mem_singleton_self 10))
    exact absurd feed.1 (by decide)
  · have ascii := (plain.2 point (List.mem_append_left _ member)).2
    omega

/-! ## Texts in ASCII -/

theorem spaceless_ascii
    {text : PyStr} : (∀ point ∈ spaceless text, point < 128) ↔ ∀ point ∈ text, point < 128 := by
  constructor
  · intro ascii point member
    by_cases space : point = 32
    · omega
    · exact ascii point (List.mem_filter.mpr ⟨member, decide_eq_true space⟩)
  · intro ascii point member
    exact ascii point (List.mem_filter.mp member).1

/-- Replacing the small letters keeps points inside and outside of ASCII. -/
theorem mem_asciiUpper {text : PyStr} {point : Nat} (member : point ∈ text) :
    ∃ upper ∈ asciiUpper text, (point < 128 ↔ upper < 128) := by
  refine ⟨_, List.mem_map_of_mem member, ?_⟩
  split
  · omega
  · rfl

theorem ascii_of_asciiUpper
    {text : PyStr} (ascii : ∀ point ∈ asciiUpper text, point < 128) :
    ∀ point ∈ text, point < 128 := by
  intro point member
  rcases mem_asciiUpper member with ⟨upper, inside, same⟩
  exact same.mpr (ascii upper inside)

/-- The points of an IBAN are letters and digits. -/
theorem IbanForm.points
    {digit : Nat → Prop} {text : PyStr} (form : IbanForm digit text) :
    ∀ point ∈ text, Capital point ∨ AsciiDigit point ∨ digit point := by
  match text with
  | [] | [_] | [_, _] | [_, _, _] => exact absurd form id
  | first :: second :: third :: fourth :: rest =>
      rcases form with ⟨one, two, three, four, _, others⟩
      simp only [List.forall_mem_cons]
      refine ⟨Or.inl one, Or.inl two, Or.inr (Or.inr three), Or.inr (Or.inr four), ?_⟩
      intro point member
      rcases others point member with letter | ascii
      · exact Or.inl letter
      · exact Or.inr (Or.inl ascii)

theorem IbanForm.mono
    {digit other : Nat → Prop} {text : PyStr} (form : IbanForm digit text)
    (wider : ∀ point ∈ text, digit point → other point) :
    IbanForm other text := by
  match text with
  | [] | [_] | [_, _] | [_, _, _] => exact absurd form id
  | first :: second :: third :: fourth :: rest =>
      rcases form with ⟨one, two, three, four, others⟩
      exact ⟨one, two, wider third (by simp) three, wider fourth (by simp) four, others⟩

/-- An IBAN in digits of ASCII is a text in ASCII without a line feed. -/
theorem IbanForm.ascii
    {text : PyStr} (form : IbanForm AsciiDigit text) :
    ∀ point ∈ text, point < 128 ∧ point ≠ 10 := by
  intro point member
  rcases form.points point member with letter | digit | digit
  · exact ⟨by have := letter.2; omega, by have := letter.1; omega⟩
  · exact ⟨by have := digit.2; omega, by have := digit.1; omega⟩
  · exact ⟨by have := digit.2; omega, by have := digit.1; omega⟩

/-! ## IBANs -/

/-- What the pattern takes: an IBAN in digits of any script, and possibly a
line feed. -/
theorem isIban_iff (digits : ReadsDigits runtime value) {text : PyStr} :
    isIban runtime text = true ↔
      ∃ body ending, text = body ++ ending ∧
        IbanForm (fun point => (value point).isSome) body ∧ (ending = [10] ∨ ending = []) := by
  have letters : ∀ {rest : PyStr}, (∀ point ∈ rest, Capital point ∨ AsciiDigit point) →
      rest.getLast? ≠ some 10 := by
    intro rest all feed
    rcases all 10 (List.mem_of_getLast? feed) with letter | digit
    · exact absurd letter.1 (by decide)
    · exact absurd digit.1 (by decide)
  have short : ∀ (ending : PyStr) {body : PyStr},
      IbanForm (fun point => (value point).isSome) body →
        15 ≤ (body ++ ending).length := by
    intro ending body form
    match body with
    | [] | [_] | [_, _] | [_, _, _] => exact absurd form id
    | first :: second :: third :: fourth :: rest =>
        have least := form.2.2.2.2.1.1
        simp only [List.length_append, List.length_cons]
        omega
  match text with
  | [] | [_] | [_, _] | [_, _, _] =>
      constructor
      · exact fun refused => absurd refused Bool.false_ne_true
      · rintro ⟨body, ending, split, form, _⟩
        have least := short ending form
        rw [← split] at least
        simp at least
  | first :: second :: third :: fourth :: rest =>
      simp only [isIban, isCapital, Bool.and_eq_true, Bool.or_eq_true, decide_eq_true_eq,
        repeats_iff, digits.isDigit]
      constructor
      · rintro ⟨⟨⟨⟨one, two⟩, three⟩, four⟩, length, all⟩
        rcases beforeEnd_eq_iff.mp rfl with feed | ⟨same, _⟩
        · refine ⟨first :: second :: third :: fourth :: beforeEnd rest, [10], ?_,
            ⟨one, two, three, four, length, all⟩, Or.inl rfl⟩
          simpa only [List.cons_append, List.cons.injEq, true_and] using feed
        · rw [← same] at length all
          exact ⟨first :: second :: third :: fourth :: rest, [], (List.append_nil _).symm,
            ⟨one, two, three, four, length, all⟩, Or.inr rfl⟩
      · rintro ⟨body, ending, split, form, feed⟩
        match body with
        | [] | [_] | [_, _] | [_, _, _] => exact absurd form id
        | one :: two :: three :: four :: body =>
            simp only [List.cons_append, List.cons.injEq] at split
            rcases split with ⟨rfl, rfl, rfl, rfl, rfl⟩
            rcases form with ⟨isFirst, isSecond, isThird, isFourth, length, all⟩
            have front : beforeEnd (body ++ ending) = body := by
              rcases feed with rfl | rfl
              · exact beforeEnd_eq_iff.mpr (Or.inl rfl)
              · rw [List.append_nil]
                exact beforeEnd_eq_iff.mpr (Or.inr ⟨rfl, letters all⟩)
            rw [front]
            exact ⟨⟨⟨⟨isFirst, isSecond⟩, isThird⟩, isFourth⟩, length, all⟩

/-- The checks of an IBAN take those of the grammar and the wider texts. -/
theorem iban_taken_iff
    (digits : ReadsDigits runtime value) (upper : UppersAscii runtime)
    {zone : Zone} {text : PyStr} :
    (isIban runtime (runtime.upper (spaceless text)) = true ∧
        BeginsForZone zone (runtime.upper (spaceless text))) ↔
      UsableIban zone text ∨ WiderIban runtime value zone text := by
  rw [isIban_iff digits]
  constructor
  · rintro ⟨⟨body, ending, split, form, feed⟩, begins⟩
    by_cases past : ending = [10] ∨ ending = [] ∧ ∃ point ∈ text, 128 ≤ point
    · exact Or.inr ⟨⟨body, ending, split, form, past⟩, begins⟩
    · have whole : ending = [] := by
        rcases feed with rfl | rfl
        · exact absurd (Or.inl rfl) past
        · rfl
      subst whole
      have ascii : ∀ point ∈ text, point < 128 := by
        intro point member
        by_contra wide
        exact past (Or.inr ⟨rfl, point, member, Nat.le_of_not_lt wide⟩)
      rw [upper _ (spaceless_ascii.mpr ascii), List.append_nil] at split
      rw [upper _ (spaceless_ascii.mpr ascii)] at begins
      refine Or.inl ⟨?_, begins⟩
      rw [split]
      apply form.mono
      intro point member digit
      rcases digits.asciiDigit digit with plain | wide
      · exact plain
      · -- The capitals of a text in ASCII are in ASCII.
        rw [← split] at member
        rcases List.mem_map.mp member with ⟨old, oldMember, rfl⟩
        have small := spaceless_ascii.mpr ascii old oldMember
        split at wide <;> omega
  · rintro (⟨form, begins⟩ | ⟨⟨body, ending, split, form, past⟩, begins⟩)
    · have ascii : ∀ point ∈ spaceless text, point < 128 :=
        ascii_of_asciiUpper fun point member => (form.ascii point member).1
      rw [upper _ ascii]
      refine ⟨⟨_, [], (List.append_nil _).symm, ?_, Or.inr rfl⟩, begins⟩
      apply form.mono
      intro point _ digit
      rw [digits.value_ascii digit]
      rfl
    · exact ⟨⟨body, ending, split, form, past.imp_right And.left⟩, begins⟩

/-- No IBAN of the grammar is a wider text. -/
theorem not_widerIban
    (upper : UppersAscii runtime) {zone : Zone} {text : PyStr} (usable : UsableIban zone text) :
    ¬ WiderIban runtime value zone text := by
  have ascii : ∀ point ∈ spaceless text, point < 128 :=
    ascii_of_asciiUpper fun point member => (usable.1.ascii point member).1
  rintro ⟨⟨body, ending, split, _, past⟩, _⟩
  rcases past with rfl | ⟨_, point, member, wide⟩
  · rw [upper _ ascii] at split
    have feed : 10 ∈ asciiUpper (spaceless text) := by
      rw [split]
      exact List.mem_append_right _ (List.mem_singleton_self 10)
    exact (usable.1.ascii 10 feed).2 rfl
  · have small := spaceless_ascii.mp ascii point member
    omega

/-! ## Account identifiers -/

theorem ibanPrefix_iff {zone : Zone} {text : PyStr} :
    BeginsForZone zone text ↔
      ((zoneToIbanPrefix zone).all fun expected => expected.isPrefixOf text) = true := by
  cases prefixed : zoneToIbanPrefix zone with
  | none => simp [BeginsForZone, prefixed]
  | some expected => simp [BeginsForZone, prefixed]

theorem validateIban_iff
    (upper : UppersAscii runtime) {items : List (PyStr × PyValue)} {zone : Zone} :
    validateIban runtime items zone = .ok () ↔
      ∃ text, PyValue.getD items (py "value") .none = .str text ∧
        isIban runtime (runtime.upper (spaceless text)) = true ∧
        BeginsForZone zone (runtime.upper (spaceless text)) := by
  simp only [ibanPrefix_iff, validateIban, spaceless]
  cases found : PyValue.getD items (py "value") .none with
  | str text =>
      simp only [PyValue.str.injEq, exists_eq_left']
      cases text with
      | nil =>
          have blank : runtime.upper [] = [] :=
            upper [] fun _ member => absurd member List.not_mem_nil
          simp [PyValue.truthy, isIban, blank]
      | cons point rest =>
          have truthy : (PyValue.str (point :: rest)).truthy = true := rfl
          simp only [truthy, Bool.true_eq_false, if_false]
          generalize runtime.upper ((point :: rest).filter (· ≠ 32)) = normalized
          cases isIban runtime normalized with
          | false => simp
          | true =>
              cases zoneToIbanPrefix zone with
              | none => simp
              | some expected => simp
  | none | bool _ | number _ _ | list _ | dict _ =>
      constructor
      · intro accepted
        split at accepted <;> cases accepted
      · rintro ⟨text, other, _⟩
        cases other

theorem isDigits_iff
    (digits : ReadsDigits runtime value) {least most : Nat} {item : PyValue} :
    isDigits runtime least most item = true ↔
      ∃ text, item = .str text ∧
        (DigitsForm AsciiDigit least most text ∨ WiderDigits value least most text) := by
  cases item with
  | str text => simp only [isDigits, repeats_digits_iff digits, PyValue.str.injEq, exists_eq_left']
  | none | bool _ | number _ _ | list _ | dict _ => simp [isDigits]

/-- A text with digits counts as true. -/
theorem truthy_of_isDigits
    {least most : Nat} (least_pos : 0 < least) {item : PyValue}
    (digits : isDigits runtime least most item = true) :
    item.truthy = true := by
  cases item with
  | str text =>
      cases text with
      | nil =>
          have length := (repeats_iff.mp digits).1.1
          exact absurd (Nat.lt_of_lt_of_le least_pos length) (Nat.lt_irrefl 0)
      | cons point rest => rfl
  | none | bool _ | number _ _ | list _ | dict _ => exact absurd digits Bool.false_ne_true

theorem validateUsRouting_iff {items : List (PyStr × PyValue)} :
    validateUsRouting runtime items = .ok () ↔
      isDigits runtime 9 9 (PyValue.getD items (py "routing_number") .none) = true ∧
      isDigits runtime 4 17 (PyValue.getD items (py "account_number") .none) = true := by
  simp only [validateUsRouting]
  constructor
  · intro accepted
    split at accepted
    · cases accepted
    · split at accepted
      · cases accepted
      · split at accepted
        · cases accepted
        · rename_i routing
          split at accepted
          · cases accepted
          · rename_i account
            exact ⟨Bool.not_eq_false _ ▸ routing, Bool.not_eq_false _ ▸ account⟩
  · rintro ⟨routing, account⟩
    simp [routing, account, truthy_of_isDigits (by decide) routing,
      truthy_of_isDigits (by decide) account]

/-- Both numbers are of the grammar, or one of them is wider. -/
theorem numbers_taken_iff
    (digits : ReadsDigits runtime value) {routing account : PyValue} :
    (isDigits runtime 9 9 routing = true ∧ isDigits runtime 4 17 account = true) ↔
      (∃ left right, routing = .str left ∧ account = .str right ∧ UsableNumbers left right) ∨
      ∃ left right, routing = .str left ∧ account = .str right ∧
        WiderNumbers value left right := by
  simp only [isDigits_iff digits]
  constructor
  · rintro ⟨⟨left, isLeft, leftForm⟩, right, isRight, rightForm⟩
    by_cases wide : WiderDigits value 9 9 left ∨ WiderDigits value 4 17 right
    · exact Or.inr ⟨left, right, isLeft, isRight, leftForm, rightForm, wide⟩
    · rcases not_or.mp wide with ⟨leftNarrow, rightNarrow⟩
      exact Or.inl ⟨left, right, isLeft, isRight, leftForm.resolve_right leftNarrow,
        rightForm.resolve_right rightNarrow⟩
  · rintro (⟨left, right, isLeft, isRight, leftForm, rightForm⟩ |
      ⟨left, right, isLeft, isRight, leftForm, rightForm, _⟩)
    · exact ⟨⟨left, isLeft, Or.inl leftForm⟩, right, isRight, Or.inl rightForm⟩
    · exact ⟨⟨left, isLeft, leftForm⟩, right, isRight, rightForm⟩

theorem isText_iff {text : PyStr} {item : PyValue} :
    isText text item = true ↔ item = .str text := by
  cases item <;> simp [isText]

/-- An object passes if it has the type of the zone and the values which this
type asks for. -/
theorem validateAccountIdentifier_dict
    {items : List (PyStr × PyValue)} {zone : Zone} :
    validateAccountIdentifier runtime (.dict items) zone = .ok () ↔
      PyValue.getD items (py "type") .none = .str (zoneToAccountType zone) ∧
        match zone with
        | .PL | .EU | .UK => validateIban runtime items zone = .ok ()
        | .US => validateUsRouting runtime items = .ok () := by
  rw [← isText_iff]
  simp only [validateAccountIdentifier]
  cases typed : isText (zoneToAccountType zone) (PyValue.getD items (py "type") .none) with
  | false =>
      constructor
      · intro accepted
        split at accepted <;> cases accepted
      · intro accepted
        cases accepted.1
  | true =>
      have truthy : (PyValue.getD items (py "type") .none).truthy = true := by
        rw [isText_iff.mp typed]
        cases zone <;> decide
      simp only [truthy, Bool.true_eq_false, if_false, true_and]
      cases zone <;> rfl

/-- The identifiers which pass are those of the grammar and the wider ones. -/
theorem validateAccountIdentifier_iff
    (digits : ReadsDigits runtime value) (upper : UppersAscii runtime)
    (identifier : PyValue) (zone : Zone) :
    validateAccountIdentifier runtime identifier zone = .ok () ↔
      UsableAccount zone identifier ∨ WiderAccount runtime value zone identifier := by
  cases identifier with
  | dict items =>
      rw [validateAccountIdentifier_dict]
      cases zone with
      | PL | EU | UK =>
          simp only [validateIban_iff upper, iban_taken_iff digits upper, UsableAccount,
            WiderAccount, AccountForm, and_or_left, exists_or]
      | US =>
          simp only [validateUsRouting_iff, numbers_taken_iff digits, UsableAccount,
            WiderAccount, AccountForm, and_or_left]
  | none | bool _ | number _ _ | str _ | list _ =>
      simp [validateAccountIdentifier, UsableAccount, WiderAccount, AccountForm]

/-- No identifier of the grammar is a wider one. -/
theorem not_widerAccount
    (upper : UppersAscii runtime) {zone : Zone} {identifier : PyValue}
    (usable : UsableAccount zone identifier) :
    ¬ WiderAccount runtime value zone identifier := by
  cases identifier with
  | dict items =>
      rintro ⟨_, wider⟩
      rcases usable with ⟨_, usable⟩
      cases zone with
      | PL | EU | UK =>
          rcases usable with ⟨text, found, plain⟩
          rcases wider with ⟨other, foundToo, wide⟩
          rw [found] at foundToo
          cases foundToo
          exact not_widerIban upper plain wide
      | US =>
          rcases usable with ⟨routing, account, foundRouting, foundAccount, plain⟩
          rcases wider with ⟨routingToo, accountToo, sameRouting, sameAccount, _, _, wide⟩
          rw [foundRouting] at sameRouting
          rw [foundAccount] at sameAccount
          cases sameRouting
          cases sameAccount
          exact wide.elim (not_widerDigits plain.1) (not_widerDigits plain.2)
  | none | bool _ | number _ _ | str _ | list _ => exact absurd usable id

/-- An identifier is decided by the grammar exactly if it is not wider. -/
theorem decided_by_grammar_iff
    (digits : ReadsDigits runtime value) (upper : UppersAscii runtime)
    (identifier : PyValue) (zone : Zone) :
    (validateAccountIdentifier runtime identifier zone = .ok () ↔
        UsableAccount zone identifier) ↔
      ¬ WiderAccount runtime value zone identifier := by
  rw [validateAccountIdentifier_iff digits upper]
  constructor
  · intro exact wider
    exact not_widerAccount upper (exact.mp (Or.inr wider)) wider
  · exact or_iff_left

end Digits

end Klik.Common
