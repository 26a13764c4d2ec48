import Klik.Banks.Models
import Klik.Common.Account
import Klik.Common.PhoneGrammar
import Klik.Lib.PyStrip

/-!
# Validated banks

`Bank.clean` brings copies of the identifiers into a normal form and checks
the copies.  What is stored are the texts themselves.
-/

namespace Klik.Banks

open Klik.Common
open Klik.Lib

/-! ## Patterns -/

/-- A capital ASCII letter or an ASCII digit. -/
def isCapitalOrDigit (point : Nat) : Bool :=
  isCapital point || (48 ≤ point && point ≤ 57)

/-- What `BIC_REGEX` matches in full. -/
def fullBic (text : PyStr) : Bool :=
  (text.take 6).all isCapital && text.all isCapitalOrDigit &&
    (text.length = 8 || text.length = 11)

/-- `BIC_REGEX.match`. -/
def isBic (text : PyStr) : Bool :=
  fullBic (beforeEnd text)

/-- What `IBAN_REGEX` matches in full. -/
def fullIban (runtime : PyRuntime) : PyStr → Bool
  | first :: second :: third :: fourth :: rest =>
      isCapital first && isCapital second && runtime.isDigit third &&
        runtime.isDigit fourth && repeats 11 30 isCapitalOrDigit rest
  | _ => false

/-- `ABA_RTN_REGEX.match`. -/
def isAbaRtn (runtime : PyRuntime) (text : PyStr) : Bool :=
  repeats 9 9 runtime.isDigit (beforeEnd text)

/-- `US_ACCOUNT_REGEX.match`. -/
def isUsAccount (runtime : PyRuntime) (text : PyStr) : Bool :=
  repeats 4 17 runtime.isDigit (beforeEnd text)

/-! ## Validation -/

/-- A field of a `ValidationError` with its message. -/
structure BankProblem where
  field : String
  message : PyStr
deriving DecidableEq, Repr

/-- The copy of the BIC which is checked. -/
def Bank.normalBic (runtime : PyRuntime) (bank : Bank) : PyStr :=
  runtime.upper (strip bank.bic)

/-- The copy of the IBAN which is checked. -/
def Bank.normalIban (runtime : PyRuntime) (bank : Bank) : PyStr :=
  runtime.upper (bank.settlementIban.filter (· ≠ 32))

def currencyProblem (bank : Bank) : BankProblem where
  field := "currency"
  message := py "Waluta " ++ py bank.currency.value ++ py " nie pasuje do strefy "
    ++ py bank.zone.value ++ py ". Oczekiwano: " ++ py (zoneCurrency bank.zone).value ++ py "."

/-- The checks of a bank in the zone of TARGET2. -/
def cleanTarget (runtime : PyRuntime) (bank : Bank) : Except BankProblem Unit :=
  if bank.normalBic runtime = [] then
    .error ⟨"bic", py "Bank w strefie EU musi mieć BIC (TARGET)."⟩
  else if isBic (bank.normalBic runtime) = false then
    .error ⟨"bic", py "Niepoprawny format BIC: " ++ bank.bic ++ py "."⟩
  else if bank.normalIban runtime = [] then
    .error ⟨"settlement_iban", py "Bank w strefie EU musi mieć settlement_iban (TARGET)."⟩
  else if isIban runtime (bank.normalIban runtime) = false then
    .error ⟨"settlement_iban",
      py "Niepoprawny format IBAN: " ++ bank.settlementIban ++ py "."⟩
  else .ok ()

/-- The checks of a bank in the zone of FedNow. -/
def cleanFednow (runtime : PyRuntime) (bank : Bank) : Except BankProblem Unit :=
  let rtn := strip bank.fednowRoutingNumber
  let account := strip bank.fednowAccountNumber
  if rtn ≠ [] ∧ isAbaRtn runtime rtn = false then
    .error ⟨"fednow_routing_number", py "Niepoprawny ABA Routing Number: "
      ++ runtime.repr rtn ++ py ". Wymagane dokładnie 9 cyfr."⟩
  else if account ≠ [] ∧ isUsAccount runtime account = false then
    .error ⟨"fednow_account_number", py "Niepoprawny numer konta FedNow: "
      ++ runtime.repr account ++ py ". Wymagane 4-17 cyfr."⟩
  else if rtn ≠ [] ∧ account = [] then
    .error ⟨"fednow_account_number",
      py "Podano fednow_routing_number — wymagany też fednow_account_number."⟩
  else if account ≠ [] ∧ rtn = [] then
    .error ⟨"fednow_routing_number",
      py "Podano fednow_account_number — wymagany też fednow_routing_number."⟩
  else .ok ()

/-- `Bank.clean`. -/
def Bank.clean (runtime : PyRuntime) (bank : Bank) : Except BankProblem Unit :=
  if bank.currency ≠ zoneCurrency bank.zone then .error (currencyProblem bank)
  else
    match bank.zone with
    | .EU => cleanTarget runtime bank
    | .US => cleanFednow runtime bank
    | .PL | .UK => .ok ()

/-! ## Stored banks -/

/-- The row which the database keeps, or none where a column does not take its
text.  Spaces past the width of a column are cut off. -/
def Bank.saved (bank : Bank) : Option Bank :=
  if fitsColumn 11 bank.bic && fitsColumn 34 bank.settlementIban &&
      fitsColumn 9 bank.fednowRoutingNumber && fitsColumn 17 bank.fednowAccountNumber then
    some { bank with
      bic := bank.bic.take 11
      settlementIban := bank.settlementIban.take 34
      fednowRoutingNumber := bank.fednowRoutingNumber.take 9
      fednowAccountNumber := bank.fednowAccountNumber.take 17 }
  else none

/-- The row of a bank which was accepted. -/
structure StoredBank (runtime : PyRuntime) (row : Bank) where
  bank : Bank
  clean : bank.clean runtime = .ok ()
  saved : bank.saved = some row

/-- Spaces which are cut off are white space. -/
theorem strip_take {width : Nat} {text : PyStr} (fits : fitsColumn width text = true) :
    strip (text.take width) = strip text := by
  simp only [fitsColumn, Bool.and_eq_true, List.all_eq_true, beq_iff_eq] at fits
  conv_rhs => rw [← List.take_append_drop width text]
  rw [strip_append_spaces]
  intro point member
  rw [fits.2 point member]
  rfl

theorem filter_take {width : Nat} {text : PyStr} (fits : fitsColumn width text = true) :
    (text.take width).filter (· ≠ 32) = text.filter (· ≠ 32) := by
  simp only [fitsColumn, Bool.and_eq_true, List.all_eq_true, beq_iff_eq] at fits
  have cut : (text.drop width).filter (· ≠ 32) = [] := by
    rw [List.filter_eq_nil_iff]
    intro point member
    simp [fits.2 point member]
  conv_rhs => rw [← List.take_append_drop width text]
  rw [List.filter_append, cut, List.append_nil]

/-- What is stored has the normal forms which were checked. -/
theorem StoredBank.row_clean
    {runtime : PyRuntime} {row : Bank} (stored : StoredBank runtime row) :
    row.zone = stored.bank.zone ∧ row.normalBic runtime = stored.bank.normalBic runtime ∧
      row.normalIban runtime = stored.bank.normalIban runtime ∧
      strip row.fednowRoutingNumber = strip stored.bank.fednowRoutingNumber ∧
      strip row.fednowAccountNumber = strip stored.bank.fednowAccountNumber := by
  rcases stored with ⟨bank, _, saved⟩
  simp only [Bank.saved, Bool.and_eq_true] at saved
  split at saved
  · rename_i fits
    cases saved
    refine ⟨rfl, ?_, ?_, ?_, ?_⟩
    · exact congrArg runtime.upper (strip_take fits.1.1.1)
    · exact congrArg runtime.upper (filter_take fits.1.1.2)
    · exact strip_take fits.1.2
    · exact strip_take fits.2
  · cases saved

/-- The checks a European bank has passed. -/
theorem StoredBank.target
    {runtime : PyRuntime} {row : Bank} (stored : StoredBank runtime row)
    (zone : row.zone = .EU) :
    isBic (row.normalBic runtime) = true ∧ isIban runtime (row.normalIban runtime) = true := by
  rcases stored.row_clean with ⟨sameZone, bic, iban, _, _⟩
  have clean := stored.clean
  rw [Bank.clean, ← sameZone, zone] at clean
  split at clean
  · cases clean
  · simp only [cleanTarget] at clean
    split at clean
    · cases clean
    split at clean
    · cases clean
    split at clean
    · cases clean
    split at clean
    · cases clean
    · rename_i bicMatches _ ibanMatches
      rw [bic, iban]
      exact ⟨Bool.eq_true_of_not_eq_false bicMatches, Bool.eq_true_of_not_eq_false ibanMatches⟩

/-- The checks an American bank has passed. -/
theorem StoredBank.fednow
    {runtime : PyRuntime} {row : Bank} (stored : StoredBank runtime row)
    (zone : row.zone = .US) :
    (strip row.fednowRoutingNumber ≠ [] →
        isAbaRtn runtime (strip row.fednowRoutingNumber) = true) ∧
      (strip row.fednowAccountNumber ≠ [] →
        isUsAccount runtime (strip row.fednowAccountNumber) = true) := by
  rcases stored.row_clean with ⟨sameZone, _, _, rtn, account⟩
  have clean := stored.clean
  rw [Bank.clean, ← sameZone, zone] at clean
  split at clean
  · cases clean
  · simp only [cleanFednow] at clean
    split at clean
    · cases clean
    split at clean
    · cases clean
    · rename_i rtnMatches accountMatches
      rw [rtn, account]
      simp only [not_and, Bool.not_eq_false] at rtnMatches accountMatches
      exact ⟨rtnMatches, accountMatches⟩

/-- An error names a field of the bank. -/
theorem Bank.clean_names_field
    {runtime : PyRuntime} {bank : Bank} {problem : BankProblem}
    (refused : bank.clean runtime = .error problem) :
    problem.field ∈ ["currency", "bic", "settlement_iban", "fednow_routing_number",
      "fednow_account_number"] := by
  simp only [clean, cleanTarget, cleanFednow, currencyProblem] at refused
  repeat' split at refused
  all_goals cases refused
  all_goals simp

end Klik.Banks
