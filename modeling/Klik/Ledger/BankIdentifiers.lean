import Klik.Banks.BankClean
import Klik.Ledger.Rtgs.Gateways
import Klik.Ledger.Rtgs.Messages
import Klik.Ledger.Settlement

/-!
# From a validated bank to a message

The check of a bank, the request of a transfer and the message of a gateway
are three places.  A stored text goes through them unchanged, so a message is
in order exactly when what is stored is what was checked.
-/

namespace Klik.Ledger

open Klik.Banks
open Klik.Common
open Klik.Ledger.Rtgs
open Klik.Lib

/-- `str.upper` leaves capitals and digits as they are. -/
structure KeepsCapitals (runtime : PyRuntime) : Prop where
  upper : ∀ text, (∀ point ∈ text, isCapitalOrDigit point = true ∨
    runtime.isDigit point = true) → runtime.upper text = text

/-- A digit of ASCII. -/
def isAsciiDigit (point : Nat) : Bool :=
  48 ≤ point && point ≤ 57

/-- The request passes the local check, and the message carries BICs and IBANs
which their patterns match in full. -/
structure SentToTarget2
    (runtime : PyRuntime) (sessionId : Uuid) (request : TransferRequest) : Prop where
  accepted : target2Validate request = none
  bics : ∀ bic ∈ [request.fromBic, request.toBic],
    element "BIC" bic <:+: buildXml sessionId request ∧ fullBic bic = true
  ibans : ∀ iban ∈ [request.fromIban, request.toIban],
    element "IBAN" iban <:+: buildXml sessionId request ∧ fullIban runtime iban = true

/-- The request passes the local check, and the message carries nine digits
and four to seventeen digits. -/
structure SentToFednow
    (runtime : PyRuntime) (built : BuiltAt) (sessionId : Uuid) (request : TransferRequest) :
    Prop where
  accepted : fednowValidate runtime request = none
  routing : ∀ rtn ∈ [request.fromBic, request.toBic],
    element "MmbId" rtn <:+: buildPacs008 built sessionId request ∧
      repeats 9 9 isAsciiDigit rtn = true
  accounts : ∀ account ∈ [request.fromIban, request.toIban],
    element "Id" account <:+: buildPacs008 built sessionId request ∧
      repeats 4 17 isAsciiDigit account = true

/-- What is stored of a European bank is what was checked, and has no line
feed after it. -/
structure TidyTarget (runtime : PyRuntime) (bank : Bank) : Prop where
  bic : bank.bic = bank.normalBic runtime
  iban : bank.settlementIban = bank.normalIban runtime
  noFeed : bank.settlementIban.getLast? ≠ some 10

/-- What is stored of an American bank is what was checked, in ASCII. -/
structure TidyFednow (bank : Bank) : Prop where
  routing : bank.fednowRoutingNumber = strip bank.fednowRoutingNumber
  account : bank.fednowAccountNumber = strip bank.fednowAccountNumber
  ascii : ∀ point ∈ bank.fednowRoutingNumber ++ bank.fednowAccountNumber, point < 128

/-! ## What a pattern tells -/

theorem isCapitalOrDigit_iff {point : Nat} :
    isCapitalOrDigit point = true ↔ (65 ≤ point ∧ point ≤ 90) ∨ (48 ≤ point ∧ point ≤ 57) := by
  simp [isCapitalOrDigit, isCapital]

theorem isSpace_ascii {point : Nat} (visible : 33 ≤ point) (ascii : point < 128) :
    isSpace point = false := by
  simp only [isSpace, Bool.or_eq_false_iff, Bool.and_eq_false_iff, decide_eq_false_iff_not]
  omega

theorem fullBic_points {text : PyStr} (full : fullBic text = true) :
    ∀ point ∈ text, isCapitalOrDigit point = true := by
  simp only [fullBic, Bool.and_eq_true, List.all_eq_true] at full
  exact full.1.2

theorem fullIban_points {runtime : PyRuntime} {text : PyStr} (full : fullIban runtime text = true) :
    (∀ point ∈ text, isCapitalOrDigit point = true ∨ runtime.isDigit point = true) ∧
      text.getLast? ≠ some 10 := by
  match text with
  | [] | [_] | [_, _] | [_, _, _] => cases full
  | first :: second :: third :: fourth :: rest =>
      simp only [fullIban, Bool.and_eq_true, repeats_iff] at full
      rcases full with ⟨⟨⟨⟨capital, capitalToo⟩, digit⟩, digitToo⟩, ⟨least, _⟩, all⟩
      constructor
      · intro point member
        simp only [List.mem_cons] at member
        rcases member with rfl | rfl | rfl | rfl | member
        · exact .inl (Bool.or_eq_true_iff.mpr (.inl capital))
        · exact .inl (Bool.or_eq_true_iff.mpr (.inl capitalToo))
        · exact .inr digit
        · exact .inr digitToo
        · exact .inl (all point member)
      · intro feed
        have nonempty : rest ≠ [] := List.ne_nil_of_length_pos (by omega)
        have ends : rest.getLast? = some 10 := by
          rw [← feed]
          simp [List.getLast?_cons, List.getLast?_eq_some_getLast nonempty]
        exact absurd (all 10 (List.mem_of_getLast? ends)) (by decide)

/-- Where no line feed follows, the pattern matches in full. -/
theorem fullIban_of_isIban
    {runtime : PyRuntime} {text : PyStr} (matching : isIban runtime text = true)
    (noFeed : text.getLast? ≠ some 10) :
    fullIban runtime text = true := by
  match text with
  | [] | [_] | [_, _] | [_, _, _] => cases matching
  | first :: second :: third :: fourth :: rest =>
      have whole : beforeEnd rest = rest := by
        rw [beforeEnd, if_neg]
        intro feed
        apply noFeed
        simp [List.getLast?_cons, feed]
      simp only [isIban, whole] at matching
      exact matching

section Banks

variable {runtime : PyRuntime} {value : Nat → Option Nat} {row : Bank}

theorem target_full_iff
    (digits : ReadsDigits runtime value) (keeps : KeepsCapitals runtime)
    (stored : StoredBank runtime row) (zone : row.zone = .EU) :
    fullBic row.bic = true ∧ fullIban runtime row.settlementIban = true ↔
      TidyTarget runtime row := by
  have solid {text : PyStr} (full : fullBic text = true) : strip text = text := by
    apply strip_eq_self
    intro point member
    have kind := isCapitalOrDigit_iff.mp (fullBic_points full point member)
    exact isSpace_ascii (by omega) (by omega)
  have capitals {text : PyStr} (full : fullBic text = true) : runtime.upper text = text :=
    keeps.upper text fun point member => .inl (fullBic_points full point member)
  constructor
  · rintro ⟨bic, iban⟩
    rcases fullIban_points iban with ⟨points, noFeed⟩
    refine ⟨?_, ?_, noFeed⟩
    · rw [Bank.normalBic, solid bic, capitals bic]
    · have spaceless : row.settlementIban.filter (· ≠ 32) = row.settlementIban := by
        rw [List.filter_eq_self]
        intro point member
        have other : point ≠ 32 := by
          rintro rfl
          rcases points 32 member with capital | digit
          · exact absurd capital (by decide)
          · rw [digits.isDigit, digits.ascii 32 (by decide)] at digit
            exact absurd digit (by decide)
        exact decide_eq_true other
      rw [Bank.normalIban, spaceless, keeps.upper _ points]
  · intro tidy
    rcases stored.target zone with ⟨bic, iban⟩
    rw [← tidy.iban] at iban
    refine ⟨?_, fullIban_of_isIban iban tidy.noFeed⟩
    rw [← tidy.bic, isBic] at bic
    have parts : row.bic = beforeEnd row.bic ++ [10] ∨
        row.bic = beforeEnd row.bic ∧ (beforeEnd row.bic).getLast? ≠ some 10 :=
      beforeEnd_eq_iff.mp rfl
    rcases parts with feed | ⟨same, _⟩
    · -- The copy which was checked ends before the line feed.
      have checked : row.normalBic runtime = beforeEnd row.bic := by
        conv_lhs => rw [Bank.normalBic, feed]
        rw [strip_append_spaces _ (by decide), solid bic, capitals bic]
      rw [tidy.bic, checked]
      exact bic
    · rw [same]
      exact bic

theorem isAsciiDigit_iff {point : Nat} :
    isAsciiDigit point = true ↔ 48 ≤ point ∧ point ≤ 57 := by
  simp [isAsciiDigit]

theorem strip_of_digits
    {least most : Nat} {text : PyStr} (all : repeats least most isAsciiDigit text = true) :
    strip text = text ∧ ∀ point ∈ text, point < 128 := by
  have digit {point : Nat} (member : point ∈ text) : 48 ≤ point ∧ point ≤ 57 :=
    isAsciiDigit_iff.mp ((repeats_iff.mp all).2 point member)
  constructor
  · apply strip_eq_self
    intro point member
    have bounds := digit member
    exact isSpace_ascii (by omega) (by omega)
  · intro point member
    have bounds := digit member
    omega

theorem digits_of_strip
    (digits : ReadsDigits runtime value) {least most : Nat} {text : PyStr}
    (same : text = strip text) (ascii : ∀ point ∈ text, point < 128)
    (matching : repeats least most runtime.isDigit (beforeEnd (strip text)) = true) :
    repeats least most isAsciiDigit text = true := by
  have whole : beforeEnd (strip text) = text := by
    rw [beforeEnd, if_neg (getLast?_strip text rfl), ← same]
  rw [whole, repeats_iff] at matching
  refine repeats_iff.mpr ⟨matching.1, ?_⟩
  intro point member
  have digit := matching.2 point member
  rw [digits.isDigit] at digit
  have small := ascii point member
  rw [isAsciiDigit_iff]
  rcases digits.asciiDigit digit with bounds | past
  · exact bounds
  · omega

theorem fednow_digits_iff
    (digits : ReadsDigits runtime value)
    (stored : StoredBank runtime row) (zone : row.zone = .US)
    (routing : row.fednowRoutingNumber ≠ []) (account : row.fednowAccountNumber ≠ []) :
    repeats 9 9 isAsciiDigit row.fednowRoutingNumber = true ∧
        repeats 4 17 isAsciiDigit row.fednowAccountNumber = true ↔
      TidyFednow row := by
  constructor
  · rintro ⟨rtn, number⟩
    rcases strip_of_digits rtn with ⟨rtnSame, rtnAscii⟩
    rcases strip_of_digits number with ⟨numberSame, numberAscii⟩
    refine ⟨rtnSame.symm, numberSame.symm, ?_⟩
    intro point member
    rcases List.mem_append.mp member with member | member
    · exact rtnAscii point member
    · exact numberAscii point member
  · intro tidy
    rcases stored.fednow zone with ⟨rtn, number⟩
    have rtnFilled : strip row.fednowRoutingNumber ≠ [] := tidy.routing ▸ routing
    have numberFilled : strip row.fednowAccountNumber ≠ [] := tidy.account ▸ account
    constructor
    · apply digits_of_strip digits tidy.routing _ (rtn rtnFilled)
      intro point member
      exact tidy.ascii point (List.mem_append_left _ member)
    · apply digits_of_strip digits tidy.account _ (number numberFilled)
      intro point member
      exact tidy.ascii point (List.mem_append_right _ member)

end Banks

/-! ## What the gateways check -/

theorem missingFields_eq_nil {fields : List (PyStr × PyStr)} :
    missingFields fields = [] ↔ ∀ field ∈ fields, field.2 ≠ [] := by
  simp [missingFields, List.filter_eq_nil_iff]

/-- FedNow's pattern takes nine digits. -/
theorem abaMatches_of_digits
    {runtime : PyRuntime} {value : Nat → Option Nat} (digits : ReadsDigits runtime value)
    {rtn : PyStr} (all : repeats 9 9 isAsciiDigit rtn = true) :
    abaMatches runtime rtn = true := by
  rcases repeats_iff.mp all with ⟨⟨least, most⟩, points⟩
  have nothing : rtn.drop 9 = [] := List.drop_eq_nil_of_le most
  simp only [abaMatches, Bool.and_eq_true, List.all_eq_true, decide_eq_true_eq, Bool.or_eq_true]
  refine ⟨⟨?_, least⟩, .inl nothing⟩
  intro point member
  have digit := isAsciiDigit_iff.mp (points point (List.mem_of_mem_take member))
  rw [digits.isDigit, digits.value_ascii digit]
  rfl

theorem sentToTarget2_iff
    {runtime : PyRuntime} {sessionId : Uuid} {request : TransferRequest} :
    SentToTarget2 runtime sessionId request ↔
      (fullBic request.fromBic = true ∧ fullIban runtime request.fromIban = true) ∧
        fullBic request.toBic = true ∧ fullIban runtime request.toIban = true := by
  constructor
  · intro sent
    have bics := sent.bics
    have ibans := sent.ibans
    simp only [List.forall_mem_cons] at bics ibans
    exact ⟨⟨bics.1.2, ibans.1.2⟩, bics.2.1.2, ibans.2.1.2⟩
  · rintro ⟨⟨fromBic, fromIban⟩, toBic, toIban⟩
    rcases buildXml_carries sessionId request with ⟨carriesBics, carriesIbans⟩
    have filled {text : PyStr} (full : fullBic text = true) : text ≠ [] := by
      rintro rfl
      exact absurd full (by decide)
    have filledToo {text : PyStr} (full : fullIban runtime text = true) : text ≠ [] := by
      rintro rfl
      cases full
    refine ⟨?_, ?_, ?_⟩
    · rw [target2Validate, if_pos]
      rw [missingFields_eq_nil]
      simp only [List.forall_mem_cons]
      exact ⟨filled fromBic, filled toBic, filledToo fromIban, filledToo toIban,
        fun _ member => absurd member List.not_mem_nil⟩
    · intro bic member
      refine ⟨carriesBics bic member, ?_⟩
      simp only [List.mem_cons, List.not_mem_nil, or_false] at member
      rcases member with rfl | rfl
      · exact fromBic
      · exact toBic
    · intro iban member
      refine ⟨carriesIbans iban member, ?_⟩
      simp only [List.mem_cons, List.not_mem_nil, or_false] at member
      rcases member with rfl | rfl
      · exact fromIban
      · exact toIban

theorem sentToFednow_iff
    {runtime : PyRuntime} {value : Nat → Option Nat} (digits : ReadsDigits runtime value)
    {built : BuiltAt} {sessionId : Uuid} {request : TransferRequest} :
    SentToFednow runtime built sessionId request ↔
      (repeats 9 9 isAsciiDigit request.fromBic = true ∧
          repeats 4 17 isAsciiDigit request.fromIban = true) ∧
        repeats 9 9 isAsciiDigit request.toBic = true ∧
          repeats 4 17 isAsciiDigit request.toIban = true := by
  constructor
  · intro sent
    have routing := sent.routing
    have accounts := sent.accounts
    simp only [List.forall_mem_cons] at routing accounts
    exact ⟨⟨routing.1.2, accounts.1.2⟩, routing.2.1.2, accounts.2.1.2⟩
  · rintro ⟨⟨fromRtn, fromAccount⟩, toRtn, toAccount⟩
    rcases buildPacs008_carries built sessionId request with ⟨carriesRtns, carriesAccounts⟩
    have filled {least most : Nat} (positive : 0 < least) {text : PyStr}
        (all : repeats least most isAsciiDigit text = true) : text ≠ [] := by
      rintro rfl
      have length := (repeats_iff.mp all).1.1
      simp only [List.length_nil] at length
      omega
    refine ⟨?_, ?_, ?_⟩
    · have complete : missingFields (fednowFields request) = [] := by
        rw [missingFields_eq_nil]
        simp only [fednowFields, List.forall_mem_cons]
        exact ⟨filled (by decide) fromRtn, filled (by decide) toRtn,
          filled (by decide) fromAccount, filled (by decide) toAccount,
          fun _ member => absurd member List.not_mem_nil⟩
      simp [fednowValidate, complete, abaMatches_of_digits digits fromRtn,
        abaMatches_of_digits digits toRtn]
    · intro rtn member
      refine ⟨carriesRtns rtn member, ?_⟩
      simp only [List.mem_cons, List.not_mem_nil, or_false] at member
      rcases member with rfl | rfl
      · exact fromRtn
      · exact toRtn
    · intro account member
      refine ⟨carriesAccounts account member, ?_⟩
      simp only [List.mem_cons, List.not_mem_nil, or_false] at member
      rcases member with rfl | rfl
      · exact fromAccount
      · exact toAccount

/-! ## Banks which were accepted -/

/-- A transfer between two accepted banks is sent with valid identifiers
exactly when both rows hold what was checked. -/
theorem identifiers_valid_iff
    {env : SettlementEnv} {value : Nat → Option Nat}
    (digits : ReadsDigits env.runtime value) (keeps : KeepsCapitals env.runtime)
    (built : BuiltAt) (sessionId : Uuid) (transfer : SettlementTransfer)
    (fromStored : StoredBank env.runtime (env.bankOf transfer.fromBankId))
    (toStored : StoredBank env.runtime (env.bankOf transfer.toBankId)) :
    ((env.bankOf transfer.fromBankId).zone = .EU → (env.bankOf transfer.toBankId).zone = .EU →
      (SentToTarget2 env.runtime sessionId (transferRequest env .EU transfer) ↔
        TidyTarget env.runtime (env.bankOf transfer.fromBankId) ∧
          TidyTarget env.runtime (env.bankOf transfer.toBankId))) ∧
      ((env.bankOf transfer.fromBankId).zone = .US →
        (env.bankOf transfer.toBankId).zone = .US →
        (∀ bank ∈ [env.bankOf transfer.fromBankId, env.bankOf transfer.toBankId],
          bank.fednowRoutingNumber ≠ [] ∧ bank.fednowAccountNumber ≠ []) →
        (SentToFednow env.runtime built sessionId (transferRequest env .US transfer) ↔
          TidyFednow (env.bankOf transfer.fromBankId) ∧
            TidyFednow (env.bankOf transfer.toBankId))) := by
  constructor
  · intro fromZone toZone
    rw [sentToTarget2_iff]
    exact and_congr (target_full_iff digits keeps fromStored fromZone)
      (target_full_iff digits keeps toStored toZone)
  · intro fromZone toZone filled
    simp only [List.forall_mem_cons] at filled
    rcases filled with ⟨⟨fromRtn, fromAccount⟩, ⟨toRtn, toAccount⟩, _⟩
    rw [sentToFednow_iff digits]
    exact and_congr (fednow_digits_iff digits fromStored fromZone fromRtn fromAccount)
      (fednow_digits_iff digits toStored toZone toRtn toAccount)

/-! ## Banks as they are typed -/

/-- A bank with identifiers of TARGET2. -/
def europeanBank (id : Uuid) (bic iban : String) : Bank :=
  { polishBank id with
    zone := .EU
    currency := .EUR
    bic := py bic
    settlementIban := py iban }

/-- A bank with identifiers of FedNow. -/
def americanBank (id : Uuid) (rtn account : PyStr) : Bank :=
  { polishBank id with
    zone := .US
    currency := .USD
    fednowRoutingNumber := rtn
    fednowAccountNumber := account }

/-- Two European banks, of which the second is typed in small letters and with
spaces, and two American ones, of which the second has a space before its
account number. -/
def typedBanks : Uuid → Bank
  | 1 => europeanBank 1 "DEUTDEFF" "DE89370400440532013000"
  | 2 => europeanBank 2 "bnpafrpp" "FR14 2004 1010 0505 0001 3M02 606"
  | 3 => americanBank 3 (py "021000021") (py "1234567")
  | _ => americanBank 4 (py "011401533") (py " 7654321")

def typedEnv : SettlementEnv where
  bankOf := typedBanks
  runtime := .ascii
  dispatch _ _ _ := .raised

def typedStored (id : Uuid) (known : id ∈ [1, 2, 3, 4]) :
    StoredBank .ascii (typedBanks id) where
  bank := typedBanks id
  clean := by
    revert id
    decide +kernel
  saved := by
    revert id
    decide +kernel

def typedTransfer (fromBankId toBankId : Uuid) : SettlementTransfer where
  id := 7
  session := 8
  fromBankId := fromBankId
  toBankId := toBankId
  amount := 100
  currency := .EUR
  status := .pending
  rtgsReference := []
  failureReason := []
  completedAt := none

/-- A message which is built at noon. -/
def noon : BuiltAt :=
  ⟨9, .firstOfJune 2026, 43200⟩

theorem readsDigits_ascii :
    ReadsDigits .ascii fun point =>
      if 48 ≤ point ∧ point ≤ 57 then some (point - 48) else none := by
  constructor
  · intro point
    simp only [PyRuntime.ascii]
    split
    · rename_i digit
      simp [digit]
    · rename_i other
      simpa using other
  · intro point _
    rfl

theorem keepsCapitals_ascii : KeepsCapitals .ascii := by
  constructor
  intro text points
  show asciiUpper text = text
  conv_rhs => rw [← List.map_id text]
  apply List.map_congr_left
  intro point member
  have bounds : ¬ (97 ≤ point ∧ point ≤ 122) := by
    rcases points point member with capital | digit
    · have kind := isCapitalOrDigit_iff.mp capital
      omega
    · simp only [PyRuntime.ascii, Bool.and_eq_true, decide_eq_true_eq] at digit
      omega
  rw [if_neg bounds]
  rfl

/-- A transfer to the second bank is not in order, and one from the first bank
to itself would be; the same for the third and the fourth. -/
theorem identifiers_valid_typed :
    ¬ SentToTarget2 .ascii 8 (transferRequest typedEnv .EU (typedTransfer 1 2)) ∧
      SentToTarget2 .ascii 8 (transferRequest typedEnv .EU (typedTransfer 1 1)) ∧
      ¬ SentToFednow .ascii noon 8 (transferRequest typedEnv .US (typedTransfer 3 4)) ∧
      SentToFednow .ascii noon 8 (transferRequest typedEnv .US (typedTransfer 3 3)) := by
  have first : StoredBank typedEnv.runtime (typedEnv.bankOf 1) := typedStored 1 (by decide)
  have second : StoredBank typedEnv.runtime (typedEnv.bankOf 2) := typedStored 2 (by decide)
  have third : StoredBank typedEnv.runtime (typedEnv.bankOf 3) := typedStored 3 (by decide)
  have fourth : StoredBank typedEnv.runtime (typedEnv.bankOf 4) := typedStored 4 (by decide)
  have valid (transfer : SettlementTransfer)
      (fromStored : StoredBank typedEnv.runtime (typedEnv.bankOf transfer.fromBankId))
      (toStored : StoredBank typedEnv.runtime (typedEnv.bankOf transfer.toBankId)) :=
    identifiers_valid_iff readsDigits_ascii keepsCapitals_ascii noon 8 transfer fromStored
      toStored
  refine ⟨?_, ?_, ?_, ?_⟩
  · intro sent
    have tidy := ((valid (typedTransfer 1 2) first second).1 rfl rfl).mp sent
    exact absurd tidy.2.bic (by decide +kernel)
  · have tidy : TidyTarget typedEnv.runtime (typedEnv.bankOf 1) := by
      constructor <;> decide +kernel
    exact ((valid (typedTransfer 1 1) first first).1 rfl rfl).mpr ⟨tidy, tidy⟩
  · intro sent
    have tidy := ((valid (typedTransfer 3 4) third fourth).2 rfl rfl (by decide +kernel)).mp sent
    exact absurd tidy.2.account (by decide +kernel)
  · have tidy : TidyFednow (typedEnv.bankOf 3) := by
      constructor <;> decide +kernel
    exact ((valid (typedTransfer 3 3) third third).2 rfl rfl (by decide +kernel)).mpr
      ⟨tidy, tidy⟩

/-- All four banks are accepted and stored, and both requests pass the local
checks and are sent with identifiers which do not match. -/
theorem typed_identifiers_sent :
    (∀ id ∈ [1, 2, 3, 4],
      (typedBanks id).clean .ascii = .ok () ∧ (typedBanks id).saved = some (typedBanks id)) ∧
    target2Validate (transferRequest typedEnv .EU (typedTransfer 1 2)) = none ∧
    element "BIC" (py "bnpafrpp") <:+:
      buildXml 8 (transferRequest typedEnv .EU (typedTransfer 1 2)) ∧
    element "IBAN" (py "FR14 2004 1010 0505 0001 3M02 606") <:+:
      buildXml 8 (transferRequest typedEnv .EU (typedTransfer 1 2)) ∧
    ¬ SentToTarget2 .ascii 8 (transferRequest typedEnv .EU (typedTransfer 1 2)) ∧
    fednowValidate .ascii (transferRequest typedEnv .US (typedTransfer 3 4)) = none ∧
    element "Id" (py " 7654321") <:+:
      buildPacs008 noon 8 (transferRequest typedEnv .US (typedTransfer 3 4)) ∧
    ¬ SentToFednow .ascii noon 8 (transferRequest typedEnv .US (typedTransfer 3 4)) := by
  refine ⟨by decide +kernel, by decide +kernel, ?_, ?_, ?_, by decide +kernel, ?_, ?_⟩
  · exact (buildXml_carries 8 _).1 _ (by decide +kernel)
  · exact (buildXml_carries 8 _).2 _ (by decide +kernel)
  · intro sent
    exact absurd (sent.bics (py "bnpafrpp") (by decide +kernel)).2 (by decide +kernel)
  · exact (buildPacs008_carries noon 8 _).2 _ (by decide +kernel)
  · intro sent
    exact absurd (sent.accounts (py " 7654321") (by decide +kernel)).2 (by decide +kernel)

end Klik.Ledger
