import Klik.Aliases.AliasService
import Klik.Recurring.MandateSystem

/-!
# Creating a mandate

`RecurringCreateView.post`.  The number of the recipient has to be registered
in the zone of the mandate when it is created, and nothing ties the mandate to
the alias afterwards.
-/

namespace Klik.Recurring

open Klik.Aliases
open Klik.Banks
open Klik.Common
open Klik.Lib

/-! ## Requests -/

/-- The validated data of `RecurringCreateRequestSerializer`; zone, currency
and cycle are free texts. -/
structure CreateData where
  payerUserId : PyStr
  recipientPhone : PyStr
  amount : Decimal
  currency : String
  zone : String
  cycle : String
  startDate : Date
  endDate : Option Date
  mandateSignedAt : DateTime
  phone_length : recipientPhone.length ≤ 16
  amount_fits : fitsDecimalField 12 2 amount = true
  startDate_le : startDate.year ≤ 9999

/-- A request with its reading of the clock, the key of the row which it may
insert, and whether the server refuses the insertion. -/
structure CreateRequest where
  bank : Bank
  data : CreateData
  idempotencyKey : PyStr
  now : DateTime
  mandateId : Uuid
  refused : Bool

/-- The fields of `RecurringCreateResponseSerializer` but the time of
creation. -/
structure CreateResponse where
  recurringTransferId : Uuid
  status : RecurringTransferStatus
  nextRunAt : DateTime
deriving DecidableEq, Repr

/-- A mandate with the key of the request which created it. -/
structure MandateRow where
  idempotencyKey : PyStr
  mandate : RecurringTransfer
deriving DecidableEq, Repr

/-! ## Errors -/

def invalidAmountError : KlikAPIException where
  statusCode := 400
  code := "400_INVALID_AMOUNT"
  detail := "Niepoprawna kwota."

def invalidCycleError : KlikAPIException where
  statusCode := 400
  code := "400_INVALID_CYCLE"
  detail := "Pole cycle musi być jednym z: DAILY, WEEKLY, MONTHLY."

def invalidDateRangeError (detail : String) : KlikAPIException where
  statusCode := 400
  code := "400_INVALID_DATE_RANGE"
  detail := detail

def invalidPhoneFormatError : KlikAPIException where
  statusCode := 400
  code := "400_INVALID_PHONE_FORMAT"
  detail := "recipient_phone musi być w formacie E.164 (np. +48501234567)."

def recipientAliasNotFoundError : KlikAPIException where
  statusCode := 404
  code := "404_RECIPIENT_ALIAS_NOT_FOUND"
  detail := "Numer odbiorcy nie jest zarejestrowany w KLIK."

/-! ## The domain of a request -/

/-- Stored value of a cycle. -/
def RecurringCycle.value : RecurringCycle → String
  | .daily => "DAILY"
  | .weekly => "WEEKLY"
  | .monthly => "MONTHLY"

/-- The cycle with a value; none where `RecurringCycle.values` has no such. -/
def cycleOfValue (value : String) : Option RecurringCycle :=
  [.daily, .weekly, .monthly].find? fun cycle => cycle.value = value

/-- The zone with a value; none where `Zone.values` has no such. -/
def zoneOfValue (value : String) : Option Zone :=
  [.PL, .EU, .UK, .US].find? fun zone => zone.value = value

/-- `MAX_MANDATE_SPAN_YEARS`. -/
def maxMandateSpanYears : Nat := 10

/-- `MAX_START_AHEAD_YEARS`. -/
def maxStartAheadYears : Nat := 1

/-- `date + relativedelta(years=n)`. -/
def plusYears (env : ScheduleEnv) (date : Date) (years : Nat) :
    Except RecurringError Date :=
  match env.dateutil.plusMonths date (12 * years) with
  | none => .error .overflow
  | some later => .ok later

/-- The checks of the end date. -/
def validateEndDate (env : ScheduleEnv) (start : Date) :
    Option Date → Except RecurringError Unit
  | none => .ok ()
  | some endDate =>
      if endDate.dayNumber ≤ start.dayNumber then
        .error (.api (invalidDateRangeError
          "end_date musi być późniejsze niż start_date."))
      else
        match plusYears env start maxMandateSpanYears with
        | .error error => .error error
        | .ok latest =>
            if latest.dayNumber < endDate.dayNumber then
              .error (.api (invalidDateRangeError
                s!"Zlecenie może trwać maksymalnie {maxMandateSpanYears} lat."))
            else .ok ()

/-- The checks of the dates. -/
def validateDates (env : ScheduleEnv) (today start : Date) (endDate : Option Date) :
    Except RecurringError Unit :=
  if start.dayNumber < today.dayNumber then
    .error (.api (invalidDateRangeError "start_date nie może być w przeszłości."))
  else
    match plusYears env today maxStartAheadYears with
    | .error error => .error error
    | .ok latest =>
        if latest.dayNumber < start.dayNumber then
          .error (.api (invalidDateRangeError
            s!"start_date maksymalnie {maxStartAheadYears} rok w przyszłość."))
        else validateEndDate env start endDate

/-- The checks of the zone and the currency; the zone which the text names. -/
def validateZone (bank : Bank) (data : CreateData) : Except RecurringError Zone :=
  match zoneOfValue data.zone with
  | none => .error (.api (zoneMismatchError s!"Nieznana strefa: {data.zone}."))
  | some zone =>
      if zone ≠ bank.zone then
        .error (.api (zoneMismatchError
          s!"Strefa {data.zone} ≠ strefa banku {bank.zone.value}."))
      else
        let expected := (zoneCurrency zone).value
        if data.currency ≠ expected then
          .error (.api (currencyMismatchError
            (s!"Waluta {data.currency} nie pasuje do strefy {data.zone} " ++
              s!"(oczekiwano {expected}).")))
        else .ok zone

/-- `_validate_domain`; the cycle and the zone which the texts name. -/
def CreateRequest.validateDomain (env : RecurringEnv) (request : CreateRequest) :
    Except RecurringError (RecurringCycle × Zone) :=
  if isE164 env.runtime request.data.recipientPhone = false then
    .error (.api invalidPhoneFormatError)
  else
    match cycleOfValue request.data.cycle with
    | none => .error (.api invalidCycleError)
    | some cycle =>
        if request.data.amount ≤ 0 then .error (.api invalidAmountError)
        else
          match validateDates env.schedule request.now.date request.data.startDate
              request.data.endDate with
          | .error error => .error error
          | .ok () =>
              match validateZone request.bank request.data with
              | .error error => .error error
              | .ok zone => .ok (cycle, zone)

/-! ## POST /recurring/create -/

/-- `_created_response`. -/
def createdResponse (mandate : RecurringTransfer) : CreateResponse where
  recurringTransferId := mandate.id
  status := mandate.status
  nextRunAt := mandate.nextRunAt

/-- The mandate which the request creates. -/
def CreateRequest.mandate
    (env : RecurringEnv) (cycle : RecurringCycle) (zone : Zone)
    (request : CreateRequest) : RecurringTransfer where
  id := request.mandateId
  payerBank := request.bank
  payerUserId := request.data.payerUserId
  recipientPhone := request.data.recipientPhone
  amount := request.data.amount
  currency := zoneCurrency zone
  zone := zone
  cycle := cycle
  startDate := request.data.startDate
  endDate := request.data.endDate
  nextRunAt := firstRunAt env.schedule request.data.startDate
  lastRunAt := none
  lastExecution := none
  status := .active
  failedRunsCount := 0
  mandateSignedAt := request.data.mandateSignedAt
  pausedAt := none
  cancelledAt := none

/-- `RecurringTransfer.objects.create`, which validates nothing. -/
def insertMandate (request : CreateRequest) (mandate : RecurringTransfer)
    (rows : List MandateRow) : Except RecurringError MandateRow :=
  if 64 < request.idempotencyKey.length then
    .error (.database (.invalidText "idempotency_key"))
  else if encodable mandate.payerUserId = false then
    .error (.database (.invalidText "payer_user_id"))
  else if rows.any fun row => row.mandate.id = mandate.id then
    .error (.database (.integrity "recurring_recurringtransfer_pkey"))
  else if request.refused then .error (.database .operational)
  else .ok ⟨request.idempotencyKey, mandate⟩

/-- `RecurringCreateView.post`: the response, and the row which is inserted
where the key was not used by the bank before. -/
def create (env : RecurringEnv) (request : CreateRequest)
    (aliases : List Alias) (rows : List MandateRow) :
    Except RecurringError (CreateResponse × Option MandateRow) :=
  match checkBank request.bank with
  | .error error => .error error
  | .ok () =>
      match request.validateDomain env with
      | .error error => .error error
      | .ok (cycle, zone) =>
          match rows.find? fun row =>
              row.idempotencyKey = request.idempotencyKey &&
                row.mandate.payerBank.id = request.bank.id with
          | some existing => .ok (createdResponse existing.mandate, none)
          | none =>
              match getAlias request.data.recipientPhone aliases with
              | none => .error (.api recipientAliasNotFoundError)
              | some row =>
                  if row.zone ≠ zone then
                    .error (.api (zoneMismatchError
                      (s!"Strefa aliasu odbiorcy ({row.zone.value}) ≠ " ++
                        s!"strefa zlecenia ({request.data.zone}).")))
                  else
                    match insertMandate request (request.mandate env cycle zone)
                        rows with
                    | .error error => .error error
                    | .ok inserted =>
                        .ok (createdResponse inserted.mandate, some inserted)

/-! ## What the view creates -/

/-- A created mandate: it is in the zone of its bank, and its recipient is
registered in this zone. -/
structure Creates
    (env : RecurringEnv) (request : CreateRequest) (aliases : List Alias)
    (mandate : RecurringTransfer) : Prop where
  new : mandate.IsNew env.schedule
  bank : mandate.payerBank = request.bank
  zone : mandate.zone = request.bank.zone
  currency : mandate.currency = zoneCurrency mandate.zone
  recipient : ∃ row ∈ aliases, row.phone = mandate.recipientPhone ∧
    row.zone = mandate.zone

theorem validateDates_ok
    {env : ScheduleEnv} {today start : Date} {endDate : Option Date}
    (valid : validateDates env today start endDate = .ok ()) :
    ∀ last, endDate = some last → start.dayNumber < last.dayNumber := by
  rintro last rfl
  simp only [validateDates, validateEndDate] at valid
  split at valid
  · cases valid
  · split at valid
    · cases valid
    · split at valid
      · cases valid
      · split at valid
        · cases valid
        · rename_i later
          exact Nat.lt_of_not_le later

theorem validateZone_ok
    {bank : Bank} {data : CreateData} {zone : Zone}
    (valid : validateZone bank data = .ok zone) : zone = bank.zone := by
  simp only [validateZone] at valid
  split at valid
  · cases valid
  · split at valid
    · cases valid
    · rename_i same
      split at valid
      · cases valid
      · cases valid
        exact not_not.mp same

theorem validateDomain_ok
    {env : RecurringEnv} {request : CreateRequest} {cycle : RecurringCycle} {zone : Zone}
    (valid : request.validateDomain env = .ok (cycle, zone)) :
    zone = request.bank.zone ∧
      ∀ last, request.data.endDate = some last →
        request.data.startDate.dayNumber < last.dayNumber := by
  simp only [CreateRequest.validateDomain] at valid
  split at valid
  · cases valid
  · split at valid
    · cases valid
    · split at valid
      · cases valid
      · split at valid
        · cases valid
        · rename_i dates
          split at valid
          · cases valid
          · rename_i zones
            cases valid
            exact ⟨validateZone_ok zones, validateDates_ok dates⟩

theorem insertMandate_ok
    {request : CreateRequest} {mandate : RecurringTransfer} {rows : List MandateRow}
    {row : MandateRow}
    (inserted : insertMandate request mandate rows = .ok row) :
    row = ⟨request.idempotencyKey, mandate⟩ := by
  simp only [insertMandate] at inserted
  split at inserted
  · cases inserted
  · split at inserted
    · cases inserted
    · split at inserted
      · cases inserted
      · split at inserted
        · cases inserted
        · cases inserted
          rfl

theorem create_ok
    {env : RecurringEnv} {request : CreateRequest} {aliases : List Alias}
    {rows : List MandateRow} {response : CreateResponse} {row : MandateRow}
    (created : create env request aliases rows = .ok (response, some row)) :
    row.idempotencyKey = request.idempotencyKey ∧
      Creates env request aliases row.mandate := by
  simp only [create] at created
  split at created
  · cases created
  · split at created
    · cases created
    · rename_i cycle zone valid
      split at created
      · cases created
      · split at created
        · cases created
        · rename_i recipient found
          split at created
          · cases created
          · rename_i sameZone
            split at created
            · cases created
            · rename_i inserted insertion
              cases created
              rw [insertMandate_ok insertion]
              rcases validateDomain_ok valid with ⟨bankZone, later⟩
              rcases mem_of_getAlias found with ⟨member, phone⟩
              refine ⟨rfl, ?_, rfl, bankZone, rfl, recipient, member, phone,
                not_not.mp sameZone⟩
              exact ⟨rfl, request.data.startDate_le, rfl, rfl, rfl, rfl, later⟩

end Klik.Recurring
