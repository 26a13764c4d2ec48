/-!
# Errors of the API and of model validation

An API error carries the HTTP status, the code and the message which the
exception handler puts in the response.  A validation error names the field
it is about; errors about the object as a whole have the field `__all__`.
-/

namespace Klik.Common

/-- `KlikAPIException` with the class attributes of a subclass. -/
structure KlikAPIException where
  statusCode : Nat
  code : String
  detail : String
deriving DecidableEq, Repr

def bankInactiveError : KlikAPIException where
  statusCode := 403
  code := "403_BANK_INACTIVE"
  detail := "Bank jest nieaktywny."

def p2pNotEnabledError : KlikAPIException where
  statusCode := 403
  code := "403_P2P_NOT_ENABLED"
  detail := "Bank nie ma aktywowanego modułu P2P."

def insufficientPermissionsError : KlikAPIException where
  statusCode := 403
  code := "403_INSUFFICIENT_PERMISSIONS"
  detail := "Brak uprawnień do tej operacji."

def merchantNotFoundError : KlikAPIException where
  statusCode := 404
  code := "404_MERCHANT_NOT_FOUND"
  detail := "Merchant o podanym ID nie istnieje."

def zoneMismatchError (detail : String) : KlikAPIException where
  statusCode := 422
  code := "422_ZONE_MISMATCH"
  detail := detail

def currencyMismatchError (detail : String) : KlikAPIException where
  statusCode := 422
  code := "422_CURRENCY_MISMATCH"
  detail := detail

/-- `BadRequestError` of a request without its `Idempotency-Key`. -/
def missingIdempotencyKeyError : KlikAPIException where
  statusCode := 400
  code := "400_MISSING_IDEMPOTENCY_KEY"
  detail := "Nagłówek Idempotency-Key jest wymagany."

def idempotencyConflictError : KlikAPIException where
  statusCode := 409
  code := "409_IDEMPOTENCY_CONFLICT"
  detail := "Idempotency-Key użyty z innym payloadem."

def codeExpiredError : KlikAPIException where
  statusCode := 404
  code := "404_CODE_EXPIRED"
  detail := "Kod utracił ważność lub nie istnieje."

def codeAlreadyUsedError : KlikAPIException where
  statusCode := 409
  code := "409_CODE_ALREADY_USED"
  detail := "Kod został już użyty w innej transakcji."

def transactionNotFoundError : KlikAPIException where
  statusCode := 404
  code := "404_TRANSACTION_NOT_FOUND"
  detail := "Transakcja nie istnieje."

def noActiveMSCError : KlikAPIException where
  statusCode := 422
  code := "422_NO_ACTIVE_MSC"
  detail := "Agent nie ma aktywnej umowy MSC. Skontaktuj się z operatorem."

def transactionAlreadyClosedError : KlikAPIException where
  statusCode := 409
  code := "409_TRANSACTION_ALREADY_CLOSED"
  detail :=
    "Transakcja jest już zamkniętanie i nie może być potwierdzona ani odrzucona."

def confirmDecisionConflictError : KlikAPIException where
  statusCode := 409
  code := "409_CONFIRM_DECISION_CONFLICT"
  detail :=
    "Transakcja została wcześniej potwierdzona z inną decyzją. " ++
      "Replay z odmienną decyzją jest niedozwolony."

/-- One message of a `ValidationError`, with the field it is filed under. -/
structure ValidationError where
  field : String
  message : String
deriving DecidableEq, Repr

/-- An error which the database raises for a statement. -/
inductive DatabaseError where
  /-- A numeric value does not fit its column. -/
  | numericOutOfRange (column : String)
  /-- A text is too long for its column or cannot be encoded. -/
  | invalidText (column : String)
  /-- A constraint of the table refuses the row. -/
  | integrity (constraint : String)
  /-- The statement fails for a reason of the server's own. -/
  | operational
deriving DecidableEq, Repr

end Klik.Common
