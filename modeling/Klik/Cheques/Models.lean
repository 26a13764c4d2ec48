import Klik.Ledger.Recording
import Klik.Lib.AtomicBlock
import Klik.Lib.RowTable

/-!
# Cheques

The row of a cheque, the errors of the cheque endpoints, and the notifications
which are queued for the issuer's bank.
-/

namespace Klik.Cheques

open Klik.Banks
open Klik.Codes
open Klik.Common
open Klik.Ledger
open Klik.Lib

inductive ChequeStatus where
  | active
  | redeemed
  | cancelled
  | expired
deriving DecidableEq, Repr

/-- A cheque; `transaction` is the key of the payment it was spent on. -/
structure Cheque where
  id : Uuid
  code : PyStr
  issuerBank : Bank
  issuerUserId : PyStr
  amount : Decimal
  currency : Currency
  zone : Zone
  status : ChequeStatus
  issuedAt : Instant
  expiresAt : Instant
  redeemedAt : Option Instant
  cancelledAt : Option Instant
  expiredAt : Option Instant
  transaction : Option Uuid
  idempotencyKey : PyStr
deriving DecidableEq, Repr

/-- The tables which the cheque endpoints write. -/
structure ChequeDb where
  cheques : List Cheque
  transactions : List Transaction
  entries : List LedgerEntry
deriving DecidableEq, Repr

/-! ## Errors -/

/-- An exception which leaves a cheque endpoint. -/
inductive ChequeError where
  | api (error : KlikAPIException)
  | validation (error : ValidationError)
  | database (error : DatabaseError)
  | doesNotExist
  | multipleObjectsReturned
deriving DecidableEq, Repr

def chequesNotEnabledError : KlikAPIException where
  statusCode := 403
  code := "403_CHEQUES_NOT_ENABLED"
  detail := "Bank nie ma aktywowanego modułu Cheques."

def chequeNotFoundError : KlikAPIException where
  statusCode := 404
  code := "404_CHEQUE_NOT_FOUND"
  detail := "Czek nie istnieje."

def chequeExpiredError : KlikAPIException where
  statusCode := 404
  code := "404_CHEQUE_EXPIRED"
  detail := "Czek wygasł lub nie istnieje."

def chequeAlreadyRedeemedError : KlikAPIException where
  statusCode := 409
  code := "409_CHEQUE_ALREADY_REDEEMED"
  detail := "Czek został już zrealizowany."

def chequeAlreadyCancelledError : KlikAPIException where
  statusCode := 409
  code := "409_CHEQUE_ALREADY_CANCELLED"
  detail := "Czek został już anulowany."

def chequeNotActiveError : KlikAPIException where
  statusCode := 409
  code := "409_CHEQUE_NOT_ACTIVE"
  detail := "Operacja możliwa tylko dla czeku w stanie ACTIVE."

/-! ## Blocks -/

/-- Why the issuer's bank may release the hold. -/
inductive ReleaseReason where
  | cancelled
  | expired
deriving DecidableEq, Repr

/-- A queued notification of the issuer's bank. -/
inductive ChequeNotification where
  | redeemed (chequeId : Uuid)
  | released (chequeId : Uuid) (reason : ReleaseReason)
deriving DecidableEq, Repr

/-- The statements of a block which write. -/
inductive ChequeStatement where
  | createTransaction
  | saveCheque
  | commit
deriving DecidableEq, Repr

/-- How a block of a cheque endpoint ends. -/
abbrev Outcome (Result : Type) :=
  Lib.Outcome ChequeError ChequeDb ChequeNotification Result

/-! ## Changes of a row -/

/-- The row spent on a payment. -/
def Cheque.redeemedWith (now : Instant) (transactionId : Uuid) (cheque : Cheque) :
    Cheque :=
  { cheque with
    status := .redeemed
    redeemedAt := some now
    transaction := some transactionId }

/-- The row cancelled by its issuer. -/
def Cheque.cancelledAtTime (now : Instant) (cheque : Cheque) : Cheque :=
  { cheque with
    status := .cancelled
    cancelledAt := some now }

/-- The row whose time has passed. -/
def Cheque.expiredAtTime (now : Instant) (cheque : Cheque) : Cheque :=
  { cheque with
    status := .expired
    expiredAt := some now }

end Klik.Cheques
