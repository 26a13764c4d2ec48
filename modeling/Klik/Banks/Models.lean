import Klik.Common.Enums
import Klik.Lib.PyText

/-!
# Banks

The columns of a bank which the modelled services read.
-/

namespace Klik.Banks

open Klik.Common
open Klik.Lib

/-- A bank taking part in the system. -/
structure Bank where
  id : Uuid
  name : PyStr
  zone : Zone
  currency : Currency
  bic : PyStr
  settlementIban : PyStr
  fednowRoutingNumber : PyStr
  fednowAccountNumber : PyStr
  webhookUrl : PyStr
  active : Bool
  p2pEnabled : Bool
  chequesEnabled : Bool
  recurringEnabled : Bool
  recurringWebhookUrl : PyStr
  p2pLookupFee : Decimal
deriving DecidableEq, Repr

/-- `Bank.objects.get(id=...)`; ids are unique. -/
def getBank (banks : List Bank) (id : Uuid) : Option Bank :=
  banks.find? fun bank => bank.id = id

theorem getBank_id
    {banks : List Bank} {bankId : Uuid} {bank : Bank}
    (known : getBank banks bankId = some bank) : bank.id = bankId := by
  simpa using List.find?_some known

/-- The setting `KLIK_OPERATOR_BANK_BY_ZONE`. -/
def klikOperatorBankByZone : Zone → Option PyStr
  | .PL => none
  | .EU => some (py "KLIK Operator EU")
  | .UK => some (py "KLIK Operator UK")
  | .US => some (py "KLIK Operator US")

/-- The bank which collects KLIK's fees in a zone, or none where fees are
collected at the source. -/
def resolveKlikOperatorBank (banks : List Bank) (zone : Zone) : Option Bank :=
  match klikOperatorBankByZone zone with
  | none => none
  | some name => banks.find? fun bank => bank.name = name && bank.zone = zone

/-- A Polish bank with a given id and no webhook. -/
def polishBank (id : Uuid) : Bank where
  id := id
  name := py "Bank " ++ decimalDigits id
  zone := .PL
  currency := .PLN
  bic := []
  settlementIban := []
  fednowRoutingNumber := []
  fednowAccountNumber := []
  webhookUrl := []
  active := true
  p2pEnabled := true
  chequesEnabled := true
  recurringEnabled := true
  recurringWebhookUrl := []
  p2pLookupFee := 0

end Klik.Banks
