import Klik.Ledger.SettleContract

/-!
# Answers which confirm a transfer

Each RTGS system has one answer which says that money has moved.  The gateways
with JSON of the mock take exactly this answer for a success; TARGET2 takes
its codes in any case of letters, and FedNow takes whatever does not say that
it was not received.
-/

namespace Klik.Ledger

open Klik.Common
open Klik.Ledger.Rtgs
open Klik.Lib

/-- The text of `TxSts` in the body. -/
def Rtgs.HttpResponse.txSts (response : HttpResponse) : Option PyStr :=
  match response.xml with
  | .parsed txSts _ => txSts
  | _ => none

section Answers

variable {runtime : PyRuntime} {zone : Zone} {transfer : TransferRequest}
variable {response : HttpResponse} {result : TransferResult}

end Answers

/-! ## All systems -/

end Klik.Ledger
