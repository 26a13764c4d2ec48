import Mathlib.Algebra.Order.Ring.Rat

/-!
# Shared abstractions of the domain model

Zones, currencies and the scalar types which every app uses.  A primary key
is a number: a freshly drawn `uuid4` is modelled by a number not used before.
`Decimal` is the rational which the decimal stands for, so that sums,
differences and comparisons are the exact ones.  An instant of the clock is
its number of microseconds.
-/

namespace Klik.Common

/-- A `UUID` primary key. -/
abbrev Uuid := Nat

/-- An exact decimal amount. -/
abbrev Decimal := Rat

/-- A point in time, in microseconds. -/
abbrev Instant := Int

/-- Currency and country zones served by KLIK. -/
inductive Zone where
  | PL
  | EU
  | UK
  | US
deriving DecidableEq, Repr

/-- Currencies served by KLIK. -/
inductive Currency where
  | PLN
  | EUR
  | GBP
  | USD
deriving DecidableEq, Repr

/-- Stored value of a zone. -/
def Zone.value : Zone → String
  | .PL => "PL"
  | .EU => "EU"
  | .UK => "UK"
  | .US => "US"

/-- Stored value of a currency. -/
def Currency.value : Currency → String
  | .PLN => "PLN"
  | .EUR => "EUR"
  | .GBP => "GBP"
  | .USD => "USD"

/-- `ZONE_CURRENCY`, which forces zone and currency to agree. -/
def zoneCurrency : Zone → Currency
  | .PL => .PLN
  | .EU => .EUR
  | .UK => .GBP
  | .US => .USD

/-- Whether a value passes the validators of
`DecimalField(max_digits=digits, decimal_places=places)`. -/
def fitsDecimalField (digits places : Nat) (value : Decimal) : Bool :=
  (value * 10 ^ places).den = 1 && -10 ^ (digits - places) < value
    && value < 10 ^ (digits - places)

theorem cent_le_hundred : (1 / 100 : Decimal) ≤ 100 := by
  decide +kernel

theorem hundred_fits : fitsDecimalField 12 2 100 = true := by
  decide +kernel

end Klik.Common
