import ApiGateway.Number.Shortest
import ApiGateway.Time.Duration

/-!
# Quotas

A rate is given as requests per second and a burst. Its quota is the time in which one request becomes
due, the period, and how many may come at once. Rates without a period of at least a nanosecond have no
quota.
-/

namespace ApiGateway.Limiter

/-- A rate as it is configured: requests per second, and how many may come at once. -/
structure Rate where
  perSecond : Number.Binary64
  burst : Nat
  deriving DecidableEq, Repr

/-- Why a limiter cannot be built: the rate has no period; no request may ever come; no client may be known; or the
clock cannot count the period. -/
inductive SettingsError where
  | invalidRate (perSecond : Number.Binary64)
  | zeroBurst
  | zeroClients
  | periodTooLong
  deriving DecidableEq, Repr

namespace SettingsError

/-- The message for the error. -/
def message : SettingsError → String
  | .invalidRate r => "Rate limit requests per second must be a positive number, got " ++ r.text
  | .zeroBurst => "Rate limit burst must be greater than 0"
  | .zeroClients => "Rate limit client table ceiling must be greater than 0"
  | .periodTooLong => "Duration is longer than 584 years"

end SettingsError

/-- A quota: the nanoseconds after which one more request is due, and how many may come at once. -/
structure Quota where
  period : Nat
  burst : Nat
  period_pos : 0 < period
  burst_pos : 0 < burst
  deriving DecidableEq, Repr

namespace Quota

/-- How far the requests may run ahead of the period. -/
def tolerance (q : Quota) : Nat :=
  q.period * (q.burst - 1)

/-- The periods that the clock cannot count. -/
def periodLimit : Nat := Nat.pow 2 64

/-- Holds for periods that the clock can count. -/
def isCountable (q : Quota) : Bool :=
  q.period < periodLimit

end Quota

namespace Rate

/-- The period of a rate: a second over the rate, to the nearest nanosecond. -/
def period? (perSecond : Number.Binary64) : Option Nat :=
  if perSecond.isFinite && perSecond.isPositive then
    Time.ofBinary64? ((Number.Binary64.ofNat 1).div perSecond)
  else none

/-- The quota of a rate. -/
def quota? (r : Rate) : Except SettingsError Quota :=
  if r.perSecond.isFinite && r.perSecond.isPositive then
    if hb : 0 < r.burst then
      match period? r.perSecond with
      | none => .error (.invalidRate r.perSecond)
      | some period =>
        if hp : 0 < period then .ok ⟨period, r.burst, hp, hb⟩
        else .error (.invalidRate r.perSecond)
    else .error .zeroBurst
  else .error (.invalidRate r.perSecond)

end Rate

end ApiGateway.Limiter
