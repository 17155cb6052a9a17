/-!
# Settings of a session

How long a response may take, and how long to wait before the next attempt to connect. All times are
in milliseconds.

* `retryDelay`: the delay after a number of failures in a row; the table's last entry stands for all
  further failures.
-/

namespace PrintClient

/-- How long a response may take unless told otherwise. -/
def defaultRequestTimeout : Nat := 5000

/-- The delays before the next attempt unless told otherwise, by the number of failures in a row. -/
def defaultBackoff : List Nat := [0, 2000, 5000, 10000, 30000]

/-- The times that a session keeps to. -/
structure SessionSettings where
  requestTimeout : Nat
  backoff : List Nat
  deriving DecidableEq, Repr

/-- The times of a session that was not told otherwise. -/
def SessionSettings.default : SessionSettings := ⟨defaultRequestTimeout, defaultBackoff⟩

/-- The delay before the next attempt after a number of failures, the present one not counted. -/
def retryDelay (backoff : List Nat) (failures : Nat) : Nat :=
  (backoff[failures]?.or backoff.getLast?).getD 0

end PrintClient
