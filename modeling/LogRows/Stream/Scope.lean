/-!
# Cancellation

A `Scope` is shared by everybody who takes part in a stream.  Cancelling it
takes two steps: the flag is set, and then the signal is disconnected, which
wakes all who wait on it.  Only the call that found the flag unset takes the
second step, so between the two another call may already have returned.
-/

namespace LogRows.Stream

/-- The two parts of a cancellation. -/
structure Scope where
  /-- The flag that is looked at between two operations. -/
  cancelled : Bool
  /-- Whether the signal is disconnected, which wakes those who wait on it. -/
  signalled : Bool
deriving DecidableEq

/-- How far a call that cancels a scope has come. -/
inductive CancelCall where
  | begun
  /-- The call has set the flag and owes the signal. -/
  | owing
  | returned
deriving DecidableEq

namespace Scope

/-- A scope that is not cancelled. -/
def fresh : Scope :=
  ⟨false, false⟩

/-- A scope whose cancellation is complete. -/
def done : Scope :=
  ⟨true, true⟩

/-- One step of a call that cancels the scope; a call that has returned takes none. -/
def advance (scope : Scope) : CancelCall → Option (Scope × CancelCall)
  | .begun =>
      if scope.cancelled then
        some (scope, .returned)
      else
        some (⟨true, scope.signalled⟩, .owing)
  | .owing => some (⟨scope.cancelled, true⟩, .returned)
  | .returned => none

end Scope

end LogRows.Stream
