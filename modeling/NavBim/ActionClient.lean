import Mathlib.Data.List.Basic

namespace NavBim

/-!
# Goals of an action client

A goal is sent, the server accepts or rejects it, and an accepted goal comes to
an end with a result.
-/

/-- The code of a result. -/
inductive ResultCode where
  | unknown
  | succeeded
  | canceled
  | aborted
  deriving DecidableEq, Repr

/-- How far a goal has come. -/
inductive GoalProgress where
  | sent
  | accepted
  | rejected
  | finished (code : ResultCode)
  deriving DecidableEq, Repr

end NavBim
