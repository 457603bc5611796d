import Mathlib.Data.List.Defs

/-! The columns of `users` that gate what a user may do. -/
namespace Exchange

inductive UserStatus where
  | active
  | frozen
  | locked
  | closed
  deriving DecidableEq, Repr

inductive KycStatus where
  | notStarted
  | pending
  | inReview
  | manualReview
  | needsMoreInfo
  | approved
  | rejected
  deriving DecidableEq, Repr

end Exchange
