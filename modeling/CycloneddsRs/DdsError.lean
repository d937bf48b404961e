import Mathlib.Order.Basic

/-!
The error type of cyclonedds-sys and its reading of a `dds_return_t`.
-/

namespace CycloneddsRs.DdsError

inductive DDSError where
  | ddsOk
  | ddsError
  | unsupported
  | badParameter
  | preconditionNotMet
  | outOfResources
  | notEnabled
  | immutablePolicy
  | inconsistentPolicy
  | alreadyDeleted
  | timeout
  | noData
  | illegalOperation
  | notAllowedBySecurity
  deriving DecidableEq, Repr

/-- `From<dds_return_t>`: the negated return codes count from 1. -/
def DDSError.ofReturn : Int → DDSError
  | .ofNat _ => .ddsOk
  | .negSucc code =>
      match code with
      | 1 => .unsupported
      | 2 => .badParameter
      | 3 => .preconditionNotMet
      | 4 => .outOfResources
      | 5 => .notEnabled
      | 6 => .immutablePolicy
      | 7 => .inconsistentPolicy
      | 8 => .alreadyDeleted
      | 9 => .timeout
      | 10 => .noData
      | 11 => .illegalOperation
      | 12 => .notAllowedBySecurity
      | _ => .ddsError

example : [(0 : Int), -1, -3, -11, -14].map DDSError.ofReturn =
    [.ddsOk, .ddsError, .badParameter, .noData, .ddsError] := by decide

end CycloneddsRs.DdsError
