import DualSleeve.Core.Models

namespace DualSleeve

-- The reasons given to `SafeModeController`: each constructor holds what its text names.
inductive SafeModeReason where
  | note (text : String)
  | exit (text : String)
  | reconciliationFetchFailed (exc : PyError)
  | reconciliationMismatch (missing unknown status : List String)
  | positionReconciliationFetchFailed (exc : PyError)
  | positionReconciliationMismatch (missing unknown amount : List PositionKey)
  | repairLocalOrderMissing (clientOrderId : String)
  | repairQueryFailed (clientOrderId : String) (exc : PyError)
  | repairExchangeOrderMissing (clientOrderId : String)
  | repairSymbolMismatch (clientOrderId : String)
  deriving DecidableEq

structure SafeModeController where
  state : SafeModeState := .normal
  reasons : List SafeModeReason := []
  deriving DecidableEq

namespace SafeModeController

def enter (controller : SafeModeController) (reason : SafeModeReason) : SafeModeController :=
  { state := .safeMode, reasons := controller.reasons ++ [reason] }

def exit (controller : SafeModeController) (reason : String) : SafeModeController :=
  { state := .normal, reasons := controller.reasons ++ [.exit reason] }

def allowsNewEntries (controller : SafeModeController) : Bool :=
  controller.state == .normal

theorem allowsNewEntries_iff {controller : SafeModeController} :
    controller.allowsNewEntries = true ↔ controller.state = .normal := by
  simp [allowsNewEntries]

-- Each entry is noted, so it shows.
theorem enter_ne (controller : SafeModeController) (reason : SafeModeReason) :
    controller.enter reason ≠ controller := by
  intro h
  have hlength := congrArg (List.length ∘ SafeModeController.reasons) h
  simp [enter] at hlength

end SafeModeController

end DualSleeve
