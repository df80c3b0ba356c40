import Mathlib.Init

/-!
# The settings of the Regulator

Times are in seconds.
-/

namespace SelfAdaptiveMano.Regulator

def MAX_RETRY_NUM : Nat := 1

def REQUEST_WAITING_TIMEOUT : Nat := 15

def RECOVERY_TASK_TIMEOUT : Nat := 20

end SelfAdaptiveMano.Regulator
