import PairwiseId.Configuration
import PairwiseId.Fault
import PairwiseId.Salt
import PairwiseId.Settings

/- What the console asks of the machine that it runs on, and why a command ends without
   success. -/
namespace PairwiseId.Console

set_option autoImplicit false

inductive FileState where
  | missing
  | unreadable
  | text (content : String)
deriving DecidableEq

-- Writing tells whether it succeeded.
structure Machine (m : Type → Type) where
  read : String → m FileState
  makeFolders : String → m Bool
  write : String → String → m Bool
  random : (count : Nat) → m (Vector UInt8 count)

-- A salt of the given length, or of the least one.
def saltOfBytes {length : Nat} (bytes : Vector UInt8 (Settings.saltBytes length)) : Salt :=
  Salt.ofBytes bytes.toList (by
    intro empty
    have count : bytes.toList.length = 0 := by rw [empty]; rfl
    have enough : Settings.minSaltBytes ≤ Settings.saltBytes length := Nat.le_max_right _ _
    simp only [Vector.length_toList] at count
    simp only [Settings.minSaltBytes] at enough
    omega)

inductive Failure where
  | configuration (detail : String)
  | settings (error : ConfigurationError)
  | pairwise (fault : Fault)
  | rejected (count : Nat)
  | file (detail : String)
  | document (detail : String)
  | invalidArgument (detail : String)
deriving DecidableEq

namespace Failure

def message : Failure → String
  | configuration detail => "configuration error: " ++ detail
  | settings error => error.message
  | pairwise fault => fault.messageKey ++ ": " ++ fault.message
  | rejected count => "validation failed for " ++ toString count ++ " mapper configuration(s)"
  | file detail => "IO error: " ++ detail
  | document detail => "JSON error: " ++ detail
  | invalidArgument detail => "invalid argument: " ++ detail

end Failure

end PairwiseId.Console
