import PairwiseId.Claims.Basic
import PairwiseId.Fault
import PairwiseId.Parties
import PairwiseId.Mapper.Property
import PairwiseId.Salt
import PairwiseId.Settings

/- What a mapper is: how it presents itself to administrators, how it checks a
   configuration that is saved, and how it changes the claims of a token on each
   surface. A mapper that fails leaves claims behind, which need not be the ones
   it was given. -/
namespace PairwiseId

set_option autoImplicit false

-- The mappers of each client that exists.
abbrev Lookup := String → Option (List MapperConfig)

def Lookup.ofMap (m : KeyMap (List MapperConfig)) : Lookup := m.get?

structure SaveContext where
  owner : Owner
  lookup : Lookup
  settings : Settings
  fresh : Salt

structure IssueContext where
  user : Option User := none
  client : Option String := none
  realm : String := ""
  scopes : List String := []
  lookup : Option Lookup := none

-- The claims after a transformation and why it failed, if it did.
structure Outcome (C : Type) where
  claims : C
  refusal : Option Refusal

namespace Outcome

variable {C : Type}

def ok (claims : C) : Outcome C := ⟨claims, none⟩

def failed (claims : C) (refusal : Refusal) : Outcome C := ⟨claims, some refusal⟩

-- The claims as they were if the new ones could not be computed.
def ofExcept (before : C) : Except Fault C → Outcome C
  | .ok after => ok after
  | .error fault => failed before (.mapper fault)

end Outcome

-- What happens to the claims of one kind of token.
abbrev Transform (s : Surface) := IssueContext → MapperConfig → s.Claims → Outcome s.Claims

structure Mapper where
  id : String
  displayName : String
  category : String
  helpText : String := ""
  properties : List Property := []
  -- Lower values come first.
  priority : Int := 0
  save : SaveContext → MapperConfig → Except Refusal MapperConfig := fun _ c => .ok c
  transform : (s : Surface) → Transform s

end PairwiseId
