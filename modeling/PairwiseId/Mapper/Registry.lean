import PairwiseId.Mapper.Spi

/- The mappers that exist, by their ids: one table that tells their priorities and
   checks what is saved, and one for each kind of token. To issue a token the
   included configurations are run in ascending priority of their mappers, in the
   given order where priorities are equal, each on the claims the one before has
   left. The first failure ends the run. A configuration of an unknown type has
   priority 0 and no effect. -/
namespace PairwiseId

set_option autoImplicit false

structure Registry where
  mappers : KeyMap Mapper
  accessToken : KeyMap (Transform .accessToken)
  idToken : KeyMap (Transform .idToken)
  userinfo : KeyMap (Transform .userinfo)

namespace Registry

def empty : Registry := ⟨KeyMap.empty, KeyMap.empty, KeyMap.empty, KeyMap.empty⟩

-- A mapper with the same id is replaced.
def register (r : Registry) (m : Mapper) : Registry where
  mappers := r.mappers.put m.id m
  accessToken := r.accessToken.put m.id (m.transform .accessToken)
  idToken := r.idToken.put m.id (m.transform .idToken)
  userinfo := r.userinfo.put m.id (m.transform .userinfo)

def get? (r : Registry) (id : String) : Option Mapper := r.mappers.get? id

def transform? (r : Registry) : (s : Surface) → String → Option (Transform s)
  | .accessToken, id => r.accessToken.get? id
  | .idToken, id => r.idToken.get? id
  | .userinfo, id => r.userinfo.get? id

def ids (r : Registry) : List String := r.mappers.keys

def unknownType (mapperType : String) : Refusal :=
  .invalidRequest ("unknown protocol mapper type '" ++ mapperType ++ "'")

def checkSave (r : Registry) (context : SaveContext) (config : MapperConfig) :
    Except Refusal MapperConfig :=
  match r.get? config.mapperType with
  | none => .error (unknownType config.mapperType)
  | some mapper => mapper.save context config

def priority (r : Registry) (config : MapperConfig) : Int :=
  match r.get? config.mapperType with
  | none => 0
  | some mapper => mapper.priority

-- Places a configuration before the first one that does not come earlier.
def placeByPriority (r : Registry) (config : MapperConfig) : List MapperConfig → List MapperConfig
  | [] => [config]
  | c :: rest =>
    if r.priority config ≤ r.priority c then config :: c :: rest
    else c :: placeByPriority r config rest

def inOrder (r : Registry) (configs : List MapperConfig) : List MapperConfig :=
  configs.foldr (placeByPriority r) []

def run (r : Registry) (s : Surface) (context : IssueContext) :
    List MapperConfig → s.Claims → Outcome s.Claims
  | [], claims => .ok claims
  | config :: rest, claims =>
    match r.transform? s config.mapperType with
    | none => run r s context rest claims
    | some transform =>
      let outcome := transform context config claims
      match outcome.refusal with
      | none => run r s context rest outcome.claims
      | some _ => outcome

def issue (r : Registry) (s : Surface) (context : IssueContext) (configs : List MapperConfig)
    (claims : s.Claims) : Outcome s.Claims :=
  run r s context (r.inOrder (configs.filter (MapperConfig.isIncluded s))) claims

end Registry

end PairwiseId
