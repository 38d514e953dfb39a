import PairwiseId.Algorithm
import PairwiseId.Json.Basic

/- What can be wrong with a pairwise mapper. Most faults are found when an
   administrator saves the mapper; the fatal ones only when a token is issued from
   a configuration that was never saved or can no longer be evaluated. -/
namespace PairwiseId

set_option autoImplicit false

inductive Fault where
  | unknownAlgorithm (name : String)
  | missingSector
  | malformedSector (text : String)
  | targetClaimNotSet
  | notOnClient
  | clientDoesNotExist (client : String)
  | unresolvableAlgorithm (name : String)
  | missingSalt
  | keyedHash (reason : String)
deriving DecidableEq

namespace Fault

def message : Fault → String
  | unknownAlgorithm name => "unknown pairwise algorithm '" ++ name ++ "'"
  | missingSector => "sector identifier is missing"
  | malformedSector text =>
    "sector identifier '" ++ text ++ "' is not an absolute URI with scheme and host"
  | targetClaimNotSet => "target claim name is not set"
  | notOnClient => "pseudonym list mappers can only be attached to a client"
  | clientDoesNotExist client =>
    "client '" ++ client ++ "' does not exist or has no single pairwise subject mapper"
  | unresolvableAlgorithm name =>
    "pairwise algorithm '" ++ name ++ "' is not available in this runtime"
  | missingSalt =>
    "pairwise salt is missing; the mapper configuration was never saved through validation"
  | keyedHash reason => "keyed hash failed: " ++ reason

-- The key under which consoles find the text for the administrator.
def messageKey : Fault → String
  | unknownAlgorithm _ => "pairwiseUnknownAlgorithm"
  | missingSector => "pairwiseMissingSectorIdentifier"
  | malformedSector _ => "pairwiseMalformedSectorIdentifier"
  | targetClaimNotSet => "pairwiseTargetClaimNotSet"
  | notOnClient => "pairwiseWrongMapperType"
  | clientDoesNotExist _ => "pairwiseClientDoesNotExist"
  | unresolvableAlgorithm _ => "pairwiseUnresolvableAlgorithm"
  | missingSalt => "pairwiseMissingSalt"
  | keyedHash _ => "pairwiseKeyedHashFailed"

def parameters : Fault → List String
  | unknownAlgorithm value | malformedSector value | clientDoesNotExist value
  | unresolvableAlgorithm value | keyedHash value => [value]
  | missingSector | targetClaimNotSet | notOnClient | missingSalt => []

-- A fatal fault ends the issuance of a token.
def isFatal : Fault → Bool
  | unresolvableAlgorithm _ | missingSalt | keyedHash _ => true
  | _ => false

def isConfigFault (fault : Fault) : Bool := !fault.isFatal

def ofAlgorithmError : AlgorithmError → Fault
  | .unknown name => unknownAlgorithm name
  | .invalidKey algorithm reason => keyedHash (algorithm.name ++ ": " ++ reason)

end Fault

inductive Refusal where
  | invalidRequest (detail : String)
  | mapper (fault : Fault)
deriving DecidableEq

namespace Refusal

def message : Refusal → String
  | invalidRequest detail => "invalid_request: " ++ detail
  | mapper fault => "mapper error: " ++ fault.message

-- A mapper that cannot be saved is the fault of the caller, one that fails later is not.
def isServerError : Refusal → Bool
  | invalidRequest _ => false
  | mapper fault => fault.isFatal

def code (r : Refusal) : String := if r.isServerError then "server_error" else "invalid_request"

def status (r : Refusal) : Nat := if r.isServerError then 500 else 400

def fault? : Refusal → Option Fault
  | invalidRequest _ => none
  | mapper fault => some fault

end Refusal

structure ErrorResponse where
  error : String
  description : Option String
  uri : Option String
deriving DecidableEq

namespace ErrorResponse

def ofJson? (j : Json) : Option ErrorResponse := do
  let fields ← j.asRecord? ["error", "error_description", "error_uri"] 3
  let error ← Json.required "error" Json.asText? fields
  let description ← Json.optional "error_description" Json.asText? fields
  let uri ← Json.optional "error_uri" Json.asText? fields
  return ⟨error, description, uri⟩

def toJson (e : ErrorResponse) : Json :=
  .obj ([("error", .str e.error)] ++ Json.present "error_description" (e.description.map .str) ++
    Json.present "error_uri" (e.uri.map .str))

end ErrorResponse

-- The answer tells a configuration fault by its key and nothing of a fatal one.
def Refusal.response (r : Refusal) : ErrorResponse :=
  { error := r.code
    description := some
      (match r with
        | invalidRequest _ => r.message
        | mapper fault =>
          if fault.isFatal then "token could not be issued" else fault.messageKey)
    uri := none }

end PairwiseId
