import PairwiseId.Json.Basic
import PairwiseId.Mapper.Config

/- The claims of a token. Subject, email and the claims without a field of their
   own are what mappers change; `ClaimSet` is that view of both kinds of token. A
   user info response has the claims of an access token. In the token itself all
   claims stand side by side, and a claim without a field hides a field of the
   same name. -/
namespace PairwiseId

set_option autoImplicit false

inductive Audience where
  | single (client : String)
  | several (clients : List String)
deriving DecidableEq

namespace Audience

def contains : Audience → String → Bool
  | single c, client => c == client
  | several cs, client => cs.contains client

def ofJson? : Json → Option Audience
  | .str client => some (single client)
  | j => several <$> j.asTexts?

def toJson : Audience → Json
  | single client => .str client
  | several clients => Json.ofTexts clients

end Audience

structure AccessClaims where
  issuer : String
  subject : String
  audience : Option Audience := none
  expiry : Int
  issuedAt : Int
  authorizedParty : Option String := none
  preferredUsername : Option String := none
  email : Option String := none
  other : KeyMap Json := KeyMap.empty

structure IdClaims where
  issuer : String
  subject : String
  audience : Audience
  expiry : Int
  issuedAt : Int
  nonce : Option String := none
  authorizedParty : Option String := none
  email : Option String := none
  other : KeyMap Json := KeyMap.empty

class ClaimSet (C : Type) where
  subject : C → String
  setSubject : C → String → C
  email : C → Option String
  setEmail : C → String → C
  other : C → KeyMap Json
  setOther : C → KeyMap Json → C

instance : ClaimSet AccessClaims where
  subject := AccessClaims.subject
  setSubject c s := { c with subject := s }
  email := AccessClaims.email
  setEmail c e := { c with email := some e }
  other := AccessClaims.other
  setOther c m := { c with other := m }

instance : ClaimSet IdClaims where
  subject := IdClaims.subject
  setSubject c s := { c with subject := s }
  email := IdClaims.email
  setEmail c e := { c with email := some e }
  other := IdClaims.other
  setOther c m := { c with other := m }

abbrev Surface.Claims : Surface → Type
  | .accessToken => AccessClaims
  | .idToken => IdClaims
  | .userinfo => AccessClaims

instance : (s : Surface) → ClaimSet s.Claims
  | .accessToken => inferInstanceAs (ClaimSet AccessClaims)
  | .idToken => inferInstanceAs (ClaimSet IdClaims)
  | .userinfo => inferInstanceAs (ClaimSet AccessClaims)

-- The names of the fields, in the order in which they are written.
def Surface.registered : Surface → List String
  | .idToken => ["iss", "sub", "aud", "exp", "iat", "nonce", "azp", "email"]
  | _ => ["iss", "sub", "aud", "exp", "iat", "azp", "preferred_username", "email"]

-- The claims without a field, from the object of a token.
def otherClaims (registered : List String) (fields : List (String × Json)) : KeyMap Json :=
  KeyMap.ofEntries (fields.filter fun f => !registered.contains f.1)

-- The object of a token: the fields, hidden by other claims of the same name.
def tokenOf (fields : List (String × Json)) (other : KeyMap Json) : KeyMap Json :=
  KeyMap.ofEntries (fields ++ other.entries)

namespace AccessClaims

def ofJson? (j : Json) : Option AccessClaims := do
  let fields ← j.asFields?
  let issuer ← Json.required "iss" Json.asText? fields
  let subject ← Json.required "sub" Json.asText? fields
  let audience ← Json.optional "aud" Audience.ofJson? fields
  let expiry ← Json.required "exp" Json.asInt64? fields
  let issuedAt ← Json.required "iat" Json.asInt64? fields
  let authorizedParty ← Json.optional "azp" Json.asText? fields
  let preferredUsername ← Json.optional "preferred_username" Json.asText? fields
  let email ← Json.optional "email" Json.asText? fields
  let other := otherClaims Surface.accessToken.registered fields
  return { issuer, subject, audience, expiry, issuedAt, authorizedParty, preferredUsername, email,
           other }

def fields (c : AccessClaims) : List (String × Json) :=
  [("iss", .str c.issuer), ("sub", .str c.subject)] ++
    Json.present "aud" (c.audience.map Audience.toJson) ++
    [("exp", .int c.expiry), ("iat", .int c.issuedAt)] ++
    Json.present "azp" (c.authorizedParty.map .str) ++
    Json.present "preferred_username" (c.preferredUsername.map .str) ++
    Json.present "email" (c.email.map .str)

def token (c : AccessClaims) : KeyMap Json := tokenOf c.fields c.other

end AccessClaims

namespace IdClaims

def ofJson? (j : Json) : Option IdClaims := do
  let fields ← j.asFields?
  let issuer ← Json.required "iss" Json.asText? fields
  let subject ← Json.required "sub" Json.asText? fields
  let audience ← Json.required "aud" Audience.ofJson? fields
  let expiry ← Json.required "exp" Json.asInt64? fields
  let issuedAt ← Json.required "iat" Json.asInt64? fields
  let nonce ← Json.optional "nonce" Json.asText? fields
  let authorizedParty ← Json.optional "azp" Json.asText? fields
  let email ← Json.optional "email" Json.asText? fields
  let other := otherClaims Surface.idToken.registered fields
  return { issuer, subject, audience, expiry, issuedAt, nonce, authorizedParty, email, other }

def fields (c : IdClaims) : List (String × Json) :=
  [("iss", .str c.issuer), ("sub", .str c.subject), ("aud", c.audience.toJson),
    ("exp", .int c.expiry), ("iat", .int c.issuedAt)] ++
    Json.present "nonce" (c.nonce.map .str) ++
    Json.present "azp" (c.authorizedParty.map .str) ++
    Json.present "email" (c.email.map .str)

def token (c : IdClaims) : KeyMap Json := tokenOf c.fields c.other

end IdClaims

def Surface.ofJson? : (s : Surface) → Json → Option s.Claims
  | .accessToken => AccessClaims.ofJson?
  | .idToken => IdClaims.ofJson?
  | .userinfo => AccessClaims.ofJson?

def Surface.token : (s : Surface) → s.Claims → KeyMap Json
  | .accessToken => AccessClaims.token
  | .idToken => IdClaims.token
  | .userinfo => AccessClaims.token

end PairwiseId
