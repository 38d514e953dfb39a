import PairwiseId.Mapper.Registry
import PairwiseId.Mapping.Basic
import PairwiseId.PseudonymList

/- The five pairwise mappers: one for each variant of a mapping, and the
   pseudonym list. -/
namespace PairwiseId

set_option autoImplicit false

namespace Mapper

def tokenCategory : String := "Token mapper"

def algorithmProperty : Property :=
  ((Property.ofChoices OptionKey.algorithm "Hash algorithm" (Algorithm.all.map Algorithm.name)
    ).withDefault Algorithm.standard.name).withHelp "HMAC algorithm used to derive the pseudonym"

def saltProperty : Property :=
  (Property.ofSecret OptionKey.salt "Salt").withHelp
    "Generated on first save when left empty. Cannot be changed afterwards."

def sectorProperty (help : String) : Property :=
  ((Property.ofText OptionKey.sector "Sector identifier").withHelp help).asRequired

def localIdProperty : Property :=
  ((Property.ofText OptionKey.localIdAttribute "Local identifier attribute").withDefault
    LocalSource.userIdMarker).withHelp
    "User attribute fed into the hash; 'id' or empty selects the user ID"

def inclusionProperty (s : Surface) (label : String) : Property :=
  (Property.ofBoolean s.optionKey label).withDefault "true"

def inclusionProperties : List Property :=
  [inclusionProperty .accessToken "Add to access token",
    inclusionProperty .idToken "Add to ID token",
    inclusionProperty .userinfo "Add to userinfo"]

def derivationProperties : Convention → List Property
  | .salted =>
    [algorithmProperty, saltProperty,
      sectorProperty "Absolute URI with scheme and host shared by the clients of one sector",
      localIdProperty]
  | .sectorKeyed =>
    [algorithmProperty, sectorProperty "Any non-empty string; it keys the hash", localIdProperty]

def ownProperties : Variant → List Property
  | .staticSector | .simpleSector => []
  | .email =>
    [(Property.ofText OptionKey.emailDomain "Email domain").withHelp
      "Domain of the pseudonymous address; empty keeps the user's domain"]
  | .namedClaim =>
    [((Property.ofText OptionKey.claimName "Token claim name").withHelp
      "Claim receiving the pseudonym; dots create nested objects").asRequired]

def variantName : Variant → String
  | .staticSector => "Pairwise subject identifier (HMAC)"
  | .simpleSector => "Pairwise subject identifier (simple sector)"
  | .email => "Pairwise email (HMAC)"
  | .namedClaim => "Pairwise claim (HMAC)"

def variantHelp : Variant → String
  | .staticSector => "Replaces the subject with a salted HMAC pseudonym per sector"
  | .simpleSector => "Replaces the subject with an HMAC pseudonym keyed by the sector identifier"
  | .email =>
    "Replaces the email address with a salted HMAC pseudonym at a fixed or the original domain"
  | .namedClaim => ""

-- The email mapper comes after the mappers that fill the email claim.
def variantPriority : Variant → Int
  | .email => 10
  | _ => 0

-- Without a user there is nothing to derive.
def applyVariant {C : Type} [ClaimSet C] (variant : Variant) (context : IssueContext)
    (config : MapperConfig) (claims : C) : Outcome C :=
  match context.user with
  | none => .ok claims
  | some user =>
    .ofExcept claims do (← Mapping.ofConfig variant config).apply user claims

def ofVariant (variant : Variant) : Mapper where
  id := variant.mapperType
  displayName := variantName variant
  category := tokenCategory
  helpText := variantHelp variant
  properties :=
    derivationProperties variant.convention ++ ownProperties variant ++ inclusionProperties
  priority := variantPriority variant
  save context config :=
    (Mapping.normalize variant context.settings context.fresh config).mapError .mapper
  transform _ context config claims := applyVariant variant context config claims

-- Without a user or a view of the other clients there is nothing to list.
def applyList {C : Type} [ClaimSet C] (context : IssueContext) (config : MapperConfig)
    (claims : C) : Outcome C :=
  match context.user, context.lookup with
  | some user, some lookup =>
    .ofExcept claims ((PseudonymList.ofConfig config).apply lookup user claims)
  | _, _ => .ok claims

def pseudonymList : Mapper where
  id := PseudonymList.mapperType
  displayName := "Pairwise pseudonym list"
  category := tokenCategory
  helpText := "Adds the pairwise subject identifiers other clients receive for this user"
  properties :=
    [((Property.ofText OptionKey.claimName "Token claim name").withHelp
        "Claim receiving the client-to-pseudonym object; dots nest it").asRequired,
      (Property.ofMultivalued OptionKey.clients "Clients").withHelp
        "Clients with a pairwise subject mapper whose pseudonyms are listed"] ++
    inclusionProperties
  priority := 20
  save context config :=
    match PseudonymList.check context.owner context.lookup config with
    | .ok () => .ok config
    | .error fault => .error (.mapper fault)
  transform _ context config claims := applyList context config claims

end Mapper

def Registry.pairwise : Registry :=
  (Variant.all.map Mapper.ofVariant ++ [Mapper.pseudonymList]).foldl Registry.register
    Registry.empty

end PairwiseId
