import PairwiseId.Proofs.Claims.Surface

/- The claims of a token in two parts: what mappers see and change, and what is out of their
   reach. The first part is the same on every surface. -/
namespace PairwiseId

set_option autoImplicit false

structure Visible where
  subject : String
  email : Option String
  other : KeyMap Json

instance : ClaimSet Visible where
  subject := Visible.subject
  setSubject v s := { v with subject := s }
  email := Visible.email
  setEmail v e := { v with email := some e }
  other := Visible.other
  setOther v m := { v with other := m }

def visible {C : Type} [ClaimSet C] (claims : C) : Visible :=
  ⟨ClaimSet.subject claims, ClaimSet.email claims, ClaimSet.other claims⟩

structure Fixed where
  issuer : String
  audience : Option Audience
  expiry : Int
  issuedAt : Int
  authorizedParty : Option String
  preferredUsername : Option String
  nonce : Option String

def AccessClaims.fixed (c : AccessClaims) : Fixed :=
  { issuer := c.issuer, audience := c.audience, expiry := c.expiry, issuedAt := c.issuedAt,
    authorizedParty := c.authorizedParty, preferredUsername := c.preferredUsername, nonce := none }

def IdClaims.fixed (c : IdClaims) : Fixed :=
  { issuer := c.issuer, audience := some c.audience, expiry := c.expiry, issuedAt := c.issuedAt,
    authorizedParty := c.authorizedParty, preferredUsername := none, nonce := c.nonce }

def AccessClaims.withVisible (c : AccessClaims) (v : Visible) : AccessClaims :=
  { c with subject := v.subject, email := v.email, other := v.other }

def IdClaims.withVisible (c : IdClaims) (v : Visible) : IdClaims :=
  { c with subject := v.subject, email := v.email, other := v.other }

namespace Surface

def fixed : (s : Surface) → s.Claims → Fixed
  | .accessToken => AccessClaims.fixed
  | .idToken => IdClaims.fixed
  | .userinfo => AccessClaims.fixed

def withVisible : (s : Surface) → s.Claims → Visible → s.Claims
  | .accessToken => AccessClaims.withVisible
  | .idToken => IdClaims.withVisible
  | .userinfo => AccessClaims.withVisible

variable (s : Surface) (claims : s.Claims) (v : Visible)

theorem with_visible_self : s.withVisible claims (visible claims) = claims := by
  cases s <;> rfl

theorem visible_with : visible (s.withVisible claims v) = v := by
  cases s <;> rfl

theorem fixed_with : s.fixed (s.withVisible claims v) = s.fixed claims := by
  cases s <;> rfl

end Surface

-- Reading and writing go through the function.
structure ClaimSet.Morphism {C D : Type} [ClaimSet C] [ClaimSet D] (f : C → D) : Prop where
  email : ∀ c, ClaimSet.email (f c) = ClaimSet.email c
  other : ∀ c, ClaimSet.other (f c) = ClaimSet.other c
  setSubject : ∀ c text, ClaimSet.setSubject (f c) text = f (ClaimSet.setSubject c text)
  setEmail : ∀ c text, ClaimSet.setEmail (f c) text = f (ClaimSet.setEmail c text)
  setOther : ∀ c other, ClaimSet.setOther (f c) other = f (ClaimSet.setOther c other)

theorem Surface.with_visible_morphism (s : Surface) (claims : s.Claims) :
    ClaimSet.Morphism (s.withVisible claims) := by
  constructor <;> intros <;> cases s <;> rfl

end PairwiseId
