import PairwiseId.Claims.Basic

/- On every surface subject, email and the other claims are independent of each
   other. -/
namespace PairwiseId

set_option autoImplicit false

variable {s : Surface} (claims : s.Claims)

@[simp] theorem subject_set_subject (text : String) :
    ClaimSet.subject (ClaimSet.setSubject claims text) = text := by
  cases s <;> rfl

@[simp] theorem subject_set_email (text : String) :
    ClaimSet.subject (ClaimSet.setEmail claims text) = ClaimSet.subject claims := by
  cases s <;> rfl

@[simp] theorem subject_set_other (other : KeyMap Json) :
    ClaimSet.subject (ClaimSet.setOther claims other) = ClaimSet.subject claims := by
  cases s <;> rfl

@[simp] theorem other_set_other (other : KeyMap Json) :
    ClaimSet.other (ClaimSet.setOther claims other) = other := by
  cases s <;> rfl

@[simp] theorem set_other_same : ClaimSet.setOther claims (ClaimSet.other claims) = claims := by
  cases s <;> rfl

@[simp] theorem email_set_email (text : String) :
    ClaimSet.email (ClaimSet.setEmail claims text) = some text := by
  cases s <;> rfl

@[simp] theorem email_set_subject (text : String) :
    ClaimSet.email (ClaimSet.setSubject claims text) = ClaimSet.email claims := by
  cases s <;> rfl

@[simp] theorem email_set_other (other : KeyMap Json) :
    ClaimSet.email (ClaimSet.setOther claims other) = ClaimSet.email claims := by
  cases s <;> rfl

@[simp] theorem other_set_subject (text : String) :
    ClaimSet.other (ClaimSet.setSubject claims text) = ClaimSet.other claims := by
  cases s <;> rfl

@[simp] theorem other_set_email (text : String) :
    ClaimSet.other (ClaimSet.setEmail claims text) = ClaimSet.other claims := by
  cases s <;> rfl

@[simp] theorem set_subject_twice (first second : String) :
    ClaimSet.setSubject (ClaimSet.setSubject claims first) second = ClaimSet.setSubject claims second := by
  cases s <;> rfl

@[simp] theorem set_email_twice (first second : String) :
    ClaimSet.setEmail (ClaimSet.setEmail claims first) second = ClaimSet.setEmail claims second := by
  cases s <;> rfl

@[simp] theorem set_other_twice (first second : KeyMap Json) :
    ClaimSet.setOther (ClaimSet.setOther claims first) second = ClaimSet.setOther claims second := by
  cases s <;> rfl

theorem set_email_set_subject (subject email : String) :
    ClaimSet.setEmail (ClaimSet.setSubject claims subject) email =
      ClaimSet.setSubject (ClaimSet.setEmail claims email) subject := by
  cases s <;> rfl

theorem set_other_set_subject (subject : String) (other : KeyMap Json) :
    ClaimSet.setOther (ClaimSet.setSubject claims subject) other =
      ClaimSet.setSubject (ClaimSet.setOther claims other) subject := by
  cases s <;> rfl

theorem set_other_set_email (email : String) (other : KeyMap Json) :
    ClaimSet.setOther (ClaimSet.setEmail claims email) other =
      ClaimSet.setEmail (ClaimSet.setOther claims other) email := by
  cases s <;> rfl

def sampleAccess : AccessClaims :=
  { issuer := "https://sso.example", subject := "alice", expiry := 1700000300, issuedAt := 1700000000 }

end PairwiseId
