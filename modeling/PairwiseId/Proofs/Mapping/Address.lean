import PairwiseId.Proofs.Claims.Edits
import PairwiseId.Proofs.Mapper.Transform
import PairwiseId.Proofs.Mapping.Specified
import PairwiseId.Proofs.Text.Split

/- The address that the email variant writes: the pseudonym that the static-sector variant has
   for the user, at the configured domain or at the one of an address that was there before. All
   is well as long as a configured domain does not consist of at signs. -/
namespace PairwiseId

set_option autoImplicit false

-- The domain of an address is what follows its last at sign, if anything does.
def HasDomain (address domain : String) : Prop :=
  domain ≠ "" ∧ '@' ∉ domain.toList ∧ ∃ name, address = name ++ "@" ++ domain

namespace MapperConfig

-- A configured domain may be written with at signs in front.
def EmailDomain (config : MapperConfig) (domain : String) : Prop :=
  ∃ text count, config.get? OptionKey.emailDomain = some text ∧ Text.isBlank text = false ∧
    (Text.trim text).toList = List.replicate count '@' ++ domain.toList ∧ domain.toList.head? ≠ some '@'

end MapperConfig

namespace Mapping

theorem domain_of_iff (address domain : String) : domainOf? address = some domain ↔ HasDomain address domain := by
  constructor
  · intro found
    obtain ⟨present, plain⟩ := domain_of_some address domain found
    refine ⟨fun empty => present (by simp [empty]), plain, ?_⟩
    unfold domainOf? at found
    dsimp only at found
    split at found
    · rename_i member
      split at found
      · cases found
      · have last : Text.afterLast '@' address.toList = domain.toList := by
          rw [← Option.some.inj found, String.toList_ofList]
          rfl
        have divided := Text.around_last '@' address.toList (by simpa using member)
        refine ⟨String.ofList (Text.beforeLast '@' address.toList), String.toList_inj.mp ?_⟩
        rw [last] at divided
        simpa using divided
    · cases found
  · rintro ⟨present, plain, name, rfl⟩
    exact domain_of_address name domain (fun empty => present (String.toList_inj.mp empty)) plain

theorem drop_marks_iff (mark : Char) (cs rest : List Char) :
    cs.dropWhile (· == mark) = rest ↔
      (∃ count, cs = List.replicate count mark ++ rest) ∧ rest.head? ≠ some mark := by
  constructor
  · rintro rfl
    refine ⟨⟨(cs.takeWhile (· == mark)).length, ?_⟩, fun first => ?_⟩
    · have marks : cs.takeWhile (· == mark) = List.replicate (cs.takeWhile (· == mark)).length mark :=
        List.eq_replicate_length.mpr fun c member => by simpa using List.mem_takeWhile_imp member
      rw [← marks]
      exact List.takeWhile_append_dropWhile.symm
    · have other := List.head?_dropWhile_not (· == mark) cs
      rw [first] at other
      simp at other
  · rintro ⟨⟨count, rfl⟩, first⟩
    rw [List.dropWhile_append_of_pos (by simp)]
    cases rest with
    | nil => rfl
    | cons c more => rw [List.dropWhile_cons_of_neg (by simpa using first)]

theorem email_domain_iff (config : MapperConfig) (domain : String) :
    config.emailDomain? = some domain ↔ config.EmailDomain domain := by
  have written : ∀ text : String, String.ofList (text.toList.dropWhile (· == '@')) = domain ↔
      (∃ count, text.toList = List.replicate count '@' ++ domain.toList) ∧ domain.toList.head? ≠ some '@' :=
    fun text => by rw [← drop_marks_iff, ← String.toList_inj, String.toList_ofList]
  simp only [MapperConfig.emailDomain?, Option.map_eq_some_iff, MapperConfig.non_blank_some, written]
  constructor
  · rintro ⟨value, ⟨text, given, visible, rfl⟩, ⟨count, marks⟩, first⟩
    exact ⟨text, count, given, visible, marks, first⟩
  · rintro ⟨text, count, given, visible, marks, first⟩
    exact ⟨Text.trim text, ⟨text, given, visible, rfl⟩, ⟨count, marks⟩, first⟩

-- The domain of a new address: the configured one, or else that of the email claim, or else, in
-- a token without that claim, that of the user's own address.
inductive DomainFor (config : MapperConfig) (user : User) (email : Option String) : String → Prop where
  | configured (domain : String) (given : config.EmailDomain domain) (some : domain ≠ "") :
      DomainFor config user email domain
  | claimed (domain address : String) (unset : Text.Blank (config.get? OptionKey.emailDomain))
      (present : email = some address) (part : HasDomain address domain) : DomainFor config user email domain
  | own (domain address : String) (unset : Text.Blank (config.get? OptionKey.emailDomain))
      (absent : email = none) (present : user.email = some address) (part : HasDomain address domain) :
      DomainFor config user email domain

theorem email_domain_none (config : MapperConfig) :
    config.emailDomain? = none ↔ Text.Blank (config.get? OptionKey.emailDomain) := by
  rw [MapperConfig.emailDomain?, Option.map_eq_none_iff, MapperConfig.non_blank_none]

theorem domain_for_iff {C : Type} [ClaimSet C] (config : MapperConfig) (user : User) (claims : C) (domain : String) :
    DomainFor config user (ClaimSet.email claims) domain ↔
      targetDomain? config.emailDomain? user claims = some domain ∧ domain ≠ "" := by
  cases configured : config.emailDomain? with
  | some given =>
      have set : ¬ Text.Blank (config.get? OptionKey.emailDomain) := fun blank => by
        simp [(email_domain_none config).mpr blank] at configured
      rw [targetDomain?, ← configured, email_domain_iff]
      constructor
      · intro chosen
        cases chosen with
        | configured named some => exact ⟨named, some⟩
        | claimed address unset _ _ => exact absurd unset set
        | own address unset _ _ _ => exact absurd unset set
      · exact fun both => .configured domain both.1 both.2
  | none =>
      have unset := (email_domain_none config).mp configured
      have unnamed : ¬ config.EmailDomain domain := fun named => by
        simp [(email_domain_iff config domain).mpr named] at configured
      cases present : ClaimSet.email claims with
      | some address =>
          simp only [targetDomain?, present, domain_of_iff]
          constructor
          · intro chosen
            cases chosen with
            | configured named _ => exact absurd named unnamed
            | claimed _ _ same part =>
                obtain rfl := Option.some.inj same
                exact ⟨part, part.1⟩
            | own _ _ absent _ _ => cases absent
          · exact fun both => .claimed domain address unset rfl both.1
      | none =>
          simp only [targetDomain?, present, Option.bind_eq_some_iff, domain_of_iff]
          constructor
          · intro chosen
            cases chosen with
            | configured named _ => exact absurd named unnamed
            | claimed _ _ same _ => cases same
            | own address _ _ held part => exact ⟨⟨address, held, part⟩, part.1⟩
          · rintro ⟨⟨address, held, part⟩, _⟩
            exact .own domain address unset rfl held part

section Addressed

variable {s : Surface} (config : MapperConfig) (user : User) (claims subject after : s.Claims)

-- A token gets the address of its user if there are both a pseudonym and a domain for it, and
-- keeps what it has otherwise. The pseudonym is the one that `subject` shows.
structure Addressed : Prop where
  written : ∀ domain, (LocalSource.ofConfig config).resolve user ≠ none →
    DomainFor config user (ClaimSet.email claims) domain →
    ClaimSet.email after = some (ClaimSet.subject subject ++ "@" ++ domain)
  kept : (LocalSource.ofConfig config).resolve user = none ∨
      (∀ domain, ¬ DomainFor config user (ClaimSet.email claims) domain) →
    ClaimSet.email after = ClaimSet.email claims

-- At signs and nothing else are configured, so there is no domain to write the pseudonym at.
structure Undomained : Prop where
  present : (LocalSource.ofConfig config).resolve user ≠ none
  marks : config.EmailDomain ""

-- An address that is taken over has a domain, so only a configured one can have come to nothing.
theorem undomained_iff :
    Undomained config user ↔ (LocalSource.ofConfig config).resolve user ≠ none ∧
      targetDomain? config.emailDomain? user claims = some "" := by
  have marks : config.EmailDomain "" ↔ targetDomain? config.emailDomain? user claims = some "" := by
    rw [← email_domain_iff]
    cases config.emailDomain? with
    | some given => rfl
    | none =>
        have never : ∀ address, domainOf? address ≠ some "" := fun address found =>
          ((domain_of_iff address "").mp found).1 rfl
        simp only [targetDomain?, reduceCtorEq, false_iff]
        cases ClaimSet.email claims with
        | some address => exact never address
        | none =>
            intro found
            obtain ⟨address, _, part⟩ := Option.bind_eq_some_iff.mp found
            exact never address part
  exact ⟨fun undomained => ⟨undomained.present, marks.mp undomained.marks⟩,
    fun both => ⟨both.1, marks.mpr both.2⟩⟩

-- The three things that can happen to the email claim.
inductive EmailEffect : Prop where
  | kept (idle : (LocalSource.ofConfig config).resolve user = none ∨
        targetDomain? config.emailDomain? user claims = none)
      (same : ClaimSet.email after = ClaimSet.email claims)
  | written (domain : String) (present : (LocalSource.ofConfig config).resolve user ≠ none)
      (target : targetDomain? config.emailDomain? user claims = some domain) (notEmpty : domain ≠ "")
      (address : ClaimSet.email after = some (ClaimSet.subject subject ++ "@" ++ domain))
  | marked (undomained : Undomained config user)
      (address : ClaimSet.email after = some (ClaimSet.subject subject ++ "@"))

theorem email_effect (d : SaltedDerivation) :
    EmailEffect config user claims
      ((staticSector d).applied ((LocalSource.ofConfig config).resolve user) user claims)
      ((email d config.emailDomain?).applied ((LocalSource.ofConfig config).resolve user) user claims) := by
  cases resolved : (LocalSource.ofConfig config).resolve user with
  | none => exact .kept (.inl resolved) rfl
  | some localId =>
      have present : (LocalSource.ofConfig config).resolve user ≠ none := by simp [resolved]
      cases target : targetDomain? config.emailDomain? user claims with
      | none => exact .kept (.inr target) (by simp only [applied, write, target])
      | some domain =>
          have address : ClaimSet.email ((email d config.emailDomain?).applied (some localId) user claims) =
              some (ClaimSet.subject ((staticSector d).applied (some localId) user claims) ++ "@" ++ domain) := by
            simp only [applied, write, derive, target, email_set_email, subject_set_subject]
          by_cases empty : domain = ""
          · subst empty
            rw [String.append_empty] at address
            exact .marked ((undomained_iff config user claims).mpr ⟨present, target⟩) address
          · exact .written domain present target empty address

theorem addressed_kept (same : ClaimSet.email after = ClaimSet.email claims)
    (idle : (LocalSource.ofConfig config).resolve user = none ∨ targetDomain? config.emailDomain? user claims = none) :
    Addressed config user claims subject after := by
  refine ⟨fun domain present chosen => ?_, fun _ => same⟩
  rcases idle with absent | homeless
  · exact absurd absent present
  · cases homeless.symm.trans ((domain_for_iff config user claims domain).mp chosen).1

theorem addressed_written (domain : String) (present : (LocalSource.ofConfig config).resolve user ≠ none)
    (target : targetDomain? config.emailDomain? user claims = some domain) (notEmpty : domain ≠ "")
    (address : ClaimSet.email after = some (ClaimSet.subject subject ++ "@" ++ domain)) :
    Addressed config user claims subject after := by
  refine ⟨fun other _ chosen => ?_, ?_⟩
  · have same := ((domain_for_iff config user claims other).mp chosen).1
    obtain rfl := Option.some.inj (target.symm.trans same)
    exact address
  · rintro (absent | homeless)
    · exact absurd absent present
    · exact absurd ((domain_for_iff config user claims domain).mpr ⟨target, notEmpty⟩) (homeless domain)

-- Without a domain the claim should stay, so all is well only if it reads like that already.
theorem addressed_marked (undomained : Undomained config user)
    (address : ClaimSet.email after = some (ClaimSet.subject subject ++ "@")) :
    Addressed config user claims subject after ↔
      ClaimSet.email claims = some (ClaimSet.subject subject ++ "@") := by
  obtain ⟨_, target⟩ := (undomained_iff config user claims).mp undomained
  have homeless : ∀ domain, ¬ DomainFor config user (ClaimSet.email claims) domain := fun domain chosen => by
    obtain ⟨same, notEmpty⟩ := (domain_for_iff config user claims domain).mp chosen
    exact notEmpty (Option.some.inj (target.symm.trans same)).symm
  constructor
  · exact fun addressed => (addressed.kept (.inr homeless)).symm.trans address
  · exact fun same => ⟨fun domain _ chosen => absurd chosen (homeless domain), fun _ => address.trans same.symm⟩

theorem addressed_effect (effect : EmailEffect config user claims subject after) :
    (Undomained config user → ClaimSet.email after = some (ClaimSet.subject subject ++ "@")) ∧
      (Addressed config user claims subject after ↔
        ¬ (Undomained config user ∧ ClaimSet.email claims ≠ some (ClaimSet.subject subject ++ "@"))) := by
  have marks := undomained_iff config user claims
  cases effect with
  | kept idle same =>
      have never : ¬ Undomained config user := fun undomained => by
        obtain ⟨present, target⟩ := marks.mp undomained
        rcases idle with absent | homeless
        · exact present absent
        · cases homeless.symm.trans target
      exact ⟨fun undomained => absurd undomained never, fun _ both => never both.1,
        fun _ => addressed_kept config user claims subject after same idle⟩
  | written domain present target notEmpty address =>
      have never : ¬ Undomained config user := fun undomained =>
        notEmpty (Option.some.inj (target.symm.trans (marks.mp undomained).2))
      exact ⟨fun undomained => absurd undomained never, fun _ both => never both.1,
        fun _ => addressed_written config user claims subject after domain present target notEmpty address⟩
  | marked undomained address =>
      rw [addressed_marked config user claims subject after undomained address]
      exact ⟨fun _ => address, fun same both => both.2 same,
        fun kept => not_not.mp fun differs => kept ⟨undomained, differs⟩⟩

end Addressed

theorem email_read (config : MapperConfig) (mapping : Mapping) (read : ofConfig .email config = .ok mapping) :
    ∃ d, mapping = .email d config.emailDomain? ∧ ofConfig .staticSector config = .ok (.staticSector d) := by
  cases of_config_reads .email config mapping read with
  | email d parsed =>
      refine ⟨d, rfl, ?_⟩
      rw [ofConfig, parsed]
      rfl

theorem addressed_unless_undomained {s : Surface} (settings : Settings) (fresh : Salt)
    (submitted config : MapperConfig) (user : User) (claims : s.Claims)
    (accepted : normalize .email settings fresh submitted = .ok config) :
    ∃ mapping static, ofConfig .email config = .ok mapping ∧ ofConfig .staticSector config = .ok static ∧
      ∃ after subject : s.Claims, mapping.apply user claims = .ok after ∧ static.apply user claims = .ok subject ∧
        (Undomained config user → ClaimSet.email after = some (ClaimSet.subject subject ++ "@")) ∧
        (Addressed config user claims subject after ↔
          ¬ (Undomained config user ∧ ClaimSet.email claims ≠ some (ClaimSet.subject subject ++ "@"))) := by
  obtain ⟨_, mapping, _, _, read⟩ := normalize_ok .email settings fresh submitted config accepted
  obtain ⟨d, rfl, static⟩ := email_read config mapping read
  exact ⟨_, _, read, static, _, _, apply_eq .email config _ user claims read,
    apply_eq .staticSector config _ user claims static,
    addressed_effect config user claims _ _ (email_effect config user claims d)⟩

def relayMapper (domain : String) : MapperConfig :=
  sampleMapper 0 Variant.email.mapperType
    [sampleSector, (OptionKey.salt, "s"), (OptionKey.algorithm, Algorithm.md5.name),
      (OptionKey.emailDomain, domain)]

-- Blanks around it and one more at sign inside do no harm to a configured domain.
theorem padded_relay_addressed :
    normalize .email {} sampleSalt (relayMapper " @@a@relay.example ") = .ok (relayMapper " @@a@relay.example ") ∧
      ∃ mapping static, ofConfig .email (relayMapper " @@a@relay.example ") = .ok mapping ∧
        ofConfig .staticSector (relayMapper " @@a@relay.example ") = .ok static ∧
        ∃ after subject : Surface.Claims .accessToken, mapping.apply sampleUser sampleAccess = .ok after ∧
          static.apply sampleUser sampleAccess = .ok subject ∧
          Addressed (s := .accessToken) (relayMapper " @@a@relay.example ") sampleUser sampleAccess subject after := by
  have accepted := to_option_ok (normalize .email {} sampleSalt (relayMapper " @@a@relay.example "))
    (relayMapper " @@a@relay.example ") (by decide +kernel)
  obtain ⟨mapping, static, read, other, after, subject, applied, shown, _, exactly⟩ :=
    addressed_unless_undomained (s := .accessToken) {} sampleSalt _ _ sampleUser sampleAccess accepted
  refine ⟨accepted, mapping, static, read, other, after, subject, applied, shown, exactly.mpr fun both => ?_⟩
  have named := (email_domain_iff _ "").mpr both.1.marks
  revert named
  decide +kernel

theorem marks_leave_no_domain :
    ¬ ∀ (s : Surface) (settings : Settings) (fresh : Salt) (submitted config : MapperConfig) (user : User)
        (claims after subject : s.Claims) (mapping static : Mapping),
      normalize .email settings fresh submitted = .ok config →
      ofConfig .email config = .ok mapping → ofConfig .staticSector config = .ok static →
      mapping.apply user claims = .ok after → static.apply user claims = .ok subject →
      Addressed config user claims subject after := by
  intro valid
  have accepted := to_option_ok (normalize .email {} sampleSalt (relayMapper "@")) (relayMapper "@")
    (by decide +kernel)
  obtain ⟨_, mapping, _, _, read⟩ := normalize_ok .email {} sampleSalt _ _ accepted
  obtain ⟨d, rfl, static⟩ := email_read _ mapping read
  have addressed := valid .accessToken {} sampleSalt _ _ sampleUser sampleAccess _ _ _ _ accepted read static
    (apply_eq .email _ _ sampleUser sampleAccess read) (apply_eq .staticSector _ _ sampleUser sampleAccess static)
  have marks : (relayMapper "@").EmailDomain "" := (email_domain_iff _ "").mp (by decide +kernel)
  have undomained : Undomained (relayMapper "@") sampleUser := ⟨by decide +kernel, marks⟩
  have effect := addressed_effect (s := .accessToken) _ sampleUser sampleAccess _ _
    (email_effect (s := .accessToken) (relayMapper "@") sampleUser sampleAccess d)
  exact effect.2.mp addressed ⟨undomained, by simp [sampleAccess]⟩

end Mapping

end PairwiseId
