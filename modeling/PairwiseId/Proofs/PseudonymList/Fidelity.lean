import Mathlib.Data.List.Basic
import PairwiseId.Proofs.Store.Issuance

/- A pseudonym list says of a client what the client itself receives as subject. -/
namespace PairwiseId.PseudonymList

set_option autoImplicit false

open Store

theorem subject_of_static (user : User) (config : MapperConfig) (d : SaltedDerivation)
    (static : isStaticSector config = true)
    (read : Mapping.ofConfig .staticSector config = .ok (.staticSector d)) :
    Registry.subjectOf? user config = ((LocalSource.ofConfig config).resolve user).map d.derive := by
  have type : config.mapperType = Variant.staticSector.mapperType := eq_of_beq static
  have chosen : Registry.subjectVariant? config = some .staticSector := by
    simp [Registry.subjectVariant?, type]
  exact Registry.subject_of_mapped user config .staticSector (.staticSector d) chosen read

theorem subject_of_neither (user : User) (config : MapperConfig) (notStatic : isStaticSector config = false)
    (notSimple : config.mapperType ≠ Variant.simpleSector.mapperType) :
    Registry.subjectOf? user config = none := by
  apply Registry.subject_of_other
  have static : (Variant.staticSector.mapperType == config.mapperType) = false :=
    beq_eq_false_iff_ne.mpr (Ne.symm (ne_of_beq_false notStatic))
  have simple : (Variant.simpleSector.mapperType == config.mapperType) = false :=
    beq_eq_false_iff_ne.mpr (Ne.symm notSimple)
  simp [Registry.subjectVariant?, static, simple]

-- With the simple-sector mappers left out, the static-sector mapper is alone in writing the
-- subject; email, named-claim and list mappers may stand anywhere among the others.
theorem only_subject (s : Surface) (user : User) (configs : List MapperConfig) (config : MapperConfig)
    (single : configs.filter isStaticSector = [config]) (included : config.isIncluded s = true)
    (alone : ∀ c ∈ configs, c.mapperType = Variant.simpleSector.mapperType → c.isIncluded s = false) :
    (configs.filter (MapperConfig.isIncluded s)).filterMap (Registry.subjectOf? user) =
      (Registry.subjectOf? user config).toList := by
  have statics : (configs.filter isStaticSector).filterMap (Registry.subjectOf? user) =
      (Registry.subjectOf? user config).toList := by
    rw [single]
    cases own : Registry.subjectOf? user config <;> simp [own]
  -- Both filters keep the same subjects, whatever else they keep.
  rw [← statics, List.filterMap_filter, List.filterMap_filter]
  apply List.filterMap_congr
  intro c member
  cases static : isStaticSector c with
  | true =>
      have same : c ∈ [config] := single ▸ List.mem_filter.mpr ⟨member, static⟩
      obtain rfl := List.mem_singleton.mp same
      simp [included]
  | false =>
      by_cases simple : c.mapperType = Variant.simpleSector.mapperType
      · simp [alone c member simple]
      · simp [subject_of_neither user c static simple]

theorem find_static_stored (st : Store) (client : String) (config : MapperConfig)
    (single : (st.list (.client client)).filter isStaticSector = [config]) :
    findStaticSector? st.lookup client = some config := by
  rw [find_static_some]
  cases known : st.lookup client with
  | none =>
      have empty : st.list (.client client) = [] := congrArg (Option.getD · []) known
      rw [empty] at single
      cases single
  | some configs =>
      rw [list_eq st (.client client) configs known] at single
      exact ⟨configs, rfl, single⟩

theorem list_entry_is_subject (settings : Settings) (ops : List Op) (client : String)
    (config : MapperConfig) (s : Surface) (user : User) (list : PseudonymList) (context : IssueContext)
    (claims : s.Claims)
    (single : ((reached settings ops).list (.client client)).filter isStaticSector = [config])
    (included : config.isIncluded s = true)
    (alone : ∀ c ∈ (reached settings ops).list (.client client),
      c.mapperType = Variant.simpleSector.mapperType → c.isIncluded s = false)
    (listed : client ∈ list.clients) (present : context.user = some user)
    (seen : SeenBy (reached settings ops) context) :
    ∃ entries after,
      list.pseudonyms (reached settings ops).lookup user = .ok entries ∧
      (reached settings ops).registry.issue s context ((reached settings ops).list (.client client)) claims =
        .ok after ∧
      (∀ localId, (LocalSource.ofConfig config).resolve user = some localId →
        entries.get? client = some (.str (ClaimSet.subject after))) ∧
      ((LocalSource.ofConfig config).resolve user = none →
        entries.get? client = none ∧ ClaimSet.subject after = ClaimSet.subject claims) := by
  obtain ⟨entries, collected, looked⟩ :=
    pseudonyms_readable list (reached settings ops).lookup user (reached_readable settings ops)
  obtain ⟨after, issued⟩ := stored_mappers_issue settings ops (.client client) s context claims seen
  refine ⟨entries, after, collected, issued, ?_⟩
  have own := single_mem _ config single
  obtain ⟨d, parsed, read⟩ := reached_static settings ops _ config own.1 own.2
  have found := find_static_stored (reached settings ops) client config single
  have entry := (looked client listed).trans (entry_eq _ user client config d found parsed)
  rw [(reached_configured settings ops).registry] at issued
  have subject := Registry.issue_subject s context user _ claims after present issued
  rw [only_subject s user _ config single included alone, subject_of_static user config d own.2 read] at subject
  constructor
  · intro localId resolved
    rw [entry, subject, resolved]
    rfl
  · intro absent
    rw [entry, subject, absent]
    exact ⟨rfl, rfl⟩

def fidelityMapper : MapperConfig :=
  sampleMapper 1 Variant.staticSector.mapperType
    [sampleSector, (OptionKey.salt, "s"), (OptionKey.localIdAttribute, "nr"),
      (OptionKey.algorithm, Algorithm.sha512.name)]

def fidelityList : MapperConfig :=
  sampleMapper 4 mapperType [(OptionKey.claimName, "ids"), (OptionKey.clients, "b## a")]

-- Every type of mapper, with the simple one kept out of access tokens.
def fidelityMappers : List MapperConfig :=
  [sampleMapper 0 Variant.email.mapperType
      [sampleSector, (OptionKey.salt, "t"), (OptionKey.algorithm, Algorithm.sha1.name)],
    fidelityMapper,
    sampleMapper 2 Variant.simpleSector.mapperType
      [sampleSector, (Surface.accessToken.optionKey, "false"), (OptionKey.algorithm, Algorithm.sha1.name)],
    sampleMapper 3 Variant.namedClaim.mapperType
      [sampleSector, (OptionKey.claimName, "p.id"), (OptionKey.algorithm, Algorithm.sha1.name)],
    fidelityList]

def fidelitySetup : List Op :=
  [.createClient "a", .createClient "b", .save (.client "b") fidelityMapper sampleSalt] ++
    fidelityMappers.map fun config => .save (.client "a") config sampleSalt

theorem listed_client_entry :
    (reached {} fidelitySetup).list (.client "a") = fidelityMappers ∧
      ∃ entries after,
        (ofConfig fidelityList).pseudonyms (reached {} fidelitySetup).lookup sampleUser = .ok entries ∧
        (reached {} fidelitySetup).registry.issue .accessToken { user := some sampleUser }
          ((reached {} fidelitySetup).list (.client "a")) sampleAccess = .ok after ∧
        entries.get? "a" = some (.str (ClaimSet.subject (C := AccessClaims) after)) := by
  have stored : (reached {} fidelitySetup).list (.client "a") = fidelityMappers := by decide +kernel
  have single : ((reached {} fidelitySetup).list (.client "a")).filter isStaticSector = [fidelityMapper] := by
    rw [stored]
    decide +kernel
  have alone : ∀ c ∈ (reached {} fidelitySetup).list (.client "a"),
      c.mapperType = Variant.simpleSector.mapperType → c.isIncluded .accessToken = false := by
    rw [stored]
    decide +kernel
  have included : fidelityMapper.isIncluded .accessToken = true := by decide +kernel
  have listed : "a" ∈ (ofConfig fidelityList).clients := by decide +kernel
  have resolved : (LocalSource.ofConfig fidelityMapper).resolve sampleUser = some "42" := by decide +kernel
  obtain ⟨entries, after, collected, issued, present, _⟩ :=
    list_entry_is_subject {} fidelitySetup "a" fidelityMapper .accessToken sampleUser
      (ofConfig fidelityList) { user := some sampleUser } sampleAccess single included alone listed rfl (.inl rfl)
  exact ⟨stored, entries, after, collected, issued, present "42" resolved⟩

end PairwiseId.PseudonymList
