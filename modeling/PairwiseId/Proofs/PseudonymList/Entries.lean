import PairwiseId.Proofs.KeyMap
import PairwiseId.Proofs.Mapping.Derivation
import PairwiseId.PseudonymList

/- The entries of a pseudonym list, each of them determined by the mapper of its
   own client. -/
namespace PairwiseId.PseudonymList

set_option autoImplicit false

theorem find_static_some (lookup : Lookup) (client : String) (config : MapperConfig) :
    findStaticSector? lookup client = some config ↔
      ∃ configs, lookup client = some configs ∧ configs.filter isStaticSector = [config] := by
  cases known : lookup client with
  | none => simp [findStaticSector?, known]
  | some configs =>
      simp only [findStaticSector?, known, Option.bind_eq_bind, Option.bind_some, Option.some.injEq,
        exists_eq_left']
      split
      · rename_i only single
        simp [single]
      · rename_i several
        simpa using several config

theorem single_mem (configs : List MapperConfig) (config : MapperConfig)
    (single : configs.filter isStaticSector = [config]) :
    config ∈ configs ∧ isStaticSector config = true := by
  rw [← List.mem_filter, single]
  exact List.mem_singleton_self config

-- The mappers of all clients that count can be read.
def Readable (lookup : Lookup) : Prop :=
  ∀ client config, findStaticSector? lookup client = some config →
    ∃ d, SaltedDerivation.ofConfig config = .ok d

-- What the list says about one client.
def entryOf (lookup : Lookup) (user : User) (client : String) : Option Json := do
  let config ← findStaticSector? lookup client
  let derivation ← (SaltedDerivation.ofConfig config).toOption
  let localId ← (LocalSource.ofConfig config).resolve user
  return .str (derivation.derive localId).text

theorem entry_eq (lookup : Lookup) (user : User) (client : String) (config : MapperConfig)
    (d : SaltedDerivation) (found : findStaticSector? lookup client = some config)
    (read : SaltedDerivation.ofConfig config = .ok d) :
    entryOf lookup user client =
      ((LocalSource.ofConfig config).resolve user).map fun localId => .str (d.derive localId).text := by
  simp only [entryOf, found, read, Except.toOption, Option.bind_eq_bind, Option.bind_some]
  cases (LocalSource.ofConfig config).resolve user with
  | none => rfl
  | some localId => rfl

theorem collect_cons (lookup : Lookup) (user : User) (client : String) (rest : List String)
    (done : KeyMap Json)
    (readable : ∀ config, findStaticSector? lookup client = some config →
      ∃ d, SaltedDerivation.ofConfig config = .ok d) :
    collect lookup user (client :: rest) done =
      collect lookup user rest (match entryOf lookup user client with
        | some entry => done.put client entry
        | none => done) := by
  cases found : findStaticSector? lookup client with
  | none => simp [collect, entryOf, found]
  | some config =>
      obtain ⟨d, read⟩ := readable config found
      rw [entry_eq lookup user client config d found read]
      simp only [collect, found, read, SaltedDerivation.pseudonym_for_eq config d user read, bind, Except.bind]
      cases (LocalSource.ofConfig config).resolve user with
      | none => rfl
      | some localId => rfl

theorem collected_readable (lookup : Lookup) (user : User) (client : String) (rest : List String)
    (done entries : KeyMap Json) (collected : collect lookup user (client :: rest) done = .ok entries)
    (config : MapperConfig) (found : findStaticSector? lookup client = some config) :
    ∃ d, SaltedDerivation.ofConfig config = .ok d := by
  simp only [collect, found, bind_ok] at collected
  obtain ⟨d, read, _⟩ := collected
  exact ⟨d, read⟩

-- What has been collected so far is arbitrary, since every client adds to it. An entry of a
-- listed client hides the one that was there.
theorem collect_entries (lookup : Lookup) (user : User) (clients : List String) (done entries : KeyMap Json)
    (collected : collect lookup user clients done = .ok entries) (client : String) :
    entries.get? client =
      if client ∈ clients then (entryOf lookup user client).or (done.get? client) else done.get? client := by
  induction clients generalizing done with
  | nil =>
      obtain rfl := Except.ok.inj collected
      simp
  | cons head rest ih =>
      have readable := collected_readable lookup user head rest done entries collected
      rw [collect_cons lookup user head rest done readable] at collected
      rw [ih _ collected]
      cases own : entryOf lookup user head with
      | none =>
          by_cases same : client = head
          · subst same
            simp [own]
          · simp [same]
      | some entry =>
          by_cases same : client = head
          · subst same
            simp [own]
          · simp [KeyMap.get?_put_other done head client entry same, same]

theorem collect_readable (lookup : Lookup) (user : User) (clients : List String) (done : KeyMap Json)
    (readable : Readable lookup) : ∃ entries, collect lookup user clients done = .ok entries := by
  induction clients generalizing done with
  | nil => exact ⟨done, rfl⟩
  | cons head rest ih =>
      rw [collect_cons lookup user head rest done (readable head)]
      exact ih _

theorem pseudonyms_entries (list : PseudonymList) (lookup : Lookup) (user : User) (entries : KeyMap Json)
    (collected : list.pseudonyms lookup user = .ok entries) (client : String) :
    entries.get? client = if client ∈ list.clients then entryOf lookup user client else none := by
  simp [collect_entries lookup user list.clients KeyMap.empty entries collected client]

theorem pseudonyms_readable (list : PseudonymList) (lookup : Lookup) (user : User)
    (readable : Readable lookup) :
    ∃ entries, list.pseudonyms lookup user = .ok entries ∧
      ∀ client ∈ list.clients, entries.get? client = entryOf lookup user client := by
  obtain ⟨entries, collected⟩ := collect_readable lookup user list.clients KeyMap.empty readable
  refine ⟨entries, collected, fun client member => ?_⟩
  rw [pseudonyms_entries list lookup user entries collected, if_pos member]

theorem apply_readable {C : Type} [ClaimSet C] (list : PseudonymList) (lookup : Lookup) (user : User)
    (claims : C) (readable : Readable lookup) : ∃ after, list.apply lookup user claims = .ok after := by
  obtain ⟨entries, collected, _⟩ := pseudonyms_readable list lookup user readable
  unfold apply
  split
  · exact ⟨claims, rfl⟩
  · simp only [collected, bind, Except.bind]
    split
    · exact ⟨claims, rfl⟩
    · exact ⟨_, rfl⟩

end PairwiseId.PseudonymList
