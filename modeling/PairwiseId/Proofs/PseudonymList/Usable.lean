import PairwiseId.Proofs.Mapper.Failures

/- What a pseudonym list says of a client is a matter of that client alone. The clients in front
   of it and behind it can only make the whole list fail, and then it is the first of them with
   an unreadable mapper that does. -/
namespace PairwiseId.PseudonymList

set_option autoImplicit false

variable (lookup : Lookup) (user : User)

-- The client has mappers, and exactly this one of them is of the static-sector type.
def Usable (client : String) (config : MapperConfig) : Prop :=
  ∃ mappers, lookup client = some mappers ∧ mappers.filter isStaticSector = [config]

def Unreadable (client : String) (fault : Fault) : Prop :=
  ∃ config, Usable lookup client config ∧ SaltedDerivation.ofConfig config = .error fault

def FirstUnreadable (clients : List String) (fault : Fault) : Prop :=
  ∃ before client after, clients = before ++ client :: after ∧ Unreadable lookup client fault ∧
    ∀ earlier ∈ before, ∀ other, ¬ Unreadable lookup earlier other

-- The pseudonym that a client's own mapper has for the user, if the user has a local identifier there.
inductive EntryFor (client : String) : Json → Prop where
  | shown (config : MapperConfig) (d : SaltedDerivation) (localId : String) (p : Pseudonym)
      (usable : Usable lookup client config) (read : SaltedDerivation.ofConfig config = .ok d)
      (present : (LocalSource.ofConfig config).resolve user = some localId)
      (computed : Pseudonym.generateSalted d.algorithm (some d.salt) d.sector localId = .ok p) :
      EntryFor client (.str p.text)

theorem usable_iff (client : String) (config : MapperConfig) :
    Usable lookup client config ↔ findStaticSector? lookup client = some config :=
  (find_static_some lookup client config).symm

-- The fault of the mapper of a client, if it has a usable one that cannot be read.
def faultOf? (client : String) : Option Fault :=
  (findStaticSector? lookup client).bind fun config => errorOf? (SaltedDerivation.ofConfig config)

theorem unreadable_iff (client : String) (fault : Fault) :
    Unreadable lookup client fault ↔ faultOf? lookup client = some fault := by
  simp only [Unreadable, usable_iff, faultOf?, Option.bind_eq_some_iff, error_of_some]

theorem first_unreadable_iff (clients : List String) (fault : Fault) :
    FirstUnreadable lookup clients fault ↔ clients.findSome? (faultOf? lookup) = some fault := by
  rw [List.findSome?_eq_some_iff]
  simp only [FirstUnreadable, unreadable_iff, Option.eq_none_iff_forall_not_mem, Option.mem_def]

theorem pseudonyms_error (list : PseudonymList) :
    errorOf? (list.pseudonyms lookup user) = list.clients.findSome? (faultOf? lookup) := by
  rw [pseudonyms, collect_error, ← List.head?_filterMap, List.filterMap_filterMap, List.head?_filterMap]
  rfl

theorem entry_for_iff (client : String) (value : Json) :
    EntryFor lookup user client value ↔ entryOf lookup user client = some value := by
  constructor
  · intro entry
    cases entry with
    | shown config d localId p usable read present computed =>
        rw [SaltedDerivation.generated config d localId read] at computed
        obtain rfl := Except.ok.inj computed
        rw [entry_eq lookup user client config d ((usable_iff lookup client config).mp usable) read, present]
        rfl
  · intro entry
    simp only [entryOf, Option.bind_eq_bind, Option.bind_eq_some_iff] at entry
    obtain ⟨config, found, d, parsed, localId, present, shown⟩ := entry
    have read := to_option_ok _ d parsed
    obtain rfl := Option.some.inj shown
    exact .shown config d localId _ ((usable_iff lookup client config).mpr found) read present
      (SaltedDerivation.generated config d localId read)

theorem entry_by_entry (list : PseudonymList) (lookup : Lookup) (user : User) :
    (∀ fault, list.pseudonyms lookup user = .error fault ↔ FirstUnreadable lookup list.clients fault) ∧
      ((∀ fault, ¬ FirstUnreadable lookup list.clients fault) →
        ∃ entries, list.pseudonyms lookup user = .ok entries ∧
          ∀ client value, entries.get? client = some value ↔
            client ∈ list.clients ∧ EntryFor lookup user client value) ∧
      ∀ (other : PseudonymList) (entries others : KeyMap Json), list.pseudonyms lookup user = .ok entries →
        other.pseudonyms lookup user = .ok others →
        ∀ client ∈ list.clients, client ∈ other.clients → entries.get? client = others.get? client := by
  have failure : ∀ fault, list.pseudonyms lookup user = .error fault ↔
      FirstUnreadable lookup list.clients fault := fun fault => by
    rw [first_unreadable_iff, ← pseudonyms_error lookup user, error_of_some]
  refine ⟨failure, fun readable => ?_, fun other entries others collected also client listed alsoListed => ?_⟩
  · cases collected : list.pseudonyms lookup user with
    | error fault => exact absurd ((failure fault).mp collected) (readable fault)
    | ok entries =>
        refine ⟨entries, rfl, fun client value => ?_⟩
        rw [pseudonyms_entries list lookup user entries collected, entry_for_iff]
        by_cases listed : client ∈ list.clients
        · simp [listed]
        · simp [listed]
  · rw [pseudonyms_entries list lookup user entries collected, pseudonyms_entries other lookup user others also,
      if_pos listed, if_pos alsoListed]

def numberMapper (name : String) : MapperConfig :=
  sampleMapper 0 Variant.staticSector.mapperType
    [sampleSector, (OptionKey.salt, "s"), (OptionKey.algorithm, Algorithm.md5.name),
      (OptionKey.localIdAttribute, name)]

-- Client b has two static-sector mappers, nobody has a room, and the mapper of client d has no salt.
def unevenLookup : Lookup
  | "a" => some [Registry.listOfUnsaved, numberMapper "nr"]
  | "b" => some [numberMapper "nr", numberMapper "nr"]
  | "c" => some [numberMapper "room"]
  | "d" => some [Registry.unsavedMapper]
  | _ => none

def unevenList : PseudonymList := ⟨"ids", ["none", "c", "b", "a"]⟩

theorem uneven_list_entries :
    (∀ fault, ¬ FirstUnreadable unevenLookup unevenList.clients fault) ∧
      (∃ entries, unevenList.pseudonyms unevenLookup sampleUser = .ok entries ∧ entries.keys = ["a"] ∧
        ∀ value, entries.get? "a" = some value ↔ EntryFor unevenLookup sampleUser "a" value) ∧
      ({ unevenList with clients := ["a", "d", "b"] } : PseudonymList).pseudonyms unevenLookup sampleUser =
        .error .missingSalt := by
  have readable : ∀ fault, ¬ FirstUnreadable unevenLookup unevenList.clients fault := by
    intro fault first
    have found := (first_unreadable_iff unevenLookup unevenList.clients fault).mp first
    have accepted : unevenList.clients.findSome? (faultOf? unevenLookup) = none := by decide +kernel
    cases accepted.symm.trans found
  obtain ⟨entries, collected, each⟩ := (entry_by_entry unevenList unevenLookup sampleUser).2.1 readable
  have keys : (unevenList.pseudonyms unevenLookup sampleUser).toOption.map KeyMap.keys = some ["a"] := by
    decide +kernel
  rw [collected] at keys
  refine ⟨readable, ⟨entries, collected, Option.some.inj keys, fun value => ?_⟩, ?_⟩
  · simpa [unevenList] using each "a" value
  · exact ((entry_by_entry _ unevenLookup sampleUser).1 .missingSalt).mpr
      ((first_unreadable_iff unevenLookup _ _).mpr (by decide +kernel))

end PairwiseId.PseudonymList
