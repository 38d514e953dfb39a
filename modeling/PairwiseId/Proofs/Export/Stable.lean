import PairwiseId.Proofs.Export.Verdict

/- An export that has been validated once is settled: validating the result again
   refuses nothing and changes nothing, under whatever settings. -/
namespace PairwiseId.Report

set_option autoImplicit false

open Store

-- What a save has stored is stored as it is by every later save that accepts it.
theorem stored_again (first second : Settings) (row later : Row) (again : MapperConfig)
    (storedAs : StoredAs first row later.config) (storedAgain : StoredAs second later again) :
    again = later.config := by
  obtain ⟨_, fresh, accepted⟩ := storedAs
  obtain ⟨_, salt, acceptedAgain⟩ := storedAgain
  rcases Registry.check_save_ok _ _ again acceptedAgain with ⟨variant, type, normalized⟩ | ⟨_, _, same⟩
  · have before := Registry.check_save_normalized _ _ variant later.config type accepted
    have settled := Mapping.normalize_settled variant first second fresh salt _ _ before
    exact Except.ok.inj (normalized.symm.trans settled)
  · exact same

variable {settings : Settings} {e : Export} {rows : List Row} {last : Store}

theorem stored_static_usable (owner : Owner) (separate : Separate e rows)
    (replayed : Replayed (forExport settings e) rows last) :
    (last.list owner).countP Export.isUsable = (last.list owner).countP PseudonymList.isStaticSector := by
  apply List.countP_congr
  intro config stored
  obtain ⟨row, _, lookup, fresh, accepted⟩ :=
    matched_of_mem _ config (separate_stored owner separate replayed) stored
  cases static : PseudonymList.isStaticSector config with
  | false => simp [Export.isUsable, static]
  | true =>
      have normalized := Registry.check_save_normalized _ _ .staticSector config (eq_of_beq static) accepted
      simp [Export.isUsable, static, Mapping.admits_saved .staticSector settings fresh _ config normalized]

-- The rejected mappers that are gone were never among the usable ones.
theorem contents_usable (client : String) (validated : Validated settings e rows last) :
    last.contents.usable client = e.usable client := by
  have separate := validated_separate settings e rows last validated
  rw [Export.usable, contents_list, stored_static_usable _ separate validated.replayed,
    stored_static_count _ separate validated.replayed, usable_eq client validated.subjects]

theorem contents_admits (owner : Owner) (config : MapperConfig) (validated : Validated settings e rows last)
    (stored : config ∈ last.list owner) : last.contents.Admits owner config := by
  have separate := validated_separate settings e rows last validated
  obtain ⟨row, accepted, lookup, fresh, saved⟩ :=
    matched_of_mem _ config (separate_stored owner separate validated.replayed) stored
  obtain ⟨member, own⟩ := List.mem_filter.mp accepted
  obtain ⟨rfl, isAccepted⟩ : row.owner = owner ∧ row.isAccepted = true := by simpa using own
  rcases Registry.check_save_ok _ _ config saved with ⟨variant, type, normalized⟩ | ⟨list, _, rfl⟩
  · exact .inl ⟨variant, (Mapping.normalize_type variant _ _ _ config normalized).trans type,
      Mapping.admits_saved variant settings fresh _ config normalized⟩
  · rcases (row_accepted_iff row member validated).mp isAccepted with
      ⟨variant, type, _⟩ | ⟨_, notRealm, named, usable⟩
    · exact absurd (type.symm.trans list) variant.mapper_type_not_list
    · refine .inr ⟨list, notRealm, named, fun client listed => ?_⟩
      rw [contents_usable client validated]
      exact usable client listed

theorem contents_distinct (replayed : Replayed (forExport settings e) rows last) :
    last.contents.DistinctIds := by
  rw [Export.distinct_iff]
  intro owner
  rw [contents_list]
  exact replayed_distinct settings e replayed owner

theorem contents_lists_last (owner : Owner) (validated : Validated settings e rows last) :
    Export.ListsLast (last.list owner) := by
  have order := e.save_order_lists_last
  rw [← validated.subjects, Export.ListsLast, List.map_map, List.pairwise_map] at order
  have types := stored_map Export.isList (fun row => Export.isList row.config) _
    (fun row config storedAs => by simp only [Export.isList, stored_as_type settings row config storedAs])
    (separate_stored owner (validated_separate settings e rows last validated) validated.replayed)
  have inOrder : ((last.list owner).map Export.isList).Pairwise fun earlier later =>
      earlier = true → later = true := by
    rw [types, List.pairwise_map]
    exact order.sublist List.filter_sublist
  exact List.pairwise_map.mp inOrder

theorem accepted_of_all (owner : Owner) (all : ∀ row ∈ rows, row.isAccepted = true) :
    (acceptedOf owner rows).map Row.config = Export.ofOwner owner (rows.map Row.subject) := by
  have same : acceptedOf owner rows = rows.filter fun row => row.owner == owner :=
    List.filter_congr fun row member => by simp [all row member]
  rw [same, Export.ofOwner, List.filter_map, List.map_map]
  rfl

theorem contents_eq (first second : Store) (lists : ∀ owner, second.list owner = first.list owner)
    (owners : ∀ owner, second.mappers? owner = none ↔ first.mappers? owner = none) :
    second.contents = first.contents := by
  apply Export.ext_mappers
  intro owner
  rw [contents_mappers, contents_mappers]
  have same := lists owner
  simp only [list] at same
  cases before : first.mappers? owner with
  | none => exact (owners owner).mpr before
  | some configs =>
      cases after : second.mappers? owner with
      | none => exact absurd ((owners owner).mp after) (by simp [before])
      | some others => simpa [before, after] using same

section Again

variable {second : Settings} {secondRows : List Row} {secondLast : Store}

theorem again_stored (row : Row) (member : row ∈ secondRows)
    (again : Validated second last.contents secondRows secondLast) : row.config ∈ last.list row.owner := by
  have saved : row.subject ∈ last.contents.saveOrder := again.subjects ▸ List.mem_map_of_mem member
  rw [← contents_list, ← Export.owned_mem]
  exact last.contents.save_order_perm.mem_iff.mp saved

theorem again_accepted (row : Row) (member : row ∈ secondRows) (validated : Validated settings e rows last)
    (again : Validated second last.contents secondRows secondLast) : row.isAccepted = true :=
  (row_accepted_iff row member again).mpr
    (contents_admits row.owner row.config validated (again_stored row member again))

theorem again_list (owner : Owner) (validated : Validated settings e rows last)
    (again : Validated second last.contents secondRows secondLast) :
    secondLast.list owner = last.list owner := by
  have separate := validated_separate settings e rows last validated
  have matching := separate_stored owner (validated_separate second _ secondRows secondLast again) again.replayed
  have before : ∀ row ∈ acceptedOf owner secondRows, ∃ first, StoredAs settings first row.config := by
    intro row accepted
    have stored := again_stored row (List.mem_filter.mp accepted).1 again
    obtain ⟨first, _, storedAs⟩ :=
      matched_of_mem _ row.config (separate_stored row.owner separate validated.replayed) stored
    exact ⟨first, storedAs⟩
  have copied := stored_map id Row.config _ (fun row config ⟨⟨first, storedAs⟩, storedAgain⟩ =>
    stored_again settings second first row config storedAs storedAgain)
    ((List.forall₂_and_left _ _).mpr ⟨before, matching⟩)
  calc secondLast.list owner = (acceptedOf owner secondRows).map Row.config := by rw [← copied, List.map_id]
    _ = Export.ofOwner owner last.contents.saveOrder := by
        rw [accepted_of_all owner fun row member => again_accepted row member validated again, again.subjects]
    _ = last.list owner := by
        rw [Export.save_order_of, contents_list, Export.lists_last_eq _ (contents_lists_last owner validated)]

end Again

theorem normalized_export_stable (first second : Settings) (fresh later : Nat → Salt) (e : Export)
    (distinct : e.DistinctIds) :
    (ofExport second later (ofExport first fresh e).normalized).failures = 0 ∧
      (ofExport second later (ofExport first fresh e).normalized).normalized =
        (ofExport first fresh e).normalized := by
  obtain ⟨last, validated, normalized⟩ := of_export_validated first fresh e distinct
  rw [normalized]
  obtain ⟨secondLast, again, normalizedAgain⟩ :=
    of_export_validated second later last.contents (contents_distinct validated.replayed)
  constructor
  · rw [failures, List.countP_eq_zero]
    intro row member
    simp [again_accepted row member validated again]
  · rw [normalizedAgain]
    refine contents_eq last secondLast (fun owner => again_list owner validated again) fun owner => ?_
    rw [replayed_owner owner again.replayed, for_export_mappers, Option.map_eq_none_iff, contents_mappers]

def settledMapper (n : UInt8) (sector : String) : MapperConfig :=
  sampleMapper n Variant.staticSector.mapperType
    [(OptionKey.sector, sector), (OptionKey.salt, sampleSalt.text),
      (OptionKey.algorithm, Algorithm.standard.name)]

-- What is left of the mixed export: its accepted mappers as they are stored, the list last.
def settledExport : Export where
  clients := KeyMap.ofEntries
    [("a", [settledMapper 1 "https://a.example", listMapper 0 "a##b"]),
      ("b", [settledMapper 0 "https://b.example"])]

-- Both runs would use salts and an algorithm of their own where one is missing.
theorem mixed_export_stable :
    mixedExport.DistinctIds ∧ (ofExport {} (fun _ => sampleSalt) mixedExport).failures = 4 ∧
      (ofExport {} (fun _ => sampleSalt) mixedExport).normalized = settledExport ∧
      (ofExport ⟨.md5, 99⟩ (fun _ => ⟨"other", by decide⟩)
        (ofExport {} (fun _ => sampleSalt) mixedExport).normalized).failures = 0 ∧
      (ofExport ⟨.md5, 99⟩ (fun _ => ⟨"other", by decide⟩)
        (ofExport {} (fun _ => sampleSalt) mixedExport).normalized).normalized =
          (ofExport {} (fun _ => sampleSalt) mixedExport).normalized := by
  have distinct : mixedExport.DistinctIds := ⟨by decide +kernel, by decide +kernel⟩
  exact ⟨distinct, by decide +kernel, by decide +kernel,
    normalized_export_stable {} ⟨.md5, 99⟩ _ _ mixedExport distinct⟩

end PairwiseId.Report
