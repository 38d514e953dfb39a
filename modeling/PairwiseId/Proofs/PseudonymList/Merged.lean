import PairwiseId.Proofs.Claims.Lens
import PairwiseId.Proofs.Mapper.Types
import PairwiseId.Proofs.PseudonymList.Entries

/- What becomes of the claims when entries are merged into the object at a path. Nothing is lost
   but what stood in the way of the path and was no object. -/
namespace PairwiseId

set_option autoImplicit false

namespace Claims

def HoldsObject (claims : KeyMap Json) (path : String) : Prop := ∃ fields, get? claims path = some (.obj fields)

-- The value under one key of the object at a path. A key may contain dots.
def entryAt (claims : KeyMap Json) (path key : String) : Option Json :=
  Entries.get? key (fieldsOf (get? claims path))

structure Merged (path : String) (entries before after : KeyMap Json) : Prop where
  object : HoldsObject after path
  added : ∀ key value, entries.get? key = some value → entryAt after path key = some value
  kept : ∀ key, entries.get? key = none → entryAt after path key = entryAt before path key
  elsewhere : ∀ q, Apart (segments path) (segments q) → get? after q = get? before q
  passed : ∀ q next rest, segments path = segments q ++ next :: rest →
    HoldsObject after q ∧ ∀ key, key ≠ next → entryAt after q key = entryAt before q key

-- Of an object that the path leads through, one key is written.
theorem get_in_passed (path : List String) (next : String) (rest : List String) (value : Json)
    (fields : List (String × Json)) (notEmpty : path ≠ []) :
    getIn (writeAt (path ++ next :: rest, value) fields) path =
      some (.obj (writeAt (next :: rest, value) (fieldsOf (getIn fields path)))) := by
  induction path generalizing fields with
  | nil => exact absurd rfl notEmpty
  | cons key more ih =>
      rw [List.cons_append, write_inner key (more ++ next :: rest) fields value (by simp)]
      by_cases last : more = []
      · subst last
        exact Entries.get?_put_self key _ fields
      · rw [get_in_inner key more _ last, get_in_inner key more _ last, Entries.get?_put_self]
        exact ih (fieldsOf (Entries.get? key fields)) last

theorem set_passed (claims : KeyMap Json) (path q next : String) (rest : List String) (value : Json)
    (below : segments path = segments q ++ next :: rest) :
    HoldsObject (set claims path value) q ∧
      ∀ key, key ≠ next → entryAt (set claims path value) q key = entryAt claims q key := by
  have written : get? (set claims path value) q =
      some (.obj (writeAt (next :: rest, value) (fieldsOf (get? claims q)))) := by
    change getIn (writeAt (segments path, value) claims.entries) (segments q) = _
    rw [below]
    exact get_in_passed (segments q) next rest value claims.entries (segments_ne_nil q)
  refine ⟨⟨_, written⟩, fun key different => ?_⟩
  rw [entryAt, written, fieldsOf, write_cons, Entries.get?_put_other next key _ _ different, entryAt]

section Merge

variable (claims entries : KeyMap Json) (path : String)

theorem merge_eq :
    merge claims path entries =
      set claims path (.obj (entries.entries.foldl (fun fields entry => Entries.put entry.1 entry.2 fields)
        (fieldsOf (get? claims path)))) := rfl

theorem merged_entry (key : String) :
    entryAt (merge claims path entries) path key = (entries.get? key).or (entryAt claims path key) := by
  rw [entryAt, merge_eq, get_set]
  exact Entries.get_put_all key entries.entries _ entries.ordered

theorem merge_merged : Merged path entries claims (merge claims path entries) where
  object := ⟨_, get_set claims path _⟩
  added key value found := by rw [merged_entry, found, Option.some_or]
  kept key absent := by rw [merged_entry, absent, Option.none_or]
  elsewhere q apart :=
    get_in_fork (segments path) (segments q) _ claims.entries (fork_of_apart (segments path) (segments q) apart)
  passed q next rest below := by
    rw [merge_eq]
    exact set_passed claims path q next rest _ below

end Merge

end Claims

namespace PseudonymList

theorem apply_merges {s : Surface} (list : PseudonymList) (lookup : Lookup) (user : User)
    (claims after : s.Claims) (entries : KeyMap Json) (named : list.claimName ≠ "")
    (collected : list.pseudonyms lookup user = .ok entries) (notEmpty : entries.isEmpty = false)
    (done : list.apply lookup user claims = .ok after) :
    ClaimSet.other after = Claims.merge (ClaimSet.other claims) list.claimName entries := by
  simp only [apply, named, if_false, collected, bind, Except.bind, notEmpty] at done
  rw [← Except.ok.inj done, other_set_other]

-- The entries have the client ids for keys, and a client id is no path.
theorem merged_without_loss :
    (∀ (claims entries : KeyMap Json) (path : String),
        Claims.Merged path entries claims (Claims.merge claims path entries)) ∧
      ∀ (s : Surface) (list : PseudonymList) (lookup : Lookup) (user : User) (claims after : s.Claims),
        list.claimName ≠ "" → list.apply lookup user claims = .ok after →
        ∀ client ∈ list.clients, ∀ value, entryOf lookup user client = some value →
          Claims.entryAt (ClaimSet.other after) list.claimName client = some value := by
  refine ⟨Claims.merge_merged, fun s list lookup user claims after named done client listed value shown => ?_⟩
  cases collected : list.pseudonyms lookup user with
  | error fault =>
      simp only [apply, named, if_false, collected, bind, Except.bind] at done
      cases done
  | ok entries =>
      have entry : entries.get? client = some value := by
        rw [pseudonyms_entries list lookup user entries collected, if_pos listed, shown]
      have notEmpty : entries.isEmpty = false := by
        cases empty : entries.isEmpty with
        | false => rfl
        | true => simp [KeyMap.get?, List.isEmpty_iff.mp empty] at entry
      rw [apply_merges list lookup user claims after entries named collected notEmpty done]
      exact (Claims.merge_merged _ entries list.claimName).added client value entry

def portalClaims : AccessClaims :=
  { sampleAccess with
    other := KeyMap.empty.put "ids" (.obj [("other", .int 1), ("portal", .obj [("legacy", .str "kept")])]) }

def portalList : PseudonymList := ⟨"ids.portal", ["app.one"]⟩

def portalLookup : Lookup := fun _ =>
  some [sampleMapper 0 Variant.staticSector.mapperType
    [sampleSector, (OptionKey.salt, "s"), (OptionKey.algorithm, Algorithm.md5.name)]]

theorem dotted_client_merged :
    (∃ (after : AccessClaims) (value : Json), portalList.claimName ≠ "" ∧
        portalList.apply portalLookup sampleUser portalClaims = .ok after ∧ "app.one" ∈ portalList.clients ∧
        entryOf portalLookup sampleUser "app.one" = some value ∧
        Claims.entryAt after.other "ids.portal" "app.one" = some value) ∧
      ∃ merged, merged = Claims.merge portalClaims.other "ids.portal" (KeyMap.empty.put "app.one" .null) ∧
        Claims.entryAt merged "ids.portal" "legacy" = some (.str "kept") ∧
        Claims.entryAt merged "ids" "other" = some (.int 1) := by
  refine ⟨?_, _, rfl, ?_, ?_⟩
  · have present : (entryOf portalLookup sampleUser "app.one").isSome = true := by decide +kernel
    have accepted : (portalList.apply portalLookup sampleUser portalClaims).isOk = true := by decide +kernel
    obtain ⟨value, shown⟩ := Option.isSome_iff_exists.mp present
    cases done : portalList.apply portalLookup sampleUser portalClaims with
    | error fault => simp [done, Except.isOk, Except.toBool] at accepted
    | ok after =>
        have named : portalList.claimName ≠ "" := by decide
        have listed : "app.one" ∈ portalList.clients := by decide
        exact ⟨after, value, named, rfl, listed, shown,
          merged_without_loss.2 .accessToken portalList portalLookup sampleUser portalClaims after named done
            "app.one" listed value shown⟩
  · exact (merged_without_loss.1 portalClaims.other _ "ids.portal").kept "legacy" rfl
  · have through : Claims.segments "ids.portal" = Claims.segments "ids" ++ ["portal"] := by decide
    exact ((merged_without_loss.1 portalClaims.other _ "ids.portal").passed "ids" "portal" [] through).2 "other"
      (by decide)

end PseudonymList

end PairwiseId
