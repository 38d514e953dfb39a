import PairwiseId.Claims.Path
import PairwiseId.Proofs.Claims.Surface
import PairwiseId.Proofs.KeyMap

/- A token shows its other claims, and where there is none of a name, its fields.
   Writing at a path touches only the claim that the path begins with. -/
namespace PairwiseId

set_option autoImplicit false

def Surface.fields : (s : Surface) → s.Claims → List (String × Json)
  | .accessToken => AccessClaims.fields
  | .idToken => IdClaims.fields
  | .userinfo => AccessClaims.fields

theorem token_eq (s : Surface) (claims : s.Claims) :
    s.token claims = tokenOf (s.fields claims) (ClaimSet.other claims) := by
  cases s <;> rfl

@[simp] theorem fields_set_other (s : Surface) (claims : s.Claims) (other : KeyMap Json) :
    s.fields (ClaimSet.setOther claims other) = s.fields claims := by
  cases s <;> rfl

theorem token_get (s : Surface) (claims : s.Claims) (key : String) :
    (s.token claims).get? key =
      ((ClaimSet.other claims).get? key).or ((KeyMap.ofEntries (s.fields claims)).get? key) := by
  rw [token_eq, tokenOf, KeyMap.ofEntries, List.foldl_append]
  exact KeyMap.get_put_all key _ _ (ClaimSet.other claims).ordered

namespace Claims

-- The claim that a path leads into.
def root (path : String) : String := (segments path).headD ""

theorem segments_ne_nil (path : String) : segments path ≠ [] := by
  simpa [segments] using Text.split_at_nonempty '.' path.toList

theorem set_in_cons (fields : List (String × Json)) (value : Json) (head : String) (rest : List String) :
    ∃ written, setIn fields value (head :: rest) = Entries.put head written fields := by
  cases rest with
  | nil => exact ⟨value, rfl⟩
  | cons next more => exact ⟨_, rfl⟩

theorem set_root (claims : KeyMap Json) (path : String) (value : Json) :
    ∃ written, set claims path value = claims.put (root path) written := by
  cases parts : segments path with
  | nil => exact absurd parts (segments_ne_nil path)
  | cons head rest =>
      obtain ⟨written, same⟩ := set_in_cons claims.entries value head rest
      refine ⟨written, KeyMap.ext_entries ?_⟩
      simp only [set, root, parts, List.headD_cons, KeyMap.put]
      exact same

end Claims

end PairwiseId
