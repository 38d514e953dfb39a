import PairwiseId.Proofs.Claims.Token
import PairwiseId.Proofs.Json.Fields

/- Tokens are read and written without loss. Each claim of a document goes to the field
   of its name or to the other claims, and comes back from there as it was. Only a
   field that is null is left out when it is written. -/
namespace PairwiseId

set_option autoImplicit false

namespace Json

theorem as_text_faithful (j : Json) (s : String) (read : j.asText? = some s) : j = .str s := by
  cases j <;> simp_all [asText?]

theorem as_int64_faithful (j : Json) (n : Int) (read : j.asInt64? = some n) : j = .int n := by
  cases j <;> simp_all [asInt64?]

-- The integers of 64 bits with a sign.
def IsInt64 (n : Int) : Prop := -(Text.signBound : Int) ≤ n ∧ n < (Text.signBound : Int)

instance : DecidablePred IsInt64 := fun n =>
  inferInstanceAs (Decidable (-(Text.signBound : Int) ≤ n ∧ n < (Text.signBound : Int)))

theorem as_int64_back (n : Int) (inRange : IsInt64 n) : (int n).asInt64? = some n := if_pos inRange

theorem texts_faithful (items : List Json) (texts : List String) (read : items.mapM asText? = some texts) :
    items = texts.map .str := by
  induction items generalizing texts with
  | nil => simp_all
  | cons item rest ih =>
      rw [List.mapM_cons] at read
      obtain ⟨text, own, more⟩ := Option.bind_eq_some_iff.mp read
      obtain ⟨later, others, same⟩ := Option.bind_eq_some_iff.mp more
      obtain rfl := Option.some.inj same
      rw [as_text_faithful item text own, ih later others, List.map_cons]

theorem filter_present (key other : String) (value : Option Json) :
    ((present key value).filter fun f => f.1 == other) = if key = other then present key value else [] := by
  cases value <;> simp [present, List.filter_cons]

theorem names_present (key : String) (value : Option Json) : ((present key value).map Prod.fst).Sublist [key] := by
  cases value with
  | none => exact List.nil_sublist [key]
  | some value => exact List.Sublist.refl [key]

theorem last_present (key : String) (value : Option Json) :
    (present key value).getLast?.map Prod.snd = value := by
  cases value <;> rfl

end Json

namespace Audience

theorem faithful (j : Json) (a : Audience) (read : ofJson? j = some a) : j = a.toJson := by
  cases j with
  | str client =>
      obtain rfl := Option.some.inj read
      rfl
  | arr items =>
      obtain ⟨clients, listed, rfl⟩ := Option.map_eq_some_iff.mp read
      exact congrArg Json.arr (Json.texts_faithful items clients listed)
  | _ => cases read

theorem back (a : Audience) : ofJson? a.toJson = some a := by
  cases a with
  | single client => rfl
  | several clients =>
      have read : (Json.ofTexts clients).asTexts? = some clients := Json.list_back _ _ Json.as_text_back clients
      simp [toJson, ofJson?, Json.ofTexts] at read ⊢
      exact read

theorem not_null (a : Audience) : a.toJson.isNull = false := by
  cases a <;> rfl

end Audience

namespace Surface

-- The fields that a token need not have.
def optionals : Surface → List String
  | .idToken => ["nonce", "azp", "email"]
  | _ => ["aud", "azp", "preferred_username", "email"]

-- A claim is written unless it is null where it may be absent.
def keeps (s : Surface) (key : String) (value : Json) : Bool := !(s.optionals.contains key && value.isNull)

theorem filter_keeps (s : Surface) (key : String) (found : Option Json) :
    found.filter (s.keeps key) = if key ∈ s.optionals then found.filter (fun j => !j.isNull) else found := by
  cases found with
  | none => simp
  | some value => by_cases absentable : key ∈ s.optionals <;> simp [keeps, absentable, Option.filter]

end Surface

namespace AccessClaims

theorem shown (c : AccessClaims) :
    Surface.accessToken.registered.map (KeyMap.ofEntries c.fields).get? =
      [some (.str c.issuer), some (.str c.subject), c.audience.map Audience.toJson, some (.int c.expiry),
        some (.int c.issuedAt), c.authorizedParty.map .str, c.preferredUsername.map .str, c.email.map .str] := by
  simp [Surface.registered, KeyMap.get_of_entries, fields, Json.filter_present, Json.last_present]

theorem read_fields (fields : List (String × Json)) (c : AccessClaims) (read : ofJson? (.obj fields) = some c) :
    (Surface.accessToken.registered.map fun key =>
        ((KeyMap.ofEntries fields).get? key).filter (Surface.accessToken.keeps key)) =
      Surface.accessToken.registered.map (KeyMap.ofEntries c.fields).get? ∧
    c.other = otherClaims Surface.accessToken.registered fields := by
  simp only [ofJson?, Json.asFields?, Option.bind_eq_bind, Option.bind_some, Option.bind_eq_some_iff] at read
  obtain ⟨issuer, iss, subject, sub, audience, aud, expiry, exp, issuedAt, iat, authorizedParty, azp,
    preferredUsername, preferred, email, mail, same⟩ := read
  obtain rfl := Option.some.inj same
  refine ⟨?_, rfl⟩
  rw [shown]
  simp [Surface.registered, Surface.filter_keeps, Surface.optionals,
    Json.required_found _ _ _ iss Json.as_text_faithful, Json.required_found _ _ _ sub Json.as_text_faithful,
    Json.optional_found _ _ _ aud Audience.faithful, Json.required_found _ _ _ exp Json.as_int64_faithful,
    Json.required_found _ _ _ iat Json.as_int64_faithful, Json.optional_found _ _ _ azp Json.as_text_faithful,
    Json.optional_found _ _ _ preferred Json.as_text_faithful, Json.optional_found _ _ _ mail Json.as_text_faithful]

theorem fields_read (document : List (String × Json)) (m : KeyMap Json) (order : document.Perm m.entries)
    (c : AccessClaims) (held : Surface.accessToken.registered.map m.get? =
      Surface.accessToken.registered.map (KeyMap.ofEntries c.fields).get?)
    (others : otherClaims Surface.accessToken.registered document = c.other)
    (inRange : ∀ t ∈ [c.expiry, c.issuedAt], Json.IsInt64 t) :
    ofJson? (.obj document) = some c := by
  rw [shown] at held
  simp only [Surface.registered, List.map_cons, List.map_nil, List.cons.injEq, and_true] at held
  obtain ⟨iss, sub, aud, exp, iat, azp, preferred, mail⟩ := held
  simp only [ofJson?, Json.asFields?, Option.bind_eq_bind, Option.bind_some,
    Json.required_entries "iss" document m order .str _ iss (Json.as_text_back _),
    Json.required_entries "sub" document m order .str _ sub (Json.as_text_back _),
    Json.optional_entries "aud" document m order _ _ aud Audience.back Audience.not_null,
    Json.required_entries "exp" document m order .int _ exp (Json.as_int64_back _ (inRange _ (by simp))),
    Json.required_entries "iat" document m order .int _ iat (Json.as_int64_back _ (inRange _ (by simp))),
    Json.optional_entries "azp" document m order .str _ azp Json.as_text_back fun _ => rfl,
    Json.optional_entries "preferred_username" document m order .str _ preferred Json.as_text_back fun _ => rfl,
    Json.optional_entries "email" document m order .str _ mail Json.as_text_back fun _ => rfl, others]
  rfl

theorem names (c : AccessClaims) : (c.fields.map Prod.fst).Sublist Surface.accessToken.registered := by
  simp only [fields, List.map_append]
  change List.Sublist _ (["iss", "sub"] ++ ["aud"] ++ ["exp", "iat"] ++ ["azp"] ++ ["preferred_username"] ++ ["email"])
  exact (((((List.Sublist.refl _).append (Json.names_present "aud" _)).append (List.Sublist.refl _)).append
    (Json.names_present "azp" _)).append (Json.names_present "preferred_username" _)).append
    (Json.names_present "email" _)

end AccessClaims

namespace IdClaims

theorem shown (c : IdClaims) :
    Surface.idToken.registered.map (KeyMap.ofEntries c.fields).get? =
      [some (.str c.issuer), some (.str c.subject), some c.audience.toJson, some (.int c.expiry),
        some (.int c.issuedAt), c.nonce.map .str, c.authorizedParty.map .str, c.email.map .str] := by
  simp [Surface.registered, KeyMap.get_of_entries, fields, Json.filter_present, Json.last_present]

theorem read_fields (fields : List (String × Json)) (c : IdClaims) (read : ofJson? (.obj fields) = some c) :
    (Surface.idToken.registered.map fun key =>
        ((KeyMap.ofEntries fields).get? key).filter (Surface.idToken.keeps key)) =
      Surface.idToken.registered.map (KeyMap.ofEntries c.fields).get? ∧
    c.other = otherClaims Surface.idToken.registered fields := by
  simp only [ofJson?, Json.asFields?, Option.bind_eq_bind, Option.bind_some, Option.bind_eq_some_iff] at read
  obtain ⟨issuer, iss, subject, sub, audience, aud, expiry, exp, issuedAt, iat, nonce, once,
    authorizedParty, azp, email, mail, same⟩ := read
  obtain rfl := Option.some.inj same
  refine ⟨?_, rfl⟩
  rw [shown]
  simp [Surface.registered, Surface.filter_keeps, Surface.optionals,
    Json.required_found _ _ _ iss Json.as_text_faithful, Json.required_found _ _ _ sub Json.as_text_faithful,
    Json.required_found _ _ _ aud Audience.faithful, Json.required_found _ _ _ exp Json.as_int64_faithful,
    Json.required_found _ _ _ iat Json.as_int64_faithful, Json.optional_found _ _ _ once Json.as_text_faithful,
    Json.optional_found _ _ _ azp Json.as_text_faithful, Json.optional_found _ _ _ mail Json.as_text_faithful]

theorem fields_read (document : List (String × Json)) (m : KeyMap Json) (order : document.Perm m.entries)
    (c : IdClaims)
    (held : Surface.idToken.registered.map m.get? =
      Surface.idToken.registered.map (KeyMap.ofEntries c.fields).get?)
    (others : otherClaims Surface.idToken.registered document = c.other)
    (inRange : ∀ t ∈ [c.expiry, c.issuedAt], Json.IsInt64 t) :
    ofJson? (.obj document) = some c := by
  rw [shown] at held
  simp only [Surface.registered, List.map_cons, List.map_nil, List.cons.injEq, and_true] at held
  obtain ⟨iss, sub, aud, exp, iat, once, azp, mail⟩ := held
  simp only [ofJson?, Json.asFields?, Option.bind_eq_bind, Option.bind_some,
    Json.required_entries "iss" document m order .str _ iss (Json.as_text_back _),
    Json.required_entries "sub" document m order .str _ sub (Json.as_text_back _),
    Json.required_entries "aud" document m order _ _ aud (Audience.back _),
    Json.required_entries "exp" document m order .int _ exp (Json.as_int64_back _ (inRange _ (by simp))),
    Json.required_entries "iat" document m order .int _ iat (Json.as_int64_back _ (inRange _ (by simp))),
    Json.optional_entries "nonce" document m order .str _ once Json.as_text_back fun _ => rfl,
    Json.optional_entries "azp" document m order .str _ azp Json.as_text_back fun _ => rfl,
    Json.optional_entries "email" document m order .str _ mail Json.as_text_back fun _ => rfl, others]
  rfl

theorem names (c : IdClaims) : (c.fields.map Prod.fst).Sublist Surface.idToken.registered := by
  simp only [fields, List.map_append]
  change List.Sublist _ (["iss", "sub", "aud", "exp", "iat"] ++ ["nonce"] ++ ["azp"] ++ ["email"])
  exact (((List.Sublist.refl _).append (Json.names_present "nonce" _)).append
    (Json.names_present "azp" _)).append (Json.names_present "email" _)

end IdClaims

theorem other_claims_get (registered : List String) (fields : List (String × Json)) (key : String) :
    (otherClaims registered fields).get? key =
      if key ∈ registered then none else (KeyMap.ofEntries fields).get? key := by
  rw [otherClaims, KeyMap.get_of_entries, KeyMap.get_of_entries, List.filter_filter]
  split
  · rename_i own
    have nothing : (fields.filter fun f => f.1 == key && !registered.contains f.1) = [] := by
      rw [List.filter_eq_nil_iff]
      rintro f - chosen
      simp only [Bool.and_eq_true, beq_iff_eq, Bool.not_eq_true', List.contains_eq_mem,
        decide_eq_false_iff_not] at chosen
      exact chosen.2 (chosen.1 ▸ own)
    rw [nothing]
    rfl
  · rename_i free
    have all : (fields.filter fun f => f.1 == key && !registered.contains f.1) =
        fields.filter fun f => f.1 == key := by
      refine List.filter_congr fun f _ => ?_
      by_cases same : f.1 = key
      · simp [same, free]
      · simp [same]
    rw [all]

namespace Surface

variable (s : Surface)

def times : (s : Surface) → s.Claims → List Int
  | .accessToken, c => [AccessClaims.expiry c, AccessClaims.issuedAt c]
  | .idToken, c => [IdClaims.expiry c, IdClaims.issuedAt c]
  | .userinfo, c => [AccessClaims.expiry c, AccessClaims.issuedAt c]

theorem read_fields (fields : List (String × Json)) (c : s.Claims) (read : s.ofJson? (.obj fields) = some c) :
    (s.registered.map fun key => ((KeyMap.ofEntries fields).get? key).filter (s.keeps key)) =
      s.registered.map (KeyMap.ofEntries (s.fields c)).get? ∧
    ClaimSet.other c = otherClaims s.registered fields := by
  cases s with
  | accessToken => exact AccessClaims.read_fields fields c read
  | idToken => exact IdClaims.read_fields fields c read
  | userinfo => exact AccessClaims.read_fields fields c read

theorem fields_read (document : List (String × Json)) (m : KeyMap Json) (order : document.Perm m.entries)
    (c : s.Claims) (held : s.registered.map m.get? = s.registered.map (KeyMap.ofEntries (s.fields c)).get?)
    (others : otherClaims s.registered document = ClaimSet.other c)
    (inRange : ∀ t ∈ s.times c, Json.IsInt64 t) :
    s.ofJson? (.obj document) = some c := by
  cases s with
  | accessToken => exact AccessClaims.fields_read document m order c held others inRange
  | idToken => exact IdClaims.fields_read document m order c held others inRange
  | userinfo => exact AccessClaims.fields_read document m order c held others inRange

theorem names (c : s.Claims) : ((s.fields c).map Prod.fst).Sublist s.registered := by
  cases s with
  | accessToken => exact AccessClaims.names c
  | idToken => exact IdClaims.names c
  | userinfo => exact AccessClaims.names c

theorem unregistered_get (c : s.Claims) (key : String) (free : key ∉ s.registered) :
    (KeyMap.ofEntries (s.fields c)).get? key = none := by
  have nothing : ((s.fields c).filter fun f => f.1 == key) = [] := by
    rw [List.filter_eq_nil_iff]
    intro f written named
    exact free (beq_iff_eq.mp named ▸ (s.names c).subset (List.mem_map_of_mem written))
  rw [KeyMap.get_of_entries, nothing]
  rfl

theorem optionals_registered (key : String) (absentable : key ∈ s.optionals) : key ∈ s.registered := by
  have all : s.optionals ⊆ s.registered := by cases s <;> decide
  exact all absentable

theorem token_of_read (fields : List (String × Json)) (c : s.Claims) (read : s.ofJson? (.obj fields) = some c) :
    s.token c = (KeyMap.ofEntries fields).filter s.keeps := by
  obtain ⟨own, others⟩ := s.read_fields fields c read
  apply KeyMap.ext_get
  intro key
  rw [token_get, others, other_claims_get, KeyMap.get_filter]
  by_cases registered : key ∈ s.registered
  · rw [if_pos registered, Option.none_or, List.map_inj_left.mp own key registered]
  · have required : key ∉ s.optionals := fun absentable => registered (s.optionals_registered key absentable)
    rw [if_neg registered, s.unregistered_get c key registered, Option.or_none, filter_keeps, if_neg required]

theorem read_of_token (c : s.Claims) (document : List (String × Json))
    (order : document.Perm (s.token c).entries)
    (disjoint : ∀ key ∈ s.registered, (ClaimSet.other c).get? key = none)
    (inRange : ∀ t ∈ s.times c, Json.IsInt64 t) :
    s.ofJson? (.obj document) = some c := by
  refine s.fields_read document (s.token c) order c ?_ ?_ inRange
  · refine List.map_inj_left.mpr fun key registered => ?_
    rw [token_get, disjoint key registered, Option.none_or]
  · apply KeyMap.ext_get
    intro key
    rw [other_claims_get, (s.token c).of_entries_perm document order]
    split
    · rename_i registered
      exact (disjoint key registered).symm
    · rename_i free
      rw [token_get, s.unregistered_get c key free, Option.or_none]

theorem other_of_read (fields : List (String × Json)) (c : s.Claims) (read : s.ofJson? (.obj fields) = some c) :
    ClaimSet.other c = (KeyMap.ofEntries fields).filter fun key _ => !s.registered.contains key := by
  apply KeyMap.ext_get
  intro key
  rw [(s.read_fields fields c read).2, other_claims_get, KeyMap.get_filter]
  by_cases registered : key ∈ s.registered
  · cases (KeyMap.ofEntries fields).get? key <;> simp [registered, Option.filter]
  · cases (KeyMap.ofEntries fields).get? key <;> simp [registered, Option.filter]

-- What is read of a document is written back but for its nulls, and what is written is read back,
-- in whatever order the claims stand.
theorem tokens_survive :
    (∀ (fields : List (String × Json)) (c : s.Claims), s.ofJson? (.obj fields) = some c →
      s.token c = (KeyMap.ofEntries fields).filter s.keeps ∧
      ClaimSet.other c = (KeyMap.ofEntries fields).filter fun key _ => !s.registered.contains key) ∧
    ∀ (c : s.Claims) (document : List (String × Json)), document.Perm (s.token c).entries →
      (∀ key ∈ s.registered, (ClaimSet.other c).get? key = none) → (∀ t ∈ s.times c, Json.IsInt64 t) →
      s.ofJson? (.obj document) = some c :=
  ⟨fun fields c read => ⟨s.token_of_read fields c read, s.other_of_read fields c read⟩, s.read_of_token⟩

-- An identity token has a field for the nonce, an access token has none.
def nullNonce : List (String × Json) :=
  [("sub", .str "alice"), ("nonce", .null), ("aud", .arr [.str "a", .str "b"]), ("exp", .int 1700000300),
    ("iss", .str "https://sso.example"), ("iat", .int 1700000000), ("email", .null),
    ("address", .obj [("country", .null)])]

theorem null_nonce_kept_where_it_has_no_field :
    (∃ access : AccessClaims, accessToken.ofJson? (.obj nullNonce) = some access ∧
      access.token.keys = ["address", "aud", "exp", "iat", "iss", "nonce", "sub"]) ∧
    (∃ identity : IdClaims, idToken.ofJson? (.obj nullNonce) = some identity ∧
      identity.token.keys = ["address", "aud", "exp", "iat", "iss", "sub"]) ∧
    accessToken.ofJson? (.obj sampleAccess.token.entries) = some sampleAccess := by
  refine ⟨?_, ?_, (tokens_survive accessToken).2 sampleAccess _ (List.Perm.refl _) (fun _ _ => rfl) (by decide)⟩
  · obtain ⟨access, read⟩ := Option.isSome_iff_exists.mp
      (show (accessToken.ofJson? (.obj nullNonce)).isSome = true by decide +kernel)
    have written : access.token = _ := ((tokens_survive accessToken).1 nullNonce access read).1
    exact ⟨access, read, by rw [written]; decide +kernel⟩
  · obtain ⟨identity, read⟩ := Option.isSome_iff_exists.mp
      (show (idToken.ofJson? (.obj nullNonce)).isSome = true by decide +kernel)
    have written : identity.token = _ := ((tokens_survive idToken).1 nullNonce identity read).1
    exact ⟨identity, read, by rw [written]; decide +kernel⟩

end Surface

end PairwiseId
