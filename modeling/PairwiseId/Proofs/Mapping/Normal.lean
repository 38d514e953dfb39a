import PairwiseId.Mapping.Basic

/- What a save leaves behind in a configuration: its identity and type, a salt
   that was there before, and options from which a mapping can be read. -/
namespace PairwiseId

set_option autoImplicit false

theorem bind_ok {E A B : Type} (value : Except E A) (next : A → Except E B) (result : B) :
    (value >>= next) = .ok result ↔ ∃ input, value = .ok input ∧ next input = .ok result := by
  cases value with
  | error fault => simp [bind, Except.bind]
  | ok input => simp [bind, Except.bind]

theorem map_ok {E A B : Type} (f : A → B) (value : Except E A) (result : B) :
    f <$> value = .ok result ↔ ∃ input, value = .ok input ∧ f input = result := by
  cases value with
  | error fault => simp [Functor.map, Except.map]
  | ok input => simp [Functor.map, Except.map]

theorem bind_error {E A B : Type} (value : Except E A) (next : A → Except E B) (fault : E) :
    (value >>= next) = .error fault ↔
      value = .error fault ∨ ∃ input, value = .ok input ∧ next input = .error fault := by
  cases value with
  | error own => simp [bind, Except.bind]
  | ok input => simp [bind, Except.bind]

theorem map_error {E A B : Type} (f : A → B) (value : Except E A) (fault : E) :
    f <$> value = .error fault ↔ value = .error fault := by
  cases value with
  | error own => simp [Functor.map, Except.map]
  | ok input => simp [Functor.map, Except.map]

theorem map_error_ok {E F A : Type} (f : E → F) (value : Except E A) (result : A)
    (done : value.mapError f = .ok result) : value = .ok result := by
  cases value with
  | error fault => cases done
  | ok input => exact congrArg Except.ok (Except.ok.inj done)

theorem map_error_refused {E F A : Type} (f : E → F) (value : Except E A) (refusal : F)
    (refused : value.mapError f = .error refusal) : ∃ fault, value = .error fault ∧ refusal = f fault := by
  cases value with
  | error fault => exact ⟨fault, rfl, (Except.error.inj refused).symm⟩
  | ok input => cases refused

theorem to_option_ok {E A : Type} (value : Except E A) (result : A)
    (present : value.toOption = some result) : value = .ok result := by
  cases value with
  | error fault => cases present
  | ok input => exact congrArg Except.ok (Option.some.inj present)

-- Why there is no result, if there is none.
def errorOf? {E A : Type} : Except E A → Option E
  | .error fault => some fault
  | .ok _ => none

theorem error_of_some {E A : Type} (value : Except E A) (fault : E) :
    errorOf? value = some fault ↔ value = .error fault := by
  cases value with
  | error own => simp [errorOf?]
  | ok input => simp [errorOf?]

theorem error_of_map {E A B : Type} (f : A → B) (value : Except E A) :
    errorOf? (f <$> value) = errorOf? value := by
  cases value <;> rfl

namespace MapperConfig

theorem salt_some (config : MapperConfig) (salt : String) :
    config.salt? = some salt ↔
      config.get? OptionKey.salt = some salt ∧ Text.isBlank salt = false := by
  simp only [salt?, Option.bind_eq_some_iff]
  constructor
  · rintro ⟨held, read, chosen⟩
    split at chosen
    · cases chosen
    · rename_i notBlank
      cases chosen
      exact ⟨read, by simpa using notBlank⟩
  · rintro ⟨read, notBlank⟩
    exact ⟨salt, read, by simp [notBlank]⟩

theorem salt_put_salt (config : MapperConfig) (salt : String) (notBlank : Text.isBlank salt = false) :
    (config.put OptionKey.salt salt).salt? = some salt :=
  (salt_some _ _).mpr ⟨get?_put_self config OptionKey.salt salt, notBlank⟩

theorem salt_put_other (config : MapperConfig) (key value : String) (different : OptionKey.salt ≠ key) :
    (config.put key value).salt? = config.salt? := by
  simp only [salt?, get?_put_other config key OptionKey.salt value different]

@[simp] theorem put_id (config : MapperConfig) (key value : String) :
    (config.put key value).id = config.id := rfl

@[simp] theorem put_name (config : MapperConfig) (key value : String) :
    (config.put key value).name = config.name := rfl

@[simp] theorem put_type (config : MapperConfig) (key value : String) :
    (config.put key value).mapperType = config.mapperType := rfl

end MapperConfig

namespace Mapping

theorem with_salt_kept (variant : Variant) (fresh : Salt) (config : MapperConfig) (salt : String)
    (salted : config.salt? = some salt) : withSalt variant fresh config = config := by
  simp [withSalt, salted]

theorem with_salt_id (variant : Variant) (fresh : Salt) (config : MapperConfig) :
    (withSalt variant fresh config).id = config.id := by
  unfold withSalt
  split <;> rfl

theorem with_salt_type (variant : Variant) (fresh : Salt) (config : MapperConfig) :
    (withSalt variant fresh config).mapperType = config.mapperType := by
  unfold withSalt
  split <;> rfl

theorem with_salt_name (variant : Variant) (fresh : Salt) (config : MapperConfig) :
    (withSalt variant fresh config).name = config.name := by
  unfold withSalt
  split <;> rfl

theorem normalize_ok (variant : Variant) (settings : Settings) (fresh : Salt)
    (config saved : MapperConfig) (accepted : normalize variant settings fresh config = .ok saved) :
    ∃ algorithm mapping,
      (withSalt variant fresh config).submittedAlgorithm settings.defaultAlgorithm = .ok algorithm ∧
      saved = (withSalt variant fresh config).put OptionKey.algorithm algorithm.name ∧
      ofConfig variant saved = .ok mapping := by
  simp only [normalize, bind_ok, pure, Except.pure, Except.ok.injEq] at accepted
  obtain ⟨algorithm, resolved, _, _, mapping, read, rfl⟩ := accepted
  exact ⟨algorithm, mapping, resolved, rfl, read⟩

theorem normalize_id (variant : Variant) (settings : Settings) (fresh : Salt)
    (config saved : MapperConfig) (accepted : normalize variant settings fresh config = .ok saved) :
    saved.id = config.id := by
  obtain ⟨algorithm, _, _, rfl, _⟩ := normalize_ok variant settings fresh config saved accepted
  simp [with_salt_id]

theorem normalize_type (variant : Variant) (settings : Settings) (fresh : Salt)
    (config saved : MapperConfig) (accepted : normalize variant settings fresh config = .ok saved) :
    saved.mapperType = config.mapperType := by
  obtain ⟨algorithm, _, _, rfl, _⟩ := normalize_ok variant settings fresh config saved accepted
  simp [with_salt_type]

theorem normalize_name (variant : Variant) (settings : Settings) (fresh : Salt)
    (config saved : MapperConfig) (accepted : normalize variant settings fresh config = .ok saved) :
    saved.name = config.name := by
  obtain ⟨algorithm, _, _, rfl, _⟩ := normalize_ok variant settings fresh config saved accepted
  simp [with_salt_name]

theorem normalize_keeps_salt (variant : Variant) (settings : Settings) (fresh : Salt)
    (config saved : MapperConfig) (salt : String) (salted : config.salt? = some salt)
    (accepted : normalize variant settings fresh config = .ok saved) : saved.salt? = some salt := by
  obtain ⟨algorithm, _, _, rfl, _⟩ := normalize_ok variant settings fresh config saved accepted
  rw [with_salt_kept variant fresh config salt salted,
    MapperConfig.salt_put_other _ _ _ (by decide), salted]

end Mapping

end PairwiseId
