import PairwiseId.Proofs.Uri.Host
import PairwiseId.Sector

/- An accepted sector URI as it is written: its characters, its scheme, and the
   host in the authority behind `://`. The rules of the web read past slashes in
   front of the authority, and then no host stands where one is written. -/
namespace PairwiseId

set_option autoImplicit false

namespace Uri

-- Letters, digits, other unreserved characters, delimiters, and the mark of an escape (RFC 3986,
-- section 2).
def IsUriChar (c : Char) : Prop :=
  c.isAlphanum = true ∨ c ∈ "-._~".toList ∨ c ∈ genDelims ∨ c ∈ "!$&'()*+,;=".toList ∨ c = '%'

def IsScheme (scheme : List Char) : Prop :=
  ∃ first rest, scheme = first :: rest ∧ first.isAlpha = true ∧
    ∀ c ∈ rest, c.isAlphanum = true ∨ c ∈ ['+', '-', '.']

-- A host, with what names a user in front of it and a port behind it, either of which may be
-- left out.
structure Authority where
  user : Option (List Char)
  host : List Char
  port : Option (List Char)
  isHost : IsHost host
  isNumber : ∀ digits ∈ port, digits.all Char.isDigit = true

namespace Authority

def userText (user : Option (List Char)) : List Char := user.elim [] (· ++ ['@'])

def portText (port : Option (List Char)) : List Char := port.elim [] (':' :: ·)

def text (a : Authority) : List Char := userText a.user ++ a.host ++ portText a.port

theorem text_ne_nil (a : Authority) : a.text ≠ [] := by
  simp [text, a.isHost.ne_nil]

end Authority

def Divided (s : String) (scheme rest : List Char) : Prop :=
  s.toList = scheme ++ "://".toList ++ rest ∧ IsScheme scheme

-- The authority ends before the first `/`, `?` or `#`.
def WritesHost (rest : List Char) : Prop := ∃ a : Authority, a.text = authority rest

theorem uri_char_iff (c : Char) : isUriChar c = true ↔ IsUriChar c := by
  have parts : "-._~:/?#[]@!$&'()*+,;=%".toList =
      "-._~".toList ++ genDelims ++ "!$&'()*+,;=".toList ++ ['%'] := by decide +kernel
  rw [isUriChar, Bool.or_eq_true, List.contains_iff_mem, parts]
  simp only [IsUriChar, List.mem_append, List.mem_singleton, or_assoc]

theorem split_port_append (cs : List Char) : ∀ bracketed,
    (splitPort bracketed cs).1 ++ (splitPort bracketed cs).2 = cs := by
  induction cs with
  | nil => intro bracketed; rfl
  | cons c rest ih =>
      intro bracketed
      rw [splitPort]
      split
      · rfl
      · simp [ih]

theorem split_port_colon (cs : List Char) : ∀ bracketed,
    (splitPort bracketed cs).2 = [] ∨ ∃ behind, (splitPort bracketed cs).2 = ':' :: behind := by
  induction cs with
  | nil => exact fun _ => .inl rfl
  | cons c rest ih =>
      intro bracketed
      rw [splitPort]
      split
      case isTrue colon => exact .inr ⟨rest, congrArg (· :: rest) colon.1⟩
      case isFalse => exact ih _

theorem user_text (cs : List Char) : ∃ user, cs = Authority.userText user ++ withoutUser cs := by
  by_cases named : '@' ∈ cs
  · refine ⟨some (Text.beforeLast '@' cs), ?_⟩
    rw [withoutUser, Text.after_last_eq]
    simpa [Authority.userText] using Text.around_last '@' cs named
  · refine ⟨none, ?_⟩
    rw [withoutUser, Text.after_last_eq, Text.after_last_absent '@' cs named]
    rfl

theorem port_text (cs : List Char) (bracketed : Bool) (isNumber : isPort (splitPort bracketed cs).2 = true) :
    ∃ port, (splitPort bracketed cs).2 = Authority.portText port ∧
      ∀ digits ∈ port, digits.all Char.isDigit = true := by
  rcases split_port_colon cs bracketed with empty | ⟨behind, colon⟩
  · exact ⟨none, empty, by simp⟩
  · rw [colon, isPort, Bool.and_eq_true] at isNumber
    exact ⟨some behind, colon, by simpa using isNumber.1⟩

theorem authority_written (read : List Char → Option Host)
    (hosts : ∀ text host, read text = some host → IsHost text) (cs : List Char) (host : Host)
    (accepted : authorityHost? read cs = some host) : ∃ a : Authority, a.text = cs := by
  simp only [authorityHost?] at accepted
  split at accepted
  case isFalse => cases accepted
  case isTrue isNumber =>
    obtain ⟨user, named⟩ := user_text cs
    obtain ⟨port, ended, digits⟩ := port_text _ false isNumber
    refine ⟨⟨user, _, port, hosts _ host accepted, digits⟩, ?_⟩
    rw [Authority.text, ← ended, List.append_assoc, split_port_append, ← named]

theorem authority_slash (path : List Char) : authority ('/' :: path) = [] := rfl

theorem web_written (rest : List Char) (host : Host)
    (accepted : authorityHost? Host.ofWebText? (authority (rest.dropWhile (· = '/'))) = some host) :
    WritesHost rest ↔ rest.head? ≠ some '/' := by
  cases rest with
  | nil => exact iff_of_true (authority_written _ Host.web_text_is_host _ host accepted) (by simp)
  | cons c path =>
      by_cases slash : c = '/'
      · subst slash
        refine iff_of_false ?_ (by simp)
        rintro ⟨a, written⟩
        exact a.text_ne_nil (written.trans (authority_slash path))
      · rw [List.dropWhile_cons_of_neg (by simpa using slash)] at accepted
        exact iff_of_true (authority_written _ Host.web_text_is_host _ host accepted) (by simpa using slash)

theorem file_written (rest : List Char) (host : Host) (accepted : fileHost? rest = some host) :
    WritesHost rest := by
  simp only [fileHost?] at accepted
  split at accepted
  case isTrue => cases accepted
  case isFalse =>
    obtain ⟨found, named, -⟩ := Option.bind_eq_some_iff.mp accepted
    exact ⟨⟨none, authority rest, none, Host.web_text_is_host _ found named, by simp⟩,
      by simp [Authority.text, Authority.userText, Authority.portText]⟩

theorem is_scheme (first : Char) (rest : List Char) (letter : first.isAlpha = true)
    (others : rest.all isSchemeChar = true) : IsScheme (first :: rest) := by
  refine ⟨first, rest, rfl, letter, fun c member => ?_⟩
  simpa [isSchemeChar, or_assoc] using List.all_eq_true.mp others c member

theorem scheme_written (cs scheme rest : List Char) (divided : splitScheme? cs = some (scheme, rest)) :
    ∃ written, cs = written ++ "://".toList ++ rest ∧ IsScheme written ∧ scheme = written.map Char.toLower := by
  cases cs with
  | nil => cases divided
  | cons c tail =>
      simp only [splitScheme?] at divided
      split at divided
      case isFalse => cases divided
      case isTrue letter =>
        split at divided
        case h_2 => cases divided
        case h_1 behind marked =>
          cases divided
          have first : isSchemeChar c = true := by simp [isSchemeChar, Char.isAlphanum, letter]
          refine ⟨(c :: tail).takeWhile isSchemeChar, ?_, ?_, rfl⟩
          · calc c :: tail = (c :: tail).takeWhile isSchemeChar ++ (c :: tail).dropWhile isSchemeChar :=
                  List.takeWhile_append_dropWhile.symm
              _ = (c :: tail).takeWhile isSchemeChar ++ "://".toList ++ rest := by rw [marked]; simp
          · rw [List.takeWhile_cons_of_pos first]
            exact is_scheme c _ letter List.all_takeWhile

theorem IsScheme.no_colon {scheme : List Char} (valid : IsScheme scheme) : ':' ∉ scheme := by
  obtain ⟨first, rest, rfl, letter, others⟩ := valid
  intro member
  rcases List.mem_cons.mp member with rfl | later
  · exact absurd letter (by decide)
  · exact absurd (others ':' later) (by decide)

theorem divided_unique (s : String) (scheme rest scheme' rest' : List Char) (one : Divided s scheme rest)
    (other : Divided s scheme' rest') : scheme = scheme' ∧ rest = rest' := by
  have before : ∀ scheme rest, Divided s scheme rest → s.toList.takeWhile (· ≠ ':') = scheme := by
    rintro scheme rest ⟨whole, valid⟩
    have kept : ∀ c ∈ scheme, (c ≠ ':' : Bool) = true := fun c member =>
      decide_eq_true fun colon => valid.no_colon (colon ▸ member)
    rw [whole, List.append_assoc, List.takeWhile_append_of_pos kept]
    simp
  obtain rfl : scheme = scheme' := (before _ _ one).symm.trans (before _ _ other)
  exact ⟨rfl, List.append_cancel_left (one.1.symm.trans other.1)⟩

theorem absolute_written (s : String) (accepted : isAbsoluteWithHost s = true) :
    (∀ c ∈ s.toList, IsUriChar c) ∧
      ∃ scheme rest, Divided s scheme rest ∧
        (WritesHost rest ↔
          ¬ (isWebScheme (scheme.map Char.toLower) = true ∧ rest.head? = some '/')) := by
  obtain ⟨host, found⟩ := Option.isSome_iff_exists.mp accepted
  obtain ⟨⟨scheme, rest⟩, divided, found⟩ := Option.bind_eq_some_iff.mp found
  obtain ⟨written, whole, isScheme, rfl⟩ := scheme_written s.toList scheme rest divided
  simp only [ite_not] at found
  split at found
  case isFalse => cases found
  case isTrue legal =>
    refine ⟨fun c member => (uri_char_iff c).mp (List.all_eq_true.mp legal c member),
      written, rest, ⟨whole, isScheme⟩, ?_⟩
    split at found
    case isTrue web =>
      rw [web_written rest host found]
      exact ⟨fun other inside => other inside.2, fun outside slash => outside ⟨web, slash⟩⟩
    case isFalse notWeb =>
      refine iff_of_true ?_ fun inside => notWeb inside.1
      split at found
      case isTrue => exact file_written rest host found
      case isFalse => exact authority_written _ Host.opaque_text_is_host _ host found

end Uri

namespace Sector

theorem resolve_iff (s : String) (mode : SectorMode) (sector : Sector) :
    resolve (some s) mode = .ok sector ↔ sector.value = s ∧ sector.mode = mode := by
  constructor
  · intro resolved
    simp only [resolve] at resolved
    split at resolved
    · cases resolved
    · split at resolved
      · cases resolved
        exact ⟨rfl, rfl⟩
      · cases resolved
  · rintro ⟨rfl, rfl⟩
    have present : ¬ Text.isBlank sector.value = true := fun blank => by
      simpa [SectorMode.accepts, blank] using sector.accepted
    simp only [resolve]
    rw [if_neg present, dif_pos sector.accepted]

theorem uri_writes_host_iff (s : String) (sector : Sector) (resolved : resolve (some s) .staticUri = .ok sector) :
    sector.bytes = Text.utf8 s ∧ (∀ c ∈ s.toList, Uri.IsUriChar c) ∧
      ∃ scheme rest, Uri.Divided s scheme rest ∧
        (Uri.WritesHost rest ↔
          ¬ (Uri.isWebScheme (scheme.map Char.toLower) = true ∧ rest.head? = some '/')) := by
  obtain ⟨rfl, mode⟩ := (resolve_iff s .staticUri sector).mp resolved
  have accepted := sector.accepted
  rw [mode, SectorMode.accepts, Bool.and_eq_true] at accepted
  exact ⟨rfl, Uri.absolute_written sector.value accepted.2⟩

-- A name, a port and an address in brackets are written in one authority.
theorem address_with_port_written :
    ∃ sector, resolve (some "HTTPS://admin@[::1]:8443/a%20b") .staticUri = .ok sector ∧
      ∃ scheme rest, Uri.Divided "HTTPS://admin@[::1]:8443/a%20b" scheme rest ∧ Uri.WritesHost rest := by
  let sector : Sector := ⟨"HTTPS://admin@[::1]:8443/a%20b", .staticUri, by decide +kernel⟩
  have resolved := (resolve_iff "HTTPS://admin@[::1]:8443/a%20b" .staticUri sector).mpr ⟨rfl, rfl⟩
  obtain ⟨-, -, scheme, rest, divided, exactly⟩ := uri_writes_host_iff _ sector resolved
  obtain ⟨-, rfl⟩ := Uri.divided_unique _ scheme rest ('H' :: "TTPS".toList) "admin@[::1]:8443/a%20b".toList divided
    ⟨by decide +kernel, Uri.is_scheme 'H' _ (by decide) (by decide +kernel)⟩
  exact ⟨sector, resolved, scheme, _, divided, exactly.mpr fun inside => absurd inside.2 (by decide +kernel)⟩

theorem slashes_leave_no_host :
    ¬ ∀ (s : String) (sector : Sector), resolve (some s) .staticUri = .ok sector →
      ∃ scheme rest, Uri.Divided s scheme rest ∧ Uri.WritesHost rest := by
  intro valid
  let sector : Sector := ⟨"http:////host", .staticUri, by decide +kernel⟩
  obtain ⟨scheme, rest, divided, a, written⟩ := valid _ sector ((resolve_iff _ .staticUri sector).mpr ⟨rfl, rfl⟩)
  obtain ⟨-, rfl⟩ := Uri.divided_unique _ scheme rest ('h' :: "ttp".toList) "//host".toList divided
    ⟨by decide +kernel, Uri.is_scheme 'h' _ (by decide) (by decide +kernel)⟩
  exact a.text_ne_nil (written.trans (by decide +kernel))

end Sector

end PairwiseId
