import PairwiseId.Console.Run
import PairwiseId.Proofs.Mac.Construction

/- The table of algorithms tells the length of the keyed hashes that are computed. -/
namespace PairwiseId.Console

set_option autoImplicit false

-- The second cell in the row of an algorithm, which stands below "Digest bits".
def tableBits? (chosen : Algorithm) (name : String) : Option String := do
  let row ← (Algorithm.all.map (algorithmRow chosen)).find? fun row => row.head? == some name
  row[1]?

theorem table_bits (chosen algorithm : Algorithm) :
    tableBits? chosen algorithm.name = some (toString (8 * algorithm.outputBytes)) := by
  have named : ((fun row : List String => row.head? == some algorithm.name) ∘ algorithmRow chosen) =
      fun other => other.name == algorithm.name := rfl
  have found : Algorithm.all.find? (fun other => other.name == algorithm.name) = some algorithm :=
    algorithm.of_exact_name
  rw [tableBits?, List.find?_map, named, found]
  rfl

theorem keyed_hash_standard (algorithm : Algorithm) (key : Digest.Bytes) (parts : List Digest.Bytes) :
    ∃ mac H blockBytes outputBytes, Mac.hmac algorithm key parts = .ok mac ∧
      Mac.hmac algorithm key [parts.flatten] = .ok mac ∧
      Mac.Standard algorithm.name H blockBytes outputBytes ∧
      mac = Mac.rfc2104 H blockBytes key parts.flatten ∧
      mac.length = outputBytes ∧ algorithm.outputBytes = outputBytes ∧
      ∀ chosen, tableBits? chosen algorithm.name = some (toString (8 * mac.length)) := by
  have length := Mac.rfc2104_length algorithm.digest key parts.flatten
  have catalog := Mac.digest_output algorithm
  refine ⟨_, _, _, _, Mac.hmac_standard algorithm key parts, ?_, Mac.digest_standard algorithm, rfl, length,
    catalog.symm, fun chosen => ?_⟩
  · rw [Mac.hmac_standard, List.flatten_singleton]
  · rw [length, catalog, table_bits]

def publishedKey : Digest.Bytes := Text.utf8 "Jefe"

def publishedParts : List Digest.Bytes := [Text.utf8 "what do ya want ", Text.utf8 "for nothing?"]

-- The test case that all publications have in common. The result is one number of so many bytes.
structure Published where
  algorithm : Algorithm
  name : String
  bytes : Nat
  result : Nat

def published : List Published :=
  [⟨.md5, "HmacMD5", 16, 0x750c783e6ab0b503eaa86e310a5db738⟩,
    ⟨.sha1, "HmacSHA1", 20, 0xeffcdf6ae5eb2fa2d27416d5f184df9c259a7c79⟩,
    ⟨.sha224, "HmacSHA224", 28, 0xa30e01098bc6dbbf45690f3a7e9e6d0f8bbea2a39e6148008fd05e44⟩,
    ⟨.sha256, "HmacSHA256", 32, 0x5bdcc146bf60754e6a042426089575c75a003f089d2739839dec58b964ec3843⟩,
    ⟨.sha384, "HmacSHA384", 48,
      0xaf45d2e376484031617f78d2b58a6b1b9c7ef464f5a01b47e42ec3736322445e8e2240ca5e69e2c78b3239ecfab21649⟩,
    ⟨.sha512, "HmacSHA512", 64,
      0x164b7a7bfcf819e2e395fbe73b56e0a387bd64222e831fd610270cd7ea2505549758bf75c05a994a6d034f65f8f0e6fdcaeab1a34d4a6b4b636e070a38bce737⟩,
    ⟨.sha512_224, "HmacSHA512/224", 28, 0x4a530b31a79ebcce36916546317c45f247d83241dfb818fd37254bde⟩,
    ⟨.sha512_256, "HmacSHA512/256", 32, 0x6df7b24630d5ccb2ee335407081a87188c221489768fa2020513b2d593359456⟩,
    ⟨.sha3_224, "HmacSHA3-224", 28, 0x7fdb8dd88bd2f60d1b798634ad386811c2cfc85bfaf5d52bbace5e66⟩,
    ⟨.sha3_256, "HmacSHA3-256", 32, 0xc7d4072e788877ae3596bbb0da73b887c9171f93095b294ae857fbe2645e1ba5⟩,
    ⟨.sha3_384, "HmacSHA3-384", 48,
      0xf1101f8cbf9766fd6764d2ed61903f21ca9b18f57cf3e1a23ca13508a93243ce48c045dc007f26a21b3f5e0e9df4c20a⟩,
    ⟨.sha3_512, "HmacSHA3-512", 64,
      0x5a4bfeab6166427c7a3647b747292b8384537cdb89afb3bf5665e4c5e709350b287baec921fd7ca0ee7a0c31d022a95e1fc92ba9d77df883960275beb4e62024⟩]

theorem published_keyed_hashes :
    published.map (fun row => row.algorithm) = Algorithm.all ∧
      ∀ row ∈ published, ∃ mac, Mac.hmac row.algorithm publishedKey publishedParts = .ok mac ∧
        row.algorithm.name = row.name ∧ mac.length = row.bytes ∧ Digest.natOfBytesBE mac = row.result ∧
        ∀ chosen, tableBits? chosen row.name = some (toString (8 * row.bytes)) := by
  have computed : ∀ row ∈ published,
      (Mac.hmac row.algorithm publishedKey publishedParts).toOption.map Digest.natOfBytesBE = some row.result := by
    decide +kernel
  have catalog : ∀ row ∈ published,
      row.algorithm.name = row.name ∧ row.algorithm.outputBytes = row.bytes := by decide +kernel
  refine ⟨rfl, fun row member => ?_⟩
  obtain ⟨mac, _, _, _, done, _, _, _, length, output, listed⟩ :=
    keyed_hash_standard row.algorithm publishedKey publishedParts
  obtain ⟨named, bytes⟩ := catalog row member
  have long : mac.length = row.bytes := by rw [length, ← output, bytes]
  have number := computed row member
  rw [done] at number
  rw [named, long] at listed
  exact ⟨mac, done, named, long, Option.some.inj number, listed⟩

end PairwiseId.Console
