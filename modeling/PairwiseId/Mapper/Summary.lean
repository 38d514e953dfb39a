import PairwiseId.Mapper.Registry
import PairwiseId.Unicode.Invisible

/- One line about a registry or about the context of a mapper. Mappers are told by
   their ids and users by theirs. Other clients are not listed. Texts stand between
   double quotes, and what cannot be seen in them is escaped. -/
namespace PairwiseId

set_option autoImplicit false

namespace Text

def isInvisible (c : Char) : Bool :=
  if c.toNat < 128 then c < ' ' || c == '\x7f' else Unicode.invisible.has c

def codeEscape (c : Char) : List Char :=
  ['\\', 'u', '\x7b'] ++ Nat.toDigits 16 c.toNat ++ ['\x7d']

def literalChar (c : Char) : List Char :=
  match c with
  | '"' => ['\\', '"']
  | '\\' => ['\\', '\\']
  | '\n' => ['\\', 'n']
  | '\t' => ['\\', 't']
  | '\x0d' => ['\\', 'r']
  | '\x00' => ['\\', '0']
  | _ => if isInvisible c then codeEscape c else [c]

def literal (s : String) : String :=
  String.ofList ('"' :: s.toList.flatMap literalChar ++ ['"'])

def literals (texts : List String) : String :=
  "[" ++ ", ".intercalate (texts.map literal) ++ "]"

end Text

def summaryOf (name : String) (parts : List String) : String :=
  name ++ " \x7b " ++ ", ".intercalate parts ++ " \x7d"

def summaryOf? : Option String → String
  | some text => "Some(" ++ text ++ ")"
  | none => "None"

def Algorithm.tag : Algorithm → String
  | md5 => "Md5"
  | sha1 => "Sha1"
  | sha224 => "Sha224"
  | sha256 => "Sha256"
  | sha384 => "Sha384"
  | sha512 => "Sha512"
  | sha512_224 => "Sha512_224"
  | sha512_256 => "Sha512_256"
  | sha3_224 => "Sha3_224"
  | sha3_256 => "Sha3_256"
  | sha3_384 => "Sha3_384"
  | sha3_512 => "Sha3_512"

def Owner.summary : Owner → String
  | realm => "Realm"
  | client id => "Client(" ++ Text.literal id ++ ")"

def Settings.summary (s : Settings) : String :=
  summaryOf "PairwiseSettings"
    ["default_algorithm: " ++ s.defaultAlgorithm.tag, "salt_length: " ++ toString s.saltLength]

def Registry.summary (r : Registry) : String :=
  summaryOf "ProtocolMapperRegistry" ["mappers: " ++ Text.literals r.ids]

def SaveContext.summary (c : SaveContext) : String :=
  summaryOf "ValidationContext"
    ["owner: " ++ c.owner.summary, "settings: " ++ c.settings.summary, ".."]

def IssueContext.summary (c : IssueContext) : String :=
  summaryOf "MapperContext"
    ["user: " ++ summaryOf? (c.user.map fun u => u.id.toText),
      "client: " ++ summaryOf? (c.client.map Text.literal), "realm: " ++ Text.literal c.realm,
      "scopes: " ++ Text.literals c.scopes,
      "mappers: " ++ (if c.lookup.isSome then "true" else "false")]

end PairwiseId
