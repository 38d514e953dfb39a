import PairwiseId.Text.Basic
import PairwiseId.Unicode.Alphanumeric

/- Filters for log output. A filter is a list of directives between commas; a
   directive names a level, or a target or a span and then, after an equals sign,
   a level. A directive with a level must not stand between blanks. The grammar here
   does not look into the values of fields, which may be patterns, and has the
   letters of Unicode 15.0. What is proved holds for all languages of filters. -/
namespace PairwiseId.LogFilter

set_option autoImplicit false

def levelNames : List String := ["off", "error", "warn", "info", "debug", "trace"]

-- A level may be left out, or be a number up to 5.
def isLevel (cs : List Char) : Bool :=
  cs = [] || (Text.word? cs).any (· ≤ 5) ||
    levelNames.any fun name => Text.sameIgnoringAsciiCase name (String.ofList cs)

def isSpanEnd (exact : Bool) : List Char → Bool
  | [] => true
  | '=' :: level => exact && isLevel level
  | _ => false

-- The rest of a field, of which `started` tells whether anything came before.
def isField (exact started : Bool) : List Char → Bool
  | '\x7d' :: ']' :: rest => started && isSpanEnd exact rest
  | '\x7d' :: _ => false
  | _ :: rest => isField exact true rest
  | [] => false

def isSpan (exact : Bool) : List Char → Bool
  | ']' :: rest => isSpanEnd exact rest
  | '\x7b' :: rest => isField exact false rest
  | _ :: rest => isSpan exact rest
  | [] => false

def isTarget (exact : Bool) : List Char → Bool
  | '=' :: level => exact && isLevel level
  | '[' :: rest => isSpan exact rest
  | _ :: rest => isTarget exact rest
  | [] => true

def isWordChar (c : Char) : Bool :=
  c == '-' || c == ':' || c == '_' || c.isAlphanum || Unicode.alphanumeric.has c

def isDirective (text : String) : Bool :=
  let trimmed := Text.trim text
  let exact := trimmed == text
  match trimmed.toList with
  | [] => false
  | '[' :: rest => isSpan exact rest
  | c :: rest => isWordChar c && isTarget exact rest

-- Empty directives are passed over.
def isFilter (text : String) : Bool :=
  let pieces := (Text.splitAt ',' text.toList).map String.ofList
  (pieces.filter (· ≠ "")).all isDirective

-- What decides which texts are filters. The name of a level is one.
structure Language where
  accepts : String → Bool
  levels : ∀ name ∈ levelNames, accepts name = true

def grammar : Language := ⟨isFilter, by decide +kernel⟩

end PairwiseId.LogFilter
