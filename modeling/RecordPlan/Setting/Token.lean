import RecordPlan.Text.Blank
import RecordPlan.Text.Utf8

/-!
# Tokens

The value of a setting is a text of **words** – domains, host IDs,
keywords – and punctuation. Blanks separate words and mean nothing else.
The operators are written double, `&&` and `||`; a run of ampersands or
of bars is read in pairs, and one that is left alone is an error, for it
is most likely a slip.

`Token.ofText` reads a text, `Token.ofBytes` reads bytes, which have to
be UTF-8 in the first place.
-/

namespace RecordPlan

/-- A token of the value of a setting. -/
inductive Token where
  /-- A domain, a host ID, a literal or a keyword. -/
  | word (text : String)
  /-- `,` -/
  | comma
  /-- `(` -/
  | leftParen
  /-- `)` -/
  | rightParen
  /-- `[` -/
  | leftBracket
  /-- `]` -/
  | rightBracket
  /-- `!` -/
  | not
  /-- `&&` -/
  | and
  /-- `||` -/
  | or
  deriving DecidableEq

/-- Why a value cannot be split into tokens. -/
inductive LexError where
  /-- An ampersand stands alone. -/
  | singleAnd
  /-- A bar stands alone. -/
  | singleOr
  /-- The bytes are not UTF-8. -/
  | notUtf8 (defect : Text.Utf8.Defect)
  deriving DecidableEq

namespace LexError

/-- The text of the error in a diagnostic. -/
def message : LexError → String
  | singleAnd => "use \"&&\" instead of \"&\""
  | singleOr => "use \"||\" instead of \"|\""
  | notUtf8 defect => "invalid UTF-8 string: " ++ defect.message

end LexError

namespace Token

/-- The text of a token. -/
def text : Token → String
  | word text => text
  | comma => ","
  | leftParen => "("
  | rightParen => ")"
  | leftBracket => "["
  | rightBracket => "]"
  | not => "!"
  | and => "&&"
  | or => "||"

/-- Whether a token is a word. -/
def isWord : Token → Bool
  | word _ => true
  | _ => false

/-- The tokens that are written with one character. -/
def single? : Char → Option Token
  | ',' => some comma
  | '(' => some leftParen
  | ')' => some rightParen
  | '[' => some leftBracket
  | ']' => some rightBracket
  | '!' => some not
  | _ => none

/-- Whether a character may be part of a word: it is neither a blank nor
punctuation. -/
def isWordChar (c : Char) : Bool :=
  !Text.isBlank c && (single? c).isNone && c != '&' && c != '|'

/-- The word of some characters, given last character first, in front of
other tokens; no word if there are no characters. -/
def consWord (reversed : List Char) (tokens : List Token) : List Token :=
  if reversed = [] then tokens else word (String.ofList reversed.reverse) :: tokens

/-- The tokens of a text that continues a word of which some characters,
given last character first, have been read. -/
def continueText (reversed : List Char) : List Char → Except LexError (List Token)
  | [] => .ok (consWord reversed [])
  | c :: rest =>
    match c, rest with
    | '&', '&' :: rest => (continueText [] rest).map (consWord reversed <| and :: ·)
    | '&', _ => .error .singleAnd
    | '|', '|' :: rest => (continueText [] rest).map (consWord reversed <| or :: ·)
    | '|', _ => .error .singleOr
    | c, rest =>
      match single? c with
      | some token => (continueText [] rest).map (consWord reversed <| token :: ·)
      | none =>
        if Text.isBlank c then (continueText [] rest).map (consWord reversed)
        else continueText (c :: reversed) rest

/-- **The tokens of a text**, or the first operator that is not double. -/
def ofText (text : List Char) : Except LexError (List Token) := continueText [] text

/-- **The tokens of some bytes.** -/
def ofBytes (bytes : List UInt8) : Except LexError (List Token) :=
  match Text.Utf8.decode bytes with
  | .error defect => .error (.notUtf8 defect)
  | .ok text => ofText text

end Token

end RecordPlan
