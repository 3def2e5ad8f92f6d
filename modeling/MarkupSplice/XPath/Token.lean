import MarkupSplice.Decimal.Shortest
import MarkupSplice.Text.Bytes
import MarkupSplice.Text.Digits
import MarkupSplice.Text.Quoted
import MarkupSplice.Text.Search
import MarkupSplice.Text.Shorter

/-!
# Tokens of path expressions

White space between tokens is skipped. A name may have a colon inside when a
name could begin behind it, so an axis keeps its two colons apart.
-/
namespace MarkupSplice.XPath
open Text

inductive Token
  | slash
  | doubleSlash
  | leftBracket
  | rightBracket
  | leftParenthesis
  | rightParenthesis
  | at
  | dot
  | doubleDot
  | comma
  | pipe
  | doubleColon
  | star
  | equal
  | notEqual
  | less
  | lessOrEqual
  | greater
  | greaterOrEqual
  | plus
  | minus
  | name (text : String)
  | literal (text : String)
  | number (value : Float)
deriving BEq, Repr, Inhabited

def Token.describe : Token → String
  | .slash => "Slash"
  | .doubleSlash => "DoubleSlash"
  | .leftBracket => "LBracket"
  | .rightBracket => "RBracket"
  | .leftParenthesis => "LParen"
  | .rightParenthesis => "RParen"
  | .at => "At"
  | .dot => "Dot"
  | .doubleDot => "DotDot"
  | .comma => "Comma"
  | .pipe => "Pipe"
  | .doubleColon => "ColonColon"
  | .star => "Star"
  | .equal => "Eq"
  | .notEqual => "NotEq"
  | .less => "Lt"
  | .lessOrEqual => "Le"
  | .greater => "Gt"
  | .greaterOrEqual => "Ge"
  | .plus => "Plus"
  | .minus => "Minus"
  | .name s => "Name(" ++ quote s ++ ")"
  | .literal s => "Literal(" ++ quote s ++ ")"
  | .number x => "Number(" ++ Decimal.marked.write x ++ ")"

inductive Malformed
  | lone (c : Char)
  | expectedNotEqual
  | unterminatedLiteral
deriving DecidableEq, Repr

def Malformed.message : Malformed → String
  | .lone c => "unexpected '" ++ c.toString ++ "'"
  | .expectedNotEqual => "expected '!='"
  | .unterminatedLiteral => "unterminated string literal"

/-- Characters outside ASCII all count as letters. -/
def isNameStart (c : Char) : Bool := c.isAlpha || c == '_' || c.toNat ≥ 0x80

def isNameChar (c : Char) : Bool :=
  c.isAlphanum || c == '_' || c == '-' || c == '.' || c.toNat ≥ 0x80

def readName : List Char → List Char × List Char
  | [] => ([], [])
  | c :: s =>
    if isNameChar c || (c == ':' && s.head?.any isNameStart) then
      let (name, r) := readName s
      (c :: name, r)
    else ([], c :: s)

theorem length_readName (s : List Char) : (readName s).2.length ≤ s.length := by
  induction s with
  | nil => simp [readName]
  | cons c s ih =>
    simp only [readName]
    split
    · simp only [List.length_cons]
      omega
    · exact Nat.le_refl _

def decimalValue (whole fraction : List Char) : Float :=
  Float.ofScientific ((decimal? (whole ++ fraction)).getD 0) true fraction.length

def readFraction (s : List Char) : List Char × NoLonger s :=
  match s with
  | '.' :: r => (r.takeWhile isDigit, (NoLonger.dropWhile isDigit r).behind '.' |>.noLonger)
  | r => ([], .all r)

def singleToken? : Char → Option Token
  | '[' => some .leftBracket
  | ']' => some .rightBracket
  | '(' => some .leftParenthesis
  | ')' => some .rightParenthesis
  | '@' => some .at
  | ',' => some .comma
  | '|' => some .pipe
  | '*' => some .star
  | '=' => some .equal
  | '+' => some .plus
  | '-' => some .minus
  | _ => none

def orLonger (c : Char) (long short : Token) (s : List Char) : Token × NoLonger s :=
  match s with
  | c' :: _ => if c' = c then (long, .drop 1 _) else (short, .all _)
  | [] => (short, .all _)

def readToken (c : Char) (s : List Char) : Except Malformed (Token × NoLonger s) :=
  match c with
  | '/' => .ok (orLonger '/' .doubleSlash .slash s)
  | '<' => .ok (orLonger '=' .lessOrEqual .less s)
  | '>' => .ok (orLonger '=' .greaterOrEqual .greater s)
  | '.' =>
    if s.head?.any isDigit then
      .ok (.number (decimalValue [] (s.takeWhile isDigit)),
        .dropWhile isDigit s)
    else .ok (orLonger '.' .doubleDot .dot s)
  | ':' =>
    match s with
    | ':' :: _ => .ok (.doubleColon, .drop 1 _)
    | _ => .error (.lone ':')
  | '!' =>
    match s with
    | '=' :: _ => .ok (.notEqual, .drop 1 _)
    | _ => .error .expectedNotEqual
  | c =>
    if c = '"' ∨ c = '\'' then
      match h : cutAt [c] s with
      | none => .error .unterminatedLiteral
      | some (text, r) => .ok (.literal (String.ofList text), ⟨r, length_of_cutAt h⟩)
    else if isDigit c then
      let behind := NoLonger.dropWhile isDigit s
      let (fraction, r) := readFraction behind.val
      .ok (.number (decimalValue (c :: s.takeWhile isDigit) fraction), behind.trans r)
    else if isNameStart c then
      .ok (.name (String.ofList (c :: (readName s).1)), ⟨(readName s).2, length_readName s⟩)
    else
      match singleToken? c with
      | some t => .ok (t, .all s)
      | none => .error (.lone c)

/-- The tokens of a text that begins at the byte offset `start`, each with its offset. -/
def tokens (start : Nat) (s : List Char) : Except (Nat × Malformed) (List (Nat × Token)) :=
  match s with
  | [] => .ok []
  | c :: r =>
    if isBlank c then tokens (start + c.utf8Size) r
    else
      match readToken c r with
      | .error e => .error (start, e)
      | .ok (t, ⟨r', h⟩) =>
        have := length_lt_cons_of_le c h
        (tokens (start + byteLength (c :: r) - byteLength r') r').map fun ts => (start, t) :: ts
termination_by s.length
decreasing_by
  · exact Nat.lt_succ_self _
  · exact this

end MarkupSplice.XPath
