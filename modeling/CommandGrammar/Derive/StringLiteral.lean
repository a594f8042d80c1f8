import CommandGrammar.Text.Blank
import CommandGrammar.Text.Escaped

/-! String literals of Rust source code: the text that one stands for, and the literal that is
written for a text. -/

namespace CommandGrammar.Derive.StringLiteral

/-- The value of hexadecimal digits. Other characters do not count. -/
def hexValue (cs : List Char) : Nat :=
  cs.foldl (fun n c =>
    if '0' ≤ c && c ≤ '9' then 16 * n + (c.toNat - 48)
    else if 'a' ≤ c && c ≤ 'f' then 16 * n + (c.toNat - 87)
    else if 'A' ≤ c && c ≤ 'F' then 16 * n + (c.toNat - 55)
    else n) 0

def simpleEscape : Char → Char
  | 'n' => '\n'
  | 'r' => '\r'
  | 't' => '\t'
  | '0' => '\x00'
  | c => c

/-- The text between the quotes of a literal, with escapes replaced. A backslash at the end of a
line continues it behind the white space that follows. -/
def unescape : List Char → List Char
  | [] => []
  | '\r' :: '\n' :: cs => '\n' :: unescape cs
  | '\\' :: 'x' :: a :: b :: cs => Char.ofNat (hexValue [a, b]) :: unescape cs
  | '\\' :: 'u' :: '\x7b' :: cs =>
    Char.ofNat (hexValue (cs.takeWhile (· != '\x7d'))) :: unescape (cs.dropWhile (· != '\x7d')).tail
  | '\\' :: '\r' :: cs => unescape (cs.dropWhile Text.isBlank)
  | '\\' :: '\n' :: cs => unescape (cs.dropWhile Text.isBlank)
  | '\\' :: c :: cs => simpleEscape c :: unescape cs
  | c :: cs => c :: unescape cs
termination_by cs => cs.length
decreasing_by
  all_goals
    have := (List.dropWhile_sublist (l := cs) Text.isBlank).length_le
    have := (List.dropWhile_sublist (l := cs) (· != '\x7d')).length_le
    simp only [List.length_cons, List.length_tail]
    omega

/-- The text of a literal, if it is a string. A name directly behind the literal does not count. -/
def value? (literal : String) : Option String :=
  let content := fun (quoted : List Char) => (quoted.reverse.dropWhile (· != '"')).tail.reverse
  match literal.toList with
  | '"' :: rest => some (String.ofList (unescape (content rest)))
  | 'r' :: rest => some (String.ofList (content (rest.dropWhile (· == '#')).tail))
  | _ => none

/-- The characters of a literal between its quotes. A null character in front of an octal digit is
written in hexadecimal. -/
def escape : List Char → List Char
  | [] => []
  | '\x00' :: cs =>
    (if cs.head?.any fun d => '0' ≤ d && d ≤ '7' then ['\\', 'x', '0', '0'] else ['\\', '0']) ++
      escape cs
  | c :: cs => Text.escapedChar c ++ escape cs

def ofText (text : String) : String := String.ofList ('"' :: escape text.toList ++ ['"'])

end CommandGrammar.Derive.StringLiteral
