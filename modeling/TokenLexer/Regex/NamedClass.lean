import TokenLexer.Regex.CharClass
import TokenLexer.Text.Category
import TokenLexer.Text.Script

/-!
# Classes with a name

The classes that an expression can call by name: the one-letter escapes such as
`\d`, the bracketed names such as `[:alpha:]`, and the Unicode properties.
The first two kinds are ASCII only.
-/

namespace TokenLexer

namespace NamedClass

private def digit : CodeRanges := [(0x30, 0x39)]

private def lower : CodeRanges := [(0x61, 0x7a)]

private def upper : CodeRanges := [(0x41, 0x5a)]

private def blanks : CodeRanges := [(0x09, 0x0a), (0x0c, 0x0d), (0x20, 0x20)]

private def word : CodeRanges := digit ++ upper ++ [(0x5f, 0x5f)] ++ lower

/-- The class of an escape letter: `\d`, `\s`, `\w`, and their opposites in upper case. -/
def ofLetter? : Char → Option ClassItem
  | 'd' => some ⟨digit, false⟩
  | 'D' => some ⟨digit, true⟩
  | 's' => some ⟨blanks, false⟩
  | 'S' => some ⟨blanks, true⟩
  | 'w' => some ⟨word, false⟩
  | 'W' => some ⟨word, true⟩
  | _ => none

private def bracketed : List (String × CodeRanges) :=
  [ ("alnum", digit ++ upper ++ lower),
    ("alpha", upper ++ lower),
    ("ascii", [(0x00, 0x7f)]),
    ("blank", [(0x09, 0x09), (0x20, 0x20)]),
    ("cntrl", [(0x00, 0x1f), (0x7f, 0x7f)]),
    ("digit", digit),
    ("graph", [(0x21, 0x7e)]),
    ("lower", lower),
    ("print", [(0x20, 0x7e)]),
    ("punct", [(0x21, 0x2f), (0x3a, 0x40), (0x5b, 0x60), (0x7b, 0x7e)]),
    ("space", [(0x09, 0x0d), (0x20, 0x20)]),
    ("upper", upper),
    ("word", word),
    ("xdigit", digit ++ [(0x41, 0x46), (0x61, 0x66)]) ]

private def lookUp (table : String → Option CodeRanges) (name : List Char) : Option ClassItem :=
  match name with
  | '^' :: rest => (table (String.ofList rest)).map fun ranges => ⟨ranges, true⟩
  | _ => (table (String.ofList name)).map fun ranges => ⟨ranges, false⟩

/-- The class called `name` between `[:` and `:]`; a leading `^` negates it. -/
def ofBracket? (name : List Char) : Option ClassItem :=
  lookUp (fun known => List.lookup known bracketed) name

/-- A Unicode property by its name: every character, a category or a script. -/
private def property? (name : String) : Option CodeRanges :=
  if name = "Any" then some [(0, 0x10ffff)] else (Category.find? name).or (Script.find? name)

/-- The class of a Unicode property; a leading `^` negates it. -/
def ofProperty? (name : List Char) : Option ClassItem :=
  lookUp property? name

end NamedClass

end TokenLexer
