import ApiStubs.Description

/-!
# Writing a description

A description can be written in two layouts, both of which are read back as they were
written:

* `Writing.flow` writes it on one line, in brackets,
* `Writing.block` writes one line for each category, and one or two for each entry.

In both, every text is quoted: visible ASCII characters stand for themselves, but for
quotes and backslashes, and all others are escaped by their code (`Writing.quoted`). So
nothing in a text can be taken for a part of the layout, a number or a word.
-/

namespace ApiStubs
namespace Writing

/-! ### Quoted texts -/

/-- Whether a character stands for itself. -/
def isBare (c : Char) : Bool := ' ' ≤ c && c ≤ '~' && c != '"' && c != '\\'

/-- The last `count` digits of a number in base 16. -/
def hexDigits (count n : Nat) : List Char :=
  match count with
  | 0 => []
  | count + 1 => hexDigits count (n / 16) ++ [Nat.digitChar (n % 16)]

/-- A character in quotes. -/
def quotedChar (c : Char) : List Char :=
  if isBare c then [c] else '\\' :: 'U' :: hexDigits 8 c.toNat

/-- A text in quotes. -/
def quoted (text : String) : String :=
  String.ofList ('"' :: text.toList.flatMap quotedChar ++ ['"'])

/-- A sequence in brackets. -/
def sequence (items : List String) : String := "[" ++ ", ".intercalate items ++ "]"

/-! ### Entries -/

/-- The key of a full or degraded entry. -/
def signature (s : Signature) : String :=
  sequence [quoted s.name, quoted s.returnType, quoted s.comment, quoted s.link]

/-- The parameters of a full entry. -/
def params (ps : List Param) : String :=
  sequence (ps.map fun p => sequence [quoted p.name, quoted p.type])

/-- A shorthand entry. -/
def shorthand (name returnType comment : String) : String :=
  sequence [quoted name, quoted returnType, quoted comment]

/-! ### On one line -/

/-- A mapping in brackets with one key. -/
def pair (key value : String) : String := "? " ++ key ++ " : " ++ value

/-- A mapping in brackets. -/
def mapping (pairs : List String) : String := "\x7b" ++ ", ".intercalate pairs ++ "\x7d"

/-- An entry in brackets. -/
def flowEntry : Entry → String
  | .shorthand name returnType comment => shorthand name returnType comment
  | .full s ps => mapping [pair (signature s) (params ps)]
  | .degraded s raw => mapping [pair (signature s) (quoted raw)]

/-- A category in brackets. -/
def flowCategory (category : String × List Entry) : String :=
  pair (quoted category.1)
    (mapping [pair (quoted "functions") (sequence (category.2.map flowEntry))])

/-- A description on one line. -/
def flow (d : Description) : String := mapping (d.categories.map flowCategory)

/-! ### On several lines -/

/-- The lines of a full or degraded entry with the text of its value. -/
def keyedLines (s : Signature) (value : String) : List String :=
  ["    - ? " ++ signature s, "      : " ++ value]

/-- The lines of an entry. -/
def entryLines : Entry → List String
  | .shorthand name returnType comment => ["    - " ++ shorthand name returnType comment]
  | .full s ps => keyedLines s (params ps)
  | .degraded s raw => keyedLines s (quoted raw)

/-- The lines of a category. -/
def categoryLines (category : String × List Entry) : List String :=
  (quoted category.1 ++ ":") ::
    if category.2.isEmpty then ["  functions: []"]
    else "  functions:" :: category.2.flatMap entryLines

/-- A description on several lines, each with a line feed. -/
def block (d : Description) : String :=
  String.join ((d.categories.flatMap categoryLines).map (· ++ "\n"))

end Writing
end ApiStubs
