import ApiStubs.Description
import ApiStubs.Text.Lines

/-!
# Stub files

A stub file tells a Lua language server about functions that exist elsewhere. It
is a list of blocks, one per function, parted by an empty line. A block consists
of comment lines, which begin with `---`, and a final line that declares the
function with an empty body.

* `Stub.comment` puts `---` before every line of a text, so that the text of a
  description stays in the comment. Lines end at line feeds only: a carriage return
  is kept as it stands.
* `Stub.block` lays out one entry; a degraded entry shows its unreadable
  parameters in a `TODO` comment and declares a function without parameters.
* `Stub.file` joins the header, where it is wanted, and the blocks.

An empty line ends a block for the language server. The lines of a block follow
each other directly for that reason, also where an entry has no parameters.
-/

namespace ApiStubs
namespace Stub

/-- The address below which the links of a description lie, unless another one is
given. -/
def defaultBaseUrl : String :=
  "https://api.tabletopsimulator.com/lua-in-tabletop-simulator"

/-- What a stub file is made for. The category is also the Lua table to which its
functions belong. -/
structure Settings where
  category : String
  baseUrl : String
  header : Bool
  deriving DecidableEq, Repr

/-- The lines that mark a file as a definition file and declare its class. -/
def header (category : String) : String :=
  "---@meta " ++ category ++ "\n---@class " ++ category

/-- A text as comment lines: `---` before every line. Line feeds at the end of the
text are dropped first, so that a text of one line becomes one comment line. -/
def comment (text : String) : String :=
  "\n".intercalate ((Text.lines (Text.withoutFinalLineFeeds text)).map ("---" ++ ·))

/-- The line for a parameter. -/
def param (p : Param) : String :=
  "---@param " ++ p.name ++ " " ++ p.type

/-- The comment that stands for parameters that could not be read. -/
def todo (raw : String) : String :=
  comment ("TODO: " ++ raw)

/-- The line for the returned value. -/
def returns (type : String) : String :=
  "---@return " ++ type

/-- A ruled-off link to the online documentation. -/
def link (baseUrl path : String) : String :=
  "---\n---***\n---[Open Documentation](" ++ baseUrl ++ path ++ ")\n---"

/-- The declaration of a function with an empty body. -/
def declaration (category name : String) (params : List String) : String :=
  "function " ++ category ++ "." ++ name ++ "(" ++ ", ".intercalate params ++ ") end"

/-- The parts of the block of an entry, from top to bottom. -/
def parts (category baseUrl : String) : Entry → List String
  | .shorthand name returnType text =>
    [comment text, returns returnType, declaration category name []]
  | .full signature params =>
    comment signature.comment :: params.map param ++
      [returns signature.returnType, link baseUrl signature.link,
        declaration category signature.name (params.map Param.name)]
  | .degraded signature raw =>
    [comment signature.comment, todo raw, returns signature.returnType,
      link baseUrl signature.link, declaration category signature.name []]

/-- The block of an entry. -/
def block (category baseUrl : String) (entry : Entry) : String :=
  "\n".intercalate (parts category baseUrl entry)

/-- The blocks of a file: the header, where it is wanted, and one for each entry. -/
def blocks (settings : Settings) (entries : List Entry) : List String :=
  (if settings.header then [header settings.category] else []) ++
    entries.map (block settings.category settings.baseUrl)

/-- The text of a file. Its blocks are parted by an empty line, and no line feed
follows the last one. -/
def text (settings : Settings) (entries : List Entry) : String :=
  "\n\n".intercalate (blocks settings entries)

/-- Why there is no stub file: the description has no such category. -/
inductive Failure where
  | categoryNotLoaded (category : String)
  deriving DecidableEq, Repr

namespace Failure

/-- The failure in words. -/
def message : Failure → String
  | categoryNotLoaded category => "category '" ++ category ++ "' was not loaded"

end Failure

/-- The stub file for one category of a description. -/
def file (settings : Settings) (description : Description) : Except Failure String :=
  match description.category? settings.category with
  | none => .error (.categoryNotLoaded settings.category)
  | some entries => .ok (text settings entries)

end Stub
end ApiStubs
