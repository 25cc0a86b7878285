/-
Templates: messages with placeholders. A placeholder is a path between double
braces, and a path is a row of names joined by single dots. A name is a run of
word characters, so a placeholder with blanks, an empty name or a lone brace in
it is plain text.

The scan below never has to try twice. No brace is a word character, so a path
is all the word characters and dots that follow the opening braces, and the
closing braces stand right after it or there is no placeholder.

What is put in for a placeholder is not scanned again.
-/
import Colloquy.Context
import Colloquy.Text.Search
import Colloquy.Text.Word

namespace Colloquy
namespace Template

-- ============================================================ pieces

/-- Whether a text is a row of names joined by single dots. -/
def isPath (text : List Char) : Bool :=
  (Text.splitAt '.' text).all fun name => !name.isEmpty && name.all Text.isWord

/-- The path of the placeholder at the front of the text, if there is one. -/
def placeholder? (text : List Char) : Option (List Char) :=
  match text with
  | '\x7b' :: '\x7b' :: rest =>
    let path := rest.takeWhile fun c => Text.isWord c || c == '.'
    match rest.drop path.length with
    | '\x7d' :: '\x7d' :: _ => if isPath path then some path else none
    | _ => none
  | _ => none

/-- A piece of a template: a character that stands for itself, or a
placeholder. -/
inductive Piece
  | plain (c : Char)
  | variable (path : List Char)
deriving DecidableEq, Repr

/-- The pieces of a template after its first `skip` characters. -/
def piecesAfter : Nat → List Char → List Piece
  | _, [] => []
  | skip + 1, _ :: rest => piecesAfter skip rest
  | 0, c :: rest =>
    match placeholder? (c :: rest) with
    | some path => .variable path :: piecesAfter (path.length + 3) rest
    | none => .plain c :: piecesAfter 0 rest

/-- The pieces of a template. -/
def pieces (template : String) : List Piece := piecesAfter 0 template.toList

/-- The path of a piece, if it is a placeholder. -/
def Piece.path? : Piece → Option String
  | .plain _ => none
  | .variable path => some (.ofList path)

/-- The paths that a template refers to, in order of appearance. -/
def variablePaths (template : String) : List String :=
  (pieces template).filterMap Piece.path?

-- ========================================================= variables

/-- What a path may refer to. -/
inductive Variable
  | buffer
  | turnCount
  | stateTurnCount
  | wordCount
  | metadata (key : String)
deriving DecidableEq, Repr

/-- The paths that are single names. -/
def namedVariables : List (String × Variable) := [
  ("buffer", .buffer), ("turnCount", .turnCount),
  ("stateTurnCount", .stateTurnCount), ("wordCount", .wordCount)]

/-- How a path to a remembered value starts; the rest of it is one key. -/
def metadataRoot : List Char := "metadata.".toList

/-- What a path refers to, if it refers to anything. -/
def Variable.ofPath? (path : String) : Option Variable :=
  match namedVariables.lookup path with
  | some v => some v
  | none =>
    if metadataRoot.isPrefixOf path.toList
    then some (.metadata (.ofList (path.toList.drop metadataRoot.length)))
    else none

/-- The names that the author of a template may use. -/
def knownNames : List String :=
  ["buffer", "turnCount", "stateTurnCount", "wordCount"]

/-- Whether the author of a template may use a path: it is one of the names, or
it is longer than the start of a path to a remembered value and starts so. -/
def isKnown (path : String) : Bool :=
  knownNames.contains path
    || (metadataRoot.isPrefixOf path.toList
      && decide (metadataRoot.length < path.toList.length))

/-- The text of a variable. A value that is absent or null has none. -/
def Variable.text (ctx : Context) : Variable → String
  | .buffer => ctx.buffer
  | .turnCount => toString ctx.turnCount
  | .stateTurnCount => toString ctx.stateTurnCount
  | .wordCount => toString ctx.wordCount
  | .metadata key =>
    match ctx.metadata.get? key with
    | none | some .null => ""
    | some value => value.text

/-- The text that a path stands for; a path that refers to nothing has none. -/
def textOf (ctx : Context) (path : String) : String :=
  ((Variable.ofPath? path).map (Variable.text ctx)).getD ""

-- ========================================================= rendering

/-- The text of a piece. -/
def Piece.text (ctx : Context) : Piece → List Char
  | .plain c => [c]
  | .variable path => (textOf ctx (.ofList path)).toList

/-- The template with every placeholder replaced by what it stands for. -/
def render (template : String) (ctx : Context) : String :=
  .ofList ((pieces template).flatMap (Piece.text ctx))

end Template
end Colloquy
