import NarrativePlayer.Table

/-!
Contract: templates, texts with `{name}` tokens that stand for variables.

A token is an opening brace, one or more ASCII letters, digits or underscores, and a closing brace.
Owns the reading of a template from the left, which keeps the characters behind an opening brace in
mind until it is clear whether they make a token, and filling in: a token becomes the value of its
variable, or nothing if the variable is unset. A value is not looked at for tokens again.
-/

namespace NarrativePlayer.Template

/-- Whether a character may stand in the name of a variable. -/
def isNameCharacter (character : Char) : Bool :=
  character.isAlphanum || character = '_'

/-- A piece of a template. -/
inductive Piece where
  | literal (character : Char)
  | token (name : List Char)
deriving DecidableEq, Repr

/-- The pieces of an opening brace, and characters behind it, latest first, that made no token. -/
def abandoned : Option (List Char) → List Piece
  | none => []
  | some name => .literal '\x7b' :: name.reverse.map .literal

/-- The pieces of a text. `name` holds the characters behind an opening brace that may yet make a
token, latest first. -/
def scan (name : Option (List Char)) : List Char → List Piece
  | [] => abandoned name
  | character :: rest =>
      if character = '\x7b' then abandoned name ++ scan (some []) rest
      else
        match name with
        | none => .literal character :: scan none rest
        | some read =>
            if isNameCharacter character then scan (some (character :: read)) rest
            else if character = '\x7d' ∧ read ≠ [] then .token read.reverse :: scan none rest
            else abandoned (some read) ++ .literal character :: scan none rest

def pieces (template : String) : List Piece :=
  scan none template.toList

/-- The name of a piece, if it is a token. -/
def Piece.name? : Piece → Option String
  | .literal _ => none
  | .token name => some (String.ofList name)

/-- The names of the tokens of a template, in order. -/
def tokens (template : String) : List String :=
  (pieces template).filterMap Piece.name?

/-- What a piece becomes. -/
def Piece.fill (store : Table) : Piece → List Char
  | .literal character => [character]
  | .token name => ((store.find? (String.ofList name)).getD "").toList

/-- A template with its tokens filled in. -/
def fill (template : String) (store : Table) : String :=
  String.ofList ((pieces template).flatMap (Piece.fill store))

end NarrativePlayer.Template
