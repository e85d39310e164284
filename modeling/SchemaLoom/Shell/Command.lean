import SchemaLoom.Text.Utf8

/-!
# Commands of a shell

A script is made of commands and a command is made of words. A word is kept as
it was written, with the quoting of each character, until it is expanded.
Scripts, words and values are bytes: a byte is written as the character that has
its number.

The commands are those of the POSIX shell command language, whose grammar this
tree follows. A command that compiles a schema may be any program; only the
shell and the few programs that scripts of it call are modelled, so that a run
with such a command can be computed. What is proved about runs holds for every
compiler.
-/

namespace SchemaLoom.Shell

/-- The bytes of a text, each as the character that has its number. -/
def ofText (s : String) : List Char := (Text.Utf8.encode s).map fun b => Char.ofNat b.toNat

def toBytes (s : List Char) : List UInt8 := s.map fun c => UInt8.ofNat c.toNat

/-- The text that bytes are, with replacement characters where they are none. -/
def toText (s : List Char) : String := Text.Utf8.decodeLossy (toBytes s)

/-- What is made of the value of a parameter. Most uses ask whether there is a
value, and give a word or an error in place of one; some of them can count an
empty value as none. The others give its length, or cut off what a pattern
matches at its start or its end. -/
inductive Use where
  | value
  | length
  | orElse (emptyIsNone : Bool)
  | orAssign (emptyIsNone : Bool)
  | instead (emptyIsNone : Bool)
  | orFail (emptyIsNone : Bool)
  | cutStart (longest : Bool)
  | cutEnd (longest : Bool)
  | unknown
  deriving DecidableEq, Repr

/-- A part of a word, over the type of the scripts in it. A character stands
only for itself if it is quoted, and the beginning of a quotation makes a word
even if there is nothing in it. The other parts stand for what is made of a
parameter, for what a script writes, and for the value of an expression. -/
inductive Part (σ : Type) where
  | char (c : Char) (quoted : Bool)
  | quotation
  | parameter (name : List Char) (use : Use) (word : List (Part σ)) (quoted : Bool)
  | substitution (script : σ) (quoted : Bool)
  | arithmetic (expression : List (Part σ)) (quoted : Bool)

abbrev Word (σ : Type) := List (Part σ)

inductive Opening where
  | read
  | write
  | overwrite
  | append
  | readWrite
  deriving DecidableEq, Repr

/-- Where a descriptor is made to lead: to a file, to where another descriptor
leads, with a hyphen that closes it, or to a document by its place among those
of the script. -/
inductive Target (σ : Type) where
  | file (opening : Opening) (path : List (Part σ))
  | copy (other : List (Part σ))
  | document (place : Nat)

/-- A redirection of a descriptor, by its number. -/
structure Redirection (σ : Type) where
  descriptor : Nat
  target : Target σ

/-- A command. Where it can be at fault it knows its line. Pipelines, lists and
compound commands are kept as they were written; nothing is expanded before the
command runs. -/
inductive Command where
  | nothing
  | simple (line : Nat) (assignments : List (List Char × List (Part Command)))
      (words : List (List (Part Command))) (redirections : List (Redirection Command))
  | pipeline (commands : List Command)
  | invert (command : Command)
  | both (first second : Command)
  | either (first second : Command)
  | sequence (first second : Command)
  | background (command : Command)
  | subshell (line : Nat) (body : Command) (redirections : List (Redirection Command))
  | redirected (line : Nat) (body : Command) (redirections : List (Redirection Command))
  | conditional (test yes no : Command)
  | loop (onSuccess : Bool) (test body : Command)
  | forEach (line : Nat) (name : List Char) (words : List (List (Part Command))) (body : Command)
  | choice (line : Nat) (subject : List (Part Command))
      (cases : List (List (List (Part Command)) × Command))
  | define (name : List Char) (body : Command)

/-- Two commands one after the other, of which the first may be missing. -/
def Command.followedBy : Command → Command → Command
  | .nothing, second => second
  | first, second => .sequence first second

end SchemaLoom.Shell
