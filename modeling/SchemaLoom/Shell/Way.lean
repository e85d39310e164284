/-!
# Ways to run

What can be switched on and off while a shell runs. Each way has a name, and
most have a letter.

The names and letters are those of the `set` utility of POSIX, with the ones
that shells commonly have besides. The ways for a user at a terminal are kept
and shown, and have no effect.
-/

namespace SchemaLoom.Shell

/-- A way for a shell to run, by the name that switches it. Most change what
happens at a failure, which lines and commands are shown, or what expansions and
redirections may do. -/
inductive Way where
  | errexit
  | noglob
  | ignoreeof
  | interactive
  | monitor
  | noexec
  | stdin
  | xtrace
  | verbose
  | vi
  | emacs
  | noclobber
  | allexport
  | notify
  | nounset
  | privileged
  | nolog
  | debug
  deriving DecidableEq, Repr

namespace Way

/-- All ways in the order that they are listed in. -/
def all : List Way :=
  [.errexit, .noglob, .ignoreeof, .interactive, .monitor, .noexec, .stdin, .xtrace, .verbose, .vi,
    .emacs, .noclobber, .allexport, .notify, .nounset, .privileged, .nolog, .debug]

def name : Way → String
  | errexit => "errexit"
  | noglob => "noglob"
  | ignoreeof => "ignoreeof"
  | interactive => "interactive"
  | monitor => "monitor"
  | noexec => "noexec"
  | stdin => "stdin"
  | xtrace => "xtrace"
  | verbose => "verbose"
  | vi => "vi"
  | emacs => "emacs"
  | noclobber => "noclobber"
  | allexport => "allexport"
  | notify => "notify"
  | nounset => "nounset"
  | privileged => "privileged"
  | nolog => "nolog"
  | debug => "debug"

def letter? : Way → Option Char
  | errexit => some 'e'
  | noglob => some 'f'
  | ignoreeof => some 'I'
  | interactive => some 'i'
  | monitor => some 'm'
  | noexec => some 'n'
  | stdin => some 's'
  | xtrace => some 'x'
  | verbose => some 'v'
  | vi => some 'V'
  | emacs => some 'E'
  | noclobber => some 'C'
  | allexport => some 'a'
  | notify => some 'b'
  | nounset => some 'u'
  | privileged => some 'p'
  | nolog | debug => none

def ofLetter? (letter : Char) : Option Way := all.find? fun way => way.letter? = some letter

def ofName? (name : String) : Option Way := all.find? fun way => way.name = name

/-- The letters of the ways that are switched on, the last of all ways first. -/
def letters (ways : List Way) : List Char := (all.reverse.filter ways.contains).filterMap letter?

end Way
end SchemaLoom.Shell
