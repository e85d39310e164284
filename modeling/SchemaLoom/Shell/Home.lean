import SchemaLoom.Shell.State

/-!
# Homes

A tilde in front of a word stands for a directory: that of the user who is named
behind it, or else the one in the variable `HOME`.

The rule is that of tilde expansion in the POSIX shell command language; a user
who is not known leaves the word as it is.
-/

namespace SchemaLoom.Shell

def userHomes : List (String × String) :=
  [("root", "/root"), ("daemon", "/usr/sbin"), ("bin", "/bin"), ("sys", "/dev"), ("sync", "/bin"),
    ("games", "/usr/games"), ("man", "/var/cache/man"), ("lp", "/var/spool/lpd"),
    ("mail", "/var/mail"), ("news", "/var/spool/news"), ("uucp", "/var/spool/uucp"),
    ("proxy", "/bin"), ("www-data", "/var/www"), ("backup", "/var/backups"), ("list", "/var/list"),
    ("irc", "/run/ircd"), ("nobody", "/nonexistent")]

/-- The home that a tilde in front of a name stands for; without a name it is
one's own. -/
def Session.home? (shell : Session) (name : List Char) : Option (List Char) :=
  if name = [] then shell.value? "HOME".toList
  else (userHomes.lookup (String.ofList name)).map String.toList

/-- The name behind a tilde, which goes on to a slash, or to a colon where those
separate paths. It holds nothing that is quoted or expanded. -/
def nameBehindTilde (endsAtColon : Bool) : Word Command → Option (List Char)
  | [] => some []
  | .char c false :: rest =>
    if c = '/' || (c = ':' && endsAtColon) then some []
    else (nameBehindTilde endsAtColon rest).map (c :: ·)
  | _ :: _ => none

end SchemaLoom.Shell
