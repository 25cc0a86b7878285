/-
The environment: variables by name, and what does not hang on the program's own
settings: the homes of users, the own one of which a variable may name, and the
width of the console.
-/
import Colloquy.Number.Decimal
import Colloquy.Number.Whole
import Colloquy.Text.Casing

namespace Colloquy

/-- Variables in order; of two with one name, the later counts. -/
abbrev Environment := List (String × String)

namespace Environment

/-- The value of a variable. -/
def get? (env : Environment) (name : String) : Option String :=
  env.reverse.lookup name

/-- A name in lower case. -/
def fold (name : String) : String := .ofList (Text.lower name.toList)

/-- The homes of the users that every system has; the one without a name is the
user that runs. -/
def systemHomes : List (String × String) := [
  ("", "/root"), ("root", "/root"), ("daemon", "/usr/sbin"), ("bin", "/bin"),
  ("sys", "/dev"), ("sync", "/bin"), ("games", "/usr/games"),
  ("man", "/var/cache/man"), ("lp", "/var/spool/lpd"), ("mail", "/var/mail"),
  ("news", "/var/spool/news"), ("uucp", "/var/spool/uucp"), ("proxy", "/bin"),
  ("www-data", "/var/www"), ("backup", "/var/backups"), ("list", "/var/list"),
  ("irc", "/run/ircd"), ("_apt", "/nonexistent"), ("nobody", "/nonexistent")]

/-- The home of a user, or the own one for the empty name. -/
def homeOf (env : Environment) (user : String) : Option String :=
  match if user.isEmpty then env.get? "HOME" else none with
  | some home => some home
  | none => systemHomes.lookup user

-- ============================================================ console

/-- The columns of a console that does not tell its width. -/
def usualColumns : Nat := 80

/-- The positive number that a text spells in digits of any script, blanks
around it, a plus sign and single low lines between digits aside. -/
def positive? (text : String) : Option Nat := do
  let spelled ← Binary64.dropDigitSeparators
    (Binary64.plainDigits (Text.trimBy Text.isMargin text.toList))
  let digits := match spelled with
    | '+' :: digits => digits
    | digits => digits
  let n := Binary64.digitsValue digits
  if digits.all Char.isDigit && digits.length ≤ Whole.maxDigits && 0 < n then
    some n
  else none

/-- The columns of the console. -/
def columns (env : Environment) : Nat :=
  ((env.get? "COLUMNS").bind positive?).getD usualColumns

end Environment
end Colloquy
