/-
Usage: what a program says about its command line. A program is asked for help,
or for its version, by switches that end it at once, even if what follows them
is wrong; for arguments that are not in its grammar it tells its usage and what
is wrong. The grammar and the help come from one description.
-/
import Colloquy.Arguments

namespace Colloquy

/-- What a switch of a program means. -/
inductive Usage.Mark
  | help
  | version
  | strict
  | definitions
  | withoutBuiltins
deriving DecidableEq, Repr

/-- A switch: the names it goes by, the name of its value if one goes with it,
what it means, and what it is for. -/
structure Usage.Switch where
  names : List String
  value : Option String := none
  mark : Usage.Mark
  purpose : String
deriving DecidableEq, Repr

/-- The operands of a program: one, one or more, or a command with all that
belongs to it. -/
inductive Usage.Operands
  | one (name purpose : String)
  | several (name purpose : String)
  | command (name : String) (purposes : List (String × String))
deriving DecidableEq, Repr

/-- The usage of a program: its name, what it is for, the text of its version,
its switches and its operands. -/
structure Usage where
  program : String
  purpose : Option String := none
  version : String := ""
  switches : List Usage.Switch
  operands : Usage.Operands
deriving DecidableEq, Repr

namespace Usage

-- ============================================================ grammar

/-- The name that reports give the operands. -/
def Operands.name : Operands → String
  | .one name _ | .several name _ | .command name _ => name

/-- How many operands there must be. -/
def Operands.arity : Operands → Arguments.Arity
  | .one .. => .one
  | .several .. => .several
  | .command .. => .rest

/-- A switch in a grammar. -/
def Switch.accepted (s : Switch) : Arguments.Switch Mark :=
  { names := s.names, takesValue := s.value.isSome, meaning := s.mark }

/-- The grammar of a program's arguments. -/
def grammar (u : Usage) : Arguments.Grammar Mark :=
  { switches := u.switches.map Switch.accepted, operand := u.operands.name,
    arity := u.operands.arity }

/-- The switch that asks for help. -/
def helpSwitch : Switch :=
  { names := ["-h", "--help"], mark := .help,
    purpose := "show this help message and exit" }

-- ============================================================ reading

/-- Why a program ends before it starts: it has been asked for help or for its
version, or its arguments are wrong. -/
inductive Stop
  | help (usage : Usage)
  | version (usage : Usage)
  | misused (usage : Usage) (fault : Arguments.Fault)
deriving DecidableEq, Repr

/-- The program ends with a fault. -/
def misuse {α : Type} (u : Usage) (fault : Arguments.Fault) : Except Stop α :=
  .error (.misused u fault)

/-- How a switch ends the program, if it does. -/
def stop? (u : Usage) : Arguments.Finding Mark → Option Stop
  | .switch .help _ => some (.help u)
  | .switch .version _ => some (.version u)
  | _ => none

/-- What was found among the arguments, and what is left over. -/
def read (u : Usage) (arguments : List String) :
    Except Stop (List (Arguments.Finding Mark) × List String) :=
  let r := Arguments.read u.grammar arguments
  match r.found.findSome? u.stop?, r.fault with
  | some stop, _ => .error stop
  | none, some fault => u.misuse fault
  | none, none => .ok (r.found, r.left)

/-- The operands among what was found. -/
def operandsOf (found : List (Arguments.Finding Mark)) : List String :=
  found.flatMap fun
    | .operands texts => texts
    | .switch .. => []

/-- The values given to a switch, one for each time that it was found. -/
def valuesOf (mark : Mark) (found : List (Arguments.Finding Mark)) :
    List (Option String) :=
  found.filterMap fun
    | .switch m value => if m = mark then some value else none
    | .operands _ => none

/-- Whether a switch was given. -/
def isGiven (mark : Mark) (found : List (Arguments.Finding Mark)) : Bool :=
  found.any fun
    | .switch m _ => m = mark
    | .operands _ => false

end Usage
end Colloquy
