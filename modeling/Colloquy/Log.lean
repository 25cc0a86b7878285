/-
What the library notes down while it works. An entry is data; how it is written
out is a matter of the format.
-/
import Colloquy.Value

namespace Colloquy.Log

/-- How much an entry matters. -/
inductive Level
  | debug
  | info
  | warning
  | error
  | critical
deriving DecidableEq, Repr

/-- The number of a level; a greater one matters more. -/
def Level.number : Level → Nat
  | .debug => 10
  | .info => 20
  | .warning => 30
  | .error => 40
  | .critical => 50

/-- The name of a level. -/
def Level.name : Level → String
  | .debug => "DEBUG"
  | .info => "INFO"
  | .warning => "WARNING"
  | .error => "ERROR"
  | .critical => "CRITICAL"

/-- Every level. -/
def Level.all : List Level := [.debug, .info, .warning, .error, .critical]

/-- The level with a name. -/
def Level.ofName? (name : String) : Option Level :=
  all.find? fun level => level.name = name

/-- The part of the library that an entry comes from. -/
inductive Source
  | registry
  | handlers
  | events
  | engine
  | session
  | settings
  | commandLine
deriving DecidableEq, Repr

/-- The name of a source. -/
def Source.name : Source → String
  | .registry => "turnflow.workflow.registry"
  | .handlers => "turnflow.workflow.handlers"
  | .events => "turnflow.workflow.events"
  | .engine => "turnflow.workflow.engine"
  | .session => "turnflow.session"
  | .settings => "turnflow.config"
  | .commandLine => "turnflow.main"

/-- An entry: a fixed message, and the details of the case in named fields. -/
structure Entry where
  level : Level
  source : Source
  message : String
  fields : List (String × Value) := []
  failure : Option String := none

end Colloquy.Log
