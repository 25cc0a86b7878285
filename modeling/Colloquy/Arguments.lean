/-
Arguments of a command line, read against a grammar: switches, some of which
take a value, and operands.

A long switch has two dashes in front, may be cut short as long as it stays
clear which one is meant and the grammar allows it, and has its value after an
equals sign or in the next argument. A short switch is one dash and one letter;
more letters, or its value, may follow at once, and an equals sign after the
first letter is passed over. Two dashes alone end the switches: all that
follows is operands. A negative number is an operand, and so is what starts
with a dash but holds a space and spells no switch.

The operands are taken in one piece, the first that there is. Operands that
come later, and switches that the grammar does not have, are left over; it is
for the caller to say what becomes of them. What was found before a fault stays
found.
-/
import Colloquy.Number.Decimal
import Colloquy.Text.Quoted
import Colloquy.Text.Search

namespace Colloquy.Arguments

universe u

variable {α : Type u}

-- =========================================================== grammars

/-- A switch: the names it goes by, whether a value goes with it, what it
means, and the names that reports give it. -/
structure Switch (α : Type u) where
  names : List String
  takesValue : Bool := false
  meaning : α
  reported : List String := names

/-- How many operands there must be: one, one or more, or one with everything
behind it. -/
inductive Arity
  | one
  | several
  | rest
deriving DecidableEq, Repr

/-- A grammar: its switches, its operands with the name that reports give them,
whether long switches may be cut short, and the dashes, with one or two of
which a switch starts. -/
structure Grammar (α : Type u) where
  switches : List (Switch α)
  operand : String
  arity : Arity
  abbreviates : Bool := true
  dashes : List Char := ['-']

namespace Grammar

/-- The switches under each of their names, in order. -/
def named (g : Grammar α) : List (String × Switch α) :=
  g.switches.flatMap fun s => s.names.map fun name => (name, s)

/-- The switch with a name. -/
def find? (g : Grammar α) (name : String) : Option (Switch α) :=
  g.named.lookup name

/-- Whether a text starts as a switch does. -/
def startsSwitch (g : Grammar α) (text : List Char) : Bool :=
  text.head?.any g.dashes.contains

end Grammar

-- ============================================================= faults

/-- What is wrong with arguments. -/
inductive Fault
  | ambiguous (argument : String) (names : List String)
  | valueExpected (names : List String)
  | valueIgnored (names : List String) (value : String)
  | missing (operand : String)
  | notChoice (operand word : String) (choices : List String)
  | unrecognized (arguments : List String)
deriving DecidableEq, Repr

/-- The wording of a fault. -/
def Fault.message : Fault → String
  | .ambiguous argument names =>
    "ambiguous option: " ++ argument ++ " could match "
      ++ String.intercalate ", " names
  | .valueExpected names =>
    "argument " ++ String.intercalate "/" names ++ ": expected one argument"
  | .valueIgnored names value =>
    "argument " ++ String.intercalate "/" names
      ++ ": ignored explicit argument " ++ Text.quoted value
  | .missing operand => "the following arguments are required: " ++ operand
  | .notChoice operand word choices =>
    "argument " ++ operand ++ ": invalid choice: " ++ Text.quoted word
      ++ " (choose from "
      ++ String.intercalate ", " (choices.map Text.quoted) ++ ")"
  | .unrecognized arguments =>
    "unrecognized arguments: " ++ String.intercalate " " arguments

-- ============================================================= tokens

/-- An argument, seen for itself. A switch may have a text joined to it. -/
inductive Token (α : Type u)
  | switch (text : String) (switch : Switch α) (name : String)
    (joined : Option (List Char))
  | unknown (text : String)
  | operand (text : String)
  | separator

/-- The argument that ends the switches. -/
def separatorText : String := "--"

/-- A token as it was written. -/
def Token.text : Token α → String
  | .switch text .. | .unknown text | .operand text => text
  | .separator => separatorText

/-- Whether a token is the separator. -/
def Token.isSeparator : Token α → Bool
  | .separator => true
  | _ => false

/-- Whether a token is an operand or the separator. -/
def Token.isPlain : Token α → Bool
  | .operand _ | .separator => true
  | _ => false

/-- Whether `text` is a minus sign with a decimal numeral behind it, which may
have a point if there are digits after it, and perhaps a line end. -/
def isNegativeNumber (text : List Char) : Bool :=
  let isDigit (c : Char) := (Binary64.digitValue? c).isSome
  let line := if text.getLast? = some '\n' then text.dropLast else text
  match line with
  | '-' :: number =>
    match Text.cutAt '.' number with
    | (whole, some fraction) =>
      whole.all isDigit && !fraction.isEmpty && fraction.all isDigit
    | (whole, none) => !whole.isEmpty && whole.all isDigit
  | _ => false

/-- The text before the first equals sign, and what stands behind it. -/
def splitValue (text : String) : String × Option (List Char) :=
  let (name, value) := Text.cutAt '=' text.toList
  (.ofList name, value)

/-- The switches that an argument may spell without giving a name in full:
those whose long names it starts, or the one whose letter it starts with. -/
def spelled (g : Grammar α) (text : String) :
    List (String × Switch α × Option (List Char)) :=
  match text.toList with
  | dash :: c :: value =>
    if g.dashes.contains c then
      let (start, joined) := splitValue text
      if !g.abbreviates then []
      else
        let matching :=
          g.named.filter fun (name, _) => start.toList.isPrefixOf name.toList
        matching.map fun (name, s) => (name, s, joined)
    else
      (g.named.filter fun (name, _) => name.toList = [dash, c]).map
        fun (name, s) => (name, s, some value)
  | _ => []

/-- The token of an argument before the separator. -/
def tokenOf (g : Grammar α) (text : String) : Except Fault (Token α) :=
  if !g.startsSwitch text.toList || text.toList.length = 1 then
    .ok (.operand text)
  else match g.find? text with
    | some s => .ok (.switch text s text none)
    | none =>
      let (name, joined) := splitValue text
      match joined, g.find? name with
      | some _, some s => .ok (.switch text s name joined)
      | _, _ =>
        match spelled g text with
        | [(name, s, joined)] => .ok (.switch text s name joined)
        | [] =>
          if isNegativeNumber text.toList || text.toList.contains ' ' then
            .ok (.operand text)
          else .ok (.unknown text)
        | several => .error (.ambiguous text (several.map (·.1)))

/-- The tokens of arguments. -/
def tokensOf (g : Grammar α) : List String → Except Fault (List (Token α))
  | [] => .ok []
  | text :: rest =>
    if text = separatorText then .ok (.separator :: rest.map .operand)
    else do
      let token ← tokenOf g text
      let more ← tokensOf g rest
      return token :: more

-- =========================================================== switches

/-- Something that was found among the arguments. A switch that takes a value
is found without one where the separator was put to it, which is taken away. -/
inductive Finding (α : Type u)
  | switch (meaning : α) (value : Option String)
  | operands (texts : List String)

/-- A switch with a value put to it. -/
def Switch.found (s : Switch α) (value : String) : Finding α :=
  .switch s.meaning (if value = separatorText then none else some value)

/-- The switches of an argument that has a text joined to the first of them,
and the last one if nothing is left for it. Behind a short switch that takes no
value, each letter is a short switch with the same dash. -/
def unfold (g : Grammar α) (s : Switch α) (dash : Option Char) :
    List Char → Except Fault (List (Finding α) × Option (Switch α))
  | [] =>
    if s.takesValue then .ok ([s.found ""], none)
    else .error (.valueIgnored s.reported "")
  | c :: more =>
    let value := String.ofList (c :: more)
    if s.takesValue then .ok ([s.found value], none)
    else match dash.bind fun d => g.find? (.ofList [d, c]) with
      | none => .error (.valueIgnored s.reported value)
      | some next =>
        let unfolded : Except Fault (List (Finding α) × Option (Switch α)) :=
          match more with
          | [] => .ok ([], some next)
          | letter :: more => unfold g next dash (letter :: more)
        unfolded.map fun (found, last) =>
          (.switch s.meaning none :: found, last)

/-- The dash of a short switch. -/
def shortDash? (g : Grammar α) (name : String) : Option Char :=
  match name.toList with
  | dash :: c :: _ => if g.dashes.contains c then none else some dash
  | _ => none

/-- The switches of an argument, and the last one if nothing is left for it. -/
def expand (g : Grammar α) (s : Switch α) (name : String) :
    Option (List Char) → Except Fault (List (Finding α) × Option (Switch α))
  | none => .ok ([], some s)
  | some value => unfold g s (shortDash? g name) value

-- ============================================================ reading

/-- What arguments come to: what was found, in order; what is left over; and a
fault, if the reading ended with one. -/
structure Reading (α : Type u) where
  found : List (Finding α) := []
  left : List String := []
  fault : Option Fault := none

namespace Reading

/-- A reading that ends with a fault. -/
def failed (fault : Fault) : Reading α := { fault := some fault }

/-- The same reading, with findings in front. -/
def after (found : List (Finding α)) (r : Reading α) : Reading α :=
  { r with found := found ++ r.found }

/-- The same reading, with something left over in front. -/
def leaving (text : String) (r : Reading α) : Reading α :=
  { r with left := text :: r.left }

end Reading

/-- The number of tokens that the operands take up from the front on. The
separator may stand before them and behind them. -/
def Arity.extent (arity : Arity) (tokens : List (Token α)) : Nat :=
  let leading := (tokens.takeWhile Token.isSeparator).length
  match tokens.drop leading with
  | .operand _ :: behind =>
    leading + 1 + match arity with
      | .one => (behind.takeWhile Token.isSeparator).length
      | .several => (behind.takeWhile Token.isPlain).length
      | .rest => behind.length
  | _ => 0

/-- The operands in tokens. The first separator is none, unless everything is
taken as it stands. -/
def Arity.operands (arity : Arity) (tokens : List (Token α)) : List String :=
  let texts := tokens.map Token.text
  if arity = .rest then texts else texts.erase separatorText

/-- A reading of tokens; `wanting` says whether operands are still to come. -/
def readTokens (g : Grammar α) (wanting : Bool) : List (Token α) → Reading α
  | [] => if wanting then .failed (.missing g.operand) else {}
  | .unknown text :: rest => (readTokens g wanting rest).leaving text
  | .switch _ s name joined :: rest =>
    match expand g s name joined with
    | .error fault => .failed fault
    | .ok (found, none) => (readTokens g wanting rest).after found
    | .ok (found, some s) =>
      if s.takesValue then
        match rest with
        | .operand value :: rest =>
          (readTokens g wanting rest).after (found ++ [s.found value])
        | _ => .failed (.valueExpected s.reported)
      else
        (readTokens g wanting rest).after (found ++ [.switch s.meaning none])
  | token :: rest =>
    let extent := if wanting then g.arity.extent (token :: rest) else 0
    if extent = 0 then (readTokens g wanting rest).leaving token.text
    else
      (readTokens g false (rest.drop (extent - 1))).after
        [.operands (g.arity.operands ((token :: rest).take extent))]
termination_by tokens => tokens.length
decreasing_by all_goals simp; try omega

/-- A reading of arguments; `wanting` says whether there must be operands. -/
def read (g : Grammar α) (arguments : List String) (wanting : Bool := true) :
    Reading α :=
  match tokensOf g arguments with
  | .error fault => .failed fault
  | .ok tokens => readTokens g wanting tokens

end Colloquy.Arguments
