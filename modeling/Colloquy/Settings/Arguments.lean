/-
Settings among arguments. Each field has a switch that takes a value and may
not be cut short. The switch goes by the wire name and by the plain name of the
field, and perhaps by shortcuts for them; there are no operands, and help may
be asked for. For a truth value there may be switches that take no value
instead: one for yes and one for no under each name, or only the one that says
the opposite of what holds where nothing is said. Of several values for one
field the last counts.

A name that one field has taken is not given to another.
-/
import Colloquy.Arguments
import Colloquy.Settings.Search
import Colloquy.Text.Blank

namespace Colloquy.Settings.Arguments

-- =========================================================== readers

/-- How the switches for a truth value look: it takes a value, there is one for
yes and one for no under each name, or there is only one for no. -/
inductive TruthForm
  | valued
  | paired
  | negative
deriving DecidableEq, Repr

/-- How arguments are read: the dashes of the switches; whether case matters in
names, and whether switches are recognized in any case; what stands before the
names of fields; whether dashes stand for the low lines in them; which
shortcuts there are for names, if they are such; how the switches for a truth
value look; which text stands for null, and whether it can be spelled out; and
whether an argument that is not known is passed over. -/
structure Reader where
  dashes : List Char := ['-']
  isExact : Bool := false
  foldsSwitches : Bool := true
  lead : String := ""
  isDashed : Bool := false
  shortcuts : List (String × Option (List String)) := []
  truthForm : TruthForm := .valued
  nullText : Option String := none
  spellsNull : Bool := true
  passesOver : Bool := false

/-- What a switch means: help is asked for, a field has the value that goes
with the switch, or it has a truth value. -/
inductive Meaning
  | help
  | value (field : Field)
  | truth (field : Field) (holds : Bool)
deriving DecidableEq, Repr

/-- Why there are no switches to read arguments by: what stands for null is no
text, neither are shortcuts for a name, a shortcut is empty, a switch is there
already, it starts with no dash, or a dash cannot stand where it may occur
again. -/
inductive SwitchFault
  | unspelledNull
  | notNames
  | emptyName
  | conflicting (names taken : List String)
  | undashed (switch dashes : String)
  | unrepeatable (position : Nat)
deriving DecidableEq, Repr

/-- The wording of a fault of the switches. -/
def SwitchFault.message : SwitchFault → String
  | .unspelledNull => "a text is required for null"
  | .notNames => "shortcuts are required to be names"
  | .emptyName => "string index out of range"
  | .conflicting names taken =>
    let plural := if taken.length = 1 then "" else "s"
    "argument " ++ String.intercalate "/" names
      ++ ": conflicting option string" ++ plural ++ ": "
      ++ String.intercalate ", " taken
  | .undashed switch dashes =>
    "invalid option string " ++ Text.quoted switch
      ++ ": must start with a character " ++ dashes
  | .unrepeatable position => s!"multiple repeat at position {position}"

/-- Why arguments come to no settings: help was asked for, or they are
wrong. -/
inductive Stop
  | help
  | misused (fault : Colloquy.Arguments.Fault)
deriving DecidableEq, Repr

namespace Reader

-- ============================================================= names

/-- A name of a field, as its switch spells it. -/
def spelled (r : Reader) (name : String) : String :=
  let name := r.lead ++ (if r.isExact then name else Environment.fold name)
  .ofList (name.toList.map fun c => if r.isDashed && c = '_' then '-' else c)

/-- The name under which the value for a field is kept. -/
def keptName (r : Reader) (f : Field) : String :=
  if r.isExact then f.wire else Environment.fold f.wire

/-- The names with shortcuts behind them, of those that are not taken. A
shortcut may have shortcuts of its own further on. -/
def withShortcuts (taken : List String) (names : List String) :
    List (String × Option (List String)) → Except SwitchFault (List String)
  | [] => .ok names
  | (name, shortcuts) :: rest =>
    if !names.contains name then withShortcuts taken names rest
    else match shortcuts with
      | none => .error .notNames
      | some shortcuts =>
        withShortcuts taken
          (names ++ shortcuts.filter (!taken.contains ·)) rest

/-- The names for a field, of those that are not taken. -/
def namesOf (r : Reader) (taken : List String) (f : Field) :
    Except SwitchFault (List String) :=
  withShortcuts taken
    (([f.wire, f.plain].map r.spelled).filter (!taken.contains ·)) r.shortcuts

-- ========================================================== switches

/-- A name as a switch: the dashes stand in front twice, cut to the length of
the name. -/
def switchOf (r : Reader) (name : String) : String :=
  .ofList ((r.dashes ++ r.dashes).take name.length) ++ name

/-- What a long switch for no starts with. -/
def negation : String := "--no-"

/-- Whether a switch is one for no. -/
def isNegative (name : String) : Bool := negation.toList.isPrefixOf name.toList

/-- A switch, and the one for no beside it if it is a long one. -/
def withNegative (name : String) : List String :=
  match name.toList with
  | '-' :: '-' :: rest => [name, negation ++ .ofList rest]
  | _ => [name]

/-- The name of the switch that says no; one that is short says so by
itself. -/
def negativeName (name : String) : String :=
  if name.length > 1 then "no-" ++ name else name

/-- A switch under names of which some may be the same. Reports give them
all. -/
def switchUnder (names : List String) (takesValue : Bool) (meaning : Meaning)
    (reported : List String) :
    Colloquy.Arguments.Switch Meaning :=
  { names := names.eraseDups, takesValue, meaning, reported }

/-- The switches for a field under its names. -/
def switchesFor (r : Reader) (f : Field) (names : List String) :
    List (Colloquy.Arguments.Switch Meaning) :=
  match if f = builtinsField then r.truthForm else .valued with
  | .valued =>
    let all := names.map r.switchOf
    [switchUnder all true (.value f) all]
  | .negative =>
    let all := (names.map negativeName).map r.switchOf
    [switchUnder all false (.truth f false) all]
  | .paired =>
    let all := (names.map r.switchOf).flatMap withNegative
    [switchUnder (all.filter (!isNegative ·)) false (.truth f true) all,
      switchUnder (all.filter isNegative) false (.truth f false) all]

/-- The switch that asks for help. -/
def helpSwitch (r : Reader) : Colloquy.Arguments.Switch Meaning :=
  let dash := if r.dashes.contains '-' then ['-'] else r.dashes.take 1
  { names := [.ofList dash ++ "h", .ofList (dash ++ dash) ++ "help"],
    meaning := .help }

/-- The switches for fields, behind others; `taken` are the names that have
been given. -/
def switchesFrom (r : Reader) (taken : List String)
    (switches : List (Colloquy.Arguments.Switch Meaning)) :
    List Field → Except SwitchFault (List (Colloquy.Arguments.Switch Meaning))
  | [] => .ok switches
  | f :: rest =>
    if f = definitionsField && !r.spellsNull then .error .unspelledNull
    else do
      let names ← r.namesOf taken f
      if names.isEmpty || taken.contains (r.keptName f) then
        r.switchesFrom taken switches rest
      else if names.contains "" then throw .emptyName
      else
        let added := r.switchesFor f names
        let present := switches.flatMap (·.names)
        match added.head?.map fun s =>
          (s.reported, s.reported.filter present.contains) with
        | some (reported, conflict :: more) =>
          throw (.conflicting reported (conflict :: more))
        | _ => r.switchesFrom (taken ++ names) (switches ++ added) rest

/-- The grammar of the arguments. -/
def grammar (r : Reader) :
    Except SwitchFault (Colloquy.Arguments.Grammar Meaning) := do
  let switches ← r.switchesFrom [] [r.helpSwitch] fields
  return {
    switches, operand := "", arity := .rest, abbreviates := false
    dashes := r.dashes }

-- ============================================================== case

/-- The number of dashes at the front of an argument and the name behind them,
up to a blank or an equals sign. All the dashes there may be are taken, as long
as a name is left. -/
def switchParts (r : Reader) (argument : List Char) :
    Option (Nat × List Char) :=
  let isName (c : Char) : Bool := c ≠ '=' && !Text.isBlank c
  let nameBehind (n : Nat) : Option (Nat × List Char) :=
    let name := (argument.drop n).takeWhile isName
    if name.isEmpty then none else some (n, name)
  match r.dashes.reverse with
  | [] => none
  | last :: _ =>
    if !r.dashes.isPrefixOf argument then none
    else
      let n := r.dashes.length
      let behindNext :=
        if (argument.drop n).head? = some last then nameBehind (n + 1)
        else none
      behindNext.or (nameBehind n)

/-- The signs that themselves say how often what stands in front of them
occurs. -/
def repeatSigns : List Char := ['*', '+', '?']

/-- The last of several dashes may occur again, and so it cannot be a sign that
itself says how often something occurs. The fault gives its place in the
pattern that switches are recognized by. -/
def dashFault? (r : Reader) : Option SwitchFault :=
  match r.dashes with
  | _ :: _ :: _ =>
    if (r.dashes.getLast?.map repeatSigns.contains).getD false then
      some (.unrepeatable (r.dashes.length + 3))
    else none
  | _ => none

/-- A switch in the case in which it is known: as a whole, or by its first
letter. -/
def folded (known : List String) (switch : List Char) : List Char :=
  let isKnown (name : List Char) : Bool := known.contains (.ofList name)
  let short := Text.lower (switch.take 2)
  if isKnown (Text.lower switch) then Text.lower switch
  else if isKnown short then short ++ switch.drop 2
  else switch

/-- An argument whose case does not matter. What stands on further lines of a
switch falls away. -/
def foldSwitch (r : Reader) (known : List String) (argument : String) :
    String :=
  match r.switchParts argument.toList with
  | none => argument
  | some (n, name) =>
    let switch := argument.toList.take (n + name.length)
    .ofList (folded known switch
      ++ (argument.toList.drop switch.length).takeWhile (· ≠ '\n'))

/-- The arguments up to the separator, whose case does not matter, and those
behind it. -/
def foldSwitches (r : Reader) (known : List String) (arguments : List String) :
    List String :=
  let isSwitch (argument : String) : Bool :=
    argument ≠ Colloquy.Arguments.separatorText
  (arguments.takeWhile isSwitch).map (r.foldSwitch known)
    ++ arguments.dropWhile isSwitch

-- =========================================================== reading

/-- The value that a switch was found with. One without a value has an empty
list. -/
def valueOf (r : Reader) : Option String → Value
  | none => .string "[]"
  | some text => if r.nullText = some text then .null else .string text

/-- What was found says of the settings. -/
def layerOf (r : Reader) (found : List (Colloquy.Arguments.Finding Meaning)) :
    Layer :=
  found.foldl (fun layer finding =>
    match finding with
    | .switch (.value f) value => putEntry f.wire (r.valueOf value) layer
    | .switch (.truth f holds) _ => putEntry f.wire (.bool holds) layer
    | _ => layer) []

/-- Whether something that was found asks for help. -/
def asksForHelp : Colloquy.Arguments.Finding Meaning → Bool
  | .switch .help _ => true
  | _ => false

/-- What arguments say of the settings, read by the grammar. -/
def read (r : Reader) (g : Colloquy.Arguments.Grammar Meaning)
    (arguments : List String) :
    Except Stop Layer :=
  let known := g.named.map (·.1)
  let arguments :=
    if r.foldsSwitches then r.foldSwitches known arguments else arguments
  let reading := Colloquy.Arguments.read g arguments false
  if reading.found.any asksForHelp then .error .help
  else match reading.fault with
    | some fault => .error (.misused fault)
    | none =>
      if reading.left.isEmpty || r.passesOver then
        .ok (r.layerOf reading.found)
      else .error (.misused (.unrecognized reading.left))

end Reader
end Colloquy.Settings.Arguments
