/-
Records written as lines of JSON. Whatever a record holds, its line is one
line, and it reads back as the record: JSON escapes all that could end a line
or a string, so no message and no field can pass for another record, or for a
part of its own (`jsonLine_reads`).

A path is written as its text, and reads back as a string. So what reads back
is the record with its paths spelled out (`Value.spelled`); nothing else is
lost.

# Records without a line

There are records that cannot be written, and it is not for their values. A
field takes the place of the part of the record that has its name, and then
the part may be of no use: what stands for a moment may be no number, and what
stands for the operation that puts the message together cannot be carried out
(`not_tells_of_operation`). A record has a line just if its moment and its
message can be told (`Record.Tells`).
-/
import Colloquy.Log.Line
import Colloquy.Proofs.Json.Characters
import Colloquy.Proofs.Timestamp

namespace Colloquy

-- ================================================================ values

namespace Value

/-- A value that is `Plain` once its paths are spelled out. -/
inductive Sayable : Value → Prop
  | null : Sayable .null
  | bool (b : Bool) : Sayable (.bool b)
  | int {n : Int} (h : n.natAbs < 10 ^ Json.maxDigits) : Sayable (.int n)
  | string (s : String) : Sayable (.string s)
  | path (p : Path) : Sayable (.path p)
  | list {items : List Value} (h : ∀ item ∈ items, Sayable item) :
      Sayable (.list items)
  | map {members : List (String × Value)}
      (hnodup : (members.map Prod.fst).Nodup)
      (h : ∀ member ∈ members, Sayable member.2) : Sayable (.map members)

mutual

/-- The value with every path in it replaced by its text. -/
def spelled : Value → Value
  | .path p => .string p.text
  | .list items => .list (spelledItems items)
  | .map members => .map (spelledMembers members)
  | v => v

/-- The items of a list, with their paths spelled out. -/
def spelledItems : List Value → List Value
  | [] => []
  | item :: rest => spelled item :: spelledItems rest

/-- The members of a map, with their paths spelled out. -/
def spelledMembers : List (String × Value) → List (String × Value)
  | [] => []
  | (name, v) :: rest => (name, spelled v) :: spelledMembers rest

end

theorem spelledItems_eq (items : List Value) :
    spelledItems items = items.map spelled := by
  induction items with
  | nil => rfl
  | cons item rest ih => rw [spelledItems, ih, List.map_cons]

theorem spelledMembers_eq (members : List (String × Value)) :
    spelledMembers members
      = members.map fun member => (member.1, member.2.spelled) := by
  induction members with
  | nil => rfl
  | cons member rest ih => rw [spelledMembers, ih, List.map_cons]

theorem names_spelledMembers (members : List (String × Value)) :
    (spelledMembers members).map Prod.fst = members.map Prod.fst := by
  rw [spelledMembers_eq, List.map_map]
  rfl

/-- What `spelled` makes of a sayable value is `Plain`. -/
theorem Sayable.plain {v : Value} (h : v.Sayable) : v.spelled.Plain := by
  induction h with
  | null => exact .null
  | bool b => exact .bool b
  | int hn => exact .int hn
  | string s => exact .string s
  | path p => exact .string p.text
  | list _ ih =>
      rw [spelled, spelledItems_eq]
      exact .list (List.forall_mem_map.2 ih)
  | map hnodup _ ih =>
      rw [← names_spelledMembers] at hnodup
      rw [spelled]
      refine .map hnodup ?_
      rw [spelledMembers_eq]
      exact List.forall_mem_map.2 ih

/-- Spelling out paths does not change the JSON text. -/
theorem Sayable.write_spelled {v : Value} (h : v.Sayable) :
    Json.write v.spelled = Json.write v := by
  induction h with
  | list _ ih =>
      have hitems := List.map_congr_left ih
      rw [spelled, Json.write, Json.write, spelledItems_eq, Json.writeItems_eq,
        Json.writeItems_eq, List.map_map, ← hitems]
      rfl
  | @map members _ _ ih =>
      have hmembers : ∀ member ∈ members,
          Json.string member.1 ++ ": " ++ Json.write member.2.spelled
            = Json.string member.1 ++ ": " ++ Json.write member.2 :=
        fun member hmember => by rw [ih member hmember]
      rw [spelled, Json.write, Json.write, spelledMembers_eq,
        Json.writeMembers_eq, Json.writeMembers_eq, List.map_map,
        ← List.map_congr_left hmembers]
      rfl
  | _ => rfl

/-- The JSON text of a sayable value reads as the value with its paths
`spelled` out. -/
theorem Sayable.read_write {v : Value} (h : v.Sayable) :
    Json.read (Json.write v).toList = .ok v.spelled := by
  rw [← h.write_spelled]
  exact Json.read_write h.plain

/-- The JSON text of a sayable value holds no control character below U+0020.
-/
theorem Sayable.isVisible {v : Value} (h : v.Sayable) :
    ∀ c ∈ (Json.write v).toList, Json.isVisible c = true := by
  rw [← h.write_spelled]
  exact List.all_eq_true.1 (Json.all_isVisible_chars h.plain)

end Value

-- =============================================================== records

/-- A sequence in `Except` succeeds just if both parts do. -/
theorem bind_eq_ok_iff {ε α β : Type} {x : Except ε α} {f : α → Except ε β}
    {b : β} : x >>= f = .ok b ↔ ∃ a, x = .ok a ∧ f a = .ok b := by
  cases x with
  | error fault => exact ⟨nofun, nofun⟩
  | ok a =>
      constructor
      · exact fun h => ⟨a, rfl, h⟩
      · rintro ⟨_, ⟨⟩, h⟩
        exact h

theorem mapError_eq_ok_iff {ε ε' α : Type} {f : ε → ε'} {x : Except ε α}
    {a : α} : x.mapError f = .ok a ↔ x = .ok a := by
  cases x with
  | error fault => exact ⟨nofun, nofun⟩
  | ok b =>
      show Except.ok b = Except.ok a ↔ _
      rw [Except.ok.injEq, Except.ok.injEq]

namespace Log.Record

/-- What a record tells by itself: the ISO text of its moment, the values of
its level and its source, and its message. -/
structure Tells (r : Record) (timestamp : String) (level source : Value)
    (message : String) : Prop where
  timestamp : ∃ count moment, r.seconds = .ok count
    ∧ Timestamp.ofSeconds count = .ok moment ∧ moment.isoText = .ok timestamp
  level : r.levelValue = .ok level
  source : r.sourceValue = .ok source
  message : r.messageText = .ok message

/-- The members of the JSON line of a record without a failure. -/
def members (r : Record) (timestamp : String) (level source : Value)
    (message : String) : List (String × Value) :=
  [("timestamp", .string timestamp), ("level", level), ("logger", source),
    ("message", .string message)]
  ++ memberIf "extra"
    (if r.shownFields.isEmpty then none else some (.map r.shownFields))

variable {r : Record} {timestamp message line : String}
  {level source : Value}

/-- If a field stands under `operationName`, the record `Tells` no message. -/
theorem not_tells_of_operation (h : (r.fields.lookup operationName).isSome) :
    ¬ r.Tells timestamp level source message := by
  intro htells
  have hmessage := htells.message
  unfold messageText at hmessage
  rw [if_pos h] at hmessage
  cases hmessage

/-- A record without a failure has a `jsonLine` just if it `Tells` its four
parts. -/
theorem jsonLine_eq_ok_iff (hcalm : r.failureText = .ok none) :
    r.jsonLine = .ok line
      ↔ ∃ timestamp level source message,
        r.Tells timestamp level source message
          ∧ line = Json.write
            (.map (r.members timestamp level source message)) := by
  have hnone : ∀ timestamp level source message,
      r.members timestamp level source message
        ++ memberIf "exception" (Option.map .string none)
          = r.members timestamp level source message :=
    fun _ _ _ _ => List.append_nil _
  unfold jsonLine
  simp only [bind_eq_ok_iff, mapError_eq_ok_iff, hcalm]
  constructor
  · rintro ⟨count, hcount, moment, hmoment, timestamp, htime, level, hlevel,
      source, hsource, message, hmessage, _, ⟨⟩, ⟨⟩⟩
    refine ⟨timestamp, level, source, message,
      ⟨⟨count, moment, hcount, hmoment, htime⟩, hlevel, hsource, hmessage⟩, ?_⟩
    rw [← hnone]
    rfl
  · rintro ⟨timestamp, level, source, message,
      ⟨⟨count, moment, hcount, hmoment, htime⟩, hlevel, hsource, hmessage⟩,
        rfl⟩
    refine ⟨count, hcount, moment, hmoment, timestamp, htime, level, hlevel,
      source, hsource, message, hmessage, none, rfl, ?_⟩
    rw [← hnone]
    rfl

section Sayable

variable (hfields : ∀ field ∈ r.fields, field.2.Sayable)
include hfields

/-- What `part` finds under a name is `Sayable`, if the fields are. -/
theorem sayable_of_part {name : String} {own v : Value} (hown : own.Sayable)
    (h : r.part name own = .ok v) : v.Sayable := by
  unfold part at h
  cases hfield : r.fields.lookup name with
  | some field =>
      rw [hfield] at h
      cases h
      obtain ⟨before, after, heq, -⟩ := List.lookup_eq_some_iff.1 hfield
      refine hfields (name, v) ?_
      rw [heq]
      exact List.mem_append_right _ (List.mem_cons_self ..)
  | none =>
      rw [hfield] at h
      cases hbare : r.isBare with
      | true =>
          rw [hbare] at h
          cases h
      | false =>
          rw [hbare] at h
          cases h
          exact hown

/-- The `members` of a line are `Sayable`, if the fields are and have distinct
names. -/
theorem sayable_members (hnames : (r.fields.map Prod.fst).Nodup)
    (htells : r.Tells timestamp level source message) :
    (Value.map (r.members timestamp level source message)).Sayable := by
  have hlevel := sayable_of_part hfields (.string _) htells.level
  have hsource := sayable_of_part hfields (.string _) htells.source
  have hshown : (Value.map r.shownFields).Sayable :=
    .map (hnames.sublist (List.filter_sublist.map _))
      fun field hfield => hfields field (List.mem_filter.1 hfield).1
  unfold members
  cases r.shownFields.isEmpty with
  | true =>
      refine .map ?_ ?_
      · show (["timestamp", "level", "logger", "message"] : List String).Nodup
        decide
      · simp [memberIf, hlevel, hsource, Value.Sayable.string]
  | false =>
      refine .map ?_ ?_
      · show (["timestamp", "level", "logger", "message", "extra"] :
          List String).Nodup
        decide
      · simp [memberIf, hlevel, hsource, hshown, Value.Sayable.string]

end Sayable

/-- The `members` of a line as they read back. -/
theorem spelledMembers_members :
    Value.spelledMembers (r.members timestamp level source message)
      = [("timestamp", .string timestamp), ("level", level.spelled),
          ("logger", source.spelled), ("message", .string message)]
        ++ if r.shownFields.isEmpty then []
          else [("extra", .map (Value.spelledMembers r.shownFields))] := by
  unfold members
  cases r.shownFields.isEmpty <;> rfl

/-- The names of the parts by which a record tells its moment, its level, its
source and its message. -/
def partNames : List String :=
  ["created", "levelname", "name", operationName, "msg", "args"]

/-- No field stands under one of `partNames`, and the message has no arguments.
-/
structure IsUntaken (r : Record) : Prop where
  bare : r.isBare = false
  fields : ∀ name ∈ partNames, r.fields.lookup name = none
  arguments : r.arguments = []

section Untaken

variable (h : r.IsUntaken)
include h

theorem IsUntaken.part {name : String} (hname : name ∈ partNames)
    (own : Value) : r.part name own = .ok own := by
  rw [Record.part, h.fields name hname, h.bare]
  rfl

theorem IsUntaken.seconds : r.seconds = .ok r.created := by
  unfold Record.seconds demand
  rw [h.part (by decide), h.fields "created" (by decide)]
  rfl

theorem IsUntaken.messageText : r.messageText = .ok r.message := by
  have hnone : r.arguments? = .ok none := by
    unfold arguments? demand
    rw [h.part (by decide), h.fields "args" (by decide), h.arguments]
    rfl
  unfold Record.messageText
  rw [h.fields operationName (by decide), h.part (by decide), hnone]
  rfl

/-- An untaken record `Tells` its own level, source and message, if its moment
lies in one of the years from 1 to 9999, and otherwise nothing. -/
theorem IsUntaken.tells_iff :
    r.Tells timestamp level source message
      ↔ (∃ moment, Timestamp.ofSeconds r.created = .ok moment
          ∧ moment.isoText = .ok timestamp)
        ∧ level = .string (levelName r.level) ∧ source = .string r.source
        ∧ message = r.message := by
  constructor
  · rintro ⟨⟨count, moment, hcount, hmoment, htime⟩, hlevel, hsource, hmessage⟩
    cases h.seconds.symm.trans hcount
    cases (h.part (by decide) _).symm.trans hlevel
    cases (h.part (by decide) _).symm.trans hsource
    cases h.messageText.symm.trans hmessage
    exact ⟨⟨moment, hmoment, htime⟩, rfl, rfl, rfl⟩
  · rintro ⟨⟨moment, hmoment, htime⟩, rfl, rfl, rfl⟩
    exact ⟨⟨_, moment, h.seconds, hmoment, htime⟩, h.part (by decide) _,
      h.part (by decide) _, h.messageText⟩

end Untaken

/-- A record is one line, and reads back as what it is. Its fields have
distinct names and are `Sayable`, and it has no failure. It has a line if and
only if it `Tells` its parts; with a record that `IsUntaken` that is so just if
its moment lies in one of the years from 1 to 9999, and then it tells its own
level, source and message. A line holds no control character below the space.
It is the JSON text of an object whose members are the moment, the level, the
source and the message of the record, and behind them, if there are
`shownFields`, these and no others, in order and with their paths `spelled`
out. -/
theorem jsonLine_reads (r : Record)
    (hnames : (r.fields.map Prod.fst).Nodup)
    (hfields : ∀ field ∈ r.fields, field.2.Sayable)
    (hcalm : r.failureText = .ok none) :
    ((∃ line, r.jsonLine = .ok line)
        ↔ ∃ timestamp level source message,
          r.Tells timestamp level source message)
      ∧ (r.IsUntaken →
        ((∃ line, r.jsonLine = .ok line)
          ↔ ∃ moment, Timestamp.ofSeconds r.created = .ok moment
            ∧ moment.IsDated)
        ∧ ∀ timestamp level source message,
          r.Tells timestamp level source message →
            level = .string (levelName r.level) ∧ source = .string r.source
              ∧ message = r.message)
      ∧ ∀ line, r.jsonLine = .ok line →
        (∀ c ∈ line.toList, 0x20 ≤ c.toNat)
          ∧ ∃ timestamp level source message,
            r.Tells timestamp level source message
              ∧ Json.read line.toList = .ok (.map
                ([("timestamp", .string timestamp), ("level", level.spelled),
                    ("logger", source.spelled), ("message", .string message)]
                  ++ if r.shownFields.isEmpty then []
                    else [("extra",
                      .map (Value.spelledMembers r.shownFields))])) := by
  have hhas : (∃ line, r.jsonLine = .ok line)
      ↔ ∃ timestamp level source message,
        r.Tells timestamp level source message := by
    simp only [jsonLine_eq_ok_iff hcalm]
    constructor
    · rintro ⟨line, timestamp, level, source, message, htells, -⟩
      exact ⟨timestamp, level, source, message, htells⟩
    · rintro ⟨timestamp, level, source, message, htells⟩
      exact ⟨_, timestamp, level, source, message, htells, rfl⟩
  refine ⟨hhas, fun huntaken => ⟨?_, ?_⟩, fun line hline => ?_⟩
  · rw [hhas]
    simp only [huntaken.tells_iff, ← Timestamp.exists_isoText_iff]
    constructor
    · rintro ⟨timestamp, _, _, _, ⟨moment, hmoment, htime⟩, -⟩
      exact ⟨moment, hmoment, timestamp, htime⟩
    · rintro ⟨moment, hmoment, timestamp, htime⟩
      exact ⟨timestamp, _, _, _, ⟨moment, hmoment, htime⟩, rfl, rfl, rfl⟩
  · exact fun _ _ _ _ htells => (huntaken.tells_iff.1 htells).2
  · obtain ⟨timestamp, level, source, message, htells, rfl⟩ :=
      (jsonLine_eq_ok_iff hcalm).1 hline
    have hsay := sayable_members hfields hnames htells
    refine ⟨fun c hc => of_decide_eq_true (hsay.isVisible c hc), timestamp,
      level, source, message, htells, ?_⟩
    rw [hsay.read_write, Value.spelled, spelledMembers_members]

/-- A record with line ends and quotes in its message and in a field, so that
it might pass for two, and two fields that are not shown. -/
def forging : Record where
  source := "n"
  level := 20
  message := "hi\"\x7d\n\x7b\"message\": \"ho"
  created := .real (.zero false)
  written := .real (.zero false)
  fields := [("module", .string "m"), ("where", .path (.ofText "a/b")),
    ("_own", .null), ("what", .list [.string "\r\n\"", .int (-1)])]

/-- The line of `forging` is one line, which reads back as one record. -/
theorem jsonLine_reads_forging :
    ∃ line, forging.jsonLine = .ok line
      ∧ (∀ c ∈ line.toList, 0x20 ≤ c.toNat)
      ∧ Json.read line.toList = .ok (.map [
        ("timestamp", .string "1970-01-01T00:00:00+00:00"),
        ("level", .string "INFO"), ("logger", .string "n"),
        ("message", .string forging.message),
        ("extra", .map [("where", .string "a/b"),
          ("what", .list [.string "\r\n\"", .int (-1)])])]) := by
  have hfields : ∀ field ∈ forging.fields, field.2.Sayable := by
    simp only [forging, List.forall_mem_cons]
    refine ⟨.string _, .path _, .null, .list ?_, nofun⟩
    simp only [List.forall_mem_cons]
    exact ⟨.string _, .int (Nat.one_lt_pow (by decide) (by decide)), nofun⟩
  have huntaken : forging.IsUntaken := ⟨rfl, by decide, rfl⟩
  obtain ⟨-, hown, hreads⟩ := jsonLine_reads forging (by decide) hfields rfl
  obtain ⟨line, hline⟩ :=
    (hown huntaken).1.2 ⟨⟨0, 0⟩, rfl, by decide, by decide⟩
  obtain ⟨hvisible, timestamp, level, source, message, htells, hread⟩ :=
    hreads line hline
  obtain ⟨⟨moment, ⟨⟩, htime⟩, rfl, rfl, rfl⟩ := huntaken.tells_iff.1 htells
  have hepoch : (⟨0, 0⟩ : Timestamp).isoText
      = .ok "1970-01-01T00:00:00+00:00" := by
    decide +kernel
  cases hepoch.symm.trans htime
  exact ⟨line, hline, hvisible, hread⟩

/-- A record with a field under `operationName`. -/
def obstructed : Record where
  source := "n"
  level := 20
  message := "hi"
  created := .real (.zero false)
  written := .real (.zero false)
  fields := [("getMessage", .string "x")]

/-- The field of `obstructed` would be shown and is `Sayable`; and there is no
line. -/
theorem obstructed_jsonLine :
    (obstructed.fields.map Prod.fst).Nodup
      ∧ (∀ field ∈ obstructed.fields, field.2.Sayable)
      ∧ obstructed.failureText = .ok none
      ∧ obstructed.shownFields = obstructed.fields
      ∧ ¬ ∃ line, obstructed.jsonLine = .ok line := by
  have hcalm : obstructed.failureText = .ok none := rfl
  refine ⟨by decide, List.forall_mem_singleton.2 (.string "x"), hcalm, rfl, ?_⟩
  rintro ⟨line, hline⟩
  obtain ⟨_, _, _, _, htells, -⟩ := (jsonLine_eq_ok_iff hcalm).1 hline
  exact not_tells_of_operation (by decide) htells

end Log.Record
end Colloquy
