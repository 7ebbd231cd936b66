import Adventure.Command.Run
import Adventure.Json.Writer
import Adventure.Text.Line

/-!
# Reports

The report of a run as JSON, and the summary that is printed.

See section 10.4 of the specification.
-/

namespace Adventure

/-! ### Snapshots as JSON -/

def Handle.toJson (h : Handle) : Json := .ofNat h.raw.toNat

def singleJson (x : Float32) : Json := .number (.single x)

def Vec3.toJson (v : Vec3) : Json := .array ([v.x, v.y, v.z].map singleJson)

def Conversation.toJson (c : Conversation) : Json :=
  .object [("dialog", .string c.dialog), ("pc", c.pc.toJson), ("object", c.object.toJson)]

def Queue.Pending.toJson (p : Queue.Pending) : Json :=
  .object [("label", .string p.label), ("owner", p.owner.toJson),
    ("timestamp", .ofNat p.due.toNat)]

def ObjectSummary.toJson (o : ObjectSummary) : Json :=
  .object [("id", o.id.toJson), ("kind", .string o.kind.name), ("tag", .string o.tag),
    ("name", .string o.name), ("area", .ofOption Handle.toJson o.area),
    ("position", o.position.toJson), ("facing", singleJson o.facing)]

def Snapshot.toJson (s : Snapshot) : Json :=
  .object [("module", .ofOption .string s.moduleTag),
    ("current_area", .ofOption Handle.toJson s.currentArea), ("pc", .ofOption Handle.toJson s.pc),
    ("objects", .array (s.objects.map ObjectSummary.toJson)),
    ("pending_actions", .array (s.pending.map Queue.Pending.toJson)),
    ("custom_tokens", .object (s.tokens.map fun (token, text) => (token, .string text))),
    ("conversation", .ofOption Conversation.toJson s.conversation)]

namespace Command

/-! ### Reports as JSON -/

def CallRecord.outcomeText (r : CallRecord) : String × String :=
  match r.outcome with
  | .ok v => ("result", v.text)
  | .error f => ("error", f.text)

def CallRecord.toJson (r : CallRecord) : Json :=
  let (key, text) := r.outcomeText
  .object [("name", .string r.call.name), ("args", .ofStrings r.call.args), (key, .string text)]

def RunReport.toJson (r : RunReport) : Json :=
  .object [("module", .string r.module), ("seed", .ofNat r.seed.toNat),
    ("caller", r.caller.toJson), ("calls", .array (r.calls.map CallRecord.toJson)),
    ("ticks", .ofNat r.ticks.toNat), ("actions_executed", .ofNat r.executed),
    ("events", .ofStrings r.events), ("snapshot", r.snapshot.toJson)]

/-! ### The printed summary -/

def CallRecord.line (r : CallRecord) : String :=
  let outcome := match r.outcome with
    | .ok v => v.text
    | .error f => "error: " ++ f.text
  "  " ++ r.call.name ++ "(" ++ ", ".intercalate r.call.args ++ ") -> " ++ outcome

/-- A part of the summary with an empty line before it, or nothing if it has no lines. -/
def partOf (heading : String) (lines : List String) : List String :=
  if lines.isEmpty then [] else "" :: heading :: lines

def RunReport.tickLines (r : RunReport) : List String :=
  if r.ticks = 0 then []
  else
    ["", "Ticks: " ++ toString r.ticks.toNat ++ " | delayed actions executed: "
      ++ toString r.executed]

def RunReport.lines (r : RunReport) : List String :=
  let s := r.snapshot
  ["Module: " ++ s.moduleTag.getD r.module ++ " | objects: " ++ toString s.objects.length
    ++ " | pending actions: " ++ toString s.pending.length]
    ++ partOf "Calls:" (r.calls.map CallRecord.line) ++ r.tickLines
    ++ ["", "Events:"] ++ r.events.map ("  " ++ ·)

def RunReport.text (r : RunReport) : String := Text.unlines r.lines

end Command

end Adventure
