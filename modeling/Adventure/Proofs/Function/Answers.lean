import Adventure.Proofs.Function.Parameters
import Adventure.Proofs.Function.Texts

/-!
# What handlers take and return

Each handler is listed with the types of the parameters it reads and with the type it answers with.
Where the parameters have those types the handler answers, and with a value of its type; the few
things that stop a handler even then are named as conditions on the call.
-/

namespace Adventure.Function

open Bridge

variable {c : CallContext}

/-! ### Texts -/

/-- The types of the parameters that a function on texts reads. -/
def TextFunction.takes : TextFunction → List ValueType
  | .length | .upperCase | .lowerCase | .toInt | .toFloat => [.string]
  | .right | .left => [.string, .int]
  | .insert | .find => [.string, .string, .int]
  | .subString => [.string, .int, .int]
  | .ofInt => [.int]
  | .ofFloat => [.float, .int, .int]
  | .ofObject => [.object]

def TextFunction.returns : TextFunction → ValueType
  | .length | .find | .toInt => .int
  | .toFloat => .float
  | _ => .string

/-- The width of a float's text, parameter one, is more than can be padded to. -/
def Wide (c : CallContext) : Prop := ∃ n, c.int 1 = .ok n ∧ 65535 < n.toInt.natAbs

theorem gives_floatText {x : Float32} {width decimals : Int32} (hw : c.int 1 = .ok width)
    (hwide : ¬ Wide c) : Gives (fun _ => True) (floatText x width decimals) := by
  have hnarrow : ¬ 65535 < width.toInt.natAbs := fun hlt => hwide ⟨width, hw, hlt⟩
  unfold floatText
  simp only [if_neg hnarrow]
  exact gives_pure trivial

theorem stops_floatText {x : Float32} {width decimals : Int32} (hw : c.int 1 = .ok width)
    (hwide : Wide c) : Stops (floatText x width decimals) := by
  obtain ⟨n, hn, hlt⟩ := hwide
  have hnw : n = width := by
    rw [hn] at hw
    exact Except.ok.inj hw
  subst hnw
  unfold floatText
  simp only [if_pos hlt]
  exact ⟨_, rfl⟩

theorem TextFunction.gives {f : TextFunction} (h : Provides c f.takes)
    (hwide : f = .ofFloat → ¬ Wide c) : Gives (fun v => v.type = f.returns) (f.perform c) := by
  unfold TextFunction.perform
  cases f with
  | length => exact (h.string 0 rfl).bind fun s _ => gives_pure rfl
  | upperCase => exact (h.string 0 rfl).bind fun s _ => gives_pure rfl
  | lowerCase => exact (h.string 0 rfl).bind fun s _ => gives_pure rfl
  | right => exact (h.int 1 rfl).bind fun n _ => (h.string 0 rfl).bind fun s _ => gives_pure rfl
  | left => exact (h.string 0 rfl).bind fun s _ => (h.int 1 rfl).bind fun n _ => gives_pure rfl
  | insert =>
    exact (h.string 0 rfl).bind fun s _ => (h.string 1 rfl).bind fun new _ =>
      (h.int 2 rfl).bind fun n _ => gives_pure rfl
  | subString =>
    exact (h.string 0 rfl).bind fun s _ => (h.int 1 rfl).bind fun start _ =>
      (h.int 2 rfl).bind fun n _ => gives_pure rfl
  | find =>
    refine (h.string 0 rfl).bind fun s _ => (h.string 1 rfl).bind fun needle _ =>
      (h.int 2 rfl).bind fun start _ => ?_
    obtain ⟨found, hfound, -⟩ := find?_eq s.toList needle.toList (count start)
    exact (gives_work hfound).bind fun found _ => gives_pure rfl
  | ofInt => exact (h.int 0 rfl).bind fun n _ => gives_pure rfl
  | ofFloat =>
    exact (h.float 0 rfl).bind fun x _ => (h.int 1 rfl).bind fun width hw =>
      (h.int 2 rfl).bind fun decimals _ =>
        (gives_floatText hw (hwide rfl)).bind fun text _ => gives_pure rfl
  | ofObject => exact (h.object 0 rfl).bind fun a _ => gives_pure rfl
  | toInt =>
    exact (h.string 0 rfl).bind fun s _ =>
      (gives_work (leadingInt_eq s.toList)).bind fun n _ => gives_pure rfl
  | toFloat =>
    refine (h.string 0 rfl).bind fun s _ => ?_
    obtain ⟨read, hread, -⟩ := leadingFloat_eq s.toList
    exact (gives_work hread).bind fun x _ => gives_pure rfl

theorem TextFunction.stops (hwide : Wide c) : Stops (TextFunction.ofFloat.perform c) := by
  unfold TextFunction.perform
  refine stops_bind fun x _ => stops_bind fun width hw => stops_bind fun decimals _ => ?_
  exact (stops_floatText (ok_of_lift hw) hwide).bind

/-! ### Numbers -/

def NumberFunction.takes : NumberFunction → List ValueType
  | .float _ | .toInt | .scaled _ | .ofAngle => [.float]
  | .pow => [.float, .float]
  | .absInt | .ofInt | .periods _ => [.int]
  | .magnitude | .normalize | .toAngle => [.vector]
  | .vector => [.float, .float, .float]
  | .constant _ => []

def NumberFunction.returns : NumberFunction → ValueType
  | .absInt | .toInt | .constant _ => .int
  | .normalize | .vector | .ofAngle => .vector
  | _ => .float

theorem NumberFunction.gives {f : NumberFunction} (h : Provides c f.takes) :
    Gives (fun v => v.type = f.returns) (f.perform c) := by
  unfold NumberFunction.perform
  cases f with
  | float f => exact (h.float 0 rfl).bind fun x _ => gives_pure rfl
  | pow => exact (h.float 0 rfl).bind fun x _ => (h.float 1 rfl).bind fun y _ => gives_pure rfl
  | absInt => exact (h.int 0 rfl).bind fun n _ => gives_pure rfl
  | ofInt => exact (h.int 0 rfl).bind fun n _ => gives_pure rfl
  | toInt => exact (h.float 0 rfl).bind fun x _ => gives_pure rfl
  | scaled factor => exact (h.float 0 rfl).bind fun x _ => gives_pure rfl
  | periods seconds => exact (h.int 0 rfl).bind fun n _ => gives_pure rfl
  | magnitude => exact (h.vector 0 rfl).bind fun v _ => gives_pure rfl
  | normalize => exact (h.vector 0 rfl).bind fun v _ => gives_pure rfl
  | vector =>
    exact (h.float 0 rfl).bind fun x _ => (h.float 1 rfl).bind fun y _ =>
      (h.float 2 rfl).bind fun z _ => gives_pure rfl
  | ofAngle => exact (h.float 0 rfl).bind fun x _ => gives_pure rfl
  | toAngle => exact (h.vector 0 rfl).bind fun v _ => gives_pure rfl
  | constant n => exact gives_pure rfl

/-! ### Looking at the world -/

def LocalType.valueType : LocalType → ValueType
  | .int => .int
  | .float => .float
  | .string => .string
  | .object => .object
  | .location => .engine

def Query.takes : Query → List ValueType
  | .enteringObject | .exitingObject | .pcSpeaker | .module => []
  | .nearestCreature => [.int, .int, .object, .int]
  | .nearestObject => [.int, .object, .int]
  | .nearestByTag => [.string, .object, .int]
  | .nearestToLocation => [.int, .engine, .int]
  | .distanceBetween => [.object, .object]
  | .distanceBetweenLocations => [.engine, .engine]
  | .localVariable _ => [.object, .string]
  | .hoursToSeconds => [.int]
  | .abilityScore => [.object, .int]
  | .waypointByTag => [.string]
  | .objectByTag => [.string, .int]
  | .makeLocation => [.object, .vector, .float]
  | .locationPosition | .locationArea | .locationFacing => [.engine]
  | .talkString => [.int, .int]
  | _ => [.object]

def Query.returns : Query → ValueType
  | .area | .enteringObject | .exitingObject | .nearestCreature | .nearestObject | .nearestByTag
  | .nearestToLocation | .waypointByTag | .objectByTag | .locationArea | .pcSpeaker
  | .module => .object
  | .position | .locationPosition => .vector
  | .facing | .distanceToObject | .distanceBetween | .distanceBetweenLocations | .hoursToSeconds
  | .locationFacing => .float
  | .localVariable type => type.valueType
  | .tag | .name | .talkString => .string
  | .location | .makeLocation => .engine
  | _ => .int

/-- The levels of the creature that parameter zero names are too many to add up. -/
def Overflowing (w : World) (c : CallContext) : Prop :=
  ∃ h a, c.object 0 = .ok h ∧ (w.get? h).bind Object.creature? = some a ∧ 4294967295 < a.levels

theorem gives_locationParam {types : List ValueType} (h : Provides c types) (i : Nat)
    {t : ValueType} (hi : types[i]? = some t) : Gives (fun _ => True) (locationParam c i) :=
  (h.param i hi).bind fun _ _ => gives_pure trivial

theorem LocalType.get_type (type : LocalType) (l : Locals) (name : String) :
    (type.get l name).type = type.valueType := by
  cases type <;> rfl

theorem gives_hitDice {a : Creature} (hfew : ¬ 4294967295 < a.levels) :
    Gives (fun _ => True) (hitDice a) := by
  unfold hitDice
  rw [if_neg hfew]
  exact ⟨_, rfl, trivial⟩

theorem stops_hitDice {a : Creature} (hmany : 4294967295 < a.levels) : Stops (hitDice a) := by
  unfold hitDice
  rw [if_pos hmany]
  exact ⟨_, rfl⟩

theorem Query.gives {q : Query} {w : World} (h : Provides c q.takes)
    (hlevels : q = .hitDice → ¬ Overflowing w c) :
    Gives (fun v => v.type = q.returns) (q.perform w c) := by
  unfold Query.perform
  cases q with
  | enteringObject => exact gives_pure rfl
  | exitingObject => exact gives_pure rfl
  | pcSpeaker => exact gives_pure rfl
  | module => exact gives_pure rfl
  | currentHp => exact gives_pure rfl
  | maxHp => exact gives_pure rfl
  | commandable => exact gives_pure rfl
  | nearestCreature => exact (h.int 3 rfl).bind fun nth _ => gives_pure rfl
  | nearestObject => exact (h.int 0 rfl).bind fun n _ => (h.int 2 rfl).bind fun nth _ => gives_pure rfl
  | nearestByTag =>
    exact (h.string 0 rfl).bind fun tag _ => (h.int 2 rfl).bind fun nth _ => gives_pure rfl
  | nearestToLocation =>
    refine (h.int 0 rfl).bind fun n _ => (h.int 2 rfl).bind fun nth _ =>
      (gives_locationParam h 1 rfl).bind fun place _ => ?_
    cases place.bind fun l => (w.loadedArea? l).map (·, l.position) with
    | none => exact gives_pure rfl
    | some spot => exact gives_pure rfl
  | distanceBetween =>
    exact (h.object 0 rfl).bind fun a _ => (h.object 1 rfl).bind fun b _ => gives_pure rfl
  | distanceBetweenLocations =>
    exact (gives_locationParam h 0 rfl).bind fun a _ =>
      (gives_locationParam h 1 rfl).bind fun b _ => gives_pure rfl
  | localVariable type =>
    exact (h.string 1 rfl).bind fun name _ => (h.object 0 rfl).bind fun a _ =>
      gives_pure (type.get_type _ name)
  | hoursToSeconds => exact (h.int 0 rfl).bind fun n _ => gives_pure rfl
  | abilityScore =>
    refine (h.int 1 rfl).bind fun n _ => ?_
    cases Ability.ofScript? n with
    | none => exact gives_pure rfl
    | some ability => exact (h.object 0 rfl).bind fun a _ => gives_pure rfl
  | hitDice =>
    refine (h.object 0 rfl).bind fun a ha => ?_
    cases hcreature : (w.get? a).bind Object.creature? with
    | none => exact gives_pure rfl
    | some creature =>
      have hfew : ¬ 4294967295 < creature.levels := fun hlt =>
        hlevels rfl ⟨a, creature, ha, hcreature, hlt⟩
      exact (gives_hitDice hfew).bind fun n _ => gives_pure rfl
  | waypointByTag => exact (h.string 0 rfl).bind fun tag _ => gives_pure rfl
  | objectByTag =>
    exact (h.string 0 rfl).bind fun tag _ => (h.int 1 rfl).bind fun nth _ => gives_pure rfl
  | makeLocation =>
    exact (h.object 0 rfl).bind fun area _ => (h.vector 1 rfl).bind fun position _ =>
      (h.float 2 rfl).bind fun facing _ => gives_pure rfl
  | locationPosition => exact (gives_locationParam h 0 rfl).bind fun l _ => gives_pure rfl
  | locationArea => exact (gives_locationParam h 0 rfl).bind fun l _ => gives_pure rfl
  | locationFacing => exact (gives_locationParam h 0 rfl).bind fun l _ => gives_pure rfl
  | talkString => exact (h.int 1 rfl).bind fun gender _ => (h.int 0 rfl).bind fun n _ => gives_pure rfl
  | _ => exact (h.object 0 rfl).bind fun a _ => gives_pure rfl

theorem Query.stops {w : World} (hlevels : Overflowing w c) :
    Stops (Query.hitDice.perform w c) := by
  obtain ⟨a, creature, ha, hcreature, hmany⟩ := hlevels
  unfold Query.perform
  refine stops_bind fun b hb => ?_
  have hab : a = b := by
    have hread : c.object 0 = .ok b := ok_of_lift hb
    rw [ha] at hread
    exact Except.ok.inj hread
  subst hab
  simp only [hcreature]
  exact (stops_hitDice hmany).bind

/-! ### Changing the world -/

def Printed.takes : Printed → List ValueType
  | .string => [.string]
  | .float => [.float, .int, .int]
  | .int => [.int]
  | .object => [.object]
  | .vector => [.vector, .int]

def Change.takes : Change → List ValueType
  | .print what => what.takes
  | .speak => [.string]
  | .setLocal type => [.object, .string, type.valueType]
  | .deleteLocal _ => [.object, .string]
  | .setFacing => [.float]
  | .setFacingPoint => [.vector]
  | .setCommandable => [.int, .object]
  | .clearActions => []
  | .random | .dice _ => [.int]
  | .firstInArea | .nextInArea => [.object]
  | .startConversation => [.object, .string]
  | .beginConversation => [.string, .object]
  | .createObject => [.int, .string, .engine, .int, .string]
  | .destroyObject => [.object, .float]
  | .setToken => [.int, .string]
  | .assignCommand => [.object, .state]
  | .delayCommand => [.float, .state]
  | .doCommand => [.state]

/-- The type of the answer; most answer with the value that the return slot is preset to. -/
def Change.returns (ret : ValueType) : Change → ValueType
  | .random | .dice _ | .beginConversation => .int
  | .firstInArea | .nextInArea | .createObject => .object
  | _ => ret

/-- The change sends a command to be carried out later by the script it comes from. -/
def Change.Commands : Change → Prop
  | .assignCommand | .delayCommand | .doCommand => True
  | _ => False

theorem type_preset (c : CallContext) : c.preset.type = c.ret := Value.type_default c.ret

theorem Printed.gives {p : Printed} (h : Provides c p.takes) (hwide : p = .float → ¬ Wide c) :
    Gives (fun _ => True) (p.line c) := by
  unfold Printed.line
  cases p with
  | string => exact (h.string 0 rfl).mono fun _ _ => trivial
  | float =>
    exact (h.float 0 rfl).bind fun x _ => (h.int 1 rfl).bind fun width hw =>
      (h.int 2 rfl).bind fun decimals _ => gives_floatText hw (hwide rfl)
  | int => exact (h.int 0 rfl).bind fun n _ => gives_pure trivial
  | object => exact (h.object 0 rfl).bind fun a _ => gives_pure trivial
  | vector => exact (h.vector 0 rfl).bind fun v _ => (h.int 1 rfl).bind fun n _ => gives_pure trivial

theorem Printed.stops (hwide : Wide c) : Stops (Printed.float.line c) := by
  unfold Printed.line
  refine stops_bind fun x _ => stops_bind fun width hw => stops_bind fun decimals _ => ?_
  exact stops_floatText (ok_of_lift hw) hwide

theorem gives_setter {type : LocalType} (h : Provides c [.object, .string, type.valueType])
    (name : String) : Gives (fun _ => True) (type.setter c name) := by
  unfold LocalType.setter
  cases type with
  | int => exact (h.int 2 rfl).bind fun n _ => gives_pure trivial
  | float => exact (h.float 2 rfl).bind fun x _ => gives_pure trivial
  | string => exact (h.string 2 rfl).bind fun s _ => gives_pure trivial
  | object => exact (h.object 2 rfl).bind fun a _ => gives_pure trivial
  | location =>
    refine (gives_locationParam h 2 rfl).bind fun place _ => ?_
    cases place with
    | none => exact gives_pure trivial
    | some place => exact gives_pure trivial

theorem gives_walkedArea {w : World} (h : Provides c [.object]) :
    Gives (fun _ => True) (walkedArea w c) := by
  unfold walkedArea
  refine (h.object 0 rfl).bind fun area _ => ?_
  split
  · exact gives_pure trivial
  · exact gives_pure trivial

theorem gives_otherSide {w : World} (h : Provides c [.string, .object]) :
    Gives (fun _ => True) (otherSide w c) := by
  unfold otherSide
  refine (h.object 1 rfl).bind fun a _ => ?_
  split
  · exact gives_pure trivial
  · exact gives_pure trivial

theorem gives_commandFrame {types : List ValueType} (h : Provides c types) (i : Nat)
    (hi : types[i]? = some .state) (hscript : c.site.script ≠ "") (function : String) :
    Gives (fun _ => True) (commandFrame c i function) := by
  unfold commandFrame
  refine (h.state i hi).bind fun f _ => ?_
  have hnonempty : ¬ c.site.script.isEmpty = true := by simpa using hscript
  rw [if_neg hnonempty]
  exact gives_pure trivial

theorem stops_commandFrame {i : Nat} (hscript : c.site.script = "") (function : String) :
    Stops (commandFrame c i function) := by
  unfold commandFrame
  refine stops_bind fun f _ => ?_
  rw [hscript, if_pos (by decide)]
  exact ⟨_, rfl⟩

theorem Change.gives {f : Change} {w : World} (h : Provides c f.takes)
    (hret : f.returns c.ret = c.ret) (hwide : f = .print .float → ¬ Wide c)
    (hscript : f.Commands → c.site.script ≠ "") :
    Gives (fun p => p.1.type = c.ret) (f.perform w c) := by
  have hpreset := type_preset c
  unfold Change.perform
  cases f with
  | print what =>
    have hline : Gives (fun _ => True) (what.line c) :=
      Printed.gives h fun hw => hwide (congrArg Change.print hw)
    exact hline.bind fun line _ => gives_pure hpreset
  | speak => exact (h.string 0 rfl).bind fun text _ => gives_pure hpreset
  | setLocal type =>
    exact (h.string 1 rfl).bind fun name _ => (gives_setter h name).bind fun set _ =>
      (h.object 0 rfl).bind fun a _ => gives_pure hpreset
  | deleteLocal type =>
    exact (h.string 1 rfl).bind fun name _ => (h.object 0 rfl).bind fun a _ => gives_pure hpreset
  | setFacing => exact (h.float 0 rfl).bind fun facing _ => gives_pure hpreset
  | setFacingPoint => exact (h.vector 0 rfl).bind fun target _ => gives_pure hpreset
  | setCommandable => exact (h.int 0 rfl).bind fun n _ => gives_pure hpreset
  | clearActions => exact gives_pure hpreset
  | random => exact (h.int 0 rfl).bind fun n _ => gives_pure hret
  | dice sides => exact (h.int 0 rfl).bind fun n _ => gives_pure hret
  | firstInArea => exact (gives_walkedArea h).bind fun area _ => gives_pure hret
  | nextInArea => exact (gives_walkedArea h).bind fun area _ => gives_pure hret
  | startConversation =>
    exact (h.object 0 rfl).bind fun pc _ => (h.string 1 rfl).bind fun dialog _ => gives_pure hpreset
  | beginConversation =>
    refine (gives_otherSide h).bind fun other _ => ?_
    split
    exact (h.string 0 rfl).bind fun dialog _ => gives_pure hret
  | createObject =>
    refine (h.int 0 rfl).bind fun n _ => (h.string 1 rfl).bind fun template _ =>
      (gives_locationParam h 2 rfl).bind fun place _ => ?_
    cases place with
    | none => exact gives_pure hpreset
    | some place =>
      refine (h.string 4 rfl).bind fun tag _ => ?_
      split
      · exact gives_pure hret
      · exact gives_pure hret
  | destroyObject =>
    exact (h.object 0 rfl).bind fun a _ => (h.float 1 rfl).bind fun s _ => gives_pure hpreset
  | setToken => exact (h.int 0 rfl).bind fun n _ => (h.string 1 rfl).bind fun s _ => gives_pure hpreset
  | assignCommand =>
    exact (h.object 0 rfl).bind fun subject _ =>
      (gives_commandFrame h 1 rfl (hscript trivial) _).bind fun state _ => gives_pure hpreset
  | delayCommand =>
    exact (h.float 0 rfl).bind fun s _ =>
      (gives_commandFrame h 1 rfl (hscript trivial) _).bind fun state _ => gives_pure hpreset
  | doCommand =>
    exact (gives_commandFrame h 0 rfl (hscript trivial) _).bind fun state _ => gives_pure hpreset

theorem Change.stops_print {w : World} (hwide : Wide c) :
    Stops (Change.perform (.print .float) w c) := (Printed.stops hwide).bind

theorem Change.stops_command {f : Change} {w : World} (hf : f.Commands)
    (hscript : c.site.script = "") : Stops (f.perform w c) := by
  unfold Change.perform
  cases f with
  | assignCommand => exact stops_bind fun subject _ => (stops_commandFrame hscript _).bind
  | delayCommand => exact stops_bind fun seconds _ => (stops_commandFrame hscript _).bind
  | doCommand => exact (stops_commandFrame hscript _).bind
  | _ => exact hf.elim

end Adventure.Function
