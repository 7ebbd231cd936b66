import Adventure.Proofs.Session.Reach
import Adventure.Proofs.World.Whereabouts

/-!
# The player's creature on its way

Moving the player's creature runs the scripts for leaving the old area and for entering the new one,
and these may move it again, to any finite depth. The world notes the new area between the two. So
it tracks the creature in the end if every script for leaving leaves the creature in the area it
finds it in; the scripts for entering may move it wherever they like.
-/

namespace Adventure

open World (ExitsAmong Guides Still Tracks)

variable {σ α β : Type} {exits : String → Prop}

namespace Play

variable {s : Session σ} {Q : World → Prop}

/-! ### Play that returns -/

/-- From this session play returns, and this holds of the world then. -/
def Yields (m : Play σ α) (s : Session σ) (Q : World → Prop) : Prop :=
  ∃ a, m.ended s = .ok a ∧ Q (m.after s).world

theorem yields_pure (a : α) (h : Q s.world) : Yields (pure a : Play σ α) s Q := ⟨a, rfl, h⟩

theorem yields_change {f : World → World} (h : Q (f s.world)) : Yields (change f) s Q :=
  ⟨(), rfl, h⟩

theorem Yields.mono {m : Play σ α} {Q' : World → Prop} (hm : Yields m s Q)
    (h : ∀ w, Q w → Q' w) : Yields m s Q' := by
  obtain ⟨a, ha, hq⟩ := hm
  exact ⟨a, ha, h _ hq⟩

theorem yields_after {m : Play σ α} {a : α} (ha : m.ended s = .ok a) {f : α → Play σ β}
    (hf : Yields (f a) (m.after s) Q) : Yields (m >>= f) s Q := by
  obtain ⟨b, hb, hq⟩ := hf
  obtain ⟨hended, hafter⟩ := bind_of_ok ha f
  exact ⟨b, hended.trans hb, by rwa [hafter]⟩

theorem yields_bind {m : Play σ α} {f : α → Play σ β} {Q' : World → Prop} (hm : Yields m s Q')
    (hf : ∀ a s', Q' s'.world → Yields (f a) s' Q) : Yields (m >>= f) s Q := by
  obtain ⟨a, ha, hq⟩ := hm
  exact yields_after ha (hf a (m.after s) hq)

theorem yields_world {f : World → Play σ β} (hf : Yields (f s.world) s Q) :
    Yields (world >>= f) s Q := yields_after rfl hf

theorem yields_act {f : World → α × World} {g : α → Play σ β}
    (hg : Yields (g (f s.world).1) { s with world := (f s.world).2 } Q) :
    Yields (act f >>= g) s Q := yields_after rfl hg

theorem yields_next {f : World → World} {g : Unit → Play σ β}
    (hg : Yields (g ()) { s with world := f s.world } Q) : Yields (change f >>= g) s Q :=
  yields_after rfl hg

/-- Wherever it begins, play returns and guides the player's creature. -/
abbrev Guiding (exits : String → Prop) (m : Play σ α) : Prop :=
  ∀ s, ExitsAmong exits s.world → Yields m s (Guides exits s.world)

theorem guiding_pure (a : α) : Guiding exits (pure a : Play σ α) :=
  fun _ he => yields_pure a (.refl he)

theorem guiding_bind {m : Play σ α} {f : α → Play σ β} (hm : Guiding exits m)
    (hf : ∀ a, Guiding exits (f a)) : Guiding exits (m >>= f) := fun s he =>
  yields_bind (hm s he) fun a s' h => (hf a s' h.bound).mono fun _ h' => h.trans h'

theorem guiding_change {f : World → World} (hf : ∀ w, Still exits w (f w)) :
    Guiding exits (change f : Play σ Unit) :=
  fun s he => yields_change ((hf s.world).guides he)

end Play

/-- The scripts return and guide the player's creature. Those for leaving an area leave it where it
is. -/
structure Runner.Considerate (exits : String → Prop) (run : Runner σ) : Prop where
  guiding : ∀ r, Play.Guiding exits (run r)
  stays : ∀ r s, exits r.script → ((run r).after s).world.pcArea? = s.world.pcArea?

namespace Play

variable {run : Runner σ} {s : Session σ}

/-! ### Scripts and hooks -/

theorem guiding_runScript (hrun : run.Considerate exits) (r : Request) :
    Guiding exits (runScript run r) := by
  unfold runScript
  split
  · exact guiding_pure _
  · exact guiding_bind (guiding_change fun w => .logEvent w _) fun _ => hrun.guiding r

theorem guiding_runHook (hrun : run.Considerate exits) (h : Handle) (event : String)
    (triggerer : Handle) : Guiding exits (runHook run h event triggerer) := by
  intro s he
  unfold runHook
  refine yields_world ?_
  split
  · exact guiding_pure () s he
  · exact guiding_bind (guiding_runScript hrun _) (fun _ => guiding_pure ()) s he

theorem yields_leaving (hrun : run.Considerate exits) (he : ExitsAmong exits s.world)
    {r : Request} (hr : exits r.script) :
    Yields (runScript run r) s fun w => Guides exits s.world w ∧ w.pcArea? = s.world.pcArea? := by
  unfold runScript
  split
  · exact yields_pure _ ⟨.refl he, rfl⟩
  · refine yields_bind (yields_change (Q := Still exits s.world) (.logEvent _ _)) ?_
    intro _ s' hs'
    obtain ⟨a, ha, hguided⟩ := hrun.guiding r s' (hs'.bound he)
    exact ⟨a, ha, (hs'.guides he).trans hguided, (hrun.stays r s' hr).trans hs'.pcArea?⟩

theorem yields_exitHook (hrun : run.Considerate exits) (he : ExitsAmong exits s.world)
    (h triggerer : Handle) : Yields (runHook run h "OnExit" triggerer) s fun w =>
      Guides exits s.world w ∧ w.pcArea? = s.world.pcArea? := by
  unfold runHook
  refine yields_world ?_
  split
  · exact yields_pure () ⟨.refl he, rfl⟩
  · rename_i script hscript
    obtain ⟨o, ho, hhook⟩ := Option.bind_eq_some_iff.1 hscript
    refine yields_bind (yields_leaving hrun he (he h o script ho hhook)) ?_
    exact fun _ s' hs' => yields_pure () hs'

/-! ### Coming into another area -/

theorem yields_leaveArea (hrun : run.Considerate exits) (he : ExitsAmong exits s.world)
    (pc : Handle) (old : Option Handle) : Yields (leaveArea run pc old) s fun w =>
      w.pc = s.world.pc ∧ ExitsAmong exits w ∧ w.pcArea? = s.world.pcArea? := by
  unfold leaveArea
  cases old with
  | none => exact yields_pure () ⟨rfl, he, rfl⟩
  | some old =>
    have hexiting : Still exits s.world { s.world with exiting := pc } := .aside rfl rfl rfl
    have hhidden : Still exits s.world ({ s.world with exiting := pc }.setAreaVisible old false) :=
      hexiting.trans (.setAreaVisible _ old false)
    refine yields_bind (yields_change hhidden) ?_
    intro _ s' hs'
    refine (yields_exitHook hrun (hs'.bound he) old pc).mono ?_
    rintro w ⟨hguided, hsame⟩
    exact ⟨hguided.pc.trans hs'.pc, hguided.bound, hsame.trans hs'.pcArea?⟩

theorem guiding_enterArea (hrun : run.Considerate exits) (pc : Handle) (new : Option Handle) :
    Guiding exits (enterArea run pc new) := by
  unfold enterArea
  cases new with
  | none => exact guiding_pure ()
  | some new =>
    refine guiding_bind (guiding_change fun w => ?_) fun _ =>
      guiding_bind (guiding_runHook hrun new _ pc) fun _ => guiding_change fun w => .logEvent w _
    have hentering : Still exits w { w with entering := pc } := .aside rfl rfl rfl
    exact hentering.trans (.setAreaVisible _ new true)

/-- Wherever the player's creature is, it is tracked once its move has been noticed. -/
theorem yields_movedPc (hrun : run.Considerate exits) (he : ExitsAmong exits s.world) :
    Yields (movedPc run) s fun w =>
      w.pc = s.world.pc ∧ ExitsAmong exits w ∧ (s.world.pc ≠ none ∨ s.world.Tracks → w.Tracks) := by
  unfold movedPc
  refine yields_world ?_
  split
  · rename_i hpc
    exact yields_pure () ⟨rfl, he, fun h => h.resolve_left fun hsome => hsome hpc⟩
  · rename_i pc _
    simp only
    split
    · rename_i hsame
      exact yields_pure () ⟨rfl, he, fun _ => hsame.symm⟩
    · refine yields_bind (yields_leaveArea hrun he pc _) ?_
      rintro _ s₁ ⟨hpc₁, he₁, hplace⟩
      -- The hooks have left the creature where it was when its move was noticed.
      refine yields_next (Yields.mono (guiding_enterArea hrun pc _ _ he₁) ?_)
      intro w hguided
      exact ⟨hguided.pc.trans hpc₁, hguided.bound, fun _ => hguided.tracks hplace.symm⟩

theorem guiding_movedPc (hrun : run.Considerate exits) : Guiding exits (movedPc run) := by
  intro s he
  refine (yields_movedPc hrun he).mono ?_
  rintro w ⟨hpc, hexits, htracks⟩
  exact ⟨hpc, hexits, fun h => htracks (.inr h)⟩

/-! ### Relocations -/

theorem guiding_jumpTo (hrun : run.Considerate exits) (h area : Handle) (position : Vec3) :
    Guiding exits (jumpTo run h area position) := by
  intro s he
  unfold jumpTo
  refine yields_world ?_
  split
  · exact guiding_pure false s he
  · rename_i current _
    have hexits := World.exitsAmong_relocate he h current area position
    have hpc := World.relocate_pc s.world h current area position
    split
    · rename_i hplayer
      have hsome : (s.world.relocate h current area position).pc ≠ none := by
        rw [hpc, hplayer]
        exact Option.some_ne_none h
      refine yields_next (yields_bind (yields_movedPc hrun hexits) ?_)
      rintro _ s' ⟨hpc', he', htracks⟩
      exact yields_pure true ⟨hpc'.trans hpc, he', fun _ => htracks (.inl hsome)⟩
    · rename_i hother
      have hstill : Still exits s.world (s.world.relocate h current area position) :=
        World.still_relocate h current area position hother
      exact yields_next (yields_pure true (hstill.guides he))

theorem guiding_movePc (hrun : run.Considerate exits) (area : String) (position : Vec3) :
    Guiding exits (movePc run area position) := by
  intro s he
  unfold movePc
  refine yields_world ?_
  split
  · exact guiding_pure _ s he
  · split
    · exact guiding_pure _ s he
    · refine guiding_bind (guiding_jumpTo hrun _ _ position) (fun jumped => ?_) s he
      cases jumped <;> exact guiding_pure _

theorem guiding_enter (hrun : run.Considerate exits) : Guiding exits (enter run) := by
  intro s he
  unfold enter
  refine yields_act ?_
  rcases s.world.placeAtEntry_cases with ⟨e, hfail⟩ | ⟨pc, m, area, hsome, -, -, hplaced⟩
  · rw [hfail]
    exact yields_pure _ (.refl he)
  · rw [hplaced]
    have hplayer : s.world.pc ≠ none := by
      rw [hsome]
      exact Option.some_ne_none pc
    refine yields_bind
      (yields_movedPc hrun (World.exitsAmong_update he pc fun _ => ⟨rfl, rfl⟩)) ?_
    rintro _ s₁ ⟨hpc₁, he₁, htracks⟩
    refine yields_world ?_
    refine (guiding_bind (guiding_runHook hrun _ _ _) (fun _ => guiding_bind
      (guiding_change fun w => .logEvent w _) fun _ => guiding_pure _) s₁ he₁).mono ?_
    intro w₂ hguided
    exact ⟨hguided.pc.trans hpc₁, hguided.bound,
      fun _ => hguided.tracks (htracks (.inl hplayer))⟩

end Play

/-! ### Jumps of scripts -/

namespace Function

open Bridge
open Play (Yields Guiding yields_world yields_pure yields_bind guiding_pure guiding_bind
  guiding_change guiding_jumpTo)

variable {run : Runner σ}

def Deed.Jumps : Deed → Prop
  | jumpToObject | jumpToLocation => True
  | _ => False

theorem guiding_jump (hrun : run.Considerate exits) (caller area : Handle) (position : Vec3)
    (facing : Option Float32) :
    Guiding exits ((Intent.jump area position facing).carryOut run caller) := by
  unfold Intent.carryOut
  refine guiding_bind (guiding_jumpTo hrun caller area position) fun jumped => ?_
  cases facing with
  | none => exact guiding_pure _
  | some facing =>
    simp only
    split
    · refine guiding_bind (guiding_change fun w => ?_) fun _ => guiding_pure _
      exact .update w caller (fun o => ⟨rfl, rfl⟩) fun o _ _ => rfl
    · exact guiding_pure _

theorem Deed.Jumps.intent {d : Deed} (hd : d.Jumps) {w : World} {c : CallContext} {intent : Intent}
    (h : d.intent w c = .ok intent) :
    intent = .nothing ∨ ∃ area position facing, intent = .jump area position facing := by
  cases d with
  | executeScript => exact hd.elim
  | openDoor => exact hd.elim
  | closeDoor => exact hd.elim
  | jumpToObject =>
    simp only [Deed.intent, bind, Except.bind] at h
    split at h
    · cases h
    · split at h
      · cases h
        exact .inr ⟨_, _, _, rfl⟩
      · cases h
        exact .inl rfl
  | jumpToLocation =>
    simp only [Deed.intent, bind, Except.bind] at h
    split at h
    · cases h
    · split at h
      · cases h
        exact .inr ⟨_, _, _, rfl⟩
      · cases h
        exact .inl rfl

theorem guiding_deed (hrun : run.Considerate exits) {d : Deed} (hd : d.Jumps) (c : CallContext) :
    Guiding exits (d.perform run c) := by
  intro s he
  unfold Deed.perform
  refine yields_world ?_
  split
  · exact guiding_pure _ s he
  · rename_i intent hintent
    have hcarried : Guiding exits (intent.carryOut run c.site.caller) := by
      rcases hd.intent hintent with rfl | ⟨area, position, facing, rfl⟩
      · exact guiding_pure _
      · exact guiding_jump hrun _ area position facing
    refine guiding_bind hcarried (fun ended => ?_) s he
    cases ended <;> exact guiding_pure _

end Function

/-! ### Play made of relocations -/

/-- The operation moves an object, and with it the player's creature if it is that one: jumping,
moving, entering, and the script functions for jumping. -/
def Operation.Relocates : Operation → Prop
  | jumpTo _ _ _ | movePc _ _ | enter | movedPc => True
  | call t f _ _ => t = Function.table ∧ (f = .id 196 ∨ f = .id 214 ∨
      f = .name "ActionJumpToObject" ∨ f = .name "ActionJumpToLocation")
  | _ => False

theorem Operation.jumps_of_number {f : Function.Callee} (hf : f = .id 196 ∨ f = .id 214 ∨
      f = .name "ActionJumpToObject" ∨ f = .name "ActionJumpToLocation") {n : Nat}
    {e : Bridge.Entry Function.Builtin} (hn : f.number? Function.table = some n)
    (he : Function.table.find? n = some e) :
    ∃ d : Function.Deed, d.Jumps ∧ e.handler = .deed d := by
  have hobject : (Function.table.find? 196).map Bridge.Entry.handler =
      some (.deed .jumpToObject) := by decide
  have hlocation : (Function.table.find? 214).map Bridge.Entry.handler =
      some (.deed .jumpToLocation) := by decide
  have hnumber : n = 196 ∨ n = 214 := by
    rcases hf with rfl | rfl | rfl | rfl
    · exact .inl (Option.some.inj hn).symm
    · exact .inr (Option.some.inj hn).symm
    · have hname : Function.table.findByName? "ActionJumpToObject" = some 196 := by decide
      exact .inl (Option.some.inj (hn.symm.trans hname))
    · have hname : Function.table.findByName? "ActionJumpToLocation" = some 214 := by
        decide
      exact .inr (Option.some.inj (hn.symm.trans hname))
  rcases hnumber with rfl | rfl
  · rw [he] at hobject
    exact ⟨.jumpToObject, trivial, Option.some.inj hobject⟩
  · rw [he] at hlocation
    exact ⟨.jumpToLocation, trivial, Option.some.inj hlocation⟩

theorem Operation.Relocates.guiding {run : Runner σ} (hrun : run.Considerate exits)
    {op : Operation} (h : op.Relocates) : Play.Guiding exits (op.play run) := by
  cases op with
  | jumpTo moved area position => exact Play.guiding_jumpTo hrun moved area position
  | movePc area position => exact Play.guiding_movePc hrun area position
  | enter => exact Play.guiding_enter hrun
  | movedPc => exact Play.guiding_movedPc hrun
  | call t f args site =>
    obtain ⟨rfl, hf⟩ := h
    intro s he
    refine Function.after_callIn (.refl he) ?_
    intro n e c hn hfound
    obtain ⟨d, hd, hhandler⟩ := Operation.jumps_of_number hf hn hfound
    rw [hhandler]
    obtain ⟨-, -, hguided⟩ := Function.guiding_deed hrun hd c s he
    exact hguided
  | _ => exact h.elim

/-- Scripts made of relocations, and so are those that run on their way, to any finite depth. A
script for leaving leaves the player's creature in the area it finds it in. -/
inductive Runner.Roaming (exits : String → Prop) : Runner σ → Prop where
  | idle : Roaming exits .idle
  | scripted {inner run : Runner σ} (deeper : Roaming exits inner)
    (scripts : ∀ r, Play.Made Operation.Relocates inner (run r))
    (stays : ∀ r s, exits r.script → ((run r).after s).world.pcArea? = s.world.pcArea?) :
    Roaming exits run

theorem Play.Made.guiding {run : Runner σ} (hrun : run.Considerate exits) {m : Play σ α}
    (h : Play.Made Operation.Relocates run m) : Play.Guiding exits m := by
  induction h with
  | answer a => exact Play.guiding_pure a
  | chain first rest ihm ihf => exact Play.guiding_bind ihm ihf
  | look => exact fun s he => ⟨s, rfl, .refl he⟩
  | host f => exact fun s he => ⟨(), rfl, .refl he⟩
  | operation op h => exact h.guiding hrun

theorem Runner.Roaming.considerate {run : Runner σ} (h : run.Roaming exits) :
    run.Considerate exits := by
  induction h with
  | idle => exact ⟨fun _ => Play.guiding_pure _, fun _ _ _ => rfl⟩
  | scripted _ scripts stays ih => exact ⟨fun r => (scripts r).guiding ih, stays⟩

/-- Every relocation from a session that tracks the player's creature returns and tracks it again,
whatever the scripts for entering areas do on the way, if the scripts for leaving leave it in the
area they find it in. -/
theorem relocation_tracked {run : Runner σ} (hrun : run.Roaming exits) {s : Session σ}
    (hexits : ExitsAmong exits s.world) (htracks : s.world.currentArea = s.world.pcArea?)
    {op : Operation} (hop : op.Relocates) :
    ∃ answer, (op.play run).ended s = .ok answer ∧
      ((op.play run).after s).world.currentArea = ((op.play run).after s).world.pcArea? := by
  obtain ⟨answer, hended, hguided⟩ := hop.guiding hrun.considerate s hexits
  exact ⟨answer, hended, hguided.tracks htracks⟩

/-! ### A creature that is sent back -/

/-- A module with an area that has a script for leaving it; the others have one for entering. -/
def twoAreas : Library :=
  let text (kind : ResourceKind) (name : String) : Option String :=
    if kind = .ifo then some "\x7b\"Mod_Entry_Area\": \"field\"\x7d"
    else if kind ≠ .are then none
    else if name = "field" then some "\x7b\"OnExit\": \"leave\"\x7d"
    else some "\x7b\"OnEnter\": \"arrive\"\x7d"
  ⟨.ofTexts text fun _ _ => none, .empty⟩

def arrival : Play Unit Unit := do
  let _ ← Play.act fun w => w.loadModule "house"
  let _ ← Play.act fun w => w.loadArea "cave"
  let _ ← Play.act fun w => w.loadPc [("Appearance_Type", .int 0)]
  let _ ← Play.enter .idle

def arrived : Session Unit := arrival.after (.fresh twoAreas .plain 0 0 ())

theorem arrival_composed : Play.Composed .idle arrival := by
  refine .first (.loadModule "house") fun _ => ?_
  refine .first (.loadArea "cave") fun _ => ?_
  refine .first (.loadPc [("Appearance_Type", .int 0)]) fun _ => ?_
  exact .first .enter fun _ => .answer _

theorem arrived_reached : arrived.Reached :=
  ⟨twoAreas, .plain, 0, 0, (), (Session.Leads.here _).play .idle arrival_composed⟩

/-- The interpreter of one script, which sends the player's creature back to the first area. -/
def sendBack (script : String) : Runner Unit := fun r =>
  if r.script = script then do
    let _ ← Play.jumpTo .idle ⟨4⟩ ⟨2⟩ .zero
    return .ok ()
  else return .ok ()

theorem sendBack_made (script : String) (r : Request) :
    Play.Made Operation.Relocates .idle (sendBack script r) := by
  unfold sendBack
  split
  · exact .chain (.operation (.jumpTo ⟨4⟩ ⟨2⟩ .zero) trivial) fun _ => .answer _
  · exact .answer _

def intoCave : Operation := .movePc "cave" .zero

/-- Sent back as soon as it enters the other area, the creature is tracked. -/
theorem sendBack_tracked : arrived.world.currentArea = some ⟨2⟩ ∧
    ((intoCave.play (sendBack "arrive")).after arrived).world.currentArea = some ⟨2⟩ ∧
    ((intoCave.play (sendBack "arrive")).after arrived).world.pcArea? = some ⟨2⟩ := by
  have hroaming : (sendBack "arrive").Roaming (· = "leave") := by
    refine .scripted .idle (sendBack_made "arrive") ?_
    intro r s hr
    have hidle : sendBack "arrive" r = pure (.ok ()) := if_neg (by rw [hr]; decide)
    rw [hidle]
    rfl
  have hexits : ExitsAmong (· = "leave") arrived.world := by
    have hall : (arrived.world.registry.objects.all fun o =>
        (o.hook? "OnExit").all (· = "leave")) = true := by decide +kernel
    intro h o script ho hscript
    have hleave := List.all_eq_true.1 hall o (World.mem_of_get? ho)
    rw [hscript] at hleave
    simpa using hleave
  have hplay : arrived.world.currentArea = some ⟨2⟩ ∧ arrived.world.pcArea? = some ⟨2⟩ ∧
      ((intoCave.play (sendBack "arrive")).after arrived).world.currentArea = some ⟨2⟩ := by
    decide +kernel
  obtain ⟨hfirst, hplace, hcurrent⟩ := hplay
  have hop : intoCave.Relocates := trivial
  obtain ⟨-, -, htracked⟩ := relocation_tracked hroaming hexits (hfirst.trans hplace.symm) hop
  exact ⟨hfirst, hcurrent, htracked.symm.trans hcurrent⟩

/-- Sent back when it leaves the first area, it is in the first area, and the other one is noted. -/
theorem sendBack_untracked : (sendBack "leave").Made Operation.Relocates ∧ arrived.Reached ∧
    arrived.world.currentArea = arrived.world.pcArea? ∧
    ((intoCave.play (sendBack "leave")).ended arrived).isOk = true ∧
    ((intoCave.play (sendBack "leave")).after arrived).world.pcArea? = some ⟨2⟩ ∧
    ((intoCave.play (sendBack "leave")).after arrived).world.currentArea = some ⟨3⟩ := by
  refine ⟨.scripted .idle (sendBack_made "leave"), arrived_reached, ?_⟩
  decide +kernel

end Adventure
