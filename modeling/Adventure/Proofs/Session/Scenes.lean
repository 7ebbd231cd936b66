import Adventure.Proofs.Session.Coherence
import Adventure.Proofs.World.Listing
import Adventure.Proofs.World.Speaking

/-!
# Reached scenes

What every shift keeps holds in every reached session. The objects know which conversation runs, a
conversation that runs has both of its sides unless a step has disrupted it, and the lists of areas
hold what is in them.
-/

namespace Adventure

open World (Linked Scene Shift Disrupted Moves MovesBy)
open Registry (limit)

variable {σ : Type} {s : Session σ}

theorem Session.Reached.keeps {I : Scene → Prop}
    (hI : ∀ {a b m}, Shift a m b → I a → I b) (hnothing : I ⟨[], 0, none, none⟩)
    (hs : s.Reached) (hlimit : s.world.registry.issued < limit) : I s.world.scene := by
  obtain ⟨library, models, clock, seed, host, hl⟩ := hs
  exact hl.moves.keeps hI (World.linked_new library models clock seed) hlimit hnothing

theorem Session.Reached.spoken (hs : s.Reached) (hlimit : s.world.registry.issued < limit) :
    s.world.scene.Spoken :=
  hs.keeps (fun h hs => hs.shift h) ⟨fun _ h => (nomatch h), fun _ h => nomatch h⟩ hlimit

theorem Session.Reached.listed (hs : s.Reached) (hlimit : s.world.registry.issued < limit) :
    s.world.scene.Listed :=
  hs.keeps (fun h hs => hs.shift h)
    ⟨fun _ h => (nomatch h), fun _ h => (nomatch h), fun _ h => nomatch h⟩ hlimit

/-! ### Speakers -/

namespace World

variable {w : World}

theorem Linked.pcSpeaker_iff (hl : Linked w) (hs : w.scene.Spoken) {h p : Handle} {o : Object}
    (ho : w.get? h = some o) : o.pcSpeaker = some p ↔
      ∃ c, w.conversation = some c ∧ c.object = h ∧ c.pc = p := by
  obtain ⟨hmem, rfl⟩ := hl.sound.indexed.get?_eq_some.1 ho
  rw [hs.speaker o hmem]
  exact Scene.speaker_eq_some

/-- In a conversation that has started, its object has its speaker and no other live object has
any. -/
theorem Linked.startConversation_speakers (hl : Linked w) (hs : w.scene.Spoken)
    {dialog : String} {pc object : Handle} {c : Conversation}
    (hc : (w.startConversation dialog pc object).2.conversation = some c) {h : Handle} {o : Object}
    (ho : (w.startConversation dialog pc object).2.get? h = some o) :
    o.pcSpeaker = if c.object = h then some c.pc else none := by
  have hl' := hl.startConversation dialog pc object
  have hshifts : Shifts (fun _ => True) w.scene (w.startConversation dialog pc object).2.scene :=
    shifts_startConversation trivial hl dialog pc object
  have hspoken := hshifts.keeps (fun h hs => hs.shift h) hs
  obtain ⟨hmem, rfl⟩ := hl'.sound.indexed.get?_eq_some.1 ho
  rw [hspoken.speaker o hmem]
  have hrunning : (w.startConversation dialog pc object).2.scene.conversation = some c := hc
  exact Scene.speaker_of_some hrunning o.id

end World

/-- In every reached session somebody talks to a live object exactly if the conversation that runs
is between the two, so to one live object at most. A conversation that is refused changes nothing.
After one that is started, its object has its speaker and no other live object has any. -/
theorem reached_speakers (hs : s.Reached) (hlimit : s.world.registry.issued < limit) :
    (∀ h o p, s.world.get? h = some o →
      (o.pcSpeaker = some p ↔ ∃ c, s.world.conversation = some c ∧ c.object = h ∧ c.pc = p)) ∧
    (∀ h o k b, s.world.get? h = some o → s.world.get? k = some b →
      o.pcSpeaker.isSome = true → b.pcSpeaker.isSome = true → h = k) ∧
    ∀ dialog pc object, let started := s.world.startConversation dialog pc object
      (started.1 = false → started.2 = s.world) ∧
      (started.1 = true → (∃ target, s.world.get? object = some target ∧ started.2.conversation =
          some ⟨World.dialogFor dialog target, pc, object⟩) ∧
        ∀ h o, started.2.get? h = some o →
          o.pcSpeaker = if object = h then some pc else none) := by
  have hl := hs.linked hlimit
  have hspoken := hs.spoken hlimit
  have hspeaker : ∀ h o p, s.world.get? h = some o →
      (o.pcSpeaker = some p ↔ ∃ c, s.world.conversation = some c ∧ c.object = h ∧ c.pc = p) :=
    fun h o p ho => hl.pcSpeaker_iff hspoken ho
  refine ⟨hspeaker, ?_, ?_⟩
  · intro h o k b ho hb hsome hsome'
    obtain ⟨p, hp⟩ := Option.isSome_iff_exists.1 hsome
    obtain ⟨q, hq⟩ := Option.isSome_iff_exists.1 hsome'
    obtain ⟨c, hc, rfl, -⟩ := (hspeaker h o p ho).1 hp
    obtain ⟨d, hd, rfl, -⟩ := (hspeaker k b q hb).1 hq
    rw [hc, Option.some_inj] at hd
    rw [hd]
  · intro dialog pc object
    rcases s.world.startConversation_cases dialog pc object with
      hrefused | ⟨player, target, -, -, htarget, hstarted⟩
    · rw [hrefused]
      exact ⟨fun _ => rfl, fun h => nomatch h⟩
    · have hconversation : (s.world.startConversation dialog pc object).2.conversation =
          some ⟨World.dialogFor dialog target, pc, object⟩ := by
        rw [hstarted]
        rfl
      simp only
      refine ⟨fun h => ?_, fun _ => ⟨⟨target, htarget, hconversation⟩, fun h o ho => ?_⟩⟩
      · rw [hstarted] at h
        cases h
      · exact hl.startConversation_speakers hspoken hconversation ho

/-! ### Sides of a conversation -/

/-- Both sides of the conversation are live, and the one that speaks is a creature of the player. -/
def World.holds (w : World) (c : Conversation) : Bool := (w.get? c.object).isSome && w.isPc c.pc

theorem World.Linked.holds_iff {w : World} (hl : Linked w) (c : Conversation) :
    w.holds c = true ↔ w.scene.Attends c := by
  have hget : ∀ {h o}, w.get? h = some o ↔ o ∈ w.registry.objects ∧ o.id = h :=
    hl.sound.indexed.get?_eq_some
  unfold World.holds World.isPc
  rw [Bool.and_eq_true, Option.isSome_iff_exists, Option.any_eq_true]
  refine and_congr (exists_congr fun o => hget) (exists_congr fun o => ?_)
  rw [hget, and_assoc]
  rfl

/-- A conversation that runs in a session that a fresh one leads to has both of its sides, unless it
has been disrupted on the way: then it runs without one of them. Every live object that somebody
talks to takes part in it, so that a speaker that is not live is the side that it has lost. A step
that disrupts the conversation leaves it running. -/
theorem sides_unless_disrupted {library : Library} {models : ModelSource} {clock seed : UInt64}
    {host : σ} (hs : (Session.fresh library models clock seed host).Leads s)
    (hlimit : s.world.registry.issued < limit) :
    (∀ c, s.world.conversation = some c →
      (s.world.holds c = true ↔ ¬Disrupted (.new library models clock seed) s.world c)) ∧
    (∀ h o p, s.world.get? h = some o → o.pcSpeaker = some p →
      ∃ c, s.world.conversation = some c ∧ c.object = h ∧ c.pc = p ∧
        (s.world.isPc p = true ∨ Disrupted (.new library models clock seed) s.world c)) ∧
    ∀ c w, s.world.conversation = some c → s.world.Disrupts w → w.registry.issued < limit →
      w.conversation = some c ∧ w.holds c = false := by
  have hreached : s.Reached := ⟨library, models, clock, seed, host, hs⟩
  have hmoves : Moves (.new library models clock seed) s.world := hs.moves
  have hnew := World.linked_new library models clock seed
  have hl := hreached.linked hlimit
  have hholds : ∀ c, s.world.conversation = some c →
      (s.world.holds c = true ↔ ¬Disrupted (.new library models clock seed) s.world c) := by
    intro c hc
    rw [hl.holds_iff]
    refine ⟨fun ha hd => hd.not_attends hnew hlimit ha, fun hd => ?_⟩
    exact (World.attends_or_disrupted hmoves hnew hlimit rfl hc).resolve_right hd
  refine ⟨hholds, ?_, ?_⟩
  · intro h o p ho hp
    obtain ⟨c, hc, hobject, rfl⟩ :=
      (hl.pcSpeaker_iff (hreached.spoken hlimit) ho).1 hp
    refine ⟨c, hc, hobject, rfl, ?_⟩
    by_cases hd : Disrupted (.new library models clock seed) s.world c
    · exact Or.inr hd
    · have hboth := (hholds c hc).2 hd
      unfold World.holds at hboth
      exact Or.inl (Bool.and_eq_true_iff.1 hboth).2
  · intro c w hc hd hlimit'
    obtain ⟨k, hstep⟩ := hd.step
    have hdisrupted : Disrupted (.new library models clock seed) w c :=
      ⟨s.world, w, hmoves, hc, hd, .refl⟩
    refine ⟨hd.conversation.trans hc, Bool.eq_false_iff.2 fun hboth => ?_⟩
    have hl' := hstep.linked hl hlimit'
    exact hdisrupted.not_attends hnew hlimit' ((hl'.holds_iff c).1 hboth)

/-! ### Lists of areas -/

def World.list? (w : World) (area : Handle) : Option (List Handle) :=
  ((w.get? area).bind Object.area?).map Area.objects

theorem World.Linked.list?_eq_some {w : World} (hl : Linked w) {area : Handle} {list : List Handle} :
    w.list? area = some list ↔ ∃ b ∈ w.registry.objects, b.id = area ∧
      ∃ a, b.area? = some a ∧ a.objects = list := by
  constructor
  · intro hlist
    obtain ⟨a, ha, hobjects⟩ := Option.map_eq_some_iff.1 hlist
    obtain ⟨b, hb, hba⟩ := Option.bind_eq_some_iff.1 ha
    obtain ⟨hmem, hid⟩ := hl.sound.indexed.get?_eq_some.1 hb
    exact ⟨b, hmem, hid, a, hba, hobjects⟩
  · rintro ⟨b, hmem, hid, a, ha, rfl⟩
    unfold World.list? World.get?
    rw [hl.sound.indexed.get?_eq_some.2 ⟨hmem, hid⟩, Option.bind_some, ha, Option.map_some]

/-- In every reached session no area lists a handle twice. It lists a live object exactly if the
object is in it, for all objects but the one that is the player's creature: so every other live
object is on one list, or on none if it is in no area. -/
theorem reached_lists (hs : s.Reached) (hlimit : s.world.registry.issued < limit) :
    (∀ area list, s.world.list? area = some list → list.Nodup) ∧
    ∀ h o, s.world.get? h = some o → s.world.pc ≠ some h →
      (∀ area list, s.world.list? area = some list → (h ∈ list ↔ o.area = some area)) ∧
      match o.area with
      | none => ∀ area list, s.world.list? area = some list → h ∉ list
      | some home => (∃ list, s.world.list? home = some list ∧ h ∈ list) ∧
          ∀ area list, s.world.list? area = some list → h ∈ list → area = home := by
  have hl := hs.linked hlimit
  have hlisted := hs.listed hlimit
  refine ⟨?_, ?_⟩
  · intro area list hlist
    obtain ⟨b, hb, -, a, ha, rfl⟩ := hl.list?_eq_some.1 hlist
    exact hlisted.once b hb a ha
  · intro h o ho hpc
    obtain ⟨hmem, rfl⟩ := hl.sound.indexed.get?_eq_some.1 ho
    have hiff : ∀ area list, s.world.list? area = some list →
        (o.id ∈ list ↔ o.area = some area) := by
      intro area list hlist
      obtain ⟨b, hb, rfl, a, ha, rfl⟩ := hl.list?_eq_some.1 hlist
      exact hlisted.listed b hb a ha o hmem hpc
    refine ⟨hiff, ?_⟩
    cases hplace : o.area with
    | none =>
      intro area list hlist hin
      rw [hiff area list hlist, hplace] at hin
      cases hin
    | some home =>
      obtain ⟨b, hb, hid, hkind⟩ := hl.placed o hmem home hplace
      obtain ⟨a, ha⟩ := Option.isSome_iff_exists.1 ((Object.area?_isSome b).2 hkind)
      have hhome : s.world.list? home = some a.objects :=
        hl.list?_eq_some.2 ⟨b, hb, hid, a, ha, rfl⟩
      refine ⟨⟨a.objects, hhome, (hiff home _ hhome).2 hplace⟩, ?_⟩
      intro area list hlist hin
      rw [hiff area list hlist, hplace, Option.some_inj] at hin
      exact hin.symm

/-! ### A conversation with a guard -/

/-- A library with an area that a guard is in and with a dialog. -/
def guarded : Library :=
  let text (kind : ResourceKind) (_ : String) : Option String :=
    if kind = .git then some "\x7b\"Creature List\": [\x7b\"Appearance_Type\": 0\x7d]\x7d"
    else if kind = .are ∨ kind = .dlg then some "\x7b\x7d"
    else none
  ⟨.ofTexts text fun _ _ => none, .empty⟩

/-- The player's creature talks with the guard. -/
def talk : Play Unit Unit := do
  let _ ← Play.act fun w => w.loadArea "yard"
  let _ ← Play.act fun w => w.loadPc [("Appearance_Type", .int 0)]
  let _ ← Play.act fun w => w.startConversation "talk" ⟨3⟩ ⟨2⟩

def talking : Session Unit := talk.after (.fresh guarded .plain 0 0 ())

theorem talking_leads : (Session.fresh guarded .plain 0 0 ()).Leads talking := by
  refine (Session.Leads.here _).play .idle ?_
  refine .first (.loadArea "yard") fun _ => ?_
  refine .first (.loadPc [("Appearance_Type", .int 0)]) fun _ => ?_
  exact .first (.startConversation "talk" ⟨3⟩ ⟨2⟩) fun _ => .answer _

theorem talking_reached : talking.Reached := ⟨guarded, .plain, 0, 0, (), talking_leads⟩

/-- The yard ⟨1⟩ and the guard ⟨2⟩ in it are loaded, and the player's creature ⟨3⟩ talks with the
guard. -/
theorem talking_plays : talking.world.registry.issued = 3 ∧
    talking.world.conversation = some ⟨"talk", ⟨3⟩, ⟨2⟩⟩ ∧
    talking.world.holds ⟨"talk", ⟨3⟩, ⟨2⟩⟩ = true ∧ talking.world.inConversation ⟨2⟩ = true ∧
    (talking.world.get? ⟨2⟩).isSome = true ∧ talking.world.pc ≠ some ⟨2⟩ ∧
    talking.world.isArea ⟨1⟩ = true ∧ (talking.world.list? ⟨1⟩).isSome = true ∧
    (talking.world.get? ⟨2⟩).bind Object.area = some ⟨1⟩ ∧
    ⟨2⟩ ∈ talking.world.registry.inArea ⟨1⟩ ∧
    (talking.world.unloadArea ⟨1⟩).registry.issued = 3 := by
  decide +kernel

theorem talking_below_limit : talking.world.registry.issued < limit := by
  obtain ⟨hissued, -⟩ := talking_plays
  rw [hissued]
  decide

/-- The player's creature is the one that talks to the guard. -/
theorem guard_speaker : talking.world.conversation = some ⟨"talk", ⟨3⟩, ⟨2⟩⟩ ∧
    ∃ o, talking.world.get? ⟨2⟩ = some o ∧ o.pcSpeaker = some ⟨3⟩ := by
  obtain ⟨-, hrunning, -, -, hlive, -⟩ := talking_plays
  obtain ⟨o, ho⟩ := Option.isSome_iff_exists.1 hlive
  obtain ⟨hspeaker, -⟩ := reached_speakers talking_reached talking_below_limit
  exact ⟨hrunning, o, ho, (hspeaker ⟨2⟩ o ⟨3⟩ ho).2 ⟨_, hrunning, rfl, rfl⟩⟩

/-- The bound is needed: when the handles come round again, another creature gets the one of the
guard and takes its place. The conversation runs on, and nobody talks to the new creature. This
rests on the count going round; with overflow checks the new creature is not made. -/
theorem unspoken_past_limit : ∃ s : Session Unit, s.Reached ∧
    s.world.conversation = some ⟨"talk", ⟨3⟩, ⟨2⟩⟩ ∧
    (s.world.get? ⟨2⟩).map Object.pcSpeaker = some none := by
  have hspent := talking_reached.leads (spent_leads talking 4294967294)
  refine ⟨_, hspent.leads ((Session.Leads.here _).operation .idle
    (.loadPc [("Appearance_Type", .int 0)])), ?_, ?_⟩
  · decide +kernel
  · decide +kernel

/-- The conversation with the guard has not been disrupted, and it would be if the yard were
unloaded. -/
theorem guard_attended :
    ¬Disrupted (.new guarded .plain 0 0) talking.world ⟨"talk", ⟨3⟩, ⟨2⟩⟩ ∧
    (talking.world.unloadArea ⟨1⟩).holds ⟨"talk", ⟨3⟩, ⟨2⟩⟩ = false := by
  obtain ⟨-, hrunning, hholds, hside, -, hpc, harea, -, -, hin, hunloaded⟩ := talking_plays
  have hlimit : (talking.world.unloadArea ⟨1⟩).registry.issued < limit := by
    rw [hunloaded]
    decide
  obtain ⟨hsides, -, hbreaks⟩ := sides_unless_disrupted talking_leads talking_below_limit
  refine ⟨(hsides _ hrunning).1 hholds, (hbreaks _ _ hrunning ?_ hlimit).2⟩
  exact .unloadArea ⟨1⟩ ⟨2⟩ harea (Or.inr ⟨hin, hpc⟩) hside

/-- The guard is on the list of the yard. -/
theorem guard_listed : ∃ list, talking.world.list? ⟨1⟩ = some list ∧ ⟨2⟩ ∈ list ∧ list.Nodup := by
  obtain ⟨-, -, -, -, -, hpc, -, hlist, hplace, -⟩ := talking_plays
  obtain ⟨list, hlist⟩ := Option.isSome_iff_exists.1 hlist
  obtain ⟨o, ho, harea⟩ := Option.bind_eq_some_iff.1 hplace
  obtain ⟨honce, hlists⟩ := reached_lists talking_reached talking_below_limit
  exact ⟨list, hlist, ((hlists ⟨2⟩ o ho hpc).1 ⟨1⟩ list hlist).2 harea, honce _ _ hlist⟩

/-- The bound is needed: when the handles come round again, a hall gets the one of the guard and takes
its place. It stands on the list of the yard, although it is in no area. This too rests on the count
going round. -/
theorem mislisted_past_limit : ∃ s : Session Unit, s.Reached ∧ s.world.pc ≠ some ⟨2⟩ ∧
    s.world.list? ⟨1⟩ = some [⟨2⟩] ∧ (s.world.get? ⟨2⟩).map Object.area = some none := by
  have hspent := talking_reached.leads (spent_leads talking 4294967294)
  refine ⟨_, hspent.leads ((Session.Leads.here _).operation .idle (.loadArea "hall")), ?_⟩
  decide +kernel

/-- Another creature becomes the player's while the one before talks with the guard. The
conversation runs on, and the guard keeps a speaker that is not live. -/
theorem replaced_speaker :
    let replaced := ((Operation.loadPc [("Appearance_Type", .int 0)]).play .idle).after talking
    replaced.Reached ∧ replaced.world.conversation = some ⟨"talk", ⟨3⟩, ⟨2⟩⟩ ∧
      replaced.world.get? ⟨3⟩ = none ∧
      (replaced.world.get? ⟨2⟩).bind Object.pcSpeaker = some ⟨3⟩ := by
  refine ⟨talking_reached.leads ((Session.Leads.here _).operation .idle (.loadPc _)), ?_⟩
  decide +kernel

end Adventure
