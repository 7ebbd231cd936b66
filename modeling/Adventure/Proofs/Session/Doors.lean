import Adventure.Proofs.Session.Journal

/-!
# Doors under scripts

However scripts open and close doors, and whatever the doors' own scripts do with them on the way,
each door answers those who ask it one after the other: it turns only to the other state, once for
each time it says so, and not to being open while it is locked.
-/

namespace Adventure

open Adventure.Function (Callee Builtin Deed Intent)
open World (Steady)

variable {σ α β : Type}

/-! ### One door -/

namespace Doorway

theorem turns_run (d : Doorway) (h caller : Handle) (event : String) :
    (d.run h caller event).filterMap Cue.turn? = [] := by
  unfold run
  cases d.hook? event <;> rfl

theorem isOf_run (d : Doorway) (h caller : Handle) (event : String) :
    ∀ c ∈ d.run h caller event, ∀ k, c.isOf k = decide (h = k) := by
  intro c hc k
  unfold run at hc
  obtain ⟨script, -, rfl⟩ := Option.map_eq_some_iff.1 (Option.mem_toList.1 hc)
  rfl

theorem isOf_respond (d : Doorway) (h caller : Handle) (wanted : Bool) :
    ∀ c ∈ (d.respond h caller wanted).1, ∀ k, c.isOf k = decide (h = k) := by
  intro c hc k
  unfold respond at hc
  split at hc
  · exact d.isOf_run h caller _ c hc k
  · split at hc
    · cases hc
    · rcases List.mem_cons.1 hc with rfl | hc
      · rfl
      · exact d.isOf_run h caller _ c hc k

end Doorway

/-- What the cues of one door are. A door answers whoever asks, one after the other: while it is
locked it does not open, and if it is as it is asked to be nothing happens; else it turns, and the
script that it has for that is handed over once, with the door as its owner, for the one who has
asked. If there is no door, nobody gets an answer. A door may go when its handle is given to
something else. -/
inductive Served (h : Handle) : Option Doorway → List Cue → Option Doorway → Prop where
  | done (o : Option Doorway) : Served h o [] o
  | gone {d : Doorway} {cs : List Cue} {o : Option Doorway} (later : Served h none cs o) :
    Served h (some d) cs o
  | nothing {caller : Handle} {wanted : Bool} {cs : List Cue} {o : Option Doorway}
    (later : Served h none cs o) : Served h none (.asked h caller wanted :: cs) o
  | refused {d : Doorway} {caller : Handle} {cs : List Cue} {o : Option Doorway}
    (locked : d.locked = true) (later : Served h (some d) cs o) :
    Served h (some d) (.asked h caller true :: (d.run h caller "OnFailToOpen" ++ cs)) o
  | kept {d : Doorway} {caller : Handle} {wanted : Bool} {cs : List Cue} {o : Option Doorway}
    (free : wanted = true → d.locked = false) (same : d.isOpen = wanted)
    (later : Served h (some d) cs o) : Served h (some d) (.asked h caller wanted :: cs) o
  | turned {d : Doorway} {caller : Handle} {wanted : Bool} {cs : List Cue} {o : Option Doorway}
    (free : wanted = true → d.locked = false) (other : d.isOpen ≠ wanted)
    (later : Served h (some { d with isOpen := wanted }) cs o) :
    Served h (some d) (.asked h caller wanted :: .turned h d.tag wanted ::
      (d.run h caller (Doorway.eventOf wanted) ++ cs)) o

namespace Served

variable {h : Handle} {o o' o'' : Option Doorway} {d d' : Doorway} {cs cs' : List Cue}

theorem trans (first : Served h o cs o') (second : Served h o' cs' o'') :
    Served h o (cs ++ cs') o'' := by
  induction first with
  | done o => exact second
  | gone _ ih => exact .gone (ih second)
  | nothing _ ih => exact .nothing (ih second)
  | refused locked _ ih =>
    rw [List.cons_append, List.append_assoc]
    exact .refused locked (ih second)
  | kept free same _ ih => exact .kept free same (ih second)
  | turned free other _ ih =>
    rw [List.cons_append, List.cons_append, List.append_assoc]
    exact .turned free other (ih second)

theorem of_respond (d : Doorway) (h caller : Handle) (wanted : Bool) : Served h (some d)
    (.asked h caller wanted :: (d.respond h caller wanted).1)
    (some (d.respond h caller wanted).2) := by
  rw [← List.append_nil (d.respond h caller wanted).1]
  unfold Doorway.respond
  split
  · rename_i hlocked
    obtain ⟨rfl, hlocked⟩ := Bool.and_eq_true_iff.1 hlocked
    exact .refused hlocked (.done _)
  · rename_i hfree
    have hfree : wanted = true → d.locked = false := by simpa using hfree
    split
    · rename_i hsame
      exact .kept hfree hsame (.done _)
    · rename_i hother
      exact .turned hfree hother (.done _)

theorem none_eq (hs : Served h none cs o) : o = none ∧ cs.filterMap Cue.turn? = [] := by
  generalize hnone : (none : Option Doorway) = o₀ at hs
  induction hs with
  | done => exact ⟨rfl, rfl⟩
  | nothing _ ih => exact ih rfl
  | _ => cases hnone

theorem turns_answer (d : Doorway) (h caller : Handle) (wanted : Bool) (event : String)
    (cs : List Cue) : (Cue.asked h caller wanted :: (d.run h caller event ++ cs)).filterMap Cue.turn? =
      cs.filterMap Cue.turn? := by
  rw [List.filterMap_cons_none rfl, List.filterMap_append, d.turns_run, List.nil_append]

theorem turns_turned (d : Doorway) (h caller : Handle) (wanted : Bool) (event : String)
    (cs : List Cue) : (Cue.asked h caller wanted :: .turned h d.tag wanted ::
      (d.run h caller event ++ cs)).filterMap Cue.turn? = wanted :: cs.filterMap Cue.turn? := by
  show wanted :: (d.run h caller event ++ cs).filterMap Cue.turn? = _
  rw [List.filterMap_append, d.turns_run, List.nil_append]

theorem alternates (hs : Served h (some d) cs o) :
    List.IsChain (· ≠ ·) (d.isOpen :: cs.filterMap Cue.turn?) := by
  generalize hd : some d = o₀ at hs
  induction hs generalizing d with
  | done => exact .singleton _
  | gone later =>
    rw [later.none_eq.2]
    exact .singleton _
  | nothing => cases hd
  | refused locked later ih =>
    rw [turns_answer]
    exact ih hd
  | kept free same later ih => exact ih hd
  | turned free other later ih =>
    cases hd
    rw [turns_turned]
    exact .cons_cons other (ih rfl)

theorem not_opened (hs : Served h (some d) cs o) (hlocked : d.locked = true) :
    true ∉ cs.filterMap Cue.turn? := by
  generalize hd : some d = o₀ at hs
  induction hs generalizing d with
  | done => exact List.not_mem_nil
  | gone later =>
    rw [later.none_eq.2]
    exact List.not_mem_nil
  | nothing => cases hd
  | refused locked later ih =>
    rw [turns_answer]
    exact ih hlocked hd
  | kept free same later ih => exact ih hlocked hd
  | @turned d caller wanted cs o free other later ih =>
    cases hd
    obtain rfl : wanted = false := by
      by_contra hopened
      have hunlocked := free (by simpa using hopened)
      rw [hlocked] at hunlocked
      cases hunlocked
    rw [turns_turned, List.mem_cons]
    rintro (hnow | hlater)
    · cases hnow
    · exact @ih { d with isOpen := false } hlocked rfl hlater

theorem still_there (hs : Served h (some d) cs (some d')) :
    d' = { d with isOpen := (cs.filterMap Cue.turn?).getLast?.getD d.isOpen } := by
  generalize hd : some d = o₀, hd' : some d' = o at hs
  induction hs generalizing d with
  | done =>
    subst hd
    cases hd'
    rfl
  | gone later =>
    subst hd'
    cases later.none_eq.1
  | nothing => cases hd
  | refused locked later ih =>
    rw [turns_answer]
    exact ih hd hd'
  | kept free same later ih => exact ih hd hd'
  | turned free other later ih =>
    cases hd
    rw [turns_turned, List.getLast?_cons, ih rfl hd']
    rfl

end Served

theorem served_steady {w w' : World} (h : Handle) (aside : Steady w w') :
    Served h (w.doorway? h) [] (w'.doorway? h) := by
  cases hd' : w'.doorway? h with
  | some d =>
    rw [aside.doors hd']
    exact .done _
  | none =>
    cases w.doorway? h with
    | none => exact .done none
    | some d => exact .gone (.done none)

theorem served_answer (w : World) (h caller : Handle) (wanted : Bool) (k : Handle) :
    Served k (w.doorway? k) ((w.answer h caller wanted).filter (Cue.isOf k))
      ((w.cued (w.answer h caller wanted)).doorway? k) := by
  have hown : ∀ c ∈ w.answer h caller wanted, c.isOf k = decide (h = k) := by
    intro c hc
    rcases List.mem_cons.1 hc with rfl | hc
    · rfl
    · cases hd : w.doorway? h with
      | none =>
        rw [hd] at hc
        cases hc
      | some d =>
        rw [hd] at hc
        exact d.isOf_respond h caller wanted c hc k
  rw [World.doorway?_answer]
  by_cases hk : h = k
  · subst hk
    rw [List.filter_eq_self.2 fun c hc => by rw [hown c hc]; exact decide_eq_true rfl, if_pos rfl]
    unfold World.answer
    cases w.doorway? h with
    | none => exact .nothing (.done none)
    | some d => exact .of_respond d h caller wanted
  · rw [List.filter_eq_nil_iff.2 fun c hc => by rw [hown c hc]; simpa using hk, if_neg (Ne.symm hk)]
    exact .done _

/-! ### Journals -/

namespace Play.Journal

variable {m : Play σ α} {s : Session σ} {cs : List Cue}

theorem told (hj : Play.Journal m s cs) :
    (m.after s).world.tellings = s.world.tellings ++ cs.filterMap Cue.line? := by
  induction hj with
  | answer | stop | look | host => exact (List.append_nil _).symm
  | change aside => exact aside.told.trans (List.append_nil _).symm
  | @chain _ _ m f s a cs cs' first ended rest ihfirst ihrest =>
    rw [(bind_of_ok ended f).2, ihrest, ihfirst, List.filterMap_append, List.append_assoc]
  | @broken _ _ m f s p cs first ended ih =>
    rw [(bind_of_error ended f).2, ih]
  | @script run r s cs named inner ih =>
    rw [(runScript_named run named s).2, ih]
    show (s.world.cued [.script r]).tellings ++ _ = _
    rw [World.tellings_cued, List.append_assoc, ← List.filterMap_append]
    rfl
  | @door run h caller wanted s cs inner ih =>
    rw [(setDoorOpen_eq run h caller wanted s).2, ih]
    show (s.world.cued _).tellings ++ _ = _
    rw [World.tellings_cued, List.append_assoc, ← List.filterMap_append]
  | refused h =>
    rw [Function.call_refused h]
    exact (List.append_nil _).symm
  | called h plain =>
    rw [Function.call_world h, (Function.steady_perform plain _ _ _).told]
    exact (List.append_nil _).symm
  | deed h handler inner ih =>
    rw [Function.call_world h, handler]
    exact ih

/-- Every door answers those who ask it one after the other, however what it is asked is nested. -/
theorem served (hj : Play.Journal m s cs) (h : Handle) :
    Served h (s.world.doorway? h) (cs.filter (Cue.isOf h)) ((m.after s).world.doorway? h) := by
  induction hj with
  | answer | stop | look | host => exact .done _
  | change aside => exact served_steady h aside
  | @chain _ _ m f s a cs cs' first ended rest ihfirst ihrest =>
    rw [(bind_of_ok ended f).2, List.filter_append]
    exact ihfirst.trans ihrest
  | @broken _ _ m f s p cs first ended ih =>
    rw [(bind_of_error ended f).2]
    exact ih
  | @script run r s cs named inner ih =>
    rw [(runScript_named run named s).2]
    exact ih
  -- Only here a door turns, before its script runs. Whatever the script asks of it comes after that.
  | @door run k caller wanted s cs inner ih =>
    rw [(setDoorOpen_eq run k caller wanted s).2, List.filter_append]
    exact (served_answer s.world k caller wanted h).trans ih
  | refused hrefused =>
    rw [Function.call_refused hrefused]
    exact .done _
  | called hadmitted plain =>
    rw [Function.call_world hadmitted]
    exact served_steady h (Function.steady_perform plain _ _ _)
  | deed hadmitted handler inner ih =>
    rw [Function.call_world hadmitted, handler]
    exact ih

end Play.Journal

/-! ### Calls that ask -/

namespace Function

open Bridge

theorem deed_door {d : Deed} {c : CallContext} {h : Handle} {wanted : Bool} {s : Session σ}
    (hintent : d.intent s.world c = .ok (.door h wanted)) (run : Runner σ) :
    (d.perform run c).ended s =
        ((Play.setDoorOpen run h c.site.caller wanted).ended s).map (fun _ => .ok c.preset) ∧
      (d.perform run c).after s = (Play.setDoorOpen run h c.site.caller wanted).after s := by
  unfold Deed.perform
  rw [(Play.world_bind _ s).1, (Play.world_bind _ s).2, hintent]
  simp only
  unfold Intent.carryOut
  simp only [bind_assoc, pure_bind]
  exact Play.bind_pure _ (fun _ => Except.ok c.preset) s

/-- A call that asks for a door comes to the door's answer, whoever calls, and then the script that
the answer hands over runs. A fault is noted only if that script breaks off. -/
theorem call_door {f : Callee} {wanted : Bool} (hf : f.number? table = some (if wanted then 43 else 44))
    (h : Handle) (site : CallSite) (run : Runner σ) (s : Session σ) :
    ∃ faults, (call run f [.object h] site).after s =
        { (Play.handOver run (s.world.answer h site.caller wanted)).after
            (s.cued (s.world.answer h site.caller wanted)) with
          faults := ((Play.handOver run (s.world.answer h site.caller wanted)).after
            (s.cued (s.world.answer h site.caller wanted))).faults ++ faults } ∧
      ((Play.handOver run (s.world.answer h site.caller wanted)).ended
        (s.cued (s.world.answer h site.caller wanted)) = .ok () → faults = []) := by
  obtain ⟨e, c, hadmitted, hcaller, d, hhandler, hintent⟩ : ∃ e c,
      f.admission table [.object h] site = .ok (e, c) ∧ c.site.caller = site.caller ∧
        ∃ d : Deed, e.handler = .deed d ∧ ∀ w, d.intent w c = .ok (.door h wanted) := by
    cases wanted with
    | true => exact ⟨_, _, Callee.admission_of_fill hf rfl rfl, rfl, _, rfl, fun _ => rfl⟩
    | false => exact ⟨_, _, Callee.admission_of_fill hf rfl rfl, rfl, _, rfl, fun _ => rfl⟩
  obtain ⟨hended, hafter⟩ := deed_door (hintent s.world) run
  obtain ⟨heq, heq'⟩ := Play.setDoorOpen_eq run h c.site.caller wanted s
  rw [heq] at hended
  rw [heq'] at hafter
  rw [hcaller] at hended hafter
  refine ⟨(settled run e c s).2.toList, ?_, fun hok => ?_⟩
  · have hcalled := (callIn_admitted hadmitted run s).2
    rw [hhandler] at hcalled
    refine hcalled.trans ?_
    rw [show (Builtin.deed d).perform run c = d.perform run c from rfl, hafter]
  · unfold settled
    rw [hhandler, show (Builtin.deed d).perform run c = d.perform run c from rfl, hended, hok]
    have hpreset := settle_preset (prepares_of_admission hadmitted).slot
    show (e.settle (ending c (.ok (.ok c.preset)))).2.toList = []
    rw [hpreset]
    rfl

end Function

/-! ### Scripts that only call -/

theorem doors_stay {s : Session σ} (hs : s.Reached) {run : Runner σ} (hrun : run.Made Operation.IsCall)
    {m : Play σ α} (hm : Play.Made Operation.IsCall run m)
    (hlimit : (m.after s).world.registry.issued < Registry.limit) {h : Handle} {d : Doorway}
    (hd : s.world.doorway? h = some d) : ∃ d', (m.after s).world.doorway? h = some d' := by
  have hcourse := World.course_movesBy fun _ => True
  have hmoves : World.Moves s.world (m.after s).world :=
    hm.stepwise hcourse (fun _ _ _ _ => trivial) (hrun.stepwise hcourse fun _ _ _ _ => trivial) s
  have hlinked := hs.linked (Nat.lt_of_le_of_lt hmoves.follows.issued hlimit)
  have hlinked' := hmoves.linked hlinked hlimit
  have hgiven : ∀ h ∈ s.world.registry.ids, h.number ≤ s.world.registry.issued :=
    fun h hh => (hlinked.sound.given h hh).2
  -- Calls change live objects in place and add others behind them.
  obtain ⟨es, hes⟩ := Play.told_calls (Runner.told_calls hrun) hm s
  obtain ⟨g, added, hg, hobjects, -, -⟩ := hes.gains.objects hlimit hgiven
  obtain ⟨o, ho, hdoor⟩ := Option.bind_eq_some_iff.1 hd
  obtain ⟨hmem, hid⟩ := hlinked.sound.indexed.get?_eq_some.1 ho
  have hlive : (m.after s).world.get? h = some (g o) := by
    refine hlinked'.sound.indexed.get?_eq_some.2 ⟨?_, (hg o).id.trans hid⟩
    rw [hobjects]
    exact List.mem_append_left _ (List.mem_map_of_mem hmem)
  have hkind : (g o).kind = .door := by
    rw [(hg o).kind, ← Object.doorway?_isSome, hdoor, Option.isSome_some]
  unfold World.doorway?
  rw [hlive, Option.bind_some]
  exact Option.isSome_iff_exists.1 ((Object.doorway?_isSome _).2 hkind)

/-- In any session, a call that asks for a door to be open or closed comes to the door's answer, and
then the script runs that the answer hands over. Play that only calls functions of the game, with
scripts that only call such functions, to any finite depth, has a journal of what it does with doors
and of the scripts that it runs, and the trail tells just that, in this order. A door that is there
at the beginning answers those who ask it one after the other, however deep in scripts they ask. So
it turns to the other state each time, and a locked door is not opened. As long as the handles last,
the door is still there at the end, in the state that it turned to last. -/
theorem doors_answer_in_turn :
    (∀ {σ : Type} {f : Callee} {wanted : Bool}, f.number? Function.table = some (if wanted then 43 else 44) →
      ∀ (h : Handle) (site : Bridge.CallSite) (run : Runner σ) (s : Session σ),
        let answer := s.world.answer h site.caller wanted
        let rest := Play.handOver run answer
        ∃ faults, (Function.call run f [.object h] site).after s =
            { rest.after (s.cued answer) with faults := (rest.after (s.cued answer)).faults ++ faults } ∧
          (rest.ended (s.cued answer) = .ok () → faults = [])) ∧
    ∀ {σ α : Type} {run : Runner σ} {m : Play σ α}, run.Made Operation.IsCall →
      Play.Made Operation.IsCall run m → ∀ s : Session σ,
        (∃ cs, Play.Journal m s cs) ∧
        ∀ cs, Play.Journal m s cs →
          (m.after s).world.tellings = s.world.tellings ++ cs.filterMap Cue.line? ∧
          ∀ h d, s.world.doorway? h = some d →
            let own := cs.filter (Cue.isOf h)
            Served h (some d) own ((m.after s).world.doorway? h) ∧
            List.IsChain (· ≠ ·) (d.isOpen :: own.filterMap Cue.turn?) ∧
            (d.locked = true → true ∉ own.filterMap Cue.turn?) ∧
            (s.Reached → (m.after s).world.registry.issued < Registry.limit →
              (m.after s).world.doorway? h =
                some { d with isOpen := (own.filterMap Cue.turn?).getLast?.getD d.isOpen }) := by
  refine ⟨fun hf h site run s => Function.call_door hf h site run s, fun hrun hm s =>
    ⟨Play.kept_calls (Runner.kept_calls hrun) hm s, fun cs hj => ⟨hj.told, fun h d hd => ?_⟩⟩⟩
  have hserved := hj.served h
  rw [hd] at hserved
  refine ⟨hserved, hserved.alternates, hserved.not_opened, fun hs hlimit => ?_⟩
  obtain ⟨d', hd'⟩ := doors_stay hs hrun hm hlimit hd
  rw [hd'] at hserved
  rw [hd', hserved.still_there]

/-- A yard with a gate that has scripts for opening and closing, and with a vault that is locked. -/
def gated : Library :=
  let text (kind : ResourceKind) (_ : String) : Option String :=
    if kind = .git then some ("\x7b\"Door List\": [\x7b\"Appearance\": 0, \"Tag\": \"gate\", " ++
      "\"OnOpen\": \"slam\", \"OnClosed\": \"creak\"\x7d, \x7b\"Appearance\": 0, " ++
      "\"Tag\": \"vault\", \"Locked\": true, \"OnFailToOpen\": \"rattle\"\x7d]\x7d")
    else if kind = .are then some "\x7b\x7d"
    else none
  ⟨.ofTexts text fun _ _ => none, .empty⟩

def courtyard : Session Unit := (Play.act fun w => w.loadArea "yard").after (.fresh gated .plain 0 0 ())

theorem courtyard_reached : courtyard.Reached :=
  ⟨gated, .plain, 0, 0, (), (Session.Leads.here _).operation .idle (.loadArea "yard")⟩

def slamming : Runner Unit := fun r =>
  Function.call .idle (.id 44) [.object r.owner] ⟨r.owner, r.triggerer, r.script⟩ >>= fun _ => pure (.ok ())

theorem slamming_made : slamming.Made Operation.IsCall := by
  refine .scripted .idle fun _ => Play.Made.chain ?_ fun _ => .answer _
  exact .operation (.call Function.table (.id 44) _ _) rfl

def push : Play Unit (Except Bridge.CallError Value) := do
  let _ ← Function.call slamming (.id 43) [.object ⟨2⟩] ⟨⟨1⟩, .invalid, "push"⟩
  Function.call slamming (.id 43) [.object ⟨3⟩] ⟨⟨1⟩, .invalid, "push"⟩

theorem push_made : Play.Made Operation.IsCall slamming push :=
  .chain (.operation (.call Function.table (.id 43) _ _) rfl) fun _ =>
    .operation (.call Function.table (.id 43) _ _) rfl

/-- The gate is opened, and its own script closes it again. The vault stays closed. -/
theorem push_plays : (Function.Callee.id 43).number? Function.table = some 43 ∧
    (push.after courtyard).world.registry.issued = 3 ∧
    (courtyard.world.doorway? ⟨2⟩).map (fun d => (d.tag, d.locked, d.isOpen, d.hook? "OnOpen")) =
      some ("gate", false, false, some "slam") ∧
    (courtyard.world.doorway? ⟨3⟩).map Doorway.locked = some true ∧ courtyard.world.tellings = [] ∧
    (push.after courtyard).world.tellings =
      ["door.open gate", "script.run slam (owner 00000002)", "door.close gate",
        "script.run creak (owner 00000002)", "script.run rattle (owner 00000003)"] ∧
    ((push.after courtyard).world.doorway? ⟨2⟩).map Doorway.isOpen = some false := by
  decide +kernel

/-- The gate is open when its script is handed over, and the script closes it again before the vault
is pushed. What the vault is asked changes nothing. -/
theorem gate_slams :
    let opened : List Cue :=
      [.asked ⟨2⟩ ⟨1⟩ true, .turned ⟨2⟩ "gate" true, .hook ⟨2⟩ "OnOpen" "slam" ⟨1⟩]
    ((Function.call slamming (.id 43) [.object ⟨2⟩] ⟨⟨1⟩, .invalid, "push"⟩).after courtyard).world =
      ((Play.handOver slamming opened).after (courtyard.cued opened)).world ∧
    ∃ cs gate vault, Play.Journal push courtyard cs ∧
      cs.filterMap Cue.line? =
        ["door.open gate", "script.run slam (owner 00000002)", "door.close gate",
          "script.run creak (owner 00000002)", "script.run rattle (owner 00000003)"] ∧
      courtyard.world.doorway? ⟨2⟩ = some gate ∧
      Served ⟨2⟩ (some gate) (cs.filter (Cue.isOf ⟨2⟩)) (some gate) ∧
      courtyard.world.doorway? ⟨3⟩ = some vault ∧
      true ∉ (cs.filter (Cue.isOf ⟨3⟩)).filterMap Cue.turn? := by
  obtain ⟨hnumber, hissued, hgate, hvault, hnothing, htold, hclosed⟩ := push_plays
  obtain ⟨gate, hgate, hshape⟩ := Option.map_eq_some_iff.1 hgate
  obtain ⟨vault, hvault, hlocked⟩ := Option.map_eq_some_iff.1 hvault
  simp only [Prod.mk.injEq] at hshape
  obtain ⟨htag, hfree, hshut, hslam⟩ := hshape
  obtain ⟨hasked, hplay⟩ := doors_answer_in_turn
  obtain ⟨⟨cs, hcs⟩, hall⟩ := hplay slamming_made push_made courtyard
  obtain ⟨hlines, hdoors⟩ := hall cs hcs
  have hanswer : courtyard.world.answer ⟨2⟩ ⟨1⟩ true =
      [.asked ⟨2⟩ ⟨1⟩ true, .turned ⟨2⟩ "gate" true, .hook ⟨2⟩ "OnOpen" "slam" ⟨1⟩] := by
    unfold World.answer Doorway.respond Doorway.run Doorway.eventOf
    simp [hgate, htag, hfree, hshut, hslam]
  refine ⟨?_, cs, gate, vault, hcs, ?_, hgate, ?_, hvault, ?_⟩
  · obtain ⟨faults, hafter, -⟩ :=
      @hasked Unit (.id 43) true hnumber ⟨2⟩ ⟨⟨1⟩, .invalid, "push"⟩ slamming courtyard
    simp only [hanswer] at hafter
    rw [hafter]
  · rwa [htold, hnothing, List.nil_append, eq_comm] at hlines
  · obtain ⟨hserved, -, -, hend⟩ := hdoors ⟨2⟩ gate hgate
    have hthere := hend courtyard_reached (by rw [hissued]; decide)
    rw [hthere, Option.map_some, Option.some_inj] at hclosed
    have hlast : ((cs.filter (Cue.isOf ⟨2⟩)).filterMap Cue.turn?).getLast?.getD gate.isOpen = false :=
      hclosed
    rwa [hthere, hlast, ← hshut] at hserved
  · obtain ⟨-, -, hstays, -⟩ := hdoors ⟨3⟩ vault hvault
    exact hstays hlocked

end Adventure
