import Adventure.Command.Run
import Adventure.Proofs.Queue.Order
import Adventure.Proofs.Session.Moves

/-!
# Ticks of a run

A run carries out no scripts, so what is carried out in a tick neither queues anything nor looks at
the clock. Many short ticks then come to the same as one long one, and a run shows how far its ticks
reach but not how many there are.
-/

namespace Adventure

namespace World

/-- The same world at another time with other things queued. -/
def timed (w : World) (clock : UInt64) (queue : Queue) : World := { w with clock, queue }

/-! ### What is carried out does not depend on the time -/

section Timed

variable (w : World) (clock : UInt64) (queue : Queue)

theorem endConversation_timed :
    (w.timed clock queue).endConversation = w.endConversation.timed clock queue := by
  have hsame : (w.timed clock queue).conversation = w.conversation := rfl
  unfold endConversation
  rw [hsame]
  cases w.conversation <;> rfl

theorem delist_timed (o : Object) :
    (w.timed clock queue).delist o = (w.delist o).timed clock queue := by
  unfold delist
  cases o.area <;> rfl

theorem parted_timed (h : Handle) :
    (w.timed clock queue).parted h = (w.parted h).timed clock queue := by
  have hsame : (w.timed clock queue).inConversation h = w.inConversation h := rfl
  unfold parted
  rw [hsame, endConversation_timed]
  split <;> rfl

theorem without_timed (h : Handle) (o : Object) :
    (w.timed clock queue).without h o = (w.without h o).timed clock queue := by
  have hdelisted := delist_timed (w.setRegistry (w.registry.unregister h).2) clock queue o
  have hremoved : (w.timed clock queue).setRegistry ((w.timed clock queue).registry.unregister h).2 =
      (w.setRegistry (w.registry.unregister h).2).timed clock queue := rfl
  unfold without
  rw [hremoved, hdelisted]
  rfl

theorem removeObject_timed (h : Handle) : (w.timed clock queue).removeObject h =
    ((w.removeObject h).1, (w.removeObject h).2.timed clock queue) := by
  have hparted := parted_timed w clock queue h
  rcases w.removeObject_cases h with ⟨hgone, hremoved⟩ | ⟨o, hfound, hremoved⟩
  · rw [hremoved, ← hparted]
    refine removeObject_gone _ ?_
    rw [hparted]
    exact hgone
  · rw [hremoved, ← without_timed, ← hparted]
    refine removeObject_found _ ?_
    rw [hparted]
    exact hfound

theorem destroyObject_timed (h : Handle) : (w.timed clock queue).destroyObject h =
    ((w.destroyObject h).1, (w.destroyObject h).2.timed clock queue) := by
  have hget : (w.timed clock queue).get? h = w.get? h := rfl
  unfold destroyObject
  rw [hget, removeObject_timed]
  split
  · rfl
  · split <;> rfl

end Timed

/-- Carries out an action as far as that can be done without an interpreter. -/
def attend (w : World) (a : Action) : Bool × World :=
  if w.isAlive a.owner && w.isAlive a.triggerer then
    match a.work with
    | .script name _ =>
      (true, if name.isEmpty then w
        else w.logEvent ("script.run " ++ name ++ " (owner " ++ a.owner.text ++ ")"))
    | .destroy => (true, (w.destroyObject a.owner).2)
  else (false, w)

theorem attend_timed (w : World) (clock : UInt64) (queue : Queue) (a : Action) :
    (w.timed clock queue).attend a = ((w.attend a).1, (w.attend a).2.timed clock queue) := by
  have halive : ∀ h, (w.timed clock queue).isAlive h = w.isAlive h := fun _ => rfl
  unfold attend
  rw [halive, halive, destroyObject_timed]
  split
  · cases a.work with
    | script name state =>
      simp only
      split <;> rfl
    | destroy => rfl
  · rfl

def attendAll : List Action → World → Nat × World
  | [], w => (0, w)
  | a :: rest, w =>
    ((if (w.attend a).1 then 1 else 0) + (attendAll rest (w.attend a).2).1,
      (attendAll rest (w.attend a).2).2)

theorem attendAll_timed (actions : List Action) (w : World) (clock : UInt64) (queue : Queue) :
    attendAll actions (w.timed clock queue) =
      ((attendAll actions w).1, (attendAll actions w).2.timed clock queue) := by
  induction actions generalizing w with
  | nil => rfl
  | cons a rest ih => simp only [attendAll, attend_timed, ih]

theorem attendAll_append (first second : List Action) (w : World) :
    attendAll (first ++ second) w =
      ((attendAll first w).1 + (attendAll second (attendAll first w).2).1,
        (attendAll second (attendAll first w).2).2) := by
  induction first generalizing w with
  | nil => simp only [List.nil_append, attendAll, Nat.zero_add]
  | cons a rest ih => simp only [List.cons_append, attendAll, ih, Nat.add_assoc]

/-- Carries out what has fallen due by a moment, and it is that moment. -/
def settle (w : World) (now : UInt64) : Nat × World :=
  attendAll (w.queue.drainDue now).1 (w.timed now (w.queue.drainDue now).2)

theorem settle_eq (w : World) (now : UInt64) : w.settle now =
    ((attendAll (w.queue.drainDue now).1 w).1,
      (attendAll (w.queue.drainDue now).1 w).2.timed now (w.queue.drainDue now).2) := by
  unfold settle
  rw [attendAll_timed]

theorem settle_settle (w : World) {t₁ t₂ : UInt64} (h : t₁ ≤ t₂) :
    ((w.settle t₁).1 + ((w.settle t₁).2.settle t₂).1, ((w.settle t₁).2.settle t₂).2) =
      w.settle t₂ := by
  have hdrains := w.queue.drainDue_drainDue h
  have hqueue : (w.settle t₁).2.queue = (w.queue.drainDue t₁).2 := by rw [settle_eq]; rfl
  rw [settle_eq w t₂, ← hdrains, attendAll_append, settle_eq _ t₂, hqueue, settle_eq w t₁,
    attendAll_timed]
  rfl

end World

/-! ### Play without an interpreter -/

namespace Play

variable {σ α β : Type}

theorem act_act (f : World → α × World) (g : α → World → β × World) :
    (act f >>= fun a => act (g a) : Play σ β) = act fun w => g (f w).1 (f w).2 := rfl

theorem carryOut_idle (a : Action) :
    (carryOut .idle a : Play σ Bool) = act fun w => w.attend a := by
  refine ExceptT.ext (StateT.ext fun s => ?_)
  show ((if s.world.isAlive a.owner && s.world.isAlive a.triggerer then
      (match a.work with
        | .script name state => (runScript .idle ⟨name, state, a.owner, a.triggerer⟩ >>=
            fun _ => pure true : Play σ Bool)
        | .destroy => act (fun w => w.destroyObject a.owner) >>= fun _ => pure true)
      else pure false : Play σ Bool).run.run s) = _
  unfold runScript
  show _ = ((.ok (s.world.attend a).1, { s with world := (s.world.attend a).2 }) :
    Except Panic Bool × Session σ)
  unfold World.attend
  split
  · cases a.work with
    | destroy => rfl
    | script name state =>
      simp only
      split <;> rfl
  · rfl

theorem carryOutAll_idle (actions : List Action) :
    (carryOutAll .idle actions : Play σ Nat) = act (World.attendAll actions) := by
  induction actions with
  | nil => rfl
  | cons a rest ih =>
    have hall : (carryOutAll .idle (a :: rest) : Play σ Nat) =
        carryOut .idle a >>= fun done => carryOutAll .idle rest >>= fun others =>
          pure ((if done then 1 else 0) + others) := rfl
    rw [hall, carryOut_idle, ih]
    rfl

theorem processActions_idle :
    (processActions .idle : Play σ Nat) = act fun w => w.settle w.clock := by
  have hbatch : (processActions .idle : Play σ Nat) =
      act (fun w => ((w.queue.drainDue w.clock).1,
        { w with queue := (w.queue.drainDue w.clock).2 })) >>= carryOutAll .idle := rfl
  rw [hbatch, funext carryOutAll_idle, act_act]
  rfl

end Play

/-! ### Ticks -/

/-- The moment that `n` ticks reach. -/
def reach (now tickMs : UInt64) (n : Nat) : UInt64 :=
  UInt64.ofNat (min (now.toNat + n * tickMs.toNat) 18446744073709551615)

theorem reach_toNat (now tickMs : UInt64) (n : Nat) :
    (reach now tickMs n).toNat = min (now.toNat + n * tickMs.toNat) 18446744073709551615 := by
  unfold reach
  rw [UInt64.toNat_ofNat_of_lt']
  have hsize : UInt64.size = 18446744073709551616 := rfl
  omega

theorem later_eq_reach (now ms : UInt64) : later now ms = reach now ms 1 := by
  unfold later reach
  rw [Nat.one_mul]

theorem reach_reach (now tickMs : UInt64) (n : Nat) :
    reach (reach now tickMs 1) tickMs n = reach now tickMs (n + 1) := by
  rw [← UInt64.toNat_inj, reach_toNat, reach_toNat, reach_toNat]
  have hsum : (n + 1) * tickMs.toNat = n * tickMs.toNat + tickMs.toNat := Nat.succ_mul _ _
  omega

theorem le_reach (now tickMs : UInt64) (n : Nat) : now ≤ reach now tickMs n := by
  rw [UInt64.le_iff_toNat_le, reach_toNat]
  have hsize : now.toNat < 18446744073709551616 := now.toNat_lt
  omega

theorem reach_congr {t₁ t₂ : UInt64} {n₁ n₂ : Nat}
    (h : min (n₁ * t₁.toNat) 18446744073709551615 = min (n₂ * t₂.toNat) 18446744073709551615)
    (now : UInt64) : reach now t₁ n₁ = reach now t₂ n₂ := by
  rw [← UInt64.toNat_inj, reach_toNat, reach_toNat]
  omega

namespace Command

/-- Any number of ticks settle at once what has fallen due by their end. -/
theorem passTicks_eq (tickMs : UInt64) (n done : Nat) : passTicks tickMs (n + 1) done =
    Play.act fun w => ((done + (w.settle (reach w.clock tickMs (n + 1))).1),
      (w.settle (reach w.clock tickMs (n + 1))).2) := by
  have htick : ∀ k done, passTicks tickMs (k + 1) done =
      (Play.act fun w => (w.advance tickMs).settle (later w.clock tickMs)) >>= fun executed =>
        passTicks tickMs k (done + executed) := by
    intro k done
    have hbody : passTicks tickMs (k + 1) done =
        Play.change (fun w => w.advance tickMs) >>= fun _ =>
          (Play.processActions .idle : Play Unit Nat) >>= fun executed =>
            passTicks tickMs k (done + executed) := rfl
    rw [hbody, Play.processActions_idle]
    rfl
  have hadvance : ∀ (w : World) (now : UInt64), (w.advance tickMs).settle now = w.settle now :=
    fun _ _ => rfl
  induction n generalizing done with
  | zero =>
    rw [htick]
    simp only [hadvance, later_eq_reach]
    rfl
  | succ n ih =>
    rw [htick]
    simp only [ih, hadvance, later_eq_reach]
    rw [Play.act_act]
    refine congrArg Play.act (funext fun w => ?_)
    have hclock : (w.settle (reach w.clock tickMs 1)).2.clock = reach w.clock tickMs 1 := by
      rw [World.settle_eq]
      rfl
    have hle : reach w.clock tickMs 1 ≤ reach w.clock tickMs (n + 2) := by
      rw [← reach_reach w.clock tickMs (n + 1)]
      exact le_reach _ _ _
    have hboth := w.settle_settle hle
    rw [hclock, reach_reach, ← hboth, Nat.add_assoc]

theorem session_ticks (r : RunRequest) (ticks : UInt32) (tickMs : UInt64) (caller : Handle)
    (h : passTicks r.tickMs r.ticks.toNat 0 = passTicks tickMs ticks.toNat 0) :
    session { r with ticks, tickMs } caller =
      (fun report => { report with ticks }) <$> session r caller := by
  have hsession : ∀ r : RunRequest, session r caller = (do
      let calls ← makeCalls caller r.calls
      let executed ← passTicks r.tickMs r.ticks.toNat 0
      let w ← Play.world
      return ⟨r.module, r.seed, caller, calls, r.ticks, executed, w.events, w.snapshot⟩) :=
    fun _ => rfl
  rw [hsession, hsession, ← h]
  simp only [map_eq_pure_bind, bind_assoc, pure_bind]

theorem play_ticks (r : RunRequest) (ticks : UInt32) (tickMs : UInt64) (pc : Option Record)
    (h : passTicks r.tickMs r.ticks.toNat 0 = passTicks tickMs ticks.toNat 0) :
    play { r with ticks, tickMs } pc =
      Except.map (fun report => { report with ticks }) <$> play r pc := by
  unfold play
  rw [map_bind]
  refine bind_congr fun loaded => ?_
  cases loaded with
  | error f => rfl
  | ok _ =>
    simp only [map_bind]
    refine bind_congr fun brought => ?_
    cases brought with
    | error f => rfl
    | ok _ =>
      simp only [map_bind]
      refine bind_congr fun w => ?_
      cases callerOf w r.caller with
      | error f => rfl
      | ok caller =>
        simp only [session_ticks r ticks tickMs caller h, map_eq_pure_bind, bind_assoc, pure_bind]
        rfl

/-- Two runs that differ in their ticks alone, have at least one tick each and reach equally far by
the clock, fail for the same reason or report the same but for the number of ticks. -/
theorem execute_ticks (r : RunRequest) (ticks : UInt32) (tickMs : UInt64)
    (listing : Option (List File)) (hfirst : 1 ≤ r.ticks) (hsecond : 1 ≤ ticks)
    (hspan : min (r.ticks.toNat * r.tickMs.toNat) 18446744073709551615 =
      min (ticks.toNat * tickMs.toNat) 18446744073709551615) :
    execute { r with ticks, tickMs } listing =
      (execute r listing).map fun report => { report with ticks } := by
  have hticks : passTicks r.tickMs r.ticks.toNat 0 = passTicks tickMs ticks.toNat 0 := by
    obtain ⟨n, hn⟩ := Nat.exists_eq_add_of_le' (UInt32.le_iff_toNat_le.1 hfirst)
    obtain ⟨m, hm⟩ := Nat.exists_eq_add_of_le' (UInt32.le_iff_toNat_le.1 hsecond)
    have hn' : r.ticks.toNat = n + 1 := hn
    have hm' : ticks.toNat = m + 1 := hm
    rw [hn', hm'] at hspan ⊢
    rw [passTicks_eq, passTicks_eq]
    refine congrArg Play.act (funext fun w => ?_)
    rw [reach_congr hspan]
  unfold execute
  cases Directory.load r.resources listing with
  | error e => rfl
  | ok d =>
    simp only
    cases playerRecord (d.resources (listing.getD [])) r.pc with
    | error f => rfl
    | ok pc =>
      simp only [play_ticks r ticks tickMs pc hticks]
      have hstart : startWorld { r with ticks, tickMs } d (listing.getD []) =
          startWorld r d (listing.getD []) := rfl
      rw [hstart]
      generalize (⟨startWorld r d (listing.getD []), (), []⟩ : Session Unit) = s
      have hmap : ((Except.map (fun report : RunReport => { report with ticks }) <$>
          play r pc).run.run s).1 = ((play r pc).run.run s).1.map
            (Except.map fun report => { report with ticks }) := by
        rw [map_eq_pure_bind]
        exact (Play.bind_pure (play r pc) _ s).1
      rw [hmap]
      rcases ((play r pc).run.run s).1 with p | f | report <;> rfl

def campFiles : List File := [⟨["camp.ifo"], "\x7b\"Mod_Tag\":\"CAMP\"\x7d"⟩]

/-- One tick of 300 ms, with a command that the module gives to itself. -/
def camp : RunRequest :=
  ⟨"res", "camp", none, 0, 1, 300, [⟨"AssignCommand", ["module", ""]⟩], none, none⟩

theorem camp_ticks :
    (execute camp (some campFiles)).toOption.map (fun report => (report.executed, report.events)) =
        some (1, ["module.load CAMP (0 areas)", "script.run cli (owner 00000001)"]) ∧
      execute { camp with ticks := 3, tickMs := 100 } (some campFiles) =
        (execute camp (some campFiles)).map fun report => { report with ticks := 3 } :=
  ⟨by decide +kernel,
    execute_ticks camp 3 100 (some campFiles) (by decide) (by decide) (by decide)⟩

end Command

end Adventure
