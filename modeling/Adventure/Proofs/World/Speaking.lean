import Adventure.Proofs.World.StepShifts

/-!
# Who talks with whom

An object knows who talks to it, and the world knows which conversation runs. Every shift keeps the
two in agreement. A conversation begins with both of its sides there, and they stay there until it
ends, unless a step disrupts it.
-/

namespace Adventure.World

open Object (told told_keeps changed relisted_listing relisted_unlisting relisted_carried)
open Registry (limit)

/-! ### Speakers -/

namespace Scene

variable {s s' : Scene}

/-- Who talks to the object with this handle, going by the conversation that runs. -/
def speaker (s : Scene) (h : Handle) : Option Handle :=
  (s.conversation.filter fun c => c.object = h).map Conversation.pc

theorem speaker_eq_some {h p : Handle} :
    s.speaker h = some p ↔ ∃ c, s.conversation = some c ∧ c.object = h ∧ c.pc = p := by
  unfold speaker
  rw [Option.map_eq_some_iff]
  refine exists_congr fun c => ?_
  rw [Option.filter_eq_some_iff, decide_eq_true_eq, and_assoc]

theorem speaker_of_none (hs : s.conversation = none) (h : Handle) : s.speaker h = none := by
  unfold speaker
  rw [hs]
  rfl

theorem speaker_of_some {c : Conversation} (hs : s.conversation = some c) (h : Handle) :
    s.speaker h = if c.object = h then some c.pc else none := by
  unfold speaker
  rw [hs, Option.filter_some]
  by_cases hc : c.object = h
  · rw [if_pos hc, if_pos (decide_eq_true hc)]
    rfl
  · rw [if_neg hc, if_neg (by simpa using hc)]
    rfl

/-- Every object knows who talks to it, and nobody talks with an object that is still to come. -/
structure Spoken (s : Scene) : Prop where
  speaker : ∀ o ∈ s.objects, o.pcSpeaker = s.speaker o.id
  known : ∀ c, s.conversation = some c → c.object.number ≤ s.issued

theorem Spoken.congr (hs : s.Spoken) (hconversation : s'.conversation = s.conversation)
    (hissued : s.issued ≤ s'.issued)
    (each : ∀ o' ∈ s'.objects, (∃ o ∈ s.objects, o'.id = o.id ∧ o'.pcSpeaker = o.pcSpeaker) ∨
      s.issued < o'.id.number ∧ o'.pcSpeaker = none) : s'.Spoken := by
  have hspeaker : ∀ h, s'.speaker h = s.speaker h := by
    intro h
    unfold Scene.speaker
    rw [hconversation]
  refine ⟨?_, ?_⟩
  · intro o' ho'
    rw [hspeaker]
    rcases each o' ho' with ⟨o, ho, hid, hpc⟩ | ⟨hnew, hquiet⟩
    · rw [hpc, hid]
      exact hs.speaker o ho
    · rw [hquiet, eq_comm, Option.eq_none_iff_forall_ne_some]
      intro p hp
      obtain ⟨c, hc, hobject, -⟩ := speaker_eq_some.1 hp
      have hknown := hs.known c hc
      rw [hobject] at hknown
      omega
  · intro c hc
    rw [hconversation] at hc
    exact (hs.known c hc).trans hissued

theorem Spoken.shift (hs : s.Spoken) {m : Mark} (h : Shift s m s') : s'.Spoken := by
  cases h with
  | issued n grown => exact hs.congr rfl grown fun o ho => Or.inl ⟨o, ho, rfl, rfl⟩
  | inPlace g abides stays =>
    refine hs.congr rfl (Nat.le_refl _) fun o' ho' => Or.inl ?_
    obtain ⟨o, ho, rfl⟩ := List.mem_map.1 ho'
    exact ⟨o, ho, (abides o).id, (abides o).pcSpeaker⟩
  | moved h old new f abides comes leaves known live =>
    refine hs.congr rfl (Nat.le_refl _) fun o' ho' => Or.inl ?_
    simp only [List.map_map] at ho'
    obtain ⟨o, ho, rfl⟩ := List.mem_map.1 ho'
    have hmoved := Object.Abides.changed (h := h) abides o
    have hcarried := relisted_carried h old new (changed h f o)
    exact ⟨o, ho, hcarried.id.trans hmoved.id, hcarried.pcSpeaker.trans hmoved.pcSpeaker⟩
  | arrived news n known arrivals grown =>
    refine hs.congr rfl grown fun o ho => ?_
    rcases List.mem_append.1 ho with ho | ho
    · exact Or.inl ⟨o, ho, rfl, rfl⟩
    · exact Or.inr ⟨(arrivals.fresh o ho).1, arrivals.quiet o ho⟩
  | created o area n known fresh quiet placed plain =>
    refine hs.congr rfl (Nat.le_of_lt (fresh.1.trans_le fresh.2)) fun a' ha' => ?_
    rcases List.mem_append.1 ha' with ha' | ha'
    · obtain ⟨a, ha, rfl⟩ := List.mem_map.1 ha'
      have hlisted := relisted_listing area o.id a
      exact Or.inl ⟨a, ha, hlisted.id, hlisted.pcSpeaker⟩
    · rw [List.mem_singleton.1 ha']
      exact Or.inr ⟨fresh.1, quiet⟩
  | left h =>
    exact hs.congr rfl (Nat.le_refl _) fun o ho => Or.inl ⟨o, List.mem_of_mem_filter ho, rfl, rfl⟩
  | delisted area h gone =>
    refine hs.congr rfl (Nat.le_refl _) fun o' ho' => Or.inl ?_
    obtain ⟨o, ho, rfl⟩ := List.mem_map.1 ho'
    have hunlisted := relisted_unlisting area h o
    exact ⟨o, ho, hunlisted.id, hunlisted.pcSpeaker⟩
  | chosen h vacant => exact hs.congr rfl (Nat.le_refl _) fun o ho => Or.inl ⟨o, ho, rfl, rfl⟩
  | silenced c running =>
    refine ⟨?_, fun d hd => nomatch hd⟩
    intro o' ho'
    obtain ⟨o, ho, rfl⟩ := List.mem_map.1 ho'
    rw [Scene.speaker_of_none rfl]
    unfold told changed
    split
    · rfl
    · rename_i hother
      rw [hs.speaker o ho, Scene.speaker_of_some running, if_neg (Ne.symm hother)]
  | spoken c silent attends known =>
    refine ⟨?_, ?_⟩
    · intro o' ho'
      obtain ⟨o, ho, rfl⟩ := List.mem_map.1 ho'
      rw [Scene.speaker_of_some rfl, (told_keeps c.object (some c.pc) o).1]
      unfold told changed
      split
      · rename_i hobject
        rw [if_pos hobject.symm]
      · rename_i hother
        rw [if_neg (Ne.symm hother), hs.speaker o ho, Scene.speaker_of_none silent]
    · intro d hd
      cases hd
      exact known
  | cleared => exact ⟨fun o ho => (nomatch ho), fun d hd => nomatch hd⟩

/-! ### Sides -/

/-- Unless a side goes, a conversation that runs after a shift has its sides, or it ran before and
has them if it had them then. -/
theorem attends_shift {m : Mark} (h : Shift s m s') (calm : m.torn = false) {c : Conversation}
    (hc : s'.conversation = some c) :
    s'.Attends c ∨ s.conversation = some c ∧ (s.Attends c → s'.Attends c) := by
  cases h with
  | issued n grown => exact Or.inr ⟨hc, id⟩
  | inPlace g abides stays =>
    refine Or.inr ⟨hc, fun ha => ha.mono fun o ho _ => ?_⟩
    exact ⟨g o, List.mem_map_of_mem ho, (abides o).id, (abides o).isPc⟩
  | moved h old new f abides comes leaves known live =>
    refine Or.inr ⟨hc, fun ha => ha.mono fun o ho _ => ?_⟩
    have hmoved := Object.Abides.changed (h := h) abides o
    have hcarried := relisted_carried h old new (changed h f o)
    exact ⟨_, List.mem_map_of_mem (List.mem_map_of_mem (List.mem_map_of_mem ho)),
      hcarried.id.trans hmoved.id, fun hisPc => hcarried.isPc.trans (hmoved.isPc hisPc)⟩
  | arrived news n known arrivals grown =>
    exact Or.inr ⟨hc, fun ha => ha.mono fun o ho _ => ⟨o, List.mem_append_left _ ho, rfl, id⟩⟩
  | created o area n known fresh quiet placed plain =>
    refine Or.inr ⟨hc, fun ha => ha.mono fun a ha' _ => ?_⟩
    have hlisted := relisted_listing area o.id a
    exact ⟨_, List.mem_append_left _ (List.mem_map_of_mem ha'), hlisted.id, hlisted.isPc.trans⟩
  | left h =>
    refine Or.inr ⟨hc, fun ha => ha.mono fun o ho hside => ⟨o, ?_, rfl, id⟩⟩
    have hnot : ¬(c.object = h ∨ c.pc = h) := by
      have hrunning : s.conversation = some c := hc
      unfold Mark.torn involves at calm
      simp only at calm
      rw [hrunning, Option.any_some] at calm
      simpa using calm
    refine List.mem_filter.2 ⟨ho, decide_eq_true ?_⟩
    rintro rfl
    exact hnot (hside.imp Eq.symm Eq.symm)
  | delisted area h gone =>
    refine Or.inr ⟨hc, fun ha => ha.mono fun o ho _ => ?_⟩
    have hunlisted := relisted_unlisting area h o
    exact ⟨_, List.mem_map_of_mem ho, hunlisted.id, hunlisted.isPc.trans⟩
  | chosen h vacant => exact Or.inr ⟨hc, id⟩
  | silenced d running => cases hc
  | spoken d silent attends known =>
    cases hc
    refine Or.inl (attends.mono fun o ho _ => ?_)
    have hkept := told_keeps c.object (some c.pc) o
    exact ⟨_, List.mem_map_of_mem ho, hkept.1, hkept.2.2.2.trans⟩
  | cleared => cases hc

theorem attends_shifts (h : Shifts (fun m => m.torn = false) s s') {c : Conversation}
    (hc : s'.conversation = some c) :
    s'.Attends c ∨ s.conversation = some c ∧ (s.Attends c → s'.Attends c) := by
  induction h with
  | refl => exact Or.inr ⟨hc, id⟩
  | tail _ hlast ih =>
    obtain ⟨m, calm, hshift⟩ := hlast
    rcases attends_shift hshift calm hc with ha | ⟨hmid, hkeeps⟩
    · exact Or.inl ha
    · rcases ih hmid with ha | ⟨hbefore, hkept⟩
      · exact Or.inl (hkeeps ha)
      · exact Or.inr ⟨hbefore, fun ha => hkeeps (hkept ha)⟩

end Scene

/-! ### Disruptions -/

variable {w₀ w w' : World} {c : Conversation}

/-- On the way from one world to another one, a step has disrupted the conversation. -/
def Disrupted (w₀ w : World) (c : Conversation) : Prop :=
  ∃ u v, Moves w₀ u ∧ u.conversation = some c ∧ u.Disrupts v ∧ Moves v w

theorem attends_or_disrupted (h : Moves w₀ w) (hl : Linked w₀) (hlimit : w.registry.issued < limit)
    (hquiet : w₀.conversation = none) (hc : w.conversation = some c) :
    w.scene.Attends c ∨ Disrupted w₀ w c := by
  induction h with
  | refl =>
    rw [hquiet] at hc
    cases hc
  | @tail v w hbefore hlast ih =>
    obtain ⟨k, -, hstep⟩ := hlast
    have hmid := hstep.follows.issued.trans_lt hlimit
    by_cases hd : v.Disrupts w
    · exact Or.inr ⟨v, w, hbefore, hd.conversation.symm.trans hc, hd, .refl⟩
    · have hcalm : Shifts (fun m => m.torn = false) v.scene w.scene := by
        refine (hstep.shifts (MovesBy.linked hbefore hl hmid) hlimit).mono fun m htorn => ?_
        exact Bool.eq_false_iff.2 fun he => hd (htorn he)
      rcases Scene.attends_shifts hcalm hc with ha | ⟨hrunning, hkeeps⟩
      · exact Or.inl ha
      · rcases ih hmid hrunning with ha | ⟨a, b, hto, hac, hab, hfrom⟩
        · exact Or.inl (hkeeps ha)
        · exact Or.inr ⟨a, b, hto, hac, hab, hfrom.tail ⟨k, trivial, hstep⟩⟩

/-- A conversation that has been disrupted never has both of its sides again. -/
theorem Disrupted.not_attends (h : Disrupted w₀ w c) (hl : Linked w₀)
    (hlimit : w.registry.issued < limit) : ¬w.scene.Attends c := by
  obtain ⟨u, v, hto, hc, hd, hfrom⟩ := h
  obtain ⟨k, hstep⟩ := hd.step
  have hv : v.registry.issued < limit := (MovesBy.follows hfrom).issued.trans_lt hlimit
  have hu : u.registry.issued < limit := hstep.follows.issued.trans_lt hv
  have hlinked := MovesBy.linked hto hl hu
  obtain ⟨side, hside, hlive, hgone⟩ := hd.gone hlinked hv
  have hgiven : side.number ≤ v.registry.issued :=
    (hlinked.sound.given side hlive).2.trans hstep.follows.issued
  have hdead : side ∉ w.registry.ids := (MovesBy.follows hfrom).gone hlimit hgiven hgone
  rintro ⟨⟨o, ho, hoid⟩, p, hp, hpid, -⟩
  unfold inConversation at hside
  rw [hc, Option.any_some, Bool.or_eq_true, decide_eq_true_eq, decide_eq_true_eq] at hside
  rcases hside with rfl | rfl
  · exact hdead (hoid ▸ List.mem_map_of_mem ho)
  · exact hdead (hpid ▸ List.mem_map_of_mem hp)

end Adventure.World
