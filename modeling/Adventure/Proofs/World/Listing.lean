import Adventure.Proofs.World.StepShifts

/-!
# Lists of areas

Where an object is, is kept twice: with the object and on the list of its area. Every shift keeps
the two in agreement for all objects but the player's creature, which is on the list it was put on
before it became the player's, or on none. Nothing comes onto a list twice.
-/

namespace Adventure.World.Scene

open Object (Abides told told_keeps changed listing unlisting relisted_listing relisted_unlisting
  relisted_carried area?_listing area?_unlisting changed_of_eq changed_of_ne)

variable {s s' : Scene}

/-- Lists hold handles that have been given out, each of them once, and of the live objects those
that are in the area. -/
structure Listed (s : Scene) : Prop where
  once : ∀ b ∈ s.objects, ∀ a, b.area? = some a → a.objects.Nodup
  known : ∀ b ∈ s.objects, ∀ a, b.area? = some a → ∀ h ∈ a.objects, h.number ≤ s.issued
  listed : ∀ b ∈ s.objects, ∀ a, b.area? = some a → ∀ o ∈ s.objects, s.pc ≠ some o.id →
    (o.id ∈ a.objects ↔ o.area = some b.id)

namespace Listed

theorem map (hs : s.Listed) {g : Object → Object} (hobjects : s'.objects = s.objects.map g)
    (hissued : s.issued ≤ s'.issued) (hid : ∀ o, (g o).id = o.id)
    (harea? : ∀ o, (g o).area? = o.area?)
    (hplace : ∀ o ∈ s.objects, s'.pc ≠ some o.id → s.pc ≠ some o.id ∧ (g o).area = o.area) :
    s'.Listed := by
  have hmem : ∀ b' ∈ s'.objects, ∃ b ∈ s.objects, g b = b' := by
    intro b' hb'
    rw [hobjects] at hb'
    exact List.mem_map.1 hb'
  refine ⟨?_, ?_, ?_⟩
  · intro b' hb' a ha
    obtain ⟨b, hb, rfl⟩ := hmem b' hb'
    exact hs.once b hb a (harea? b ▸ ha)
  · intro b' hb' a ha h hh
    obtain ⟨b, hb, rfl⟩ := hmem b' hb'
    exact (hs.known b hb a (harea? b ▸ ha) h hh).trans hissued
  · intro b' hb' a ha o' ho' hpc
    obtain ⟨b, hb, rfl⟩ := hmem b' hb'
    obtain ⟨o, ho, rfl⟩ := hmem o' ho'
    rw [hid] at hpc
    obtain ⟨hpc, hsame⟩ := hplace o ho hpc
    rw [hid, hid, hsame]
    exact hs.listed b hb a (harea? b ▸ ha) o ho hpc

theorem arrived (hs : s.Listed) {news : List Object} {n : Nat} (known : s.Known)
    (arrivals : s.Arrivals n news) (grown : s.issued ≤ n) :
    Listed { s with objects := s.objects ++ news, issued := n } := by
  refine ⟨?_, ?_, ?_⟩
  · intro b hb a ha
    rcases List.mem_append.1 hb with hb | hb
    · exact hs.once b hb a ha
    · exact arrivals.once b hb a ha
  · intro b hb a ha h hh
    rcases List.mem_append.1 hb with hb | hb
    · exact (hs.known b hb a ha h hh).trans grown
    · obtain ⟨o, ho, rfl⟩ := arrivals.known b hb a ha h hh
      exact (arrivals.fresh o ho).2
  · intro b hb a ha o ho hpc
    rcases List.mem_append.1 hb with hb | hb <;> rcases List.mem_append.1 ho with ho | ho
    · exact hs.listed b hb a ha o ho hpc
    -- Something new is neither on an old list nor in an old area.
    · have hnew := (arrivals.fresh o ho).1
      refine ⟨fun hh => ?_, fun hin => ?_⟩
      · exact absurd (hs.known b hb a ha o.id hh) (Nat.not_le_of_lt hnew)
      · obtain ⟨b', hb', hid⟩ := arrivals.within o ho b.id hin
        have hlow := (arrivals.fresh b' hb').1
        rw [hid] at hlow
        exact absurd (known.ids b hb) (Nat.not_le_of_lt hlow)
    · have hnew := (arrivals.fresh b hb).1
      refine ⟨fun hh => ?_, fun hin => ?_⟩
      · obtain ⟨o', ho', hid⟩ := arrivals.known b hb a ha o.id hh
        have hlow := (arrivals.fresh o' ho').1
        rw [hid] at hlow
        exact absurd (known.ids o ho) (Nat.not_le_of_lt hlow)
      · exact absurd (known.areas o ho b.id hin) (Nat.not_le_of_lt hnew)
    · exact arrivals.listed b hb a ha o ho

theorem created (hs : s.Listed) {o : Object} {area : Handle} {n : Nat}
    (fresh : s.issued < o.id.number ∧ o.id.number ≤ n) (placed : o.area = some area)
    (plain : o.area? = none) (known : s.Known) :
    Listed { s with objects := s.objects.map (listing area o.id) ++ [o], issued := n } := by
  have hgrown : s.issued ≤ n := Nat.le_of_lt (fresh.1.trans_le fresh.2)
  have hareas : ∀ b' ∈ s.objects.map (listing area o.id) ++ [o], ∀ a', b'.area? = some a' →
      ∃ b ∈ s.objects, ∃ a, b.area? = some a ∧ b'.id = b.id ∧
        a' = if b.id = area then a.addObject o.id else a := by
    intro b' hb' a' ha'
    rcases List.mem_append.1 hb' with hb' | hb'
    · obtain ⟨b, hb, rfl⟩ := List.mem_map.1 hb'
      rw [area?_listing] at ha'
      obtain ⟨a, ha, rfl⟩ := Option.map_eq_some_iff.1 ha'
      exact ⟨b, hb, a, ha, (relisted_listing area o.id b).id, rfl⟩
    · rw [List.mem_singleton.1 hb', plain] at ha'
      cases ha'
  refine ⟨?_, ?_, ?_⟩
  · intro b' hb' a' ha'
    obtain ⟨b, hb, a, ha, -, rfl⟩ := hareas b' hb' a' ha'
    split
    · exact Area.nodup_addObject (hs.once b hb a ha) o.id
    · exact hs.once b hb a ha
  · intro b' hb' a' ha' h hh
    obtain ⟨b, hb, a, ha, -, rfl⟩ := hareas b' hb' a' ha'
    split at hh
    · rcases Area.mem_addObject.1 hh with hh | rfl
      · exact (hs.known b hb a ha h hh).trans hgrown
      · exact fresh.2
    · exact (hs.known b hb a ha h hh).trans hgrown
  · intro b' hb' a' ha' x' hx' hpc
    obtain ⟨b, hb, a, ha, hid, rfl⟩ := hareas b' hb' a' ha'
    rw [hid]
    rcases List.mem_append.1 hx' with hx' | hx'
    · obtain ⟨x, hx, rfl⟩ := List.mem_map.1 hx'
      have hkept := relisted_listing area o.id x
      have hother : x.id ≠ o.id := by
        intro he
        have hle := known.ids x hx
        rw [he] at hle
        exact absurd hle (Nat.not_le_of_lt fresh.1)
      rw [hkept.id] at hpc ⊢
      rw [hkept.area, ← hs.listed b hb a ha x hx hpc]
      split
      · rw [Area.mem_addObject, or_iff_left hother]
      · rfl
    · have hnew : o.id ∉ a.objects := fun hh =>
        absurd (hs.known b hb a ha o.id hh) (Nat.not_le_of_lt fresh.1)
      rw [List.mem_singleton.1 hx', placed, Option.some_inj]
      split
      · rename_i hb'
        exact ⟨fun _ => hb'.symm, fun _ => Area.mem_addObject.2 (Or.inr rfl)⟩
      · rename_i hb'
        exact ⟨fun hh => absurd hh hnew, fun he => absurd he.symm hb'⟩

theorem moved (hs : s.Listed) {h old new : Handle} {f : Object → Object}
    (abides : ∀ o, Abides o (f o)) (comes : ∀ o, (f o).area = some new)
    (leaves : ∀ o ∈ s.objects, o.id = h → o.area = some old) (known : h.number ≤ s.issued) :
    Listed { s with
      objects := ((s.objects.map (changed h f)).map (unlisting old h)).map (listing new h) } := by
  have hobjects : ∀ o' ∈ ((s.objects.map (changed h f)).map (unlisting old h)).map (listing new h),
      ∃ o ∈ s.objects, o'.id = o.id ∧ o'.area = (changed h f o).area ∧
        o'.area? = o.area?.map (·.carry h old new o.id) := by
    intro o' ho'
    rw [List.map_map, List.map_map] at ho'
    obtain ⟨o, ho, rfl⟩ := List.mem_map.1 ho'
    have hmoved := Abides.changed (h := h) abides o
    have hcarried := relisted_carried h old new (changed h f o)
    refine ⟨o, ho, hcarried.id.trans hmoved.id, hcarried.area, ?_⟩
    rw [← hmoved.id, ← hmoved.area?]
    exact Object.area?_carried h old new (changed h f o)
  have hareas : ∀ b' ∈ ((s.objects.map (changed h f)).map (unlisting old h)).map (listing new h),
      ∀ a', b'.area? = some a' → ∃ b ∈ s.objects, ∃ a, b.area? = some a ∧ b'.id = b.id ∧
        a' = a.carry h old new b.id := by
    intro b' hb' a' ha'
    obtain ⟨b, hb, hid, -, harea⟩ := hobjects b' hb'
    rw [harea] at ha'
    obtain ⟨a, ha, rfl⟩ := Option.map_eq_some_iff.1 ha'
    exact ⟨b, hb, a, ha, hid, rfl⟩
  refine ⟨?_, ?_, ?_⟩
  · intro b' hb' a' ha'
    obtain ⟨b, hb, a, ha, -, rfl⟩ := hareas b' hb' a' ha'
    exact Area.nodup_carry (hs.once b hb a ha)
  · intro b' hb' a' ha' k hk
    obtain ⟨b, hb, a, ha, -, rfl⟩ := hareas b' hb' a' ha'
    by_cases hkh : k = h
    · exact hkh ▸ known
    · exact hs.known b hb a ha k ((Area.mem_carry_of_ne hkh).1 hk)
  · intro b' hb' a' ha' o' ho' hpc
    obtain ⟨b, hb, a, ha, hbid, rfl⟩ := hareas b' hb' a' ha'
    obtain ⟨o, ho, hid, hplace, -⟩ := hobjects o' ho'
    rw [hid] at hpc
    have hbefore := hs.listed b hb a ha o ho hpc
    rw [hid, hbid, hplace]
    by_cases hoh : o.id = h
    · rw [changed_of_eq f hoh, comes, hoh, Option.some_inj, eq_comm (a := new)]
      refine Area.mem_carry_self ?_
      rw [← hoh, hbefore, leaves o ho hoh, Option.some_inj, eq_comm]
    · rw [changed_of_ne f hoh, Area.mem_carry_of_ne hoh]
      exact hbefore

theorem delisted (hs : s.Listed) {area h : Handle} (gone : ∀ o ∈ s.objects, o.id ≠ h) :
    Listed { s with objects := s.objects.map (unlisting area h) } := by
  have hareas : ∀ b' ∈ s.objects.map (unlisting area h), ∀ a', b'.area? = some a' →
      ∃ b ∈ s.objects, ∃ a, b.area? = some a ∧ b'.id = b.id ∧
        a' = if b.id = area then a.removeObject h else a := by
    intro b' hb' a' ha'
    obtain ⟨b, hb, rfl⟩ := List.mem_map.1 hb'
    rw [area?_unlisting] at ha'
    obtain ⟨a, ha, rfl⟩ := Option.map_eq_some_iff.1 ha'
    exact ⟨b, hb, a, ha, (relisted_unlisting area h b).id, rfl⟩
  refine ⟨?_, ?_, ?_⟩
  · intro b' hb' a' ha'
    obtain ⟨b, hb, a, ha, -, rfl⟩ := hareas b' hb' a' ha'
    split
    · exact Area.nodup_removeObject (hs.once b hb a ha) h
    · exact hs.once b hb a ha
  · intro b' hb' a' ha' k hk
    obtain ⟨b, hb, a, ha, -, rfl⟩ := hareas b' hb' a' ha'
    split at hk
    · exact hs.known b hb a ha k (Area.mem_removeObject.1 hk).1
    · exact hs.known b hb a ha k hk
  · intro b' hb' a' ha' o' ho' hpc
    obtain ⟨b, hb, a, ha, hbid, rfl⟩ := hareas b' hb' a' ha'
    obtain ⟨o, ho, rfl⟩ := List.mem_map.1 ho'
    have hkept := relisted_unlisting area h o
    rw [hkept.id] at hpc ⊢
    rw [hkept.area, hbid, ← hs.listed b hb a ha o ho hpc]
    split
    · rw [Area.mem_removeObject, and_iff_left (gone o ho)]
    · rfl

theorem left (hs : s.Listed) (h : Handle) : Listed { s with
    objects := s.objects.filter fun o => o.id ≠ h
    pc := if s.pc = some h then none else s.pc } := by
  have hmem : ∀ {o}, o ∈ s.objects.filter (fun o => o.id ≠ h) → o ∈ s.objects ∧ o.id ≠ h := by
    intro o ho
    rwa [List.mem_filter, decide_eq_true_eq] at ho
  refine ⟨?_, ?_, ?_⟩
  · intro b hb
    exact hs.once b (hmem hb).1
  · intro b hb
    exact hs.known b (hmem hb).1
  · intro b hb a ha o ho hpc
    obtain ⟨ho, hne⟩ := hmem ho
    refine hs.listed b (hmem hb).1 a ha o ho fun he => ?_
    have hother : ¬ s.pc = some h := fun hh => hne (Option.some_inj.1 (he.symm.trans hh))
    simp only [if_neg hother] at hpc
    exact hpc he

theorem shift (hs : s.Listed) {m : Mark} (h : Shift s m s') : s'.Listed := by
  have htold : ∀ (object : Handle) (speaker : Option Handle) (conversation : Option Conversation),
      Listed { s with objects := s.objects.map (told object speaker), conversation } := by
    intro object speaker conversation
    refine hs.map rfl (Nat.le_refl _) (fun o => (told_keeps object speaker o).1)
      (fun o => (told_keeps object speaker o).2.2.1) fun o _ hpc => ?_
    exact ⟨hpc, (told_keeps object speaker o).2.1⟩
  cases h with
  | issued n grown =>
    exact hs.map (List.map_id' _).symm grown (fun _ => rfl) (fun _ => rfl)
      fun o _ hpc => ⟨hpc, rfl⟩
  | inPlace g abides stays =>
    exact hs.map rfl (Nat.le_refl _) (fun o => (abides o).id) (fun o => (abides o).area?)
      fun o _ hpc => ⟨hpc, stays o hpc⟩
  | moved h old new f abides comes leaves known live => exact hs.moved abides comes leaves known
  | arrived news n known arrivals grown => exact hs.arrived known arrivals grown
  | created o area n known fresh quiet placed plain => exact hs.created fresh placed plain known
  | left h => exact hs.left h
  | delisted area h gone => exact hs.delisted gone
  | chosen h vacant =>
    refine hs.map (List.map_id' _).symm (Nat.le_refl _) (fun _ => rfl) (fun _ => rfl)
      fun o _ hpc => ⟨fun he => hpc ?_, rfl⟩
    rw [vacant o.id he]
  | silenced c running => exact htold c.object none none
  | spoken c silent attends known => exact htold c.object (some c.pc) (some c)
  | cleared =>
    refine ⟨?_, ?_, ?_⟩
    all_goals
      intro b hb
      cases hb

end Listed

end Adventure.World.Scene
