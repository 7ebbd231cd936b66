import Adventure.Proofs.World.Listing
import Adventure.Proofs.World.Visibility

/-!
# Strays

A handle that is on the list of an area without being live is a stray. Whatever leaves the world is
taken off the list it is on, but for the player's creature: that is off its list already, or it was
put on one before it became the player's and stays there, when another creature takes its place and
when it is destroyed in another area. `Strands` is such a step. Every stray has been left by one.
-/

namespace Adventure.World

open Object (Abides told told_keeps listing unlisting relisted_listing relisted_unlisting
  area?_listing area?_unlisting alike_hide abides_mapCreature area?_isSome ne_of_isGameObject)
open Registry (limit)

variable {objects : List Object} {area old new h k : Handle} {w w' : World}

/-! ### Being on a list -/

/-- One of the objects is an area that lists the handle. -/
def OnList (objects : List Object) (area h : Handle) : Prop :=
  ∃ b ∈ objects, b.id = area ∧ ∃ a, b.area? = some a ∧ h ∈ a.objects

theorem onList_append {news : List Object} :
    OnList (objects ++ news) area h ↔ OnList objects area h ∨ OnList news area h := by
  unfold OnList
  simp only [List.mem_append, or_and_right, exists_or]

theorem onList_filter :
    OnList (objects.filter fun o => o.id ≠ k) area h ↔ OnList objects area h ∧ area ≠ k := by
  unfold OnList
  simp only [List.mem_filter, decide_eq_true_eq]
  constructor
  · rintro ⟨b, ⟨hb, hne⟩, rfl, hlist⟩
    exact ⟨⟨b, hb, rfl, hlist⟩, hne⟩
  · rintro ⟨⟨b, hb, rfl, hlist⟩, hne⟩
    exact ⟨b, ⟨hb, hne⟩, rfl, hlist⟩

theorem onList_map {g : Object → Object} {f : Handle → Area → Area} (hid : ∀ o, (g o).id = o.id)
    (harea? : ∀ o, (g o).area? = o.area?.map (f o.id)) : OnList (objects.map g) area h ↔
      ∃ b ∈ objects, b.id = area ∧ ∃ a, b.area? = some a ∧ h ∈ (f area a).objects := by
  unfold OnList
  constructor
  · rintro ⟨b', hb', hid', a', ha', hh⟩
    obtain ⟨b, hb, rfl⟩ := List.mem_map.1 hb'
    rw [hid] at hid'
    rw [harea?, hid'] at ha'
    obtain ⟨a, ha, rfl⟩ := Option.map_eq_some_iff.1 ha'
    exact ⟨b, hb, hid', a, ha, hh⟩
  · rintro ⟨b, hb, rfl, a, ha, hh⟩
    refine ⟨g b, List.mem_map_of_mem hb, hid b, f b.id a, ?_, hh⟩
    rw [harea?, ha, Option.map_some]

theorem onList_kept {g : Object → Object} (hid : ∀ o, (g o).id = o.id)
    (harea? : ∀ o, (g o).area? = o.area?) : OnList (objects.map g) area h ↔ OnList objects area h :=
  onList_map (f := fun _ => id) hid fun o => (harea? o).trans Option.map_id'.symm

theorem onList_abides {g : Object → Object} (hg : ∀ o, Abides o (g o)) :
    OnList (objects.map g) area h ↔ OnList objects area h :=
  onList_kept (fun o => (hg o).id) fun o => (hg o).area?

theorem onList_told (object : Handle) (speaker : Option Handle) :
    OnList (objects.map (told object speaker)) area h ↔ OnList objects area h :=
  onList_kept (fun o => (told_keeps object speaker o).1)
    fun o => (told_keeps object speaker o).2.2.1

theorem onList_listing (hne : h ≠ k) :
    OnList (objects.map (listing new k)) area h ↔ OnList objects area h := by
  rw [onList_map (f := fun self a => if self = new then a.addObject k else a)
    (fun o => (relisted_listing new k o).id) (area?_listing new k)]
  refine exists_congr fun b => and_congr_right fun _ => and_congr_right fun _ =>
    exists_congr fun a => and_congr_right fun _ => ?_
  split
  · rw [Area.mem_addObject, or_iff_left hne]
  · rfl

theorem onList_unlisting : OnList (objects.map (unlisting old k)) area h ↔
    OnList objects area h ∧ ¬(area = old ∧ h = k) := by
  rw [onList_map (f := fun self a => if self = old then a.removeObject k else a)
    (fun o => (relisted_unlisting old k o).id) (area?_unlisting old k)]
  by_cases hold : area = old
  · simp only [if_pos hold, Area.mem_removeObject]
    constructor
    · rintro ⟨b, hb, hid, a, ha, hh, hne⟩
      exact ⟨⟨b, hb, hid, a, ha, hh⟩, fun hboth => hne hboth.2⟩
    · rintro ⟨⟨b, hb, hid, a, ha, hh⟩, hnot⟩
      exact ⟨b, hb, hid, a, ha, hh, fun he => hnot ⟨hold, he⟩⟩
  · simp only [if_neg hold]
    exact (and_iff_left fun hboth => hold hboth.1).symm

def onList (w : World) (area h : Handle) : Bool :=
  ((w.get? area).bind Object.area?).any fun a => h ∈ a.objects

theorem onList_iff (hs : w.registry.Sound) :
    w.onList area h = true ↔ OnList w.registry.objects area h := by
  unfold onList OnList
  simp only [Option.any_eq_true, Option.bind_eq_some_iff, decide_eq_true_eq]
  constructor
  · rintro ⟨a, ⟨b, hlive, ha⟩, hh⟩
    obtain ⟨hb, hid⟩ := hs.indexed.get?_eq_some.1 hlive
    exact ⟨b, hb, hid, a, ha, hh⟩
  · rintro ⟨b, hb, hid, a, ha, hh⟩
    exact ⟨a, ⟨b, hs.indexed.get?_eq_some.2 ⟨hb, hid⟩, ha⟩, hh⟩

theorem OnList.isArea (hl : Linked w) (hon : OnList w.registry.objects area h) :
    w.isArea area = true := by
  obtain ⟨b, hb, hid, a, ha, -⟩ := hon
  refine (Linked.isArea_iff hl.sound area).2 ⟨b, hb, hid, (area?_isSome b).1 ?_⟩
  rw [ha]
  rfl

/-! ### Strays in a scene -/

namespace Scene

variable {s s' : Scene}

/-- The handle is on the list of the area, and no object has it. -/
def Stray (s : Scene) (area h : Handle) : Prop :=
  OnList s.objects area h ∧ ∀ o ∈ s.objects, o.id ≠ h

theorem gone_of_map {g : Object → Object} (hid : ∀ o, (g o).id = o.id)
    (hgone : ∀ o ∈ objects.map g, o.id ≠ h) : ∀ o ∈ objects, o.id ≠ h :=
  fun o ho => hid o ▸ hgone (g o) (List.mem_map_of_mem ho)

/-- A shift leaves no stray but the handle of what goes. -/
theorem stray_shift {m : Mark} (hshift : Shift s m s') (stays : ∀ side, m ≠ .left h side)
    (hstray : s'.Stray area h) : s.Stray area h := by
  obtain ⟨hon, hgone⟩ := hstray
  cases hshift with
  | issued n grown => exact ⟨hon, hgone⟩
  | inPlace g abides _ =>
    exact ⟨(onList_abides abides).1 hon, gone_of_map (fun o => (abides o).id) hgone⟩
  | moved k old new f abides comes leaves known live =>
    have hmoved := fun o => Abides.changed (h := k) abides o
    have hbefore := gone_of_map (fun o => (hmoved o).id)
      (gone_of_map (fun o => (relisted_unlisting old k o).id)
        (gone_of_map (fun o => (relisted_listing new k o).id) hgone))
    obtain ⟨o, ho, rfl⟩ := live
    rw [onList_listing (hbefore o ho).symm, onList_unlisting, onList_abides hmoved] at hon
    exact ⟨hon.1, hbefore⟩
  | arrived news n known arrivals grown =>
    refine ⟨(onList_append.1 hon).resolve_right ?_, fun o ho => hgone o (List.mem_append_left _ ho)⟩
    rintro ⟨b, hb, -, a, ha, hh⟩
    obtain ⟨o, ho, hid⟩ := arrivals.known b hb a ha h hh
    exact hgone o (List.mem_append_right _ ho) hid
  | created o place n known fresh quiet placed plain =>
    have hother : h ≠ o.id := (hgone o (List.mem_append_right _ List.mem_cons_self)).symm
    refine ⟨(onList_listing hother).1 ((onList_append.1 hon).resolve_right ?_), ?_⟩
    · rintro ⟨b, hb, -, a, ha, -⟩
      rw [List.mem_singleton.1 hb, plain] at ha
      cases ha
    · exact gone_of_map (fun b => (relisted_listing place o.id b).id)
        fun b hb => hgone b (List.mem_append_left _ hb)
  | left k =>
    have hother : h ≠ k := by
      rintro rfl
      exact stays _ rfl
    refine ⟨(onList_filter.1 hon).1, fun o ho hid => hgone o ?_ hid⟩
    exact List.mem_filter.2 ⟨ho, decide_eq_true (hid ▸ hother)⟩
  | delisted old k _ =>
    exact ⟨(onList_unlisting.1 hon).1, gone_of_map (fun o => (relisted_unlisting old k o).id) hgone⟩
  | chosen k vacant => exact ⟨hon, hgone⟩
  | silenced c running =>
    exact ⟨(onList_told c.object none).1 hon,
      gone_of_map (fun o => (told_keeps c.object none o).1) hgone⟩
  | spoken c silent attends known =>
    exact ⟨(onList_told c.object (some c.pc)).1 hon,
      gone_of_map (fun o => (told_keeps c.object (some c.pc) o).1) hgone⟩
  | cleared =>
    obtain ⟨b, hb, -⟩ := hon
    cases hb

theorem stray_shifts {P : Mark → Prop} (hshifts : Shifts P s s') (stays : ∀ side, ¬P (.left h side))
    (hstray : s'.Stray area h) : s.Stray area h := by
  induction hshifts with
  | refl => exact hstray
  | tail _ hlast ih =>
    obtain ⟨m, hP, hshift⟩ := hlast
    exact ih (stray_shift hshift (fun side hm => stays side (hm ▸ hP)) hstray)

end Scene

/-! ### Unloading -/

theorem onList_update (hs : w.registry.Sound) {f : Object → Object} (hf : ∀ o, Abides o (f o)) :
    OnList (w.update k f).registry.objects area h ↔ OnList w.registry.objects area h := by
  rw [objects_update hs]
  exact onList_abides (Abides.changed hf)

theorem onList_unregister : OnList (w.registry.unregister k).2.objects area h ↔
    OnList w.registry.objects area h ∧ area ≠ k := by
  rw [Registry.unregister_objects]
  exact onList_filter

theorem onList_evict (hs : w.registry.Sound) (hon : OnList (w.evict k).registry.objects area h) :
    OnList w.registry.objects area h := by
  unfold evict at hon
  split at hon
  · exact (onList_update hs fun o => (Abides.of_alike (alike_hide o)).trans (.place o.hide none)).1 hon
  · exact (onList_unregister.1 hon).1

theorem onList_evictAll (hs : w.registry.Sound) (l : List Handle)
    (hon : OnList (l.foldl evict w).registry.objects area h) : OnList w.registry.objects area h := by
  induction l generalizing w with
  | nil => exact hon
  | cons k l ih => exact onList_evict hs (ih (sound_evict hs k) hon)

theorem not_onList_unloadArea (hl : Linked w) (hlisted : w.scene.Listed) (harea : w.isArea k = true)
    (hgoes : w.goesWith k h) : ¬OnList (w.unloadArea k).registry.objects area h := by
  intro hon
  obtain ⟨noted, hclosed⟩ := w.unloadArea_loaded harea
  rw [hclosed, closeArea_registry, onList_unregister] at hon
  obtain ⟨hbefore, hne⟩ := hon
  obtain ⟨b, hb, rfl, a, ha, hh⟩ := onList_evictAll hl.sound _ hbefore
  rcases hgoes with rfl | ⟨hin, hpc⟩
  · obtain ⟨o, ho, rfl, hkind⟩ := (Linked.isArea_iff hl.sound h).1 harea
    have hplace := (hlisted.listed b hb a ha o ho (hl.pc_ne_area harea)).1 hh
    exact (ne_of_isGameObject (hl.game o ho _ hplace)).1 hkind
  · obtain ⟨o, ho, hplace, rfl⟩ := Linked.mem_inArea.1 hin
    rw [(hlisted.listed b hb a ha o ho hpc).1 hh, Option.some_inj] at hplace
    exact hne hplace

/-! ### The player's creature -/

theorem onList_usePc (hs : w.registry.Sound) (hpc : w.pc ≠ some area) (k : Handle) :
    OnList (w.usePc k).2.registry.objects area h ↔ OnList w.registry.objects area h := by
  cases hcreature : w.isCreature k with
  | false => rw [usePc_other hcreature]
  | true =>
    have hobjects : (w.usePc k).2.registry.objects = ((w.flag k).vacate k).registry.objects :=
      congrArg Scene.objects (usePc_creature hcreature).2
    have hflagged : OnList (w.flag k).registry.objects area h ↔ OnList w.registry.objects area h :=
      onList_update hs abides_mapCreature
    have hpc' : (w.flag k).pc ≠ some area := hpc
    rw [hobjects, ← hflagged]
    generalize w.flag k = flagged at hpc'
    unfold vacate
    cases hold : flagged.pc with
    | none => rfl
    | some old =>
      simp only
      split
      · rfl
      · refine onList_unregister.trans (and_iff_left ?_)
        rintro rfl
        exact hpc' hold

theorem onList_loadPc (hs : w.registry.Sound) (r : Record)
    (hlimit : (w.loadPc r).2.registry.issued < limit) (hpc : w.pc ≠ some area) :
    OnList (w.loadPc r).2.registry.objects area h ↔ OnList w.registry.objects area h := by
  rcases loadPc_built hs r hlimit with
    ⟨e, hfailed⟩ | ⟨o, models, hbuilt, -, hs', hobjects, -, hloaded⟩
  · rw [hfailed]
    rfl
  · have hplain : ¬OnList [o] area h := by
      rintro ⟨b, hb, -, a, ha, -⟩
      rw [List.mem_singleton.1 hb] at ha
      have hkind : o.kind = .area := (area?_isSome o).1 (by rw [ha]; rfl)
      rw [hbuilt.kind] at hkind
      cases hkind
    rw [hloaded, onList_usePc hs' hpc, hobjects, onList_append, or_iff_left hplain]

/-! ### Destroying -/

theorem endConversation_map (hl : Linked w) : ∃ g : Object → Object,
    w.endConversation.registry.objects = w.registry.objects.map g ∧
      ∀ o, (g o).id = o.id ∧ (g o).area = o.area ∧ (g o).area? = o.area? := by
  rcases scene_endConversation hl with hsame | ⟨c, -, hscene⟩
  · rw [hsame]
    exact ⟨id, (List.map_id _).symm, fun o => ⟨rfl, rfl, rfl⟩⟩
  · refine ⟨told c.object none, congrArg Scene.objects hscene, fun o => ?_⟩
    obtain ⟨hid, harea, harea?, -⟩ := told_keeps c.object none o
    exact ⟨hid, harea, harea?⟩

theorem parted_map (hl : Linked w) (h : Handle) : ∃ g : Object → Object,
    (w.parted h).registry.objects = w.registry.objects.map g ∧
      ∀ o, (g o).id = o.id ∧ (g o).area = o.area ∧ (g o).area? = o.area? := by
  rcases w.parted_cases h with ⟨-, hsame⟩ | ⟨-, hended⟩
  · rw [hsame]
    exact ⟨id, (List.map_id _).symm, fun o => ⟨rfl, rfl, rfl⟩⟩
  · rw [hended]
    exact endConversation_map hl

theorem onList_delist (hs : w.registry.Sound) (o : Object) :
    OnList (w.delist o).registry.objects area o.id ↔
      OnList w.registry.objects area o.id ∧ o.area ≠ some area := by
  unfold delist
  cases o.area with
  | none => exact (and_iff_left fun he => nomatch he).symm
  | some place =>
    have hobjects := objects_update hs place fun a => a.mapArea fun list => list.removeObject o.id
    simp only
    rw [hobjects]
    refine onList_unlisting.trans ?_
    rw [and_iff_left rfl, ne_eq (some place), Option.some_inj, eq_comm (a := area)]

theorem delist_gone (hs : w.registry.Sound) (o : Object) (hgone : ∀ b ∈ w.registry.objects, b.id ≠ h) :
    ∀ b ∈ (w.delist o).registry.objects, b.id ≠ h := by
  unfold delist
  cases o.area with
  | none => exact hgone
  | some place =>
    have hobjects := objects_update hs place fun a => a.mapArea fun list => list.removeObject o.id
    simp only
    rw [hobjects]
    intro b' hb'
    obtain ⟨b, hb, rfl⟩ := List.mem_map.1 hb'
    exact (relisted_unlisting place o.id b).id ▸ hgone b hb

theorem onList_destroyObject (hl : Linked w) {o : Object} (hlive : w.get? h = some o)
    (hgame : o.kind.isGameObject = true) :
    (∀ b ∈ (w.destroyObject h).2.registry.objects, b.id ≠ h) ∧
      (OnList (w.destroyObject h).2.registry.objects area h ↔
        (OnList w.registry.objects area h ∧ area ≠ h) ∧ o.area ≠ some area) := by
  have hs := (hl.parted h).sound
  obtain ⟨g, hobjects, hg⟩ := parted_map hl h
  obtain ⟨ho, rfl⟩ := hl.sound.indexed.get?_eq_some.1 hlive
  obtain ⟨hid, harea, -⟩ := hg o
  have hfound : (w.parted o.id).registry.lookup o.id = some (g o) := by
    refine hs.indexed.lookup_eq_some.2 ⟨?_, hid⟩
    rw [hobjects]
    exact List.mem_map_of_mem ho
  rw [w.destroyObject_live hlive hgame, w.removeObject_found hfound]
  generalize w.parted o.id = parted at hs hobjects
  let removed : World := parted.setRegistry (parted.registry.unregister o.id).2
  have hs' : removed.registry.Sound := hs.unregister o.id
  have hleft : OnList removed.registry.objects area o.id ↔
      OnList w.registry.objects area o.id ∧ area ≠ o.id := by
    refine onList_unregister.trans ?_
    rw [hobjects, onList_kept (fun o => (hg o).1) fun o => (hg o).2.2]
  have hgone : ∀ b ∈ removed.registry.objects, b.id ≠ o.id :=
    fun b hb => (Registry.mem_unregister.1 hb).2
  have hdelisted : OnList (removed.delist (g o)).registry.objects area (g o).id ↔
      OnList removed.registry.objects area (g o).id ∧ (g o).area ≠ some area :=
    onList_delist hs' (g o)
  rw [hid, harea, hleft] at hdelisted
  exact ⟨delist_gone hs' (g o) hgone, hdelisted⟩

/-! ### Steps -/

/-- A step by which the player's creature goes and stays on the list of an area: another one takes
its place, or it is destroyed in another area. -/
inductive Strands (w : World) (area h : Handle) : World → Prop where
  | usePc (next : Handle) (creature : w.isCreature next = true) (other : h ≠ next)
    (before : w.pc = some h) (listed : w.onList area h = true) : Strands w area h (w.usePc next).2
  | loadPc (r : Record) (next : Handle) (built : (w.loadPc r).1 = .ok next)
    (before : w.pc = some h) (listed : w.onList area h = true) : Strands w area h (w.loadPc r).2
  | destroyObject (before : w.pc = some h) (listed : w.onList area h = true)
    (elsewhere : w.pcArea? ≠ some area) : Strands w area h (w.destroyObject h).2

namespace Strands

theorem step (hs : w.Strands area h w') : ∃ kind, Step w kind w' := by
  cases hs with
  | usePc next creature other before listed => exact ⟨_, .usePc next⟩
  | loadPc r next built before listed => exact ⟨_, .loadPc r⟩
  | destroyObject before listed elsewhere => exact ⟨_, .destroyObject h⟩

theorem before (hs : w.Strands area h w') : w.pc = some h := by
  cases hs <;> assumption

theorem listed (hs : w.Strands area h w') : w.onList area h = true := by
  cases hs <;> assumption

theorem stray (hs : w.Strands area h w') (hl : Linked w) (hlimit : w'.registry.issued < limit) :
    w'.scene.Stray area h := by
  have hon : OnList w.registry.objects area h := (onList_iff hl.sound).1 hs.listed
  have hpc : w.pc ≠ some area := hl.pc_ne_area (hon.isArea hl)
  cases hs with
  | usePc next creature other before listed =>
    exact ⟨(onList_usePc hl.sound hpc next).2 hon, usePc_gone creature before other⟩
  | loadPc r next built before listed =>
    exact ⟨(onList_loadPc hl.sound r hlimit hpc).2 hon, loadPc_gone hl hlimit built before⟩
  | destroyObject before listed elsewhere =>
    obtain ⟨o, ho, rfl, hisPc⟩ := hl.player h before
    have hlive : w.get? o.id = some o := hl.sound.indexed.get?_eq_some.2 ⟨ho, rfl⟩
    have hgame : o.kind.isGameObject = true := by
      rw [Object.kind_of_isPc hisPc]
      rfl
    have hleft : (OnList w.registry.objects area o.id ∧ area ≠ o.id) ∧ o.area ≠ some area := by
      rw [pcArea?_of_mem hl.sound ho before] at elsewhere
      exact ⟨⟨hon, fun he => hpc (he ▸ before)⟩, elsewhere⟩
    obtain ⟨hgone, hiff⟩ := onList_destroyObject hl hlive hgame
    exact ⟨hiff.2 hleft, hgone⟩

end Strands

theorem stray_destroyObject (hl : Linked w) (hlisted : w.scene.Listed)
    (hstray : (w.destroyObject h).2.scene.Stray area h) :
    w.scene.Stray area h ∨ w.Strands area h (w.destroyObject h).2 := by
  rcases w.destroyObject_cases h with hrefused | ⟨o, hlive, hgame, -⟩
  · rw [hrefused] at hstray
    exact Or.inl hstray
  · obtain ⟨⟨hon, -⟩, hplace⟩ := (onList_destroyObject hl hlive hgame).2.1 hstray.1
    obtain ⟨ho, rfl⟩ := hl.sound.indexed.get?_eq_some.1 hlive
    by_cases hpc : w.pc = some o.id
    · rw [← pcArea?_of_mem hl.sound ho hpc] at hplace
      exact Or.inr (.destroyObject hpc ((onList_iff hl.sound).2 hon) hplace)
    · obtain ⟨b, hb, rfl, a, ha, hh⟩ := hon
      exact absurd ((hlisted.listed b hb a ha o ho hpc).1 hh) hplace

/-- A stray on a list was one before the step, or the step has left it there. -/
theorem Step.stray {kind : Kind} (hstep : Step w kind w') (hl : Linked w)
    (hlisted : w.scene.Listed) (hlimit : w'.registry.issued < limit)
    (hstray : w'.scene.Stray area h) : w.scene.Stray area h ∨ w.Strands area h w' := by
  by_cases htakes : ∃ side, w.Takes h side w'
  · obtain ⟨side, htakes⟩ := htakes
    have hother : h ≠ area := by
      obtain ⟨⟨b, hb, rfl, -⟩, hgone⟩ := hstray
      exact (hgone b hb).symm
    have hnotArea : w.pc = some h → w.pc ≠ some area := by
      intro hpc he
      exact hother (Option.some_inj.1 (hpc.symm.trans he))
    cases htakes with
    | unloadArea k loaded goes _ =>
      exact absurd hstray.1 (not_onList_unloadArea hl hlisted loaded goes)
    | usePc next creature before other _ =>
      have hon := (onList_usePc hl.sound (hnotArea before) next).1 hstray.1
      exact Or.inr (.usePc next creature other before ((onList_iff hl.sound).2 hon))
    | loadPc r next built before _ =>
      have hon := (onList_loadPc hl.sound r hlimit (hnotArea before)).1 hstray.1
      exact Or.inr (.loadPc r next built before ((onList_iff hl.sound).2 hon))
    | destroyObject _ => exact stray_destroyObject hl hlisted hstray
  · have hstays : ∀ side, ¬∀ a side', Mark.left h side = .left a side' → w.Takes a side' w' :=
      fun side hmark => htakes ⟨side, hmark h side rfl⟩
    exact Or.inl (Scene.stray_shifts (hstep.shifts_taking hl hlimit) hstays hstray)

/-! ### Histories -/

variable {w₀ : World}

/-- On the way from one world to another one, a step has left the handle on the list of the area. -/
def Stranded (w₀ w : World) (area h : Handle) : Prop :=
  ∃ u v, Moves w₀ u ∧ u.Strands area h v ∧ Moves v w

theorem stranded_of_stray (hmoves : Moves w₀ w) (hl : Linked w₀) (hlisted : w₀.scene.Listed)
    (hlimit : w.registry.issued < limit) (hnone : ¬w₀.scene.Stray area h)
    (hstray : w.scene.Stray area h) : Stranded w₀ w area h := by
  induction hmoves with
  | refl => exact absurd hstray hnone
  | @tail v w hbefore hlast ih =>
    obtain ⟨kind, -, hstep⟩ := hlast
    have hmid := hstep.follows.issued.trans_lt hlimit
    have hkept : v.scene.Listed := MovesBy.keeps (fun h hs => hs.shift h) hbefore hl hmid hlisted
    rcases hstep.stray (MovesBy.linked hbefore hl hmid) hkept hlimit hstray with hwas | hleaves
    · obtain ⟨a, b, hto, hab, hfrom⟩ := ih hmid hwas
      exact ⟨a, b, hto, hab, hfrom.tail ⟨kind, trivial, hstep⟩⟩
    · exact ⟨v, w, hbefore, hleaves, .refl⟩

theorem Stranded.gone (hs : Stranded w₀ w area h) (hl : Linked w₀)
    (hlimit : w.registry.issued < limit) : h ∉ w.registry.ids := by
  obtain ⟨u, v, hto, hleaves, hfrom⟩ := hs
  obtain ⟨kind, hstep⟩ := hleaves.step
  have hv : v.registry.issued < limit := (MovesBy.follows hfrom).issued.trans_lt hlimit
  have hu : u.registry.issued < limit := hstep.follows.issued.trans_lt hv
  have hlinked := MovesBy.linked hto hl hu
  obtain ⟨-, hgone⟩ := hleaves.stray hlinked hv
  have hgiven : h.number ≤ v.registry.issued :=
    (hlinked.pcIssued h hleaves.before).trans hstep.follows.issued
  exact (MovesBy.follows hfrom).gone hlimit hgiven (not_mem_ids hgone)

theorem live_iff (hmoves : Moves w₀ w) (hl : Linked w₀) (hlisted : w₀.scene.Listed)
    (hlimit : w.registry.issued < limit) (hnone : ¬w₀.scene.Stray area h)
    (hon : OnList w.registry.objects area h) :
    (∃ o ∈ w.registry.objects, o.id = h) ↔ ¬Stranded w₀ w area h := by
  constructor
  · rintro ⟨o, ho, rfl⟩ hstranded
    exact hstranded.gone hl hlimit (List.mem_map_of_mem ho)
  · intro hnever
    by_contra hgone
    have hstray : w.scene.Stray area h := ⟨hon, fun o ho hid => hgone ⟨o, ho, hid⟩⟩
    exact hnever (stranded_of_stray hmoves hl hlisted hlimit hnone hstray)

theorem Linked.home_iff (hl : Linked w) (hlisted : w.scene.Listed)
    (hon : OnList w.registry.objects area h) {o : Object} (hlive : w.get? h = some o) :
    o.area = some area ↔ ¬(w.pc = some h ∧ w.pcArea? ≠ some area) := by
  obtain ⟨ho, rfl⟩ := hl.sound.indexed.get?_eq_some.1 hlive
  by_cases hpc : w.pc = some o.id
  · rw [pcArea?_of_mem hl.sound ho hpc, not_and, not_not]
    exact ⟨fun hplace _ => hplace, fun hplace => hplace hpc⟩
  · obtain ⟨b, hb, rfl, a, ha, hh⟩ := hon
    have hplace : o.area = some b.id := (hlisted.listed b hb a ha o ho hpc).1 hh
    exact ⟨fun _ hboth => hpc hboth.1, fun _ => hplace⟩

end Adventure.World
