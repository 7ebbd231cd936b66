import Adventure.Proofs.World.Links

/-!
# Every operation keeps the world linked

Conversations, evictions and moves change objects where they stand; creating, placing and becoming
the player bring objects in; unloading and destroying take them out, and with them all that named
them. Where handles are given out, there must still be some left.
-/

namespace Adventure.World

open Object (Kin ne_of_isGameObject kin_pcSpeaker kin_mapArea resref_addObject resref_removeObject
  alike_setPosition alike_setFacing alike_hide same_mapCreature mapCreature_area
  mapCreature_resref? mapCreature_isPc kind_of_isPc creature?_isSome built_load placedKind_blank
  placedKind_isGameObject)
open Registry (limit handleOf number_of_newest mem_unregister update_objects)

namespace Linked

variable {w : World}

theorem foldl {α : Type} {f : World → α → World} (hf : ∀ w a, Follows w (f w a))
    (hstep : ∀ w a, Linked w → (f w a).registry.issued < limit → Linked (f w a)) (l : List α)
    (hl : Linked w) (hlimit : (l.foldl f w).registry.issued < limit) : Linked (l.foldl f w) := by
  induction l generalizing w with
  | nil => exact hl
  | cons a l ih =>
    have hle := (follows_foldl hf l (f w a)).issued
    exact ih (hstep w a hl (Nat.lt_of_le_of_lt hle hlimit)) hlimit

/-! ### Conversations -/

theorem endConversation (hl : Linked w) : Linked w.endConversation := by
  rcases w.endConversation_cases with ⟨-, hsame⟩ | ⟨c, -, hended⟩
  · rw [hsame]
    exact hl
  · have htold : Linked { w with conversation := none } := hl.congr rfl rfl rfl rfl
    rw [hended]
    exact (htold.kin c.object (kin_pcSpeaker · none)).congr rfl rfl rfl rfl

theorem startConversation (hl : Linked w) (dialog : String) (pc object : Handle) :
    Linked (w.startConversation dialog pc object).2 := by
  rcases w.startConversation_cases dialog pc object with hrefused | ⟨_, _, -, -, -, hstarted⟩
  · rw [hrefused]
    exact hl
  · rw [hstarted]
    exact (hl.endConversation.kin object (kin_pcSpeaker · (some pc))).congr rfl rfl rfl rfl

/-! ### Unloading areas -/

theorem evict_objects (hl : Linked w) (h : Handle) {o' : Object}
    (ho' : o' ∈ (w.evict h).registry.objects) :
    ∃ o ∈ w.registry.objects, o'.id = o.id ∧ o'.kind = o.kind ∧
      ∀ a, o'.area = some a → o.area = some a ∧ o.id ≠ h := by
  unfold evict at ho'
  split at ho'
  · rw [show (w.update h fun o => { o.hide with area := none }).registry.objects = _ from
      update_objects hl.sound.indexed.valid h _] at ho'
    obtain ⟨o, ho, rfl⟩ := List.mem_map.1 ho'
    refine ⟨o, ho, ?_⟩
    split
    · refine ⟨(alike_hide o).kin.id, (alike_hide o).kin.kind, ?_⟩
      intro a ha
      cases ha
    · rename_i hne
      exact ⟨rfl, rfl, fun a ha => ⟨ha, hne⟩⟩
  · obtain ⟨ho, hne⟩ := mem_unregister.1 ho'
    exact ⟨o', ho, rfl, rfl, fun a ha => ⟨ha, hne⟩⟩

theorem evict_rest (w : World) (h : Handle) : (w.evict h).areas = w.areas ∧
    (w.evict h).moduleId = w.moduleId ∧ (w.evict h).pc = w.pc := by
  unfold evict
  split <;> exact ⟨rfl, rfl, rfl⟩

theorem evict (hl : Linked w) (h : Handle)
    (hgame : ∀ o ∈ w.registry.objects, o.id = h → o.kind.isGameObject = true) :
    Linked (w.evict h) := by
  unfold World.evict
  split
  · refine hl.place h none (fun o => (alike_hide o).kin.place none) ?_
    intro o _ _ a ha
    cases ha
  · rename_i hpc
    refine hl.drop h rfl rfl rfl hgame ?_
    intro p hp
    exact ⟨fun he => hpc (he ▸ hp), hl.player p hp⟩

theorem evictAll (hl : Linked w) (hs : List Handle)
    (hgame : ∀ o ∈ w.registry.objects, o.id ∈ hs → o.kind.isGameObject = true) :
    Linked (hs.foldl World.evict w) ∧
      ((hs.foldl World.evict w).areas = w.areas ∧
        (hs.foldl World.evict w).moduleId = w.moduleId ∧ (hs.foldl World.evict w).pc = w.pc) ∧
      ∀ o' ∈ (hs.foldl World.evict w).registry.objects, ∀ a, o'.area = some a →
        ∃ o ∈ w.registry.objects, o.area = some a ∧ o.id ∉ hs := by
  induction hs generalizing w with
  | nil => exact ⟨hl, ⟨rfl, rfl, rfl⟩, fun o ho a ha => ⟨o, ho, ha, by simp⟩⟩
  | cons h hs ih =>
    have hfirst := hl.evict h fun o ho hid => hgame o ho (hid ▸ List.mem_cons_self)
    have hgame' : ∀ o ∈ (w.evict h).registry.objects, o.id ∈ hs → o.kind.isGameObject = true := by
      intro o' ho' hid
      obtain ⟨o, ho, hoid, hkind, -⟩ := hl.evict_objects h ho'
      rw [hkind]
      exact hgame o ho (List.mem_cons_of_mem _ (hoid ▸ hid))
    obtain ⟨hlinked, ⟨hareas, hmodule, hpc⟩, hleft⟩ := ih hfirst hgame'
    obtain ⟨hareas', hmodule', hpc'⟩ := evict_rest w h
    refine ⟨hlinked, ⟨hareas.trans hareas', hmodule.trans hmodule', hpc.trans hpc'⟩, ?_⟩
    intro o' ho' a ha
    obtain ⟨o₁, ho₁, harea₁, hnot₁⟩ := hleft o' ho' a ha
    obtain ⟨o, ho, hid, -, harea⟩ := hl.evict_objects h ho₁
    obtain ⟨harea, hne⟩ := harea a harea₁
    refine ⟨o, ho, harea, ?_⟩
    rw [List.mem_cons]
    rintro (he | hm)
    · exact hne he
    · exact hnot₁ (hid ▸ hm)

theorem dropArea {w' : World} (hl : Linked w) (area : Handle)
    (hregistry : w'.registry = (w.registry.unregister area).2)
    (hareas : w'.areas = w.areas.filter fun entry => entry.2 ≠ area)
    (hmodule : w'.moduleId = w.moduleId) (hpc : w'.pc = w.pc)
    (harea : ∃ o ∈ w.registry.objects, o.id = area ∧ o.kind = .area)
    (hempty : ∀ o ∈ w.registry.objects, o.area ≠ some area) : Linked w' := by
  obtain ⟨gone, hgone, rfl, hkind⟩ := harea
  have hkinds : ∀ o ∈ w.registry.objects, o.id = gone.id → o.kind = .area := by
    intro o ho hid
    rw [hl.same ho hgone hid, hkind]
  refine hl.shrink gone.id hregistry hareas hmodule ?_ hempty ?_
  · intro o ho hid
    rw [hkinds o ho hid]
    exact ObjectKind.noConfusion
  · intro p hp
    rw [hpc] at hp
    obtain ⟨o, ho, hid, hisPc⟩ := hl.player p hp
    refine ⟨?_, o, ho, hid, hisPc⟩
    rintro rfl
    have hcreature := kind_of_isPc hisPc
    rw [hkinds o ho hid] at hcreature
    cases hcreature

theorem mem_inArea {r : Registry} {area h : Handle} :
    h ∈ r.inArea area ↔ ∃ o ∈ r.objects, o.area = some area ∧ o.id = h := by
  unfold Registry.inArea
  rw [List.mem_map]
  constructor
  · rintro ⟨o, ho, rfl⟩
    rw [List.mem_filter, decide_eq_true_eq] at ho
    exact ⟨o, ho.1, ho.2, rfl⟩
  · rintro ⟨o, ho, ha, rfl⟩
    exact ⟨o, List.mem_filter.2 ⟨ho, decide_eq_true ha⟩, rfl⟩

theorem unloadArea (hl : Linked w) (area : Handle) :
    Linked (w.unloadArea area) ∧
      (w.unloadArea area).areas = w.areas.filter fun entry => entry.2 ≠ area := by
  rcases w.unloadArea_cases area with ⟨hnot, hsame⟩ | ⟨hisArea, noted, hclosed⟩
  · rw [hsame]
    refine ⟨hl, (List.filter_eq_self.2 ?_).symm⟩
    intro entry he
    rw [decide_eq_true_eq]
    intro hval
    refine Bool.eq_false_iff.1 hnot ((isArea_iff hl.sound area).2 (hl.mem_values.1 ?_))
    exact hval ▸ List.mem_map_of_mem he
  · -- Only game objects are in areas, so evicting them takes out no area and no module.
    have hgame : ∀ o ∈ w.registry.objects, o.id ∈ w.registry.inArea area →
        o.kind.isGameObject = true := by
      intro o ho hm
      obtain ⟨b, hb, harea, hid⟩ := mem_inArea.1 hm
      rw [← hl.same hb ho hid]
      exact hl.game b hb area harea
    obtain ⟨hevicted, ⟨hareas, -, -⟩, hleft⟩ := hl.evictAll (w.registry.inArea area) hgame
    have hempty : ∀ o ∈ ((w.registry.inArea area).foldl World.evict w).registry.objects,
        o.area ≠ some area := by
      intro o ho ha
      obtain ⟨b, hb, hba, hnot⟩ := hleft o ho area ha
      exact hnot (mem_inArea.2 ⟨b, hb, hba, rfl⟩)
    have hvalues : area ∈ ((w.registry.inArea area).foldl World.evict w).areas.values := by
      rw [hareas]
      exact hl.mem_values.2 ((isArea_iff hl.sound area).1 hisArea)
    have hlive := hevicted.mem_values.1 hvalues
    rw [hclosed, ← hareas]
    exact ⟨hevicted.dropArea area rfl rfl rfl rfl hlive hempty, rfl⟩

theorem unloadAreas (hl : Linked w) (hs : List Handle) :
    Linked (hs.foldl World.unloadArea w) ∧
      (hs.foldl World.unloadArea w).areas = w.areas.filter fun entry => entry.2 ∉ hs := by
  induction hs generalizing w with
  | nil =>
    refine ⟨hl, (List.filter_eq_self.2 ?_).symm⟩
    intro entry _
    simp
  | cons h hs ih =>
    obtain ⟨hfirst, hareas⟩ := hl.unloadArea h
    obtain ⟨hrest, hareas'⟩ := ih hfirst
    refine ⟨hrest, ?_⟩
    rw [List.foldl_cons, hareas', hareas, List.filter_filter]
    refine List.filter_congr fun entry _ => ?_
    simp [Bool.and_comm]

theorem nothing {w' : World} (hobjects : w'.registry.objects = []) (hs : w'.registry.Sound)
    (hareas : w'.areas = []) (hmodule : w'.moduleId = .invalid) (hpc : w'.pc = none) :
    Linked w' := by
  refine ⟨hs, hareas ▸ List.Pairwise.nil, hareas ▸ List.nodup_nil, ?_, ?_, ?_, ?_, ?_, ?_, ?_⟩
  · intro entry he
    rw [hareas] at he
    cases he
  · intro o ho
    rw [hobjects] at ho
    cases ho
  · intro hv
    rw [hmodule] at hv
    exact absurd hv (by decide)
  · intro o ho
    rw [hobjects] at ho
    cases ho
  · intro o ho
    rw [hobjects] at ho
    cases ho
  · intro o ho
    rw [hobjects] at ho
    cases ho
  · intro p hp
    rw [hpc] at hp
    cases hp

theorem unload_areas (hl : Linked w) : w.unload.areas = [] := by
  have hbegun : Linked { w with queue := .empty, walks := [] } := hl.congr rfl rfl rfl rfl
  have htalked := hbegun.endConversation
  unfold World.unload
  simp only
  generalize World.endConversation { w with queue := .empty, walks := [] } = talked at htalked
  have hareas := (htalked.unloadAreas talked.areas.values).2
  show (talked.areas.values.foldl World.unloadArea talked).areas = []
  rw [hareas, List.filter_eq_nil_iff]
  intro entry he
  have hval : entry.2 ∈ talked.areas.values := List.mem_map_of_mem he
  simpa using hval

theorem unload (hl : Linked w) : Linked w.unload :=
  nothing rfl (Registry.sound_clear _) hl.unload_areas rfl rfl

/-! ### Loading areas -/

theorem addArea (hl : Linked w) (resref : String) (are : Record) (hfree : w.area? resref = none)
    (hlimit : (w.addArea resref are).2.registry.issued < limit) :
    Linked (w.addArea resref are).2 := by
  obtain ⟨area, placed, r, hadded⟩ := addArea_spec w resref are
  generalize (w.addArea resref are).2 = w' at hadded hlimit
  generalize (w.addArea resref are).1 = h at hadded
  obtain ⟨hs, hobjects⟩ := hadded.settled hl.sound hlimit
  obtain ⟨hmodule, hpc⟩ := hadded.rest
  have hfind : w.areas.find? (Text.asciiLower resref) = none := hfree
  have hentries := Dict.insert_perm hfind h
  have hnewArea : area ∈ w'.registry.objects := by
    rw [hobjects]
    exact List.mem_append_right _ List.mem_cons_self
  refine hl.extend hs hobjects (hadded.areas ▸ Dict.ordered_insert hl.keys _ _) ?_ ?_
    (Or.inl hmodule) ?_ ?_ hpc
  · rw [hadded.areas, Dict.values, (hentries.map Prod.snd).nodup_iff, List.map_cons,
      List.nodup_cons]
    refine ⟨?_, hl.values⟩
    intro hold
    obtain ⟨o, ho, hid, -⟩ := hl.mem_values.1 hold
    have hnodup := hs.indexed.distinct
    rw [Registry.ids_of_append hobjects, List.map_cons] at hnodup
    refine (List.nodup_append.1 hnodup).2.2 o.id (List.mem_map_of_mem ho) area.id
      List.mem_cons_self ?_
    exact hid.trans hadded.id.symm
  · intro entry
    rw [hadded.areas, hentries.mem_iff, List.mem_cons, or_comm]
    refine or_congr_right ?_
    constructor
    · rintro rfl
      exact ⟨area, List.mem_cons_self, hadded.id, by rw [hadded.named, Option.map_some]⟩
    · rintro ⟨o, ho, hid, hname⟩
      obtain rfl := hadded.eq_area ho (kind_area_of_resref hname)
      rw [hadded.named, Option.map_some, Option.some_inj] at hname
      exact Prod.ext hname.symm (hid.symm.trans hadded.id)
  · intro o ho hk
    exact absurd hk (hadded.not_module ho)
  · intro o ho a ha
    rcases List.mem_cons.1 ho with rfl | ho
    · rw [hadded.unplaced] at ha
      cases ha
    · have hin := (hadded.each o ho).area
      rw [ha] at hin
      cases hin
      exact ⟨(hadded.each o ho).game, area, hnewArea, hadded.id, hadded.area_kind⟩

theorem loadArea (hl : Linked w) (resref : String)
    (hlimit : (w.loadArea resref).2.registry.issued < limit) : Linked (w.loadArea resref).2 := by
  rcases w.loadArea_cases resref with hsame | ⟨are, hfree, hadded⟩
  · rw [hsame]
    exact hl
  · rw [hadded] at hlimit ⊢
    exact hl.addArea resref are hfree hlimit

/-! ### Loading modules -/

theorem addModuleObject {w' : World} (hl : Linked w) {o : Object}
    (hnone : w.moduleId.isValid = false) (hs : w'.registry.Sound)
    (hobjects : w'.registry.objects = w.registry.objects ++ [o]) (hkind : o.kind = .module)
    (harea : o.area = none) (hareas : w'.areas = w.areas) (hmodule : w'.moduleId = o.id)
    (hpc : w'.pc = w.pc) : Linked w' := by
  have hcomes : ∃ b ∈ [o], b.id = w'.moduleId ∧ b.kind = .module :=
    ⟨o, List.mem_cons_self, hmodule.symm, hkind⟩
  refine hl.extend hs hobjects (hareas ▸ hl.keys) (hareas ▸ hl.values) ?_
    (Or.inr ⟨hnone, hcomes⟩) ?_ ?_ hpc
  · intro entry
    rw [hareas]
    refine ⟨Or.inl, ?_⟩
    rintro (he | ⟨b, hb, -, hname⟩)
    · exact he
    · have hk := kind_area_of_resref hname
      rw [List.mem_singleton.1 hb, hkind] at hk
      cases hk
  · intro b hb _
    rw [List.mem_singleton.1 hb]
    exact hmodule.symm
  · intro b hb a ha
    rw [List.mem_singleton.1 hb, harea] at ha
    cases ha

/-- The object of the newest handle stands at the end. -/
theorem register_newest {r : Registry} (hs : r.Sound) (r' : Registry) {o : Object}
    (hissued : r'.issued = r.issued + 1) (hobjects : r'.objects = r.objects)
    (htags : r'.tags = r.tags) (hlimit : r.issued + 1 < limit)
    (hid : o.id = handleOf (r.issued + 1)) :
    (r'.register o).Sound ∧ (r'.register o).objects = r.objects ++ [o] := by
  have hgrown : r'.Sound := hs.grow hobjects htags (by omega)
  have hnumber := number_of_newest hid hlimit
  rw [← hobjects]
  refine hgrown.register (by omega) (by omega) (by omega) ?_
  intro a ha
  rw [Registry.ids_congr hobjects] at ha
  have hle := (hs.given a ha).2
  exact Nat.lt_of_lt_of_eq (Nat.lt_succ_of_le hle) hnumber.symm

theorem withModule (hl : Linked w) (hnone : w.moduleId.isValid = false) {o : Object}
    (hid : o.id = handleOf (w.registry.issued + 1)) (hkind : o.kind = .module)
    (harea : o.area = none) (hlimit : w.registry.issued + 1 < limit) :
    Linked (w.withModule o) ∧
      (w.withModule o).registry.objects = w.registry.objects ++ [o] := by
  obtain ⟨hs, hobjects⟩ := register_newest hl.sound w.registry.issue.2 rfl rfl rfl hlimit hid
  exact ⟨hl.addModuleObject hnone hs hobjects hkind harea rfl rfl rfl, hobjects⟩

theorem loadAreas (hl : Linked w) (areas : List String)
    (hlimit : (areas.foldl (fun w area => (w.loadArea area).2) w).registry.issued < limit) :
    Linked (areas.foldl (fun w area => (w.loadArea area).2) w) :=
  hl.foldl follows_loadArea (fun _ area hw => hw.loadArea area) areas hlimit

theorem withModule_limit {o : Object} {areas : List String}
    (hlimit : (areas.foldl (fun w area => (w.loadArea area).2) (w.withModule o)).registry.issued <
      limit) : w.registry.issued + 1 < limit := by
  rw [← withModule_issued w o]
  exact (follows_foldl follows_loadArea areas (w.withModule o)).issued.trans_lt hlimit

theorem addModule (hl : Linked w) (name : String) (ifo : Record)
    (hnone : w.moduleId.isValid = false)
    (hlimit : (w.addModule name ifo).registry.issued < limit) : Linked (w.addModule name ifo) := by
  obtain ⟨o, areas, events, hid, hkind, harea, -, hadded⟩ := w.addModule_parts name ifo
  rw [hadded] at hlimit ⊢
  have hfirst := (hl.withModule hnone hid hkind harea (withModule_limit hlimit)).1
  exact (hfirst.loadAreas areas hlimit).congr rfl rfl rfl rfl

theorem cleared (hl : Linked w) : Linked w.cleared := by
  unfold World.cleared
  split
  · exact hl.unload
  · exact hl

theorem loadModule (hl : Linked w) (name : String)
    (hlimit : (w.loadModule name).2.registry.issued < limit) :
    Linked (w.loadModule name).2 := by
  rcases w.loadModule_cases name with hfailed | ⟨ifo, hadded⟩
  · rw [hfailed]
    exact hl.cleared
  · rw [hadded] at hlimit ⊢
    exact hl.cleared.addModule name ifo w.cleared_moduleId hlimit

/-! ### The player's creature -/

theorem usePc (hl : Linked w) (h : Handle) : Linked (w.usePc h).2 := by
  rcases w.usePc_cases h with ⟨-, hrefused⟩ | ⟨o, hg, hcreature, hused⟩
  · rw [hrefused]
    exact hl
  · obtain ⟨ho, hid⟩ := hl.sound.indexed.get?_eq_some.1 hg
    have hkind : o.kind = .creature := (creature?_isSome o).1 hcreature
    let becomes : Object → Object := fun o => o.mapCreature fun c => { c with isPc := true }
    have hbecome : Linked (w.update h becomes) := by
      refine hl.update h (fun a => same_mapCreature a _) (fun a => mapCreature_resref? a _)
        (fun a ha => mapCreature_isPc (kind_of_isPc ha)) ?_
      intro a _ _ place hplace
      exact Or.inl ((mapCreature_area a _).symm.trans hplace)
    have hlive : ∃ a ∈ (w.update h becomes).registry.objects, a.id = h ∧ a.isPc = true := by
      rw [show (w.update h becomes).registry.objects = _ from
        update_objects hl.sound.indexed.valid h becomes]
      exact ⟨becomes o, List.mem_map.2 ⟨o, ho, if_pos hid⟩, (same_mapCreature o _).id.trans hid,
        mapCreature_isPc hkind⟩
    -- The creature is the player's before the old one goes.
    have hchosen := hbecome.choose hlive
    rw [hused]
    unfold vacate
    cases hpc : (w.flag h).pc with
    | none => exact hchosen.congr rfl rfl rfl rfl
    | some old =>
      simp only
      split
      · exact hchosen.congr rfl rfl rfl rfl
      · rename_i hsame
        refine hchosen.drop old rfl rfl rfl ?_ ?_
        · intro a ha haid
          obtain ⟨c, hc, hcid, hcpc⟩ := hbecome.player old hpc
          rw [hbecome.same ha hc (haid.trans hcid.symm), kind_of_isPc hcpc]
          rfl
        · intro p hp
          cases hp
          exact ⟨fun he => hsame he.symm, hlive⟩

theorem issue (hl : Linked w) : Linked (w.setRegistry w.registry.issue.2) :=
  ⟨hl.sound.issue, hl.keys, hl.values, hl.named, hl.listed, hl.module, hl.only, hl.placed, hl.game,
    hl.player⟩

theorem loadPc (hl : Linked w) (r : Record) (hlimit : (w.loadPc r).2.registry.issued < limit) :
    Linked (w.loadPc r).2 := by
  rcases w.loadPc_cases r with ⟨e, hfailed⟩ | ⟨o, models, hload, hloaded⟩
  · rw [hfailed]
    exact hl.issue
  · rw [hloaded] at hlimit ⊢
    have hissued := (follows_usePc _ _).issued.trans_lt hlimit
    rw [withBuilt_issued] at hissued
    have hbuilt := built_load hload
    refine Linked.usePc ?_ _
    obtain ⟨hs, hobjects⟩ := register_newest hl.sound w.registry.issue.2 rfl rfl rfl hissued hbuilt.id
    refine hl.add hs hobjects rfl rfl rfl ?_ ?_
    · rw [hbuilt.kind]
      rfl
    · intro a ha
      rw [hbuilt.area] at ha
      cases ha

theorem placeAtEntry (hl : Linked w) : Linked w.placeAtEntry.2 := by
  rcases w.placeAtEntry_cases with ⟨e, hfailed⟩ | ⟨pc, m, area, hpc, -, harea, hplaced⟩
  · rw [hfailed]
    exact hl
  · have hentry := Dict.mem_of_find? harea
    have hvalue : area ∈ w.areas.values := List.mem_map_of_mem hentry
    rw [hplaced]
    refine hl.place pc (some area) (fun o => ?_) ?_
    · exact (alike_setPosition _ _).kin.trans (alike_setFacing _ _).kin
    · intro o ho hid a ha
      cases ha
      obtain ⟨c, hc, hcid, hcpc⟩ := hl.player pc hpc
      refine ⟨?_, hl.mem_values.1 hvalue⟩
      rw [hl.same ho hc (hid.trans hcid.symm), kind_of_isPc hcpc]
      rfl

/-! ### Moving -/

theorem changeLists (hl : Linked w) (h old new : Handle) : Linked (w.changeLists h old new) := by
  unfold World.changeLists
  have hold := hl.kin old fun o => kin_mapArea o fun a => resref_removeObject a h
  exact hold.kin new fun o => kin_mapArea o fun a => resref_addObject a h

theorem canJump_eq_some {h area current : Handle} : w.canJump h area = some current ↔
    ∃ o, w.get? h = some o ∧ o.area = some current ∧ w.isArea area = true := by
  unfold canJump
  cases hplace : (w.get? h).bind Object.area with
  | none =>
    rw [Option.bind_eq_none_iff] at hplace
    constructor
    · exact fun h => nomatch h
    · rintro ⟨o, ho, harea, -⟩
      rw [hplace o ho] at harea
      cases harea
  | some place =>
    obtain ⟨b, hb, hbarea⟩ := Option.bind_eq_some_iff.1 hplace
    cases w.isArea area with
    | false => simp
    | true => simp [hb, hbarea]

theorem of_canJump (hl : Linked w) {h area current : Handle}
    (hjump : w.canJump h area = some current) :
    (∀ o ∈ w.registry.objects, o.id = h → o.kind.isGameObject = true) ∧
      ∃ b ∈ w.registry.objects, b.id = area ∧ b.kind = .area := by
  obtain ⟨c, hlive, hc, hisArea⟩ := canJump_eq_some.1 hjump
  obtain ⟨hcmem, hcid⟩ := hl.sound.indexed.get?_eq_some.1 hlive
  refine ⟨?_, (isArea_iff hl.sound area).1 hisArea⟩
  intro o ho hid
  rw [hl.same ho hcmem (hid.trans hcid.symm)]
  exact hl.game c hcmem current hc

theorem relocate (hl : Linked w) {h area current : Handle} (position : Vec3)
    (hjump : w.canJump h area = some current) :
    Linked (w.relocate h current area position) := by
  obtain ⟨hgame, hlive⟩ := hl.of_canJump hjump
  unfold World.relocate
  refine Linked.kin ?_ h fun o => (alike_setPosition o position).kin
  split
  · exact hl
  · have hmoved : Linked
        (w.update h (transfer (w.pcArea? = some current) (w.pcArea? = some area) area)) := by
      refine hl.place h (some area) (kin_transfer _ _ area) ?_
      intro o ho hid a ha
      cases ha
      exact ⟨hgame o ho hid, hlive⟩
    rw [changeArea_eq]
    simp only
    split
    · exact hmoved
    · exact hmoved.changeLists h current area

/-! ### Creating and destroying -/

theorem addObject (hl : Linked w) {w₁ : World} {o : Object} {area : Handle}
    (hregistry : w₁.registry = w.registry.issue.2) (hareas : w₁.areas = w.areas)
    (hmodule : w₁.moduleId = w.moduleId) (hpc : w₁.pc = w.pc)
    (hid : o.id = handleOf (w.registry.issued + 1)) (hgame : o.kind.isGameObject = true)
    (harea : o.area = some area) (hlive : ∃ b ∈ w.registry.objects, b.id = area ∧ b.kind = .area)
    (hlimit : w.registry.issued + 1 < limit) : Linked (w₁.addObject o area) := by
  have hkin : ∀ a : Object, Kin a (a.mapArea fun list => list.addObject o.id) :=
    fun a => kin_mapArea a fun list => resref_addObject list o.id
  have hlisted : Linked (w.update area fun a => a.mapArea fun list => list.addObject o.id) :=
    hl.kin area hkin
  have hlist : w₁.registry.update area (fun a => a.mapArea fun list => list.addObject o.id) =
      (w.registry.update area fun a => a.mapArea fun list => list.addObject o.id).issue.2 := by
    rw [hregistry]
    unfold Registry.update Registry.issue
    split <;> rfl
  have hissued := Registry.update_issued w.registry area fun a =>
    a.mapArea fun list => list.addObject o.id
  obtain ⟨hs, hobjects⟩ := register_newest hlisted.sound
    (w₁.registry.update area fun a => a.mapArea fun list => list.addObject o.id) (o := o)
    (by rw [hlist]; rfl) (by rw [hlist]; rfl) (by rw [hlist]; rfl)
    (by rw [show (w.update area _).registry.issued = _ from hissued]; exact hlimit)
    (by rw [show (w.update area _).registry.issued = _ from hissued]; exact hid)
  refine hlisted.add hs hobjects hareas hmodule hpc hgame ?_
  intro a ha
  rw [harea] at ha
  cases ha
  obtain ⟨b, hb, hba, hbk⟩ := hlive
  have hvalue := hl.mem_values.2 ⟨b, hb, hba, hbk⟩
  exact hlisted.mem_values.1 hvalue

theorem createObject (hl : Linked w) (t : ObjectType) (template : String) (place : Location)
    (tag : String) (hlimit : (w.createObject t template place tag).2.registry.issued < limit) :
    Linked (w.createObject t template place tag).2 := by
  rcases w.createObject_cases t template place tag with
    ⟨e, hfailed⟩ | ⟨e, hfailed⟩ | ⟨kind, area, _, o, models, -, hisArea, hload, hcreated⟩
  · rw [hfailed]
    exact hl
  · rw [hfailed]
    exact hl.issue
  · rw [hcreated] at hlimit ⊢
    rw [addObject_issued] at hlimit
    have hbuilt := built_load hload
    have hdressed := dressed template tag place area (w.currentArea = some area) o
    refine hl.addObject rfl rfl rfl rfl (hdressed.id.trans hbuilt.id) ?_ hdressed.area
      ((isArea_iff hl.sound area).1 hisArea) hlimit
    rw [hdressed.kind, hbuilt.kind]
    show kind.blank.kind.isGameObject = true
    rw [placedKind_blank, placedKind_isGameObject]

theorem endConversation_objects (hl : Linked w) {o' : Object}
    (ho' : o' ∈ w.endConversation.registry.objects) :
    ∃ o ∈ w.registry.objects, o'.id = o.id ∧ o'.kind = o.kind := by
  rcases w.endConversation_cases with ⟨-, hsame⟩ | ⟨c, -, hended⟩
  · rw [hsame] at ho'
    exact ⟨o', ho', rfl, rfl⟩
  · rw [hended] at ho'
    have hmem : o' ∈ (w.registry.update c.object fun o => { o with pcSpeaker := none }).objects :=
      ho'
    rw [update_objects hl.sound.indexed.valid] at hmem
    obtain ⟨o, ho, rfl⟩ := List.mem_map.1 hmem
    refine ⟨o, ho, ?_⟩
    split <;> exact ⟨rfl, rfl⟩

theorem parted (hl : Linked w) (h : Handle) : Linked (w.parted h) := by
  rcases w.parted_cases h with ⟨-, hsame⟩ | ⟨-, hended⟩
  · rw [hsame]
    exact hl
  · rw [hended]
    exact hl.endConversation

theorem parted_objects (hl : Linked w) {h : Handle} {o' : Object}
    (ho' : o' ∈ (w.parted h).registry.objects) :
    ∃ o ∈ w.registry.objects, o'.id = o.id ∧ o'.kind = o.kind := by
  rcases w.parted_cases h with ⟨-, hsame⟩ | ⟨-, hended⟩
  · rw [hsame] at ho'
    exact ⟨o', ho', rfl, rfl⟩
  · rw [hended] at ho'
    exact hl.endConversation_objects ho'

theorem without (hl : Linked w) (h : Handle) (o : Object)
    (hgame : ∀ a ∈ w.registry.objects, a.id = h → a.kind.isGameObject = true) :
    Linked (w.without h o) := by
  have hgone : Linked { w with
      registry := (w.registry.unregister h).2
      pc := if w.pc = some h then none else w.pc } := by
    refine hl.drop h rfl rfl rfl hgame ?_
    intro p hp
    simp only at hp
    split at hp
    · cases hp
    · rename_i hne
      exact ⟨fun he => hne (he ▸ hp), hl.player p hp⟩
  unfold World.without delist
  cases o.area with
  | none => exact hgone.congr rfl rfl rfl rfl
  | some area =>
    exact (hgone.kin area fun a => kin_mapArea a fun list => resref_removeObject list o.id).congr
      rfl rfl rfl rfl

theorem removeObject (hl : Linked w) (h : Handle)
    (hgame : ∀ o ∈ w.registry.objects, o.id = h → o.kind.isGameObject = true) :
    Linked (w.removeObject h).2 := by
  rcases w.removeObject_cases h with ⟨-, hgone⟩ | ⟨o, -, hremoved⟩
  · rw [hgone]
    exact hl.parted h
  · rw [hremoved]
    refine (hl.parted h).without h o ?_
    intro b hb hid
    obtain ⟨a, ha, haid, hkind⟩ := hl.parted_objects hb
    rw [hkind]
    exact hgame a ha (haid.symm.trans hid)

theorem destroyObject (hl : Linked w) (h : Handle) : Linked (w.destroyObject h).2 := by
  rcases w.destroyObject_cases h with hrefused | ⟨o, hg, hgame, hdestroyed⟩
  · rw [hrefused]
    exact hl
  · rw [hdestroyed]
    refine hl.removeObject h ?_
    intro a ha hid
    obtain ⟨ho, hoid⟩ := hl.sound.indexed.get?_eq_some.1 hg
    rw [hl.same ha ho (hid.trans hoid.symm)]
    exact hgame

end Linked

end Adventure.World
