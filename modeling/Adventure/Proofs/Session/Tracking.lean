import Adventure.Proofs.Session.Relocation
import Adventure.Proofs.World.Tracking

/-!
# Keeping track of the player's creature

With scripts that leave the world alone, every operation of a module keeps track of the player's
creature, but for those that take it away or put another one in its place. These note nothing: the
area that was noted before them stays noted. So the creature is tracked as long as none of them
takes it out of an area or into one.
-/

namespace Adventure

open World (ExitsAmong Still Tracks Linked Follows)
open Registry (limit)

variable {σ α β : Type} {run : Runner σ} {s : Session σ}

/-- The scripts return and leave the world alone. -/
def Runner.Aloof (run : Runner σ) : Prop := ∀ r s, Play.Yields (run r) s fun w => w = s.world

namespace Runner.Aloof

theorem considerate (hrun : run.Aloof) : run.Considerate fun _ => True := by
  refine ⟨fun r s he => (hrun r s).mono ?_, fun r s _ => ?_⟩
  · rintro w rfl
    exact .refl he
  · obtain ⟨-, -, hsame⟩ := hrun r s
    rw [hsame]

theorem moves (hrun : run.Aloof) : run.Stepwise World.Moves := by
  intro r s
  obtain ⟨-, -, hsame⟩ := hrun r s
  unfold Play.Steps
  rw [hsame]

end Runner.Aloof

namespace Play

/-! ### Play that notes nothing -/

/-- Wherever it begins, play returns and the same area is noted as before. -/
abbrev Unnoting (m : Play σ α) : Prop :=
  ∀ s, Yields m s fun w => w.currentArea = s.world.currentArea

theorem unnoting_pure (a : α) : Unnoting (pure a : Play σ α) := fun _ => yields_pure a rfl

theorem unnoting_bind {m : Play σ α} {f : α → Play σ β} (hm : Unnoting m)
    (hf : ∀ a, Unnoting (f a)) : Unnoting (m >>= f) := fun s =>
  yields_bind (hm s) fun a s' h => (hf a s').mono fun _ h' => h'.trans h

theorem unnoting_act {f : World → α × World} (hf : ∀ w, (f w).2.currentArea = w.currentArea) :
    Unnoting (act f : Play σ α) := fun s => ⟨(f s.world).1, rfl, hf s.world⟩

theorem unnoting_runScript (hrun : run.Aloof) (r : Request) : Unnoting (runScript run r) := by
  unfold runScript
  split
  · exact unnoting_pure _
  · refine unnoting_bind (fun s => yields_change rfl) fun _ s => (hrun r s).mono ?_
    rintro w rfl
    rfl

theorem unnoting_carryOut (hrun : run.Aloof) (a : Action) : Unnoting (carryOut run a) := by
  intro s
  unfold carryOut
  refine yields_world ?_
  split
  · cases a.work with
    | script name state =>
      exact unnoting_bind (unnoting_runScript hrun _) (fun _ => unnoting_pure true) s
    | destroy =>
      exact unnoting_bind (unnoting_act fun w => w.destroyObject_currentArea a.owner)
        (fun _ => unnoting_pure true) s
  · exact unnoting_pure false s

theorem unnoting_carryOutAll (hrun : run.Aloof) (actions : List Action) :
    Unnoting (carryOutAll run actions) := by
  induction actions with
  | nil => exact unnoting_pure 0
  | cons a rest ih =>
    exact unnoting_bind (unnoting_carryOut hrun a) fun _ =>
      unnoting_bind ih fun _ => unnoting_pure _

theorem unnoting_processActions (hrun : run.Aloof) : Unnoting (processActions run) := by
  unfold processActions
  exact unnoting_bind (unnoting_act fun _ => rfl) fun due => unnoting_carryOutAll hrun due

end Play

/-! ### The operations of a module -/

namespace Operation

open Play (Yields Unnoting)

/-- The operation is one of a module itself: no call of a script function, and it does not break
off. -/
def Managed : Operation → Prop
  | stop _ | call _ _ _ _ => False
  | _ => True

/-- The operation may take the player's creature away or put another one in its place. -/
def Displaces : Operation → Prop
  | loadPc _ | usePc _ | destroyObject _ | processActions => True
  | _ => False

theorem Displaces.unnoting (hrun : run.Aloof) {op : Operation} (h : op.Displaces) :
    Unnoting (op.play run) := by
  cases op with
  | loadPc r =>
    show Unnoting (Play.act fun w => w.loadPc r)
    exact Play.unnoting_act fun w => w.loadPc_currentArea r
  | usePc chosen =>
    show Unnoting (Play.act fun w => w.usePc chosen)
    exact Play.unnoting_act fun w => w.usePc_currentArea chosen
  | destroyObject gone =>
    show Unnoting (Play.act fun w => w.destroyObject gone)
    exact Play.unnoting_act fun w => w.destroyObject_currentArea gone
  | processActions => exact Play.unnoting_processActions hrun
  | _ => exact h.elim

theorem Managed.tracks (hrun : run.Aloof) {op : Operation} (h : op.Managed)
    (hstays : ¬op.Displaces) (hl : Linked s.world)
    (hlimit : ((op.play run).after s).world.registry.issued < limit) (ht : s.world.Tracks) :
    Yields (op.play run) s Tracks := by
  have hexits : ExitsAmong (fun _ => True) s.world := fun _ _ _ _ _ => trivial
  have hguided : Play.Guiding (fun _ => True) (op.play run) → Yields (op.play run) s Tracks :=
    fun hguiding => (hguiding s hexits).mono fun w hw => hw.tracks ht
  have hstill : ∀ {w}, Still (fun _ => True) s.world w → w.Tracks := fun h => h.tracks ht
  have hquiet := hrun.considerate
  cases op with
  | stop p => exact h.elim
  | call t f args site => exact h.elim
  | loadPc r => exact absurd trivial hstays
  | usePc chosen => exact absurd trivial hstays
  | destroyObject gone => exact absurd trivial hstays
  | processActions => exact absurd trivial hstays
  | loadModule name =>
    exact ⟨_, rfl, World.tracks_loadModule hl.pcIssued name hlimit ht⟩
  | loadArea resref => exact ⟨_, rfl, World.tracks_loadArea hl.pcIssued resref hlimit ht⟩
  | unloadArea area => exact ⟨_, rfl, World.tracks_unloadArea hl area ht⟩
  | unload => exact ⟨_, rfl, World.tracks_unload s.world⟩
  | createObject t template place tag =>
    exact ⟨_, rfl, World.tracks_createObject hl t template place tag hlimit ht⟩
  | enter => exact hguided (Play.guiding_enter hquiet)
  | movePc area position => exact hguided (Play.guiding_movePc hquiet area position)
  | movedPc => exact hguided (Play.guiding_movedPc hquiet)
  | jumpTo moved area position => exact hguided (Play.guiding_jumpTo hquiet moved area position)
  | runScript r => exact hguided (Play.guiding_runScript hquiet r)
  | runHook hooked event triggerer =>
    exact hguided (Play.guiding_runHook hquiet hooked event triggerer)
  | startConversation dialog pc object =>
    exact ⟨_, rfl, hstill (.startConversation s.world dialog pc object)⟩
  | endConversation => exact ⟨_, rfl, hstill (.endConversation s.world)⟩
  | firstInArea caller area => exact ⟨_, rfl, hstill (.firstInArea s.world caller area)⟩
  | nextInArea caller area => exact ⟨_, rfl, hstill (.nextInArea s.world caller area)⟩
  | delayScript script state owner triggerer ms => exact ⟨_, rfl, hstill (.aside rfl rfl rfl)⟩
  | delayDestroy owner ms => exact ⟨_, rfl, hstill (.aside rfl rfl rfl)⟩
  | setToken n text => exact ⟨_, rfl, hstill (.aside rfl rfl rfl)⟩
  | seed n => exact ⟨_, rfl, hstill (.aside rfl rfl rfl)⟩
  | setClock now => exact ⟨_, rfl, hstill (.aside rfl rfl rfl)⟩
  | advance ms => exact ⟨_, rfl, hstill (.aside rfl rfl rfl)⟩

theorem Managed.notes (hrun : run.Aloof) {op : Operation} (h : op.Managed) (hl : Linked s.world)
    (hlimit : ((op.play run).after s).world.registry.issued < limit) (ht : s.world.Tracks) :
    Yields (op.play run) s fun w => (op.Displaces → w.currentArea = s.world.currentArea) ∧
      (w.Tracks ↔ (op.Displaces → w.pcArea? = s.world.pcArea?)) := by
  by_cases hdisplaces : op.Displaces
  -- What is noted stays, so only the creature's own place decides.
  · refine (hdisplaces.unnoting hrun s).mono fun w hsame => ⟨fun _ => hsame, ?_⟩
    unfold Tracks at ht ⊢
    rw [hsame, ht]
    exact ⟨fun hplace _ => hplace.symm, fun hplace => (hplace hdisplaces).symm⟩
  · refine (h.tracks hrun hdisplaces hl hlimit ht).mono fun w htracks => ?_
    exact ⟨fun hd => absurd hd hdisplaces, fun _ hd => absurd hd hdisplaces, fun _ => htracks⟩

end Operation

namespace Session

/-- Operations of a module have led here from a fresh session, and none of those that take the
player's creature away or put another one in its place has taken it out of an area or into one. -/
inductive Undisplaced (run : Runner σ) : Session σ → Prop where
  | fresh (library : Library) (models : ModelSource) (clock seed : UInt64) (host : σ) :
    Undisplaced run (.fresh library models clock seed host)
  | operation {s : Session σ} (before : Undisplaced run s) (op : Operation) (managed : op.Managed)
    (inPlace : op.Displaces → ((op.play run).after s).world.pcArea? = s.world.pcArea?) :
    Undisplaced run ((op.play run).after s)

theorem Undisplaced.linked (hrun : run.Aloof) (h : s.Undisplaced run)
    (hlimit : s.world.registry.issued < limit) : Linked s.world := by
  induction h with
  | fresh library models clock seed host => exact World.linked_new library models clock seed
  | @operation s before op managed inPlace ih =>
    have hmoves := op.moves hrun.moves s
    exact hmoves.linked (ih (hmoves.follows.issued.trans_lt hlimit)) hlimit

theorem Undisplaced.tracks (hrun : run.Aloof) (h : s.Undisplaced run)
    (hlimit : s.world.registry.issued < limit) : s.world.Tracks := by
  induction h with
  | fresh library models clock seed host => exact rfl
  | @operation s before op managed inPlace ih =>
    have hmoves := op.moves hrun.moves s
    have hbefore := hmoves.follows.issued.trans_lt hlimit
    obtain ⟨-, -, -, htracks⟩ :=
      managed.notes hrun (before.linked hrun hbefore) hlimit (ih hbefore)
    exact htracks.2 inPlace

end Session

/-- As long as the player's creature has not been taken out of an area or into one by being
destroyed, chosen or replaced, the area that is noted is the one it is in. Every operation of a
module then returns. It keeps track of the creature unless it does just that, and then it leaves the
area noted that was noted before. -/
theorem tracked_undisplaced (hrun : run.Aloof) (hs : s.Undisplaced run)
    (hlimit : s.world.registry.issued < limit) :
    (∀ a, s.world.currentArea = some a ↔
      ∃ p o, s.world.pc = some p ∧ s.world.get? p = some o ∧ o.area = some a) ∧
    ∀ op : Operation, op.Managed → ((op.play run).after s).world.registry.issued < limit →
      ∃ answer, (op.play run).ended s = .ok answer ∧
        (op.Displaces → ((op.play run).after s).world.currentArea = s.world.currentArea) ∧
        (((op.play run).after s).world.Tracks ↔
          (op.Displaces → ((op.play run).after s).world.pcArea? = s.world.pcArea?)) := by
  have htracks := hs.tracks hrun hlimit
  refine ⟨(World.tracks_iff s.world).1 htracks, ?_⟩
  intro op hop hop'
  exact hop.notes hrun (hs.linked hrun hlimit) hop' htracks

/-! ### A creature that is destroyed -/

theorem aloof_idle : (Runner.idle : Runner σ).Aloof := fun _ _ => ⟨.ok (), rfl, rfl⟩

/-- A new creature of the player is about to enter the module. -/
def entering : Session Unit :=
  ((Operation.loadPc [("Appearance_Type", .int 0)]).play .idle).after
    (((Operation.loadArea "cave").play .idle).after
      (((Operation.loadModule "house").play .idle).after (.fresh twoAreas .plain 0 0 ())))

def entered : Session Unit := (Operation.enter.play .idle).after entering

theorem entered_undisplaced : entered.Undisplaced .idle := by
  have hhouse : Session.Undisplaced Runner.idle
      (((Operation.loadModule "house").play .idle).after (.fresh twoAreas .plain 0 0 ())) :=
    .operation (.fresh _ _ _ _ _) (.loadModule "house") trivial False.elim
  have hcave := Session.Undisplaced.operation hhouse (.loadArea "cave") trivial False.elim
  have hready : entering.Undisplaced .idle := by
    refine .operation hcave (.loadPc [("Appearance_Type", .int 0)]) trivial fun _ => ?_
    decide +kernel
  exact .operation hready .enter trivial False.elim

/-- The creature that has entered is in the area that is noted. -/
theorem entered_tracked : entered.world.currentArea = some ⟨2⟩ ∧
    ∃ p o, entered.world.pc = some p ∧ entered.world.get? p = some o ∧ o.area = some ⟨2⟩ := by
  have hplay : entered.world.registry.issued < limit ∧
      entered.world.currentArea = some ⟨2⟩ := by decide +kernel
  obtain ⟨hlimit, hcurrent⟩ := hplay
  obtain ⟨htracked, -⟩ := tracked_undisplaced aloof_idle entered_undisplaced hlimit
  exact ⟨hcurrent, (htracked ⟨2⟩).1 hcurrent⟩

/-- The creature that has entered is destroyed, and the area that it was in stays noted. -/
theorem destroyed_untracked : entered.Undisplaced .idle ∧
    (((Operation.destroyObject ⟨4⟩).play .idle).ended entered).isOk = true ∧
    (((Operation.destroyObject ⟨4⟩).play .idle).after entered).world.pc = none ∧
    (((Operation.destroyObject ⟨4⟩).play .idle).after entered).world.currentArea = some ⟨2⟩ := by
  refine ⟨entered_undisplaced, ?_⟩
  decide +kernel

end Adventure
