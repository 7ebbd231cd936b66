import Adventure.Proofs.Command.Ticks
import Adventure.Proofs.Function.Calls

/-!
# Leaving out failed calls

A call of a run fails before it reaches a function: its name is unknown, an argument cannot be read,
or the bridge refuses it. Nothing has happened by then. So a run goes the same way when the calls
that failed in it are left out from the start.
-/

namespace Adventure.Command

open Play (bind_of_ok bind_of_error world_bind)

/-! ### One call -/

theorem makeCall_ends (caller : Handle) (call : CallSpec) (s : Session Unit) :
    ∃ outcome, (makeCall caller call).ended s = .ok outcome ∧
      ∀ f, outcome = .error f → (makeCall caller call).after s = s := by
  unfold makeCall
  rw [(world_bind _ s).1, (world_bind _ s).2]
  cases argumentsOf s.world call caller with
  | error f => exact ⟨.error f, rfl, fun _ _ => rfl⟩
  | ok args =>
    obtain ⟨answer, hended, hrefused⟩ := Function.callIn_ends Function.table .idle
      (.name call.name) args ⟨caller, .invalid, scriptName⟩ s
    have hcall : (Function.call .idle (.name call.name) args
        ⟨caller, .invalid, scriptName⟩).ended s = .ok answer := hended
    simp only
    rw [(bind_of_ok hcall _).1, (bind_of_ok hcall _).2]
    cases answer with
    | error err => exact ⟨.error (.of (.call err)), rfl, fun _ _ => hrefused err rfl⟩
    | ok v => exact ⟨.ok v, rfl, fun f hf => by cases hf⟩

/-! ### One call after the other -/

def CallRecord.succeeded (r : CallRecord) : Bool := r.outcome.isOk

/-- The calls of the records that show no error, in their order. -/
def successful (records : List CallRecord) : List CallSpec :=
  (records.filter CallRecord.succeeded).map CallRecord.call

theorem makeCalls_cons {caller : Handle} {call : CallSpec} {calls : List CallSpec}
    {s : Session Unit} {outcome : Except Failure Value} {records : List CallRecord}
    (hcall : (makeCall caller call).ended s = .ok outcome)
    (hrest : (makeCalls caller calls).ended ((makeCall caller call).after s) = .ok records) :
    (makeCalls caller (call :: calls)).ended s = .ok (⟨call, outcome⟩ :: records) ∧
      (makeCalls caller (call :: calls)).after s =
        (makeCalls caller calls).after ((makeCall caller call).after s) := by
  have hbody : makeCalls caller (call :: calls) = (do
    let outcome ← makeCall caller call
    let records ← makeCalls caller calls
    return ⟨call, outcome⟩ :: records) := rfl
  rw [hbody, (bind_of_ok hcall _).1, (bind_of_ok hcall _).2, (bind_of_ok hrest _).1,
    (bind_of_ok hrest _).2]
  exact ⟨rfl, rfl⟩

/-- Calls one after the other leave a record each. The calls that succeed leave the same records and
the same session when the others are left out. -/
theorem makeCalls_successful (caller : Handle) (calls : List CallSpec) (s : Session Unit) :
    ∃ records, (makeCalls caller calls).ended s = .ok records ∧
      records.map CallRecord.call = calls ∧
      (makeCalls caller (successful records)).ended s =
        .ok (records.filter CallRecord.succeeded) ∧
      (makeCalls caller (successful records)).after s = (makeCalls caller calls).after s := by
  induction calls generalizing s with
  | nil => exact ⟨[], rfl, rfl, rfl, rfl⟩
  | cons call calls ih =>
    obtain ⟨outcome, hcall, hfailed⟩ := makeCall_ends caller call s
    obtain ⟨records, hrest, hcalls, hkept, hsame⟩ := ih ((makeCall caller call).after s)
    obtain ⟨hended, hafter⟩ := makeCalls_cons hcall hrest
    refine ⟨⟨call, outcome⟩ :: records, hended, by rw [List.map_cons, hcalls], ?_⟩
    cases outcome with
    | error f =>
      -- The failed call has left the session as it was, so the others meet the same session.
      have hdropped : successful (⟨call, .error f⟩ :: records) = successful records := rfl
      rw [hfailed f rfl] at hkept hsame hafter
      rw [hdropped, hafter]
      exact ⟨hkept, hsame⟩
    | ok v =>
      have hstays : successful (⟨call, .ok v⟩ :: records) = call :: successful records := rfl
      obtain ⟨hended', hafter'⟩ := makeCalls_cons hcall hkept
      rw [hstays, hended', hafter', hafter, hsame]
      exact ⟨rfl, rfl⟩

/-! ### The whole run -/

/-- The session makes its calls, and what it does then does not depend on them but through the world
they leave. -/
theorem session_successful {r : RunRequest} {caller : Handle} {s : Session Unit} {report : RunReport}
    (h : (session r caller).ended s = .ok report) :
    report.calls.map CallRecord.call = r.calls ∧
      (session { r with calls := successful report.calls } caller).ended s =
        .ok { report with calls := report.calls.filter CallRecord.succeeded } := by
  obtain ⟨records, hended, hcalls, hkept, hsame⟩ := makeCalls_successful caller r.calls s
  have hbody : ∀ {calls : List CallSpec} {records : List CallRecord},
      (makeCalls caller calls).ended s = .ok records →
      (session { r with calls } caller).ended s = (do
        let executed ← passTicks r.tickMs r.ticks.toNat 0
        let w ← Play.world
        return ⟨r.module, r.seed, caller, records, r.ticks, executed, w.events, w.snapshot⟩ :
          Bare RunReport).ended ((makeCalls caller calls).after s) :=
    fun hcalls => (bind_of_ok hcalls _).1
  -- Both sessions leave the same world after their calls, and the ticks begin there.
  have hwhole := hbody hended
  rw [show ({ r with calls := r.calls } : RunRequest) = r from rfl, h] at hwhole
  generalize (makeCalls caller r.calls).after s = s' at hwhole hsame
  cases hticks : (passTicks r.tickMs r.ticks.toNat 0).ended s' with
  | error p =>
    rw [(bind_of_error hticks _).1] at hwhole
    cases hwhole
  | ok executed =>
    rw [(bind_of_ok hticks _).1] at hwhole
    cases hwhole
    refine ⟨hcalls, ?_⟩
    rw [hbody hkept, hsame, (bind_of_ok hticks _).1]
    rfl

/-- What a run does before its session: it loads the module, brings the player's creature and finds
the caller. -/
def opening (r : RunRequest) (pc : Option Record) : Bare (Except Failure Handle) := do
  match ← Play.act fun w => w.loadModule r.module with
  | .error f => return .error (f.during (.loadingRunModule r.module))
  | .ok () =>
    match ← bringPlayer pc with
    | .error f => return .error f
    | .ok () => return callerOf (← Play.world) r.caller

theorem play_eq (r : RunRequest) (pc : Option Record) : play r pc = (do
    match ← opening r pc with
    | .error f => return .error f
    | .ok caller => return .ok (← session r caller)) := by
  unfold play opening
  rw [bind_assoc]
  refine bind_congr fun loaded => ?_
  cases loaded with
  | error f => rfl
  | ok _ =>
    simp only [bind_assoc]
    refine bind_congr fun brought => ?_
    cases brought with
    | error f => rfl
    | ok _ =>
      refine Eq.trans (bind_congr fun w => ?_) (bind_assoc _ _ _).symm
      refine Eq.trans ?_ (pure_bind (callerOf w r.caller) _).symm
      cases callerOf w r.caller <;> rfl

theorem session_of_play {r : RunRequest} {pc : Option Record} {s : Session Unit}
    {report : RunReport} (h : (play r pc).ended s = .ok (.ok report)) :
    ∃ caller s', (session r caller).ended s' = .ok report ∧
      ∀ calls report', (session { r with calls } caller).ended s' = .ok report' →
        (play { r with calls } pc).ended s = .ok (.ok report') := by
  have hsame : ∀ calls, opening { r with calls } pc = opening r pc := fun _ => rfl
  simp only [play_eq, hsame] at h ⊢
  cases hopening : (opening r pc).ended s with
  | error p => rw [(bind_of_error hopening _).1] at h; cases h
  | ok opened =>
    simp only [(bind_of_ok hopening _).1] at h ⊢
    cases opened with
    | error f => cases h
    | ok caller =>
      simp only [(Play.bind_pure _ _ _).1] at h ⊢
      generalize (opening r pc).after s = s' at h ⊢
      cases hsession : (session r caller).ended s' with
      | error p => rw [hsession] at h; cases h
      | ok reported =>
        rw [hsession] at h
        cases h
        exact ⟨caller, s', hsession, fun calls report' h' => by rw [h']; rfl⟩

theorem play_of_execute {r : RunRequest} {listing : Option (List File)} {report : RunReport}
    (h : execute r listing = .ok report) :
    ∃ pc s, (play r pc).ended s = .ok (.ok report) ∧
      ∀ calls report', (play { r with calls } pc).ended s = .ok (.ok report') →
        execute { r with calls } listing = .ok report' := by
  unfold execute at h ⊢
  cases hdirectory : Directory.load r.resources listing with
  | error e => rw [hdirectory] at h; cases h
  | ok d =>
    rw [hdirectory] at h
    simp only at h ⊢
    cases hpc : playerRecord (d.resources (listing.getD [])) r.pc with
    | error f => rw [hpc] at h; cases h
    | ok pc =>
      rw [hpc] at h
      simp only at h ⊢
      refine ⟨pc, ⟨startWorld r d (listing.getD []), (), []⟩, ?_, ?_⟩
      · unfold Play.ended
        split at h
        · cases h
        · cases h
        · rename_i reported hplayed
          cases h
          exact hplayed
      · intro calls report' h'
        have hstart : startWorld { r with calls } d (listing.getD []) =
          startWorld r d (listing.getD []) := rfl
        unfold Play.ended at h'
        simp only [hdirectory, hpc, hstart, h']

/-- A run that reports has a record of each of its calls. Without the calls whose records show an
error it reports the records of the others, in their order, and everything else as before. -/
theorem execute_successful (r : RunRequest) (listing : Option (List File)) (report : RunReport)
    (h : execute r listing = .ok report) :
    report.calls.map CallRecord.call = r.calls ∧
      execute { r with calls := successful report.calls } listing =
        .ok { report with calls := report.calls.filter CallRecord.succeeded } := by
  obtain ⟨pc, s, hplay, hexecute⟩ := play_of_execute h
  obtain ⟨caller, s', hsession, hplays⟩ := session_of_play hplay
  obtain ⟨hcalls, hkept⟩ := session_successful hsession
  exact ⟨hcalls, hexecute _ _ (hplays _ _ hkept)⟩

/-- Calls with an unknown name, an argument that is no number, too few and too many arguments, and
two calls in between that print. -/
def attempts : RunRequest :=
  { camp with calls := [⟨"Juggle", []⟩, ⟨"PrintInteger", ["7"]⟩, ⟨"PrintInteger", ["x"]⟩,
      ⟨"PrintFloat", []⟩, ⟨"PrintString", ["a", "b"]⟩, ⟨"PrintString", ["c"]⟩] }

theorem attempts_successful : ∃ report, execute attempts (some campFiles) = .ok report ∧
    report.events = ["module.load CAMP (0 areas)", "print 7", "print c"] ∧
    successful report.calls = [⟨"PrintInteger", ["7"]⟩, ⟨"PrintString", ["c"]⟩] ∧
    (execute { attempts with calls := successful report.calls } (some campFiles)) =
      .ok { report with calls := report.calls.filter CallRecord.succeeded } := by
  have hreports : (execute attempts (some campFiles)).toOption.map (fun report =>
      (report.events, successful report.calls)) =
      some (["module.load CAMP (0 areas)", "print 7", "print c"],
        [⟨"PrintInteger", ["7"]⟩, ⟨"PrintString", ["c"]⟩]) := by
    decide +kernel
  cases h : execute attempts (some campFiles) with
  | error e => rw [h] at hreports; cases hreports
  | ok report =>
    rw [h] at hreports
    simp only [Except.toOption, Option.map_some, Option.some.injEq, Prod.mk.injEq] at hreports
    obtain ⟨hevents, hkept⟩ := hreports
    exact ⟨report, rfl, hevents, hkept, (execute_successful attempts (some campFiles) report h).2⟩

end Adventure.Command
