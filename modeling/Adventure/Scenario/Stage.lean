import Adventure.Scenario.Answer

/-!
# The stage

Where a scenario has its models from, and what it keeps beside the world: its scripts, the notes
about those that were asked for, the values kept under names, and the searches. Subjects and terms
become handles and values on it.
-/

namespace Adventure

/-- The source of models in a scenario. Some names have no model and some cannot be loaded, and what
the others have been told is on record. -/
def ModelSource.staged : ModelSource where
  give n name :=
    if "none".isPrefixOf name then .ok .none
    else if "bad".isPrefixOf name then .error (.model name)
    else .ok (some (.fresh (n + 1) name ⟨1, 2, 3⟩))
  recorded := true
  hidden n name m h := by
    split at h
    · cases h
    · split at h
      · cases h
      · cases h
        rfl
  unblaming n name kind h := by
    split at h
    · cases h
    · split at h <;> cases h
  uncounted n n' name := by
    cases "none".isPrefixOf name <;> cases "bad".isPrefixOf name <;> rfl

namespace Scenario

structure Stage where
  scripts : Dict Script
  notes : List Note
  kept : Dict Value
  searches : Dict Search

def Stage.fresh (scripts : Dict Script) : Stage := ⟨scripts, [], [], []⟩

namespace Stage

/-- The search of a name; one that was never begun finds nothing. -/
def searchOf (stage : Stage) (context : String) : Search :=
  (stage.searches.find? context).getD .fresh

def setSearch (stage : Stage) (context : String) (s : Search) : Stage :=
  { stage with searches := stage.searches.insert context s }

/-- Keeps a value under a name, if there is one. -/
def keep (stage : Stage) (name : Option String) (v : Value) : Stage :=
  match name with
  | some name => { stage with kept := stage.kept.insert name v }
  | none => stage

def begin (stage : Stage) (request : Request) : Stage :=
  { stage with notes := stage.notes ++ [⟨request, none⟩] }

/-- Adds the answers of a script to the note of a number. -/
def finish (stage : Stage) (index : Nat) (answers : List Answer) : Stage :=
  { stage with notes := stage.notes.modify index fun note => { note with results := some answers } }

end Stage

def Subject.resolve (w : World) (site : Bridge.CallSite) : Subject → Handle
  | .handle h => h
  | .player => w.pc.getD .invalid
  | .module => w.moduleId
  | .caller => site.caller
  | .triggerer => site.triggerer
  | .area resref => (w.area? resref).getD .invalid
  | .tagged tag index => ((w.registry.withTag tag)[index]?).getD .invalid

mutual

/-- The value a term stands for. Nothing kept under a name reads as no value. -/
def Term.resolve (w : World) (stage : Stage) (site : Bridge.CallSite) : Term → Value
  | .value v => v
  | .object s => .object (s.resolve w site)
  | .location area position facing =>
    .ofLocation (.make (some (area.resolve w site)) position facing)
  | .state offset stack => .state ⟨offset, Term.resolveAll w stage site stack⟩
  | .kept name => (stage.kept.find? name).getD .void

def Term.resolveAll (w : World) (stage : Stage) (site : Bridge.CallSite) : List Term → List Value
  | [] => []
  | t :: ts => t.resolve w stage site :: Term.resolveAll w stage site ts

end

end Scenario

end Adventure
