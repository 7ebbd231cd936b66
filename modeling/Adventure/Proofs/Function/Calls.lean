import Adventure.Proofs.Function.Moves

/-!
# Calls in play

A call either is refused, and then nothing happens, or its handler plays and the session goes on
from where the handler leaves it, with the fault noted. Whether it is admitted, and what the handler
is given, depends on the table and the call alone.
-/

namespace Adventure

/-! ### Admission -/

namespace Bridge

variable {α ε : Type}

/-- The entry behind a number and what its handler is given, if the call is admitted. -/
def Table.admission (t : Table α) (id : Nat) (args : List Value) (site : CallSite) :
    Except CallError (Entry α × CallContext) :=
  match t.find? id with
  | none => .error (.unknownFunction id)
  | some e =>
    match e.fill args with
    | .error err => .error err
    | .ok params => .ok (e, e.context params args.length site)

theorem Table.found_of_admission {t : Table α} {id : Nat} {args : List Value} {site : CallSite}
    {e : Entry α} {c : CallContext} (h : t.admission id args site = .ok (e, c)) :
    t.find? id = some e ∧ ∃ params, e.fill args = .ok params ∧
      c = e.context params args.length site := by
  unfold admission at h
  cases hfound : t.find? id with
  | none => rw [hfound] at h; cases h
  | some found =>
    cases hfill : found.fill args with
    | error err => simp only [hfound, hfill] at h; cases h
    | ok params =>
      simp only [hfound, hfill, Except.ok.injEq, Prod.mk.injEq] at h
      obtain ⟨rfl, rfl⟩ := h
      exact ⟨rfl, params, hfill, rfl⟩

theorem Table.call_of_admission (perform : α → Handler ε) {t : Table α} (engine : ε) {id : Nat}
    {args : List Value} {site : CallSite} {e : Entry α} {c : CallContext}
    (h : t.admission id args site = .ok (e, c)) :
    t.call perform engine id args site =
      .ok ⟨(e.settle (perform e.handler c engine).1).1, (e.settle (perform e.handler c engine).1).2,
        (perform e.handler c engine).2⟩ := by
  obtain ⟨hfound, params, hfill, rfl⟩ := found_of_admission h
  unfold call
  simp only [hfound, hfill]

theorem Table.call_of_not_admitted (perform : α → Handler ε) {t : Table α} (engine : ε) {id : Nat}
    {args : List Value} {site : CallSite} {err : CallError}
    (h : t.admission id args site = .error err) :
    t.call perform engine id args site = .error err := by
  unfold admission at h
  unfold call
  cases hfound : t.find? id with
  | none => rw [hfound] at h; cases h; rfl
  | some found =>
    cases hfill : found.fill args with
    | error err => simp only [hfound, hfill] at h; cases h; simp only [hfill]
    | ok params => simp only [hfound, hfill] at h; cases h

end Bridge

namespace Function

open Bridge

variable {σ : Type}

/-- The entry that a call goes to and what its handler is given, if the call is admitted. -/
def Callee.admission (t : Table Builtin) (f : Callee) (args : List Value) (site : CallSite) :
    Except CallError (Entry Builtin × CallContext) :=
  match f with
  | .id n => t.admission n args site
  | .name s =>
    match t.findByName? s with
    | none => .error (.unknownName s)
    | some n => t.admission n args site

theorem Callee.found_of_admission {t : Table Builtin} {f : Callee} {args : List Value} {site : CallSite}
    {e : Entry Builtin} {c : CallContext} (h : f.admission t args site = .ok (e, c)) :
    ∃ n, f.number? t = some n ∧ t.find? n = some e ∧
      ∃ params, e.fill args = .ok params ∧ c = e.context params args.length site := by
  cases f with
  | id n => exact ⟨n, rfl, Table.found_of_admission h⟩
  | name s =>
    unfold admission at h
    cases hname : t.findByName? s with
    | none => simp only [hname] at h; cases h
    | some n =>
      simp only [hname] at h
      exact ⟨n, hname, Table.found_of_admission h⟩

theorem Callee.name_of_admission {t : Table Builtin} {f : Callee} {args : List Value} {site : CallSite}
    {e : Entry Builtin} {c : CallContext} (h : f.admission t args site = .ok (e, c)) :
    c.name = e.name := by
  obtain ⟨_, -, -, _, -, rfl⟩ := found_of_admission h
  rfl

theorem Callee.admission_of_number {t : Table Builtin} {f : Callee} {id : Nat}
    (h : f.number? t = some id) (args : List Value) (site : CallSite) :
    f.admission t args site = t.admission id args site := by
  cases f with
  | id n =>
    cases h
    rfl
  | name s =>
    unfold admission
    simp only [show t.findByName? s = some id from h]

theorem Callee.admission_of_fill {t : Table Builtin} {f : Callee} {id : Nat} {args params : List Value}
    {site : CallSite} {e : Entry Builtin} (hf : f.number? t = some id) (hfound : t.find? id = some e)
    (hfill : e.fill args = .ok params) :
    f.admission t args site = .ok (e, e.context params args.length site) := by
  simp only [Callee.admission_of_number hf, Table.admission, hfound, hfill]

/-! ### What a call does to the session -/

/-- What the bridge replies to a call. -/
def Callee.reply (t : Table Builtin) (run : Runner σ) (s : Session σ) (f : Callee)
    (args : List Value) (site : CallSite) : Except CallError (Reply (Session σ)) :=
  match f with
  | .id n => t.call (Builtin.handler run) s n args site
  | .name n => t.callByName (Builtin.handler run) s n args site

/-- Goes on from where the handler has left the session, and notes the fault. -/
def conclude : Except CallError (Reply (Session σ)) → Play σ (Except CallError Value)
  | .error e => return .error e
  | .ok reply => do
    set reply.engine
    Play.report reply.fault
    return .ok reply.value

theorem callIn_eq (t : Table Builtin) (run : Runner σ) (f : Callee) (args : List Value)
    (site : CallSite) (s : Session σ) :
    (callIn t run f args site).ended s = (conclude (f.reply t run s args site)).ended s ∧
      (callIn t run f args site).after s = (conclude (f.reply t run s args site)).after s :=
  Play.bind_of_ok (m := get) rfl fun s => conclude (f.reply t run s args site)

section

variable {t : Table Builtin} {f : Callee} {args : List Value} {site : CallSite}

theorem Callee.reply_of_number {id : Nat} (h : f.number? t = some id) (run : Runner σ)
    (s : Session σ) : f.reply t run s args site = t.call (Builtin.handler run) s id args site := by
  cases f with
  | id n =>
    cases h
    rfl
  | name name =>
    unfold reply Table.callByName
    simp only [show t.findByName? name = some id from h]

theorem Callee.reply_refused {err : CallError} (h : f.admission t args site = .error err)
    (run : Runner σ) (s : Session σ) : f.reply t run s args site = .error err := by
  cases f with
  | id n => exact Table.call_of_not_admitted (Builtin.handler run) s h
  | name name =>
    unfold admission at h
    unfold reply Table.callByName
    cases hname : t.findByName? name with
    | none =>
      simp only [hname] at h ⊢
      cases h
      rfl
    | some n =>
      simp only [hname] at h ⊢
      exact Table.call_of_not_admitted (Builtin.handler run) s h

theorem Callee.reply_admitted {e : Entry Builtin} {c : CallContext}
    (h : f.admission t args site = .ok (e, c)) (run : Runner σ) (s : Session σ) :
    f.reply t run s args site =
      .ok ⟨(e.settle (Builtin.handler run e.handler c s).1).1,
        (e.settle (Builtin.handler run e.handler c s).1).2, (Builtin.handler run e.handler c s).2⟩ := by
  obtain ⟨n, hn, -⟩ := found_of_admission h
  rw [admission_of_number hn] at h
  rw [reply_of_number hn]
  exact Table.call_of_admission (Builtin.handler run) s h

theorem callIn_refused {err : CallError} (h : f.admission t args site = .error err) (run : Runner σ)
    (s : Session σ) :
    (callIn t run f args site).ended s = .ok (.error err) ∧
      (callIn t run f args site).after s = s := by
  have hreply := Callee.reply_refused h run s
  obtain ⟨hended, hafter⟩ := callIn_eq t run f args site s
  rw [hended, hafter, hreply]
  exact ⟨rfl, rfl⟩

/-- What an admitted call answers, and the fault that is noted. -/
def settled (run : Runner σ) (e : Entry Builtin) (c : CallContext) (s : Session σ) :
    Value × Option Fault :=
  e.settle (ending c ((e.handler.perform run c).ended s))

theorem callIn_admitted {e : Entry Builtin} {c : CallContext}
    (h : f.admission t args site = .ok (e, c)) (run : Runner σ) (s : Session σ) :
    (callIn t run f args site).ended s = .ok (.ok (settled run e c s).1) ∧
      (callIn t run f args site).after s =
        { (e.handler.perform run c).after s with
          faults := ((e.handler.perform run c).after s).faults ++ (settled run e c s).2.toList } := by
  have hreply := Callee.reply_admitted h run s
  obtain ⟨hended, hafter⟩ := callIn_eq t run f args site s
  rw [hended, hafter, hreply]
  exact ⟨rfl, rfl⟩

end

theorem call_world {f : Callee} {args : List Value} {site : CallSite} {e : Entry Builtin}
    {c : CallContext} (h : f.admission table args site = .ok (e, c)) (run : Runner σ) (s : Session σ) :
    ((call run f args site).after s).world = ((e.handler.perform run c).after s).world := by
  show ((callIn table run f args site).after s).world = _
  rw [(callIn_admitted h run s).2]

theorem call_refused {f : Callee} {args : List Value} {site : CallSite} {err : CallError}
    (h : f.admission table args site = .error err) (run : Runner σ) (s : Session σ) :
    (call run f args site).after s = s := (callIn_refused h run s).2

/-- A call returns, and what it answers with an error it has not done. -/
theorem callIn_ends (t : Table Builtin) (run : Runner σ) (f : Callee) (args : List Value)
    (site : CallSite) (s : Session σ) :
    ∃ answer, (callIn t run f args site).ended s = .ok answer ∧
      ∀ err, answer = .error err → (callIn t run f args site).after s = s := by
  cases h : f.admission t args site with
  | error err =>
    obtain ⟨hended, hafter⟩ := callIn_refused h run s
    exact ⟨_, hended, fun _ _ => hafter⟩
  | ok p =>
    obtain ⟨hended, -⟩ := callIn_admitted (e := p.1) (c := p.2) h run s
    exact ⟨_, hended, fun err herr => by cases herr⟩

end Function

end Adventure
