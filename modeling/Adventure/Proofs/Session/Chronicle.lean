import Adventure.Proofs.Session.Transcript

/-!
# Chronicles of play

A chronicle tells the calls of a transcript together with the worlds in which they were made. Every
transcript has one.
-/

namespace Adventure

open Adventure.Function (Callee Builtin Deed settled)

variable {σ α : Type} {Q : World → World → Prop}

/-- A call of a function of the game and the world in which it was made. -/
structure Occasion where
  world : World
  call : Exchange

/-- Play that makes these calls of the game's functions from this session on, as in a transcript. -/
inductive Play.Chronicle (Q : World → World → Prop) :
    {α : Type} → Play σ α → Session σ → List Occasion → Prop where
  | answer {α : Type} (a : α) (s : Session σ) : Chronicle Q (pure a) s []
  | stop {α : Type} (p : Panic) (s : Session σ) : Chronicle Q (throw p : Play σ α) s []
  | look (s : Session σ) : Chronicle Q get s []
  | host (f : σ → σ) (s : Session σ) :
    Chronicle Q (modify fun s => { s with host := f s.host } : Play σ Unit) s []
  | change {f : World → World} {s : Session σ} (aside : Q s.world (f s.world)) :
    Chronicle Q (change f) s []
  | act {α : Type} {f : World → α × World} {s : Session σ} (aside : Q s.world (f s.world).2) :
    Chronicle Q (act f) s []
  | chain {α β : Type} {m : Play σ α} {f : α → Play σ β} {s : Session σ} {a : α}
    {os os' : List Occasion} (first : Chronicle Q m s os) (ended : m.ended s = .ok a)
    (rest : Chronicle Q (f a) (m.after s) os') : Chronicle Q (m >>= f) s (os ++ os')
  | broken {α β : Type} {m : Play σ α} {f : α → Play σ β} {s : Session σ} {p : Panic}
    {os : List Occasion} (first : Chronicle Q m s os) (ended : m.ended s = .error p) :
    Chronicle Q (m >>= f) s os
  | refused {run : Runner σ} {f : Callee} {args : List Value} {site : Bridge.CallSite}
    {err : Bridge.CallError} {s : Session σ} (h : f.admission Function.table args site = .error err) :
    Chronicle Q (Function.call run f args site) s []
  | called {run : Runner σ} {f : Callee} {args : List Value} {site : Bridge.CallSite}
    {e : Bridge.Entry Builtin} {c : Bridge.CallContext} {s : Session σ}
    (h : f.admission Function.table args site = .ok (e, c)) (plain : e.handler.isDeed = false) :
    Chronicle Q (Function.call run f args site) s [⟨s.world, ⟨c, (settled run e c s).1⟩⟩]
  | deed {run : Runner σ} {f : Callee} {args : List Value} {site : Bridge.CallSite}
    {e : Bridge.Entry Builtin} {c : Bridge.CallContext} {d : Deed} {s : Session σ}
    {os : List Occasion} (h : f.admission Function.table args site = .ok (e, c))
    (handler : e.handler = .deed d) (inner : Chronicle Q (d.perform run c) s os) :
    Chronicle Q (Function.call run f args site) s
      (os ++ [⟨s.world, ⟨c, (settled run e c s).1⟩⟩])

theorem Play.Transcript.chronicle {m : Play σ α} {s : Session σ} {es : List Exchange}
    (h : Play.Transcript Q m s es) :
    ∃ os, Play.Chronicle Q m s os ∧ os.map Occasion.call = es := by
  induction h with
  | answer a s => exact ⟨[], .answer a s, rfl⟩
  | stop p s => exact ⟨[], .stop p s, rfl⟩
  | look s => exact ⟨[], .look s, rfl⟩
  | host f s => exact ⟨[], .host f s, rfl⟩
  | change aside => exact ⟨[], .change aside, rfl⟩
  | act aside => exact ⟨[], .act aside, rfl⟩
  | chain first ended rest ihfirst ihrest =>
    obtain ⟨os, hfirst, rfl⟩ := ihfirst
    obtain ⟨os', hrest, rfl⟩ := ihrest
    exact ⟨os ++ os', hfirst.chain ended hrest, List.map_append⟩
  | broken first ended ih =>
    obtain ⟨os, hfirst, rfl⟩ := ih
    exact ⟨os, hfirst.broken ended, rfl⟩
  | refused h => exact ⟨[], .refused h, rfl⟩
  | called h plain => exact ⟨_, .called h plain, rfl⟩
  | deed h handler inner ih =>
    obtain ⟨os, hinner, rfl⟩ := ih
    exact ⟨_, .deed h handler hinner, List.map_append⟩

end Adventure
