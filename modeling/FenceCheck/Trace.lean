import FenceCheck.Log

/-!
Computations that log events on the way and end with a result or a failure. What was logged before a
failure stays.
-/
namespace FenceCheck

/-- The events logged so far, and how the computation ended. -/
structure Trace (α : Type) where
  events : List Log.Event
  outcome : Outcome α

namespace Trace

protected def pure {α : Type} (a : α) : Trace α := ⟨[], .ok a⟩

/-- One computation after another; a failure ends both. -/
protected def bind {α β : Type} (t : Trace α) (f : α → Trace β) : Trace β :=
  match t.outcome with
  | .ok a => ⟨t.events ++ (f a).events, (f a).outcome⟩
  | .error e => ⟨t.events, .error e⟩

instance : Monad Trace where
  pure := Trace.pure
  bind := Trace.bind

def log (e : Log.Event) : Trace Unit := ⟨[e], .ok ()⟩

def logAll (events : List Log.Event) : Trace Unit := ⟨events, .ok ()⟩

def fail {α : Type} (e : Failure) : Trace α := ⟨[], .error e⟩

def ofOutcome {α : Type} (r : Outcome α) : Trace α := ⟨[], r⟩

section Lemmas
variable {α β : Type}

@[simp] theorem outcome_pure (a : α) : (pure a : Trace α).outcome = .ok a := rfl

@[simp] theorem events_pure (a : α) : (pure a : Trace α).events = [] := rfl

@[simp] theorem outcome_log (e : Log.Event) : (log e).outcome = .ok () := rfl

@[simp] theorem events_log (e : Log.Event) : (log e).events = [e] := rfl

@[simp] theorem outcome_logAll (events : List Log.Event) : (logAll events).outcome = .ok () := rfl

@[simp] theorem events_logAll (events : List Log.Event) : (logAll events).events = events := rfl

@[simp] theorem outcome_fail (e : Failure) : (fail e : Trace α).outcome = .error e := rfl

@[simp] theorem events_fail (e : Failure) : (fail e : Trace α).events = [] := rfl

@[simp] theorem outcome_bind (t : Trace α) (f : α → Trace β) :
    (t >>= f).outcome = t.outcome >>= fun a => (f a).outcome := by
  obtain ⟨events, outcome⟩ := t
  cases outcome <;> rfl

@[simp] theorem mk_bind (events : List Log.Event) (a : α) (f : α → Trace β) :
    ((⟨events, .ok a⟩ : Trace α) >>= f) = ⟨events ++ (f a).events, (f a).outcome⟩ := rfl

theorem events_bind_ok {t : Trace α} {a : α} (h : t.outcome = .ok a) (f : α → Trace β) :
    (t >>= f).events = t.events ++ (f a).events := by
  obtain ⟨events, outcome⟩ := t
  subst h
  rfl

theorem events_bind_error {t : Trace α} {e : Failure} (h : t.outcome = .error e)
    (f : α → Trace β) : (t >>= f).events = t.events := by
  obtain ⟨events, outcome⟩ := t
  subst h
  rfl

end Lemmas

end Trace

def Log.text (ctx : Option RunContext) (stamp : String) (events : List Log.Event) : String :=
  String.join ((events.filter (·.isEnabled ctx)).map (·.line ctx stamp))

end FenceCheck
