import Intake.Proofs.Lockstep

/-!
# What runs may do

A run is put together from steps: results that are there already, calls, generated values, events
that are logged, and payloads that are raised as the failures of nodes. The powers of a run
(`Powers`) say which of these it may take: which generators it may ask, whether it may log the events
that tell of nodes, and whether it may raise payloads. Everything else is free. `Run.Within p x` says
that the run `x` keeps to the powers `p`.

What a run may do decides three things about it:

* a run that may not raise payloads is local (`Run.Within.isLocal`);
* a run that may not tell of nodes leaves what the journal tells of them as it is
  (`Run.Within.nodeRecords_eq`);
* a run that may ask pure generators only is steady (`Run.Within.steady`).

Each of them is proved once, by induction on how the run is put together. The functions of the builder
are taken apart once as well, for any powers, and not again for each of the three.
-/

namespace Intake

/-- The events that tell of nodes: when they are begun and finished, and when the failure of one is
    raised. -/
def nodeEvents : List String :=
  ["build_started", "build_failed", "build_succeeded", "build_error_raised"]

/-- What the journal tells of nodes. -/
def Journal.nodeRecords (j : Journal) : List Record :=
  j.records.filter fun r => nodeEvents.contains r.event

/-- A generator does not depend on how often it was called. -/
def Generator.IsPure (g : Generator) : Prop :=
  ∀ i j a, g.run i a = g.run j a

/-- What a run may do: the generators that it may ask, whether it may log the events that tell of
    nodes, and whether it may raise payloads. -/
structure Powers where
  generators : Generator → Prop
  marks : Prop
  raises : Prop

namespace Powers

/-- Everything is allowed. -/
def all : Powers := ⟨fun _ => True, True, True⟩

/-- No payload may be raised. -/
def unraising : Powers := ⟨fun _ => True, True, False⟩

/-- No payload may be raised, and nothing told of nodes. -/
def plain : Powers := ⟨fun _ => True, False, False⟩

/-- Only generators may be asked that do not depend on how often they were called. -/
def steady : Powers := ⟨Generator.IsPure, True, True⟩

end Powers

end Intake

namespace Intake.Run

variable {α β : Type}

/-- The run is put together from steps that keep to the powers. -/
inductive Within (p : Powers) : {α : Type} → Run α → Prop
  | ofExcept {α : Type} {r : Except Fault α} : Unraised r → Within p (ofExcept r)
  | call (c : Call) : Within p (call c)
  | generate {g : Generator} (argument : Option Value) :
    p.generators g → Within p (generate g argument)
  | log {event : String} (details : List (String × Value)) :
    (event ∈ nodeEvents → p.marks) → Within p (log event details)
  | raise {α : Type} (payload : Failure.Payload) (node : String) :
    p.raises → Within p (throw (.build payload node) : Run α)
  | bind {α β : Type} {x : Run α} {f : α → Run β} :
    Within p x → (∀ a, Within p (f a)) → Within p (x >>= f)

/-- A pure generator gives the same value from all journals. -/
theorem Agree.generate {g : Generator} (hg : g.IsPure) (argument : Option Value) :
    Agree Eq (generate g argument) (generate g argument) :=
  fun _ _ => hg _ _ argument

namespace Within

variable {p : Powers}

theorem pure (a : α) : Within p (Pure.pure a) :=
  .ofExcept (unraised_ok a)

theorem throw {e : Fault} (h : Unraised (.error e : Except Fault α)) :
    Within p (MonadExcept.throw e : Run α) :=
  .ofExcept h

/-- A reply is taken for what it is, or as what the callable has raised, which is no payload. -/
theorem reply (r : Except String Reply) : Within p (Run.reply r) := by
  cases r with
  | error message => exact .throw (by rintro _ _ ⟨⟩)
  | ok answer => exact .pure answer

theorem mapM {f : α → Run β} (hf : ∀ a, Within p (f a)) (as : List α) : Within p (as.mapM f) := by
  induction as with
  | nil => exact .pure []
  | cons a as ih =>
    rw [List.mapM_cons]
    exact (hf a).bind fun b => ih.bind fun bs => .pure (b :: bs)

/-- A run that may not raise payloads is local. -/
theorem isLocal {x : Run α} (h : Within p x) (hp : ¬p.raises) : Local x := by
  induction h with
  | ofExcept h => exact local_ofExcept h
  | call c => exact local_call c
  | generate argument _ => exact local_generate _ argument
  | log details _ => exact local_log _ details
  | raise _ _ hraises => exact absurd hraises hp
  | bind _ _ ihx ihf => exact ihx.bind ihf

/-- A run that may not tell of nodes leaves what the journal tells of them as it is. -/
theorem nodeRecords_eq {x : Run α} (h : Within p x) (hp : ¬p.marks) (j : Journal) :
    (x.start j).2.nodeRecords = j.nodeRecords := by
  induction h generalizing j with
  | ofExcept _ => rw [start_ofExcept]
  | call c => rfl
  | generate argument _ => rfl
  | log details hevent =>
    change List.filter _ (j.records ++ [_]) = _
    rw [List.filter_append, List.filter_singleton]
    simp [Journal.nodeRecords, mt hevent hp]
  | raise _ _ _ => rfl
  | @bind _ _ x f _ _ ihx ihf =>
    have hx := ihx j
    rw [start_bind]
    rcases hstart : x.start j with ⟨e | a, k⟩ <;> rw [hstart] at hx
    · exact hx
    · exact (ihf a k).trans hx

/-- A run that may ask pure generators only is steady. -/
theorem steady {x : Run α} (h : Within .steady x) : Steady x := by
  induction h with
  | ofExcept _ => exact steady_ofExcept _
  | call c => exact .call rfl c c
  | generate argument hg => exact .generate hg argument
  | log details _ => exact .log rfl _ _ details details
  | raise payload node _ => exact .throw _ _
  | bind _ _ ihx ihf => exact ihx.bind ihf

end Within

end Intake.Run
