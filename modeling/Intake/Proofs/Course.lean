import Intake.Proofs.Unraised
import Intake.Proofs.Within

/-!
# Courses

A course is a run together with the events that it consists of, in order: the callables of the user
that were asked and what they replied, the references that led to no function, what failed inside of
the builder, and the nodes that were finished. The events account for the run (`Course.accounts`):
the run ends in a fault just when one of the events is one, it is the fault of the first such event,
and the calls in the journal are those of the events.

A course holds two runs that differ in what is done with the failure of a node. The quiet run takes
all of them for results; the loud run raises those of the nodes that ask for it. The loud run heeds
the events of the quiet one (`Course.heeds`): it is the quiet run where no event has to be raised,
else it ends with the first that has.

Courses are put together like runs are (`Course.bind`), so that the events of a function can be
written down in the shape of the function. That the runs of a course are runs of the builder is what
`Course.Asks` says of courses in which no node is finished, and `Course.Covers` of all others; both
are proved along the same shape. What may be done in a course without finished nodes is said along
with it (`Course.Asks.within`), so that one walk through a function tells its events, and also that it
is local (`Course.Asks.isLocal`) and steady (`Course.Asks.steady`).
-/

namespace Intake

open Intake.Schema Intake.Build

/-! ### Events -/

/-- The fault that a run has ended in, if it has. -/
def faultOf? {α : Type} : Except Fault α → Option Fault
  | .ok _ => none
  | .error e => some e

/-- What a callable of the user is asked as. -/
inductive Role where
  | function
  | predicate
  | validator
  | main
  deriving DecidableEq

namespace Role

/-- How the message about a breach calls the callable. -/
def label : Role → String
  | function => "custom function"
  | predicate => "domain predicate"
  | validator => "field validator"
  | main => "main validator"

/-- The contract of a callable: a function answers with a truth value, with a value accepted, or with
    a message or a payload; a predicate with a truth value; a validator of fields with a value
    accepted or a message; a main validator with a map accepted, a message or a payload. -/
def accepts : Role → Reply → Bool
  | function, .plain (.bool _) => true
  | function, .ok _ => true
  | function, .err (.text _) => true
  | function, .refused _ => true
  | predicate, .plain (.bool _) => true
  | validator, .ok _ => true
  | validator, .err (.text _) => true
  | main, .ok (.map _) => true
  | main, .err (.text _) => true
  | main, .refused _ => true
  | _, _ => false

/-- The fault of a reply outside of the contract. -/
def breach? (role : Role) (name : String) (r : Reply) : Option Fault :=
  if role.accepts r then none else some (.ofContract role.label name r)

/-- Replies are read as the contract says: any other reply is a breach. -/
def IsReading {α : Type} (role : Role) (name : String) (read : Reply → Except Fault α) : Prop :=
  ∀ r, faultOf? (read r) = role.breach? name r

/-- A reply that is read as the contract says raises no payload: its fault is the breach. -/
theorem IsReading.unraised {α : Type} {role : Role} {name : String}
    {read : Reply → Except Fault α} (h : role.IsReading name read) (r : Reply) :
    Run.Unraised (read r) := by
  intro p node hread
  have hbreach := h r
  rw [hread, breach?] at hbreach
  split at hbreach
  · cases hbreach
  · have hfault : (.error (.ofContract role.label name r) : Except Fault α) =
        .error (.build p node) := congrArg Except.error (Option.some.inj hbreach).symm
    exact unraised_ofContract role.label name r p node hfault

end Role

/-- Where something failed that is no callable replying: at a callable that cannot be called, in a
    check, in the lookup of a path, in making a record, in cleaning a value, or in reading the names
    of an input. -/
inductive Source where
  | callable
  | check
  | lookup
  | record
  | cleaning
  | names
  deriving DecidableEq

/-- What happens in the course of a build. -/
inductive Event where
  | generated (call : Call)
  | replied (call : Call) (role : Role) (name : String) (reply : Reply)
  | raised (call : Call) (message : String)
  | unresolved (key : String)
  | failed (source : Source) (e : Fault)
  | finished (n : Node) (result : Result)

namespace Event

/-- The fault that the event is, if it is one. -/
def fault? : Event → Option Fault
  | replied _ role name r => role.breach? name r
  | raised _ message => some (.raised message)
  | unresolved key => some (.ofContract Role.function.label key (.plain .null))
  | failed _ e => some e
  | generated _ => none
  | finished _ _ => none

/-- The call that the event is, if it is one. -/
def call? : Event → Option Call
  | generated c => some c
  | replied c _ _ _ => some c
  | raised c _ => some c
  | unresolved _ => none
  | failed _ _ => none
  | finished _ _ => none

/-- The node that has to raise its payload, if the event is the failure of one. -/
def raising? : Event → Option (Node × Failure.Payload)
  | finished n (.error p) => if n.raises then some (n, p) else none
  | _ => none

end Event

/-- The first node to fail among those that raise, with its payload. -/
def firstRaising? (es : List Event) : Option (Node × Failure.Payload) :=
  es.findSome? Event.raising?

/-- The events account for the end of a run that began with a journal. -/
structure Accounts {α : Type} (es : List Event) (j : Journal) (ending : Except Fault α × Journal) :
    Prop where
  fault : faultOf? ending.1 = es.findSome? Event.fault?
  calls : ending.2.calls = j.calls ++ es.filterMap Event.call?

/-- The end of a loud run heeds events: it is that of the quiet run, or the first failure that has to
    be raised. -/
def Heeds {α : Type} (es : List Event) (quiet loud : Except Fault α × Journal) : Prop :=
  match firstRaising? es with
  | none => loud = quiet
  | some (n, p) => loud.1 = .error (.build p n.name)

/-! ### Courses -/

/-- A run with its events, from each journal. -/
structure Course (α : Type) where
  quiet : Run α
  loud : Run α
  events : Journal → List Event
  accounts : ∀ j, Accounts (events j) j (quiet.start j)
  heeds : ∀ j, Heeds (events j) (quiet.start j) (loud.start j)

namespace Course

variable {α β : Type}

/-- The course without events. -/
protected def pure (a : α) : Course α where
  quiet := Pure.pure a
  loud := Pure.pure a
  events _ := []
  accounts _ := ⟨rfl, (List.append_nil _).symm⟩
  heeds _ := rfl

/-- The events of one course and those of the next one, where the first one answers. -/
def followed (x : Course α) (next : α → Course β) (j : Journal) : List Event :=
  match x.quiet.start j with
  | (.ok a, k) => x.events j ++ (next a).events k
  | (.error _, _) => x.events j

theorem followed_ok {x : Course α} {next : α → Course β} {j k : Journal} {a : α}
    (h : x.quiet.start j = (.ok a, k)) :
    x.followed next j = x.events j ++ (next a).events k := by
  rw [followed]
  rw [h]

theorem followed_error {x : Course α} {next : α → Course β} {j k : Journal} {e : Fault}
    (h : x.quiet.start j = (.error e, k)) : x.followed next j = x.events j := by
  rw [followed]
  rw [h]

/-- The events of two courses account for both of their runs, one after the other. -/
theorem accounts_followed (x : Course α) (next : α → Course β) (j : Journal) :
    Accounts (x.followed next j) j ((x.quiet >>= fun a => (next a).quiet).start j) := by
  have hx := x.accounts j
  rw [Run.start_bind]
  rcases h : x.quiet.start j with ⟨e | a, k⟩ <;> rw [h] at hx
  · rw [followed_error h]
    exact ⟨hx.fault, hx.calls⟩
  · rw [followed_ok h]
    -- The first course is no fault, and its calls are in the journal that the next one begins with.
    have hnext := (next a).accounts k
    refine ⟨?_, ?_⟩
    · rw [List.findSome?_append, ← hx.fault]
      exact hnext.fault
    · rw [hnext.calls, hx.calls, List.filterMap_append, List.append_assoc]

/-- The loud run of two courses heeds the events of both: it ends in the first course if something
    has to be raised there. -/
theorem heeds_followed (x : Course α) (next : α → Course β) (j : Journal) :
    Heeds (x.followed next j) ((x.quiet >>= fun a => (next a).quiet).start j)
      ((x.loud >>= fun a => (next a).loud).start j) := by
  have hx := x.heeds j
  rw [Run.start_bind, Run.start_bind]
  unfold Heeds firstRaising? at hx ⊢
  cases hraising : (x.events j).findSome? Event.raising? with
  | some np =>
    rw [hraising] at hx
    -- The loud run has ended before the next course.
    have hfirst : (x.followed next j).findSome? Event.raising? = some np := by
      rcases h : x.quiet.start j with ⟨e | a, k⟩
      · rw [followed_error h, hraising]
      · rw [followed_ok h, List.findSome?_append, hraising, Option.some_or]
    rw [hfirst]
    rcases hloud : x.loud.start j with ⟨e | a, k⟩ <;> rw [hloud] at hx <;> cases hx
    rfl
  | none =>
    rw [hraising] at hx
    rw [hx]
    rcases h : x.quiet.start j with ⟨e | a, k⟩
    · rw [followed_error h, hraising]
    · rw [followed_ok h, List.findSome?_append, hraising, Option.none_or]
      exact (next a).heeds k

/-- One course after the other. -/
protected def bind (x : Course α) (next : α → Course β) : Course β where
  quiet := x.quiet >>= fun a => (next a).quiet
  loud := x.loud >>= fun a => (next a).loud
  events := x.followed next
  accounts := x.accounts_followed next
  heeds := x.heeds_followed next

instance : Monad Course where
  pure := Course.pure
  bind := Course.bind

/-- The courses of items one after the other. -/
def forEach (f : α → Course β) : List α → Course (List β)
  | [] => pure []
  | a :: as => do
    let b ← f a
    let bs ← forEach f as
    return b :: bs

/-! ### Courses that end with an answer -/

/-- From the journal `j`, the quiet run answers, and these are the events until then. -/
structure Ends (x : Course α) (j : Journal) (a : α) (k : Journal) (es : List Event) : Prop where
  start : x.quiet.start j = (.ok a, k)
  events : x.events j = es

theorem ends_pure {a b : α} {j k : Journal} {es : List Event} :
    (pure a : Course α).Ends j b k es ↔ a = b ∧ j = k ∧ es = [] := by
  constructor
  · rintro ⟨h, hes⟩
    cases h
    exact ⟨rfl, rfl, hes.symm⟩
  · rintro ⟨rfl, rfl, rfl⟩
    exact ⟨rfl, rfl⟩

/-- Where one course after the other ends with an answer, both do, and their events are those of the
    one and then those of the other. -/
theorem ends_bind {x : Course α} {next : α → Course β} {j k : Journal} {b : β} {es : List Event} :
    (x >>= next).Ends j b k es ↔
      ∃ a i first rest, x.Ends j a i first ∧ (next a).Ends i b k rest ∧ es = first ++ rest := by
  constructor
  · rintro ⟨h, rfl⟩
    obtain ⟨a, i, hx, hnext⟩ := Run.start_bind_eq_ok.1 h
    exact ⟨a, i, _, _, ⟨hx, rfl⟩, ⟨hnext, rfl⟩, followed_ok hx⟩
  · rintro ⟨a, i, _, _, ⟨hx, rfl⟩, ⟨hnext, rfl⟩, rfl⟩
    exact ⟨Run.start_bind_eq_ok.2 ⟨a, i, hx, hnext⟩, followed_ok hx⟩

/-- An event of two courses is one of the first or one of the second. -/
theorem mem_events_bind {x : Course α} {next : α → Course β} {j : Journal} {e : Event}
    (h : e ∈ (x >>= next).events j) : e ∈ x.events j ∨ ∃ a k, e ∈ (next a).events k := by
  change e ∈ x.followed next j at h
  rcases hx : x.quiet.start j with ⟨_ | a, k⟩
  · rw [followed_error hx] at h
    exact .inl h
  · rw [followed_ok hx] at h
    exact (List.mem_append.1 h).imp_right fun h => ⟨a, k, h⟩

theorem ends_of_start {x : Course α} {j k : Journal} {a : α} (h : x.quiet.start j = (.ok a, k)) :
    x.Ends j a k (x.events j) :=
  ⟨h, rfl⟩

/-! ### Single events -/

/-- Where nothing has to be raised, both runs may be the same one. -/
theorem heeds_self {es : List Event} (h : firstRaising? es = none)
    (ending : Except Fault α × Journal) : Heeds es ending ending := by
  rw [Heeds, h]

/-- The course of a result that is there already: a fault is a failure. -/
def ofExcept (source : Source) (r : Except Fault α) : Course α where
  quiet := Run.ofExcept r
  loud := Run.ofExcept r
  events _ := (faultOf? r).toList.map (.failed source)
  accounts j := by
    cases r <;> exact ⟨rfl, (List.append_nil _).symm⟩
  heeds j := heeds_self (by cases r <;> rfl) _

theorem ends_ofExcept {source : Source} {r : Except Fault α} {j k : Journal} {a : α}
    {es : List Event} :
    (ofExcept source r).Ends j a k es ↔ r = .ok a ∧ j = k ∧ es = [] := by
  constructor
  · rintro ⟨h, hes⟩
    obtain ⟨rfl, rfl⟩ := Run.start_ofExcept_eq_ok.1 h
    exact ⟨rfl, rfl, hes.symm⟩
  · rintro ⟨rfl, rfl, rfl⟩
    exact ⟨rfl, rfl⟩

/-- A reference that leads to no function. -/
def unresolved (key : String) : Course α where
  quiet := throw (.ofContract Role.function.label key (.plain .null))
  loud := throw (.ofContract Role.function.label key (.plain .null))
  events _ := [.unresolved key]
  accounts _ := ⟨rfl, (List.append_nil _).symm⟩
  heeds _ := heeds_self rfl _

/-- The call of a callable, and what is read of its reply. -/
def consulted (call : Call) (answer : Except String Reply) (read : Reply → Except Fault α) :
    Run α := do
  Run.call call
  let r ← Run.reply answer
  Run.ofExcept (read r)

theorem start_consulted (call : Call) (answer : Except String Reply)
    (read : Reply → Except Fault α) (j : Journal) :
    (consulted call answer read).start j =
      (match answer with
       | .ok r => read r
       | .error message => .error (.raised message), { j with calls := j.calls ++ [call] }) := by
  rcases answer with message | r
  · rfl
  · exact Run.start_ofExcept (read r) _

/-- A callable is asked, and its reply is read as its contract says. -/
def consult (call : Call) (role : Role) (name : String) (answer : Except String Reply)
    (read : Reply → Except Fault α) (h : role.IsReading name read) : Course α where
  quiet := consulted call answer read
  loud := consulted call answer read
  events _ :=
    match answer with
    | .ok r => [.replied call role name r]
    | .error message => [.raised call message]
  accounts j := by
    rw [start_consulted]
    rcases answer with message | r
    · exact ⟨rfl, rfl⟩
    · refine ⟨?_, rfl⟩
      rw [List.findSome?_singleton]
      exact h r
  heeds j := heeds_self (by cases answer <;> rfl) _

/-- Where a callable was asked and the course goes on, it has replied, within its contract. -/
theorem ends_consult {call : Call} {role : Role} {name : String} {answer : Except String Reply}
    {read : Reply → Except Fault α} {h : role.IsReading name read} {j k : Journal} {a : α}
    {es : List Event} (hends : (consult call role name answer read h).Ends j a k es) :
    ∃ r, answer = .ok r ∧ read r = .ok a ∧ es = [.replied call role name r] := by
  obtain ⟨hstart, rfl⟩ := hends
  have hstart := (start_consulted call answer read j).symm.trans hstart
  rcases answer with message | r
  · cases hstart
  · exact ⟨r, rfl, (Prod.mk.inj hstart).1, rfl⟩

/-- A value is generated. -/
def generate (g : Generator) (argument : Option Value) : Course Value where
  quiet := Run.generate g argument
  loud := Run.generate g argument
  events _ := [.generated (.generator g.label argument.toList)]
  accounts _ := ⟨rfl, rfl⟩
  heeds _ := heeds_self rfl _

/-- Something is logged, which is no event of the course. -/
def log (event : String) (details : List (String × Value)) : Course Unit where
  quiet := Run.log event details
  loud := Run.log event details
  events _ := []
  accounts _ := ⟨rfl, (List.append_nil _).symm⟩
  heeds _ := heeds_self rfl _

/-- A node is finished. The loud run raises its failure, if the node asks for it. -/
def finish (n : Node) (result : Result) : Course Unit where
  quiet := pure ()
  loud :=
    match result with
    | .error p => if n.raises then raisePayload p n.name else pure ()
    | .ok _ => pure ()
  events _ := [.finished n result]
  accounts _ := ⟨rfl, (List.append_nil _).symm⟩
  heeds j := by
    rcases result with p | v
    · cases h : n.raises <;> simp only [Heeds, firstRaising?, List.findSome?_singleton,
        Event.raising?, h, if_true, Bool.false_eq_true, if_false]
      rfl
    · exact heeds_self rfl _

/-! ### The runs of a course -/

/-- Both runs of the course are this one, which keeps to the powers, and no node is finished in its
    course. -/
structure Asks (x : Course α) (p : Powers) (run : Run α) : Prop where
  quiet : x.quiet = run
  loud : x.loud = run
  within : Run.Within p run
  still : ∀ j n result, .finished n result ∉ x.events j

namespace Asks

variable {p : Powers}

theorem pure (a : α) : (Pure.pure a : Course α).Asks p (Pure.pure a) :=
  ⟨rfl, rfl, .pure a, fun _ _ _ => List.not_mem_nil⟩

theorem ofExcept (source : Source) {r : Except Fault α} (h : Run.Unraised r) :
    (Course.ofExcept source r).Asks p (Run.ofExcept r) :=
  ⟨rfl, rfl, .ofExcept h, fun j n result h => by cases r <;> simp [Course.ofExcept, faultOf?] at h⟩

theorem unresolved (key : String) :
    (Course.unresolved key : Course α).Asks p
      (throw (.ofContract Role.function.label key (.plain .null))) :=
  ⟨rfl, rfl, .throw (unraised_ofContract _ _ _), fun j n result h => by
    simp [Course.unresolved] at h⟩

/-- A callable is asked and its reply is read, for which no power is needed. -/
theorem consult (call : Call) (role : Role) (name : String) (answer : Except String Reply)
    (read : Reply → Except Fault α) (h : role.IsReading name read) :
    (Course.consult call role name answer read h).Asks p (consulted call answer read) where
  quiet := rfl
  loud := rfl
  within := (Run.Within.call call).bind fun _ => (Run.Within.reply answer).bind fun r =>
    .ofExcept (h.unraised r)
  still j n result h := by cases answer <;> simp [Course.consult] at h

theorem generate {g : Generator} (hg : p.generators g) (argument : Option Value) :
    (Course.generate g argument).Asks p (Run.generate g argument) :=
  ⟨rfl, rfl, .generate argument hg, fun j n result h => by simp [Course.generate] at h⟩

theorem log {event : String} (h : event ∈ nodeEvents → p.marks) (details : List (String × Value)) :
    (Course.log event details).Asks p (Run.log event details) :=
  ⟨rfl, rfl, .log details h, fun _ _ _ => List.not_mem_nil⟩

theorem bind {x : Course α} {next : α → Course β} {run : Run α} {f : α → Run β}
    (hx : x.Asks p run) (hnext : ∀ a, (next a).Asks p (f a)) :
    (x >>= next).Asks p (run >>= f) where
  quiet := by
    rw [← hx.quiet, ← funext fun a => (hnext a).quiet]
    rfl
  loud := by
    rw [← hx.loud, ← funext fun a => (hnext a).loud]
    rfl
  within := hx.within.bind fun a => (hnext a).within
  still j n result h := by
    obtain h | ⟨a, k, h⟩ := mem_events_bind h
    · exact hx.still j n result h
    · exact (hnext a).still k n result h

theorem forEach {x : α → Course β} {run : α → Run β} (h : ∀ a, (x a).Asks p (run a))
    (as : List α) : (forEach x as).Asks p (as.mapM run) := by
  induction as with
  | nil => exact .pure []
  | cons a as ih =>
    rw [List.mapM_cons]
    exact (h a).bind fun b => ih.bind fun bs => .pure (b :: bs)

/-- What asks with plain powers is local. -/
theorem isLocal {x : Course α} {run : Run α} (h : x.Asks .plain run) : Run.Local run :=
  h.within.isLocal id

/-- What asks no generators but pure ones is steady. -/
theorem steady {x : Course α} {run : Run α} (h : x.Asks .steady run) : Run.Steady run :=
  h.within.steady

end Asks

/-- The two runs of the course are these. -/
structure Covers (x : Course α) (quiet loud : Run α) : Prop where
  quiet : x.quiet = quiet
  loud : x.loud = loud

theorem Asks.covers {x : Course α} {run : Run α} (h : x.Asks .all run) : x.Covers run run :=
  ⟨h.quiet, h.loud⟩

namespace Covers

theorem pure (a : α) : (Pure.pure a : Course α).Covers (Pure.pure a) (Pure.pure a) :=
  ⟨rfl, rfl⟩

theorem bind {x : Course α} {next : α → Course β} {quiet loud : Run α} {f g : α → Run β}
    (hx : x.Covers quiet loud) (hnext : ∀ a, (next a).Covers (f a) (g a)) :
    (x >>= next).Covers (quiet >>= f) (loud >>= g) where
  quiet := by
    rw [← hx.quiet, ← funext fun a => (hnext a).quiet]
    rfl
  loud := by
    rw [← hx.loud, ← funext fun a => (hnext a).loud]
    rfl

theorem forEach {x : α → Course β} {quiet loud : α → Run β}
    (h : ∀ a, (x a).Covers (quiet a) (loud a)) (as : List α) :
    (forEach x as).Covers (as.mapM quiet) (as.mapM loud) := by
  induction as with
  | nil => exact .pure []
  | cons a as ih =>
    rw [List.mapM_cons, List.mapM_cons]
    exact (h a).bind fun b => ih.bind fun bs => .pure (b :: bs)

/-- The events account for the quiet run. -/
theorem accounts {x : Course α} {quiet loud : Run α} (h : x.Covers quiet loud) (j : Journal) :
    Accounts (x.events j) j (quiet.start j) := by
  rw [← h.quiet]
  exact x.accounts j

/-- The loud run heeds the events. -/
theorem heeds {x : Course α} {quiet loud : Run α} (h : x.Covers quiet loud) (j : Journal) :
    Heeds (x.events j) (quiet.start j) (loud.start j) := by
  rw [← h.quiet, ← h.loud]
  exact x.heeds j

/-- The calls of a loud run that answers are those of the events. -/
theorem calls {x : Course α} {quiet loud : Run α} (h : x.Covers quiet loud) {j k : Journal} {a : α}
    (hrun : loud.start j = (.ok a, k)) : k.calls = j.calls ++ (x.events j).filterMap Event.call? := by
  have hheeds := h.heeds j
  rw [Heeds, hrun] at hheeds
  cases hraising : firstRaising? (x.events j) with
  | some np =>
    rw [hraising] at hheeds
    cases hheeds
  | none =>
    -- Nothing was raised, so that the run is the quiet one.
    rw [hraising] at hheeds
    have hcalls := (h.accounts j).calls
    rwa [← hheeds] at hcalls

end Covers

end Course

end Intake
