/-
# Programs that interfere through a shared state

A program is a sequence of single accesses to a shared state; between two of them
other programs may change it. What the others do is a preorder on the states, the
rely, and what the program itself does with one access is its guarantee. A program
is safe when each of its accesses keeps the guarantee and its result satisfies a
postcondition, whatever happens in between that the rely allows.

Two threads call such programs one after the other, and the last section puts the
two together: when each guarantees what the other relies on, the invariants that
they leave behind hold at every point of every interleaving.
-/

import Deskkin.Lib.Runs
import Mathlib.Tactic.Common

/-- A program over a shared state. An access reads the state and changes it at
once, and the rest of the program depends on what was read. -/
inductive Program (σ α : Type)
  | done (result : α)
  | access (update : σ → σ) (next : σ → Program σ α)

namespace Program

variable {σ τ α β : Type}

protected def bind : Program σ α → (α → Program σ β) → Program σ β
  | done a, rest => rest a
  | access update next, rest => access update fun s => (next s).bind rest

instance : Monad (Program σ) where
  pure := done
  bind := Program.bind

def load (get : σ → α) : Program σ α := access id fun s => done (get s)

def store (update : σ → σ) : Program σ Unit := access update fun _ => done ()

/-- What a program comes to that nothing interferes with. -/
def alone : Program σ α → σ → α × σ
  | done a, s => (a, s)
  | access update next, s => (next s).alone (update s)

/-- A program on one part of the state. -/
def zoom (get : τ → σ) (put : σ → τ → τ) : Program σ α → Program τ α
  | done a => done a
  | access update next =>
      access (fun t => put (update (get t)) t) fun t => (next (get t)).zoom get put

/-- Whatever the others do, each access keeps the guarantee and the result
satisfies the postcondition, then and later. -/
def Safe (rely guar : σ → σ → Prop) (post : α → σ → Prop) : Program σ α → σ → Prop
  | done a, s => ∀ t, rely s t → post a t
  | access update next, s =>
      ∀ t, rely s t → guar t (update t) ∧ (next t).Safe rely guar post (update t)

@[simp]
theorem pure_eq_done (a : α) : (pure a : Program σ α) = done a :=
  rfl

@[simp]
theorem done_bind (a : α) (rest : α → Program σ β) : (done a >>= rest) = rest a :=
  rfl

@[simp]
theorem alone_load_bind (get : σ → α) (rest : α → Program σ β) (s : σ) :
    (load get >>= rest).alone s = (rest (get s)).alone s :=
  rfl

@[simp]
theorem alone_store_bind (update : σ → σ) (rest : Unit → Program σ β) (s : σ) :
    (store update >>= rest).alone s = (rest ()).alone (update s) :=
  rfl

theorem alone_bind (program : Program σ α) (rest : α → Program σ β) (s : σ) :
    (program >>= rest).alone s =
      (rest (program.alone s).1).alone (program.alone s).2 := by
  induction program generalizing s with
  | done a => rfl
  | access update next ih => exact ih s (update s)

namespace Safe

variable {rely guar : σ → σ → Prop} {post : α → σ → Prop} {s : σ}

variable {program : Program σ α} {rest : α → Program σ β}

/-- Safety survives what the others do. -/
theorem interfere (transitive : ∀ a b c, rely a b → rely b c → rely a c)
    (safe : program.Safe rely guar post s) {t : σ} (changed : rely s t) :
    program.Safe rely guar post t := by
  cases program with
  | done a => exact fun u later => safe u (transitive s t u changed later)
  | access update next => exact fun u later => safe u (transitive s t u changed later)

theorem done {a : α} (holds : ∀ t, rely s t → post a t) : (done a).Safe rely guar post s :=
  holds

theorem load {get : σ → α} {post : β → σ → Prop}
    (safe : ∀ t, rely s t → guar t t ∧ (rest (get t)).Safe rely guar post t) :
    (load get >>= rest).Safe rely guar post s :=
  safe

theorem store {update : σ → σ} {rest : Unit → Program σ β} {post : β → σ → Prop}
    (safe : ∀ t, rely s t →
      guar t (update t) ∧ (rest ()).Safe rely guar post (update t)) :
    (store update >>= rest).Safe rely guar post s :=
  safe

theorem bind (reflexive : ∀ a, rely a a) {middle : α → σ → Prop} {post : β → σ → Prop}
    (first : program.Safe rely guar middle s)
    (second : ∀ a t, middle a t → (rest a).Safe rely guar post t) :
    (program >>= rest).Safe rely guar post s := by
  induction program generalizing s with
  | done a => exact second a s (first s (reflexive s))
  | access update next ih =>
      intro t changed
      obtain ⟨kept, onward⟩ := first t changed
      exact ⟨kept, ih t onward⟩

theorem mono {looser : α → σ → Prop} (safe : program.Safe rely guar post s)
    (implies : ∀ a t, post a t → looser a t) : program.Safe rely guar looser s := by
  induction program generalizing s with
  | done a => exact fun t changed => implies a t (safe t changed)
  | access update next ih => exact fun t changed => ⟨(safe t changed).1, ih t (safe t changed).2⟩

/-- A program on one part is safe when what the others do to the whole is, on the
part, what the program relies on. The frame is what is known of the rest. -/
theorem zoom {get : τ → σ} {put : σ → τ → τ} {whole guarWhole : τ → τ → Prop} {frame : τ → Prop}
    {postWhole : α → τ → Prop} (part : ∀ a b, whole a b → rely (get a) (get b))
    (focus : ∀ a b, get (put a b) = a) (steady : ∀ a b, frame a → whole a b → frame b)
    (guarded : ∀ t a, frame t → guar (get t) a → guarWhole t (put a t) ∧ frame (put a t))
    (result : ∀ a t, frame t → post a (get t) → postWhole a t) {t : τ} (framed : frame t)
    (safe : program.Safe rely guar post (get t)) :
    (program.zoom get put).Safe whole guarWhole postWhole t := by
  induction program generalizing t with
  | done a =>
    exact fun u changed => result a u (steady t u framed changed) (safe _ (part t u changed))
  | access update next ih =>
      intro u changed
      obtain ⟨kept, onward⟩ := safe (get u) (part t u changed)
      obtain ⟨keptWhole, framedThen⟩ := guarded u _ (steady t u framed changed) kept
      exact ⟨keptWhole, ih (get u) framedThen (by rwa [focus])⟩

end Safe

end Program

/-! ## Threads -/

/-- A thread with what it keeps from call to call, and the rest of the call that
is under way. A call ends with its last access. -/
structure Thread (σ π : Type) where
  kept : π
  running : Option (Program σ π)

namespace Thread

variable {σ π : Type}

/-- What is left of a call. -/
def settle (kept : π) : Program σ π → Thread σ π
  | .done result => ⟨result, none⟩
  | .access update next => ⟨kept, some (.access update next)⟩

def call (thread : Thread σ π) (program : π → Program σ π) : Option (Thread σ π) :=
  match thread.running with
  | none => some (settle thread.kept (program thread.kept))
  | some _ => none

/-- The next access of the call that is under way. -/
def advance (thread : Thread σ π) (s : σ) : Option (σ × Thread σ π) :=
  match thread.running with
  | some (.access update next) => some (update s, settle thread.kept (next s))
  | _ => none

/-- Between calls the thread is at rest, and a call under way is safe, leaves what
always holds alone and ends at rest. -/
def Fine (rely guar : σ → σ → Prop) (always atRest : π → σ → Prop) (thread : Thread σ π) (s : σ) :
    Prop :=
  match thread.running with
  | none => ∀ t, rely s t → atRest thread.kept t
  | some (.done _) => False
  | some (.access update next) =>
      (Program.access update next).Safe rely (fun a b => always thread.kept a ∧ guar a b) atRest s

variable {rely guar : σ → σ → Prop} {always atRest : π → σ → Prop} {thread : Thread σ π} {s : σ}

theorem fine_settle {kept : π} {program : Program σ π}
    (safe : program.Safe rely (fun a b => always kept a ∧ guar a b) atRest s) :
    (settle kept program).Fine rely guar always atRest s := by
  cases program with
  | done a => exact safe
  | access update next => exact safe

theorem Fine.holds (reflexive : ∀ a, rely a a) (calm : ∀ k a, atRest k a → always k a)
    (fine : thread.Fine rely guar always atRest s) : always thread.kept s := by
  obtain ⟨kept, running⟩ := thread
  match running with
  | none => exact calm kept s (fine s (reflexive s))
  | some (.access update next) => exact (fine s (reflexive s)).1.1

theorem Fine.interfere (transitive : ∀ a b c, rely a b → rely b c → rely a c)
    (fine : thread.Fine rely guar always atRest s) {t : σ} (changed : rely s t) :
    thread.Fine rely guar always atRest t := by
  obtain ⟨kept, running⟩ := thread
  match running with
  | none => exact fun u later => fine u (transitive s t u changed later)
  | some (.access update next) =>
      have safe : (Program.access update next).Safe rely
          (fun a b => always kept a ∧ guar a b) atRest s := fine
      exact safe.interfere transitive changed

theorem Fine.advance (reflexive : ∀ a, rely a a) (fine : thread.Fine rely guar always atRest s)
    {t : σ} {after : Thread σ π} (moved : thread.advance s = some (t, after)) :
    guar s t ∧ after.Fine rely guar always atRest t := by
  obtain ⟨kept, running⟩ := thread
  match running with
  | none => cases moved
  | some (.access update next) =>
      cases moved
      obtain ⟨⟨-, kept⟩, onward⟩ := fine s (reflexive s)
      exact ⟨kept, fine_settle onward⟩

theorem Fine.call (fine : thread.Fine rely guar always atRest s) {program : π → Program σ π}
    {after : Thread σ π} (moved : thread.call program = some after)
    (safe : (∀ t, rely s t → atRest thread.kept t) → (program thread.kept).Safe rely
      (fun a b => always thread.kept a ∧ guar a b) atRest s) :
    after.Fine rely guar always atRest s := by
  obtain ⟨kept, running⟩ := thread
  match running with
  | none =>
      cases moved
      exact fine_settle (safe fine)
  | some (.access update next) => cases moved

end Thread

/-! ## Two threads over one state -/

/-- Two threads: what each may call, with which input and in which state. -/
structure Duo (σ π ρ ι κ : Type) where
  initial : σ
  firstKept : π
  secondKept : ρ
  mayCall : ι → σ → Bool
  mayRead : κ → Bool
  first : ι → π → Program σ π
  second : κ → ρ → Program σ ρ

namespace Duo

variable {σ π ρ ι κ : Type}

structure State (σ π ρ : Type) where
  shared : σ
  one : Thread σ π
  two : Thread σ ρ

inductive Move (ι κ : Type)
  | callFirst (input : ι)
  | advanceFirst
  | callSecond (input : κ)
  | advanceSecond

def step (duo : Duo σ π ρ ι κ) (s : State σ π ρ) : Move ι κ → Option (State σ π ρ)
  | .callFirst input =>
      if duo.mayCall input s.shared then
        (s.one.call (duo.first input)).map fun one => { s with one := one }
      else none
  | .advanceFirst =>
      (s.one.advance s.shared).map fun moved => { s with shared := moved.1, one := moved.2 }
  | .callSecond input =>
      if duo.mayRead input then
        (s.two.call (duo.second input)).map fun two => { s with two := two }
      else none
  | .advanceSecond =>
      (s.two.advance s.shared).map fun moved => { s with shared := moved.1, two := moved.2 }

def start (duo : Duo σ π ρ ι κ) : State σ π ρ :=
  ⟨duo.initial, ⟨duo.firstKept, none⟩, ⟨duo.secondKept, none⟩⟩

def system (duo : Duo σ π ρ ι κ) : StepSystem (State σ π ρ) (Move ι κ) where
  Initial s := s = duo.start
  step := duo.step

/-- What a thread is promised and what it promises. -/
structure Contract (σ π : Type) where
  rely : σ → σ → Prop
  guar : σ → σ → Prop
  always : π → σ → Prop
  atRest : π → σ → Prop
  reflexive : ∀ a, rely a a
  transitive : ∀ a b c, rely a b → rely b c → rely a c
  calm : ∀ k a, atRest k a → always k a

/-- A program that a thread calls at rest keeps its contract. -/
def Contract.Kept {σ π : Type} (contract : Contract σ π) (program : π → Program σ π) (kept : π)
    (s : σ) : Prop :=
  (∀ t, contract.rely s t → contract.atRest kept t) →
    (program kept).Safe contract.rely (fun a b => contract.always kept a ∧ contract.guar a b)
      contract.atRest s

/-- **Parallel rule.** When two threads keep their contracts and each guarantees
what the other relies on, the invariants of both hold at every point of every
interleaving. -/
theorem holds_of_contracts {duo : Duo σ π ρ ι κ} (one : Contract σ π) (two : Contract σ ρ)
    (helpsTwo : ∀ a b, one.guar a b → two.rely a b) (helpsOne : ∀ a b, two.guar a b → one.rely a b)
    (startsOne : ∀ t, one.rely duo.initial t → one.atRest duo.firstKept t)
    (startsTwo : ∀ t, two.rely duo.initial t → two.atRest duo.secondKept t)
    (keepsOne : ∀ input kept s, duo.mayCall input s → one.Kept (duo.first input) kept s)
    (keepsTwo : ∀ input kept s, duo.mayRead input → two.Kept (duo.second input) kept s)
    {s : State σ π ρ} (reachable : duo.system.Reachable s) :
    one.always s.one.kept s.shared ∧ two.always s.two.kept s.shared := by
  have fine : s.one.Fine one.rely one.guar one.always one.atRest s.shared ∧
      s.two.Fine two.rely two.guar two.always two.atRest s.shared := by
    apply reachable.invariant
    · rintro _ rfl
      exact ⟨startsOne, startsTwo⟩
    · rintro s move t ⟨fineOne, fineTwo⟩ moved
      cases move with
      | callFirst input =>
          simp only [system, step, Option.ite_none_right_eq_some, Option.map_eq_some_iff] at moved
          obtain ⟨allowed, after, called, rfl⟩ := moved
          exact ⟨fineOne.call called (keepsOne input _ _ allowed), fineTwo⟩
      | advanceFirst =>
          obtain ⟨⟨t, after⟩, advanced, rfl⟩ := Option.map_eq_some_iff.mp moved
          obtain ⟨kept, still⟩ := fineOne.advance one.reflexive advanced
          exact ⟨still, fineTwo.interfere two.transitive (helpsTwo _ _ kept)⟩
      | callSecond input =>
          simp only [system, step, Option.ite_none_right_eq_some, Option.map_eq_some_iff] at moved
          obtain ⟨allowed, after, called, rfl⟩ := moved
          exact ⟨fineOne, fineTwo.call called (keepsTwo input _ _ allowed)⟩
      | advanceSecond =>
          obtain ⟨⟨t, after⟩, advanced, rfl⟩ := Option.map_eq_some_iff.mp moved
          obtain ⟨kept, still⟩ := fineTwo.advance two.reflexive advanced
          exact ⟨fineOne.interfere one.transitive (helpsOne _ _ kept), still⟩
  exact ⟨fine.1.holds one.reflexive one.calm, fine.2.holds two.reflexive two.calm⟩

end Duo
