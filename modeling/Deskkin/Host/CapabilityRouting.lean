/-
# Requests of the host and their completions

No number is given out twice, and what is outstanding is the last request that was
routed. A completion that is kept over a restart is refused therefore: whatever is
outstanding by then has a greater number.

A run is told by its events, which are read off what its calls return: a request was
routed, a completion was accepted, the connector was stopped.
-/

import Deskkin.Host.Capabilities
import Deskkin.Lib.Runs

namespace Deskkin.Host

inductive CapabilityCall
  | lifecycle (lifecycle : Lifecycle)
  | route (request : CapabilityRequest)
  | complete (completion : ConnectorCompletion)
  | invoke (request : CapabilityRequest)
  deriving DecidableEq

inductive CapabilityAnswer
  | lifecycle (result : Except HostCapabilityError Unit)
  | route (result : Except HostCapabilityError RoutedRequest)
  | complete (result : Except HostCapabilityError CapabilityResult)
  | invoke (result : Except HostCapabilityError Invocation)

def CapabilityAnswer.failed : CapabilityAnswer → Bool
  | lifecycle (.error _) | route (.error _) | complete (.error _) | invoke (.error _) => true
  | _ => false

inductive RoutingEvent
  | routed (id : CapabilityEffectId)
  | accepted (id : CapabilityEffectId)
  | stopped
  deriving DecidableEq

/-- What a call did, by what it returned. -/
def CapabilityCall.events : CapabilityCall → CapabilityAnswer → List RoutingEvent
  | .lifecycle .stop, .lifecycle (.ok ()) => [.stopped]
  | .route _, .route (.ok routed) => [.routed routed.id]
  | .complete completion, .complete (.ok _) => [.accepted completion.id]
  | .invoke _, .invoke (.ok invocation) =>
      [.routed invocation.routed.id, .accepted invocation.routed.id]
  | _, _ => []

def RoutingEvent.routedId : RoutingEvent → Option ℕ
  | routed id => some id.localId
  | _ => none

/-- The request was routed, and since then neither was its completion accepted nor the
connector stopped. -/
def Outstanding (events : List RoutingEvent) (id : CapabilityEffectId) : Prop :=
  ∃ before after, events = before ++ .routed id :: after ∧
    RoutingEvent.accepted id ∉ after ∧ RoutingEvent.stopped ∉ after

namespace HostCapabilities

def call (capabilities : HostCapabilities) : CapabilityCall → CapabilityAnswer × HostCapabilities
  | .lifecycle lifecycle => (capabilities.lifecycle lifecycle).map CapabilityAnswer.lifecycle id
  | .route request => (capabilities.route request).map CapabilityAnswer.route id
  | .complete completion => (capabilities.complete completion).map CapabilityAnswer.complete id
  | .invoke request => (capabilities.invoke request).map CapabilityAnswer.invoke id

/-- Any sequence of calls on new capabilities. -/
def machine : StepSystem HostCapabilities CapabilityCall where
  Initial capabilities := ∃ availability, capabilities = new availability
  step capabilities call := some (capabilities.call call).2

def events (past : List (HostCapabilities × CapabilityCall)) : List RoutingEvent :=
  past.flatMap fun entry => entry.2.events (entry.1.call entry.2).1

/-! ## Calls -/

variable {capabilities after : HostCapabilities}

/-- A request is routed by ready capabilities under the next number. -/
theorem route_cases (capabilities : HostCapabilities) (request : CapabilityRequest) :
    (∃ error, capabilities.route request = (.error error, capabilities)) ∨
      ∃ routed : RoutedRequest, capabilities.state = .ready ∧
        routed.id.localId = capabilities.nextEffectId + 1 ∧
        capabilities.route request = (.ok routed, { capabilities with
          nextEffectId := routed.id.localId, state := .waiting routed.id }) := by
  unfold route
  split
  · exact .inl ⟨_, rfl⟩
  · exact .inl ⟨_, rfl⟩
  · rename_i ready
    split
    · exact .inl ⟨_, rfl⟩
    · rename_i next added
      obtain ⟨rfl, -⟩ := Checked.add_eq_some_iff.mp added
      exact .inr ⟨_, ready, rfl, rfl⟩

/-- A completion is accepted under the identity that is waited for. -/
theorem complete_cases (capabilities : HostCapabilities) (completion : ConnectorCompletion) :
    (capabilities.state ≠ .waiting completion.id ∧
        ∃ error, capabilities.complete completion = (.error error, capabilities)) ∨
      capabilities.state = .waiting completion.id ∧
        ∃ result, capabilities.complete completion =
          (.ok result, { capabilities with state := .ready }) := by
  unfold complete
  split
  · rename_i id waiting
    split
    · rename_i differs
      refine .inl ⟨fun same => differs ?_, _, rfl⟩
      rw [waiting] at same
      exact (RuntimeState.waiting.inj same).symm
    · rename_i same
      rw [not_not] at same
      rw [same]
      exact .inr ⟨waiting, _, rfl⟩
  · rename_i idle
    exact .inl ⟨idle _, _, rfl⟩

theorem lifecycle_cases (capabilities : HostCapabilities) (lifecycle : Lifecycle) :
    (∃ error, capabilities.lifecycle lifecycle = (.error error, capabilities)) ∨
      (lifecycle = .start ∧ capabilities.state = .stopped ∧
        capabilities.lifecycle lifecycle = (.ok (), { capabilities with state := .ready })) ∨
      (lifecycle = .stop ∧
        capabilities.lifecycle lifecycle = (.ok (), { capabilities with state := .stopped })) := by
  cases lifecycle with
  | start =>
      cases state : capabilities.state with
      | stopped => exact .inr (.inl ⟨rfl, rfl, by simp [HostCapabilities.lifecycle, state]⟩)
      | ready => exact .inl ⟨.alreadyStarted, by simp [HostCapabilities.lifecycle, state]⟩
      | waiting id => exact .inl ⟨.alreadyStarted, by simp [HostCapabilities.lifecycle, state]⟩
  | stop =>
      cases state : capabilities.state with
      | stopped => exact .inl ⟨.notStarted, by simp [HostCapabilities.lifecycle, state]⟩
      | ready => exact .inr (.inr ⟨rfl, by simp [HostCapabilities.lifecycle, state]⟩)
      | waiting id => exact .inr (.inr ⟨rfl, by simp [HostCapabilities.lifecycle, state]⟩)

/-- The connector answers under the identity that was routed to it, so a call that routes
is not refused afterwards. -/
theorem invoke_cases (capabilities : HostCapabilities) (request : CapabilityRequest) :
    (∃ error, capabilities.invoke request = (.error error, capabilities)) ∨
      ∃ routed : RoutedRequest, ∃ result, capabilities.state = .ready ∧
        routed.id.localId = capabilities.nextEffectId + 1 ∧
        capabilities.invoke request = (.ok ⟨routed, result⟩, { capabilities with
          nextEffectId := routed.id.localId, state := .ready }) := by
  rcases capabilities.route_cases request with ⟨error, refused⟩ | ⟨routed, ready, number, moved⟩
  · exact .inl ⟨error, by rw [invoke, refused]⟩
  · let waiting : HostCapabilities := { capabilities with
      nextEffectId := routed.id.localId, state := .waiting routed.id }
    rcases waiting.complete_cases (waiting.execute routed) with ⟨differs, -⟩ | ⟨-, result, accepted⟩
    · exact absurd rfl differs
    · exact .inr ⟨routed, result, ready, number, by simp only [invoke, moved, waiting, accepted]⟩

/-- A call that returns an error leaves the state as it is. -/
theorem call_of_failed {call : CapabilityCall}
    (failed : (capabilities.call call).1.failed = true) :
    (capabilities.call call).2 = capabilities := by
  cases call with
  | lifecycle lifecycle =>
      rcases capabilities.lifecycle_cases lifecycle with ⟨error, same⟩ | ⟨-, -, moved⟩ | ⟨-, moved⟩
      · simp [call, same]
      · simp [call, moved, CapabilityAnswer.failed] at failed
      · simp [call, moved, CapabilityAnswer.failed] at failed
  | route request =>
      rcases capabilities.route_cases request with ⟨error, same⟩ | ⟨routed, -, -, moved⟩
      · simp [call, same]
      · simp [call, moved, CapabilityAnswer.failed] at failed
  | complete completion =>
      rcases capabilities.complete_cases completion with ⟨-, error, same⟩ | ⟨-, result, moved⟩
      · simp [call, same]
      · simp [call, moved, CapabilityAnswer.failed] at failed
  | invoke request =>
      rcases capabilities.invoke_cases request with ⟨error, same⟩ | ⟨routed, result, -, -, moved⟩
      · simp [call, same]
      · simp [call, moved, CapabilityAnswer.failed] at failed

/-! ## What is outstanding -/

variable {past : List RoutingEvent} {id : CapabilityEffectId}

theorem not_outstanding_nil : ¬Outstanding [] id := by
  rintro ⟨before, after, split, -⟩
  cases (List.append_eq_nil_iff.mp split.symm).2

theorem outstanding_concat {event : RoutingEvent} :
    Outstanding (past ++ [event]) id ↔ event = .routed id ∨
      Outstanding past id ∧ event ≠ .accepted id ∧ event ≠ .stopped := by
  constructor
  · rintro ⟨before, after, split, unaccepted, running⟩
    rcases List.eq_nil_or_concat after with rfl | ⟨rest, last, rfl⟩
    · exact .inl (List.cons.inj (List.append_inj' split rfl).2).1
    · rw [List.concat_eq_append, ← List.cons_append, ← List.append_assoc] at split
      obtain ⟨rfl, same⟩ := List.append_inj' split rfl
      cases same
      simp only [List.concat_eq_append, List.mem_append, List.mem_singleton, not_or]
        at unaccepted running
      exact .inr ⟨⟨before, rest, rfl, unaccepted.1, running.1⟩, Ne.symm unaccepted.2,
        Ne.symm running.2⟩
  · rintro (rfl | ⟨⟨before, after, rfl, unaccepted, running⟩, differs, runs⟩)
    · exact ⟨past, [], rfl, List.not_mem_nil, List.not_mem_nil⟩
    · refine ⟨before, after ++ [event], by simp, ?_, ?_⟩
      · simpa [unaccepted] using Ne.symm differs
      · simpa [running] using Ne.symm runs

/-- The numbers of the events so far are those up to the last one that was given out, and
what is waited for is what is outstanding. -/
structure Tracks (past : List RoutingEvent) (capabilities : HostCapabilities) : Prop where
  increasing : (past.filterMap RoutingEvent.routedId).Pairwise (· < ·)
  bounded : ∀ number ∈ past.filterMap RoutingEvent.routedId, number ≤ capabilities.nextEffectId
  outstanding : ∀ id, Outstanding past id ↔ capabilities.state = .waiting id
  waited : ∀ id, capabilities.state = .waiting id → id.localId ≤ capabilities.nextEffectId
  accepted : ∀ id, RoutingEvent.accepted id ∈ past →
    id.localId ≤ capabilities.nextEffectId ∧ capabilities.state ≠ .waiting id
  stale : ∀ before after id, past = before ++ .stopped :: after →
    RoutingEvent.routed id ∈ before → capabilities.state ≠ .waiting id

theorem tracks_new (availability : DeterministicAvailability) : Tracks [] (new availability) where
  increasing := .nil
  bounded := nofun
  outstanding _ := ⟨fun outstanding => absurd outstanding not_outstanding_nil, nofun⟩
  waited := nofun
  accepted := nofun
  stale _ _ _ _ _ := nofun

section

variable (tracks : Tracks past capabilities)
include tracks

theorem Tracks.routed_le (routed : RoutingEvent.routed id ∈ past) :
    id.localId ≤ capabilities.nextEffectId :=
  tracks.bounded _ (List.mem_filterMap.mpr ⟨_, routed, rfl⟩)

theorem Tracks.route (ready : capabilities.state = .ready)
    (number : id.localId = capabilities.nextEffectId + 1) :
    Tracks (past ++ [.routed id])
      { capabilities with nextEffectId := id.localId, state := .waiting id } := by
  have numbers : (past ++ [RoutingEvent.routed id]).filterMap RoutingEvent.routedId =
      past.filterMap RoutingEvent.routedId ++ [id.localId] := List.filterMap_append
  constructor
  · rw [numbers, List.pairwise_append]
    refine ⟨tracks.increasing, List.pairwise_singleton _ _, fun early member late last => ?_⟩
    have bound := tracks.bounded early member
    rw [List.mem_singleton] at last
    omega
  · intro early member
    rw [numbers, List.mem_append, List.mem_singleton] at member
    rcases member with member | rfl
    · have bound := tracks.bounded early member
      simp only
      omega
    · exact Nat.le_refl _
  · intro other
    rw [outstanding_concat, RoutingEvent.routed.injEq, RuntimeState.waiting.injEq,
      tracks.outstanding, ready]
    simp
  · rintro other ⟨⟩
    exact Nat.le_refl _
  · intro other member
    rw [List.mem_append, List.mem_singleton] at member
    have bound := (tracks.accepted other (member.resolve_right nofun)).1
    refine ⟨by simp only; omega, ?_⟩
    rintro ⟨⟩
    omega
  · rintro before after other split routed ⟨⟩
    have within : before <+: past ++ [.routed id] := ⟨_, split.symm⟩
    rcases List.prefix_concat_iff.mp within with rfl | earlier
    · have longer := congrArg List.length split
      simp at longer
    · have bound := tracks.routed_le (earlier.subset routed)
      omega

/-- Afterwards nothing is waited for. -/
theorem Tracks.settle {event : RoutingEvent} {state : RuntimeState}
    (unrouted : event.routedId = none) (idle : ∀ id, state ≠ .waiting id)
    (ends : ∀ id, capabilities.state = .waiting id → event = .accepted id ∨ event = .stopped)
    (known : ∀ id, event = .accepted id → capabilities.state = .waiting id) :
    Tracks (past ++ [event]) { capabilities with state := state } := by
  have numbers : (past ++ [event]).filterMap RoutingEvent.routedId =
      past.filterMap RoutingEvent.routedId := List.filterMap_concat_of_none unrouted _
  constructor
  · rw [numbers]
    exact tracks.increasing
  · rw [numbers]
    exact tracks.bounded
  · intro other
    refine ⟨fun outstanding => ?_, fun waiting => absurd waiting (idle other)⟩
    rcases outstanding_concat.mp outstanding with rfl | ⟨before, unaccepted, running⟩
    · cases unrouted
    · exact ((ends other ((tracks.outstanding other).mp before)).elim unaccepted running).elim
  · exact fun other waiting => absurd waiting (idle other)
  · intro other member
    refine ⟨?_, idle other⟩
    rcases List.mem_append.mp member with member | member
    · exact (tracks.accepted other member).1
    · exact tracks.waited other (known other (List.mem_singleton.mp member).symm)
  · exact fun _ _ other _ _ => idle other

theorem Tracks.accept (waiting : capabilities.state = .waiting id) :
    Tracks (past ++ [.accepted id]) { capabilities with state := .ready } := by
  refine tracks.settle rfl nofun (fun other waits => .inl ?_) fun other same => ?_
  · rw [waiting] at waits
    cases waits
    rfl
  · cases same
    exact waiting

theorem Tracks.stop : Tracks (past ++ [.stopped]) { capabilities with state := .stopped } :=
  tracks.settle rfl nofun (fun _ _ => .inr rfl) nofun

theorem Tracks.start (stopped : capabilities.state = .stopped) :
    Tracks past { capabilities with state := .ready } where
  increasing := tracks.increasing
  bounded := tracks.bounded
  outstanding id := by rw [tracks.outstanding, stopped]; simp
  waited := nofun
  accepted id member := ⟨(tracks.accepted id member).1, nofun⟩
  stale _ _ _ _ _ := nofun

/-- **One call.** -/
theorem Tracks.call (call : CapabilityCall) :
    Tracks (past ++ call.events (capabilities.call call).1) (capabilities.call call).2 := by
  cases call with
  | lifecycle lifecycle =>
      rcases capabilities.lifecycle_cases lifecycle with
        ⟨error, same⟩ | ⟨rfl, stopped, moved⟩ | ⟨rfl, moved⟩
      · cases lifecycle <;> simpa [HostCapabilities.call, same, CapabilityCall.events] using tracks
      · simpa [HostCapabilities.call, moved, CapabilityCall.events] using tracks.start stopped
      · simpa [HostCapabilities.call, moved, CapabilityCall.events] using tracks.stop
  | route request =>
      rcases capabilities.route_cases request with ⟨error, same⟩ | ⟨routed, ready, number, moved⟩
      · simpa [HostCapabilities.call, same, CapabilityCall.events] using tracks
      · simpa [HostCapabilities.call, moved, CapabilityCall.events] using
          tracks.route ready number
  | complete completion =>
      rcases capabilities.complete_cases completion with
        ⟨-, error, same⟩ | ⟨waiting, result, moved⟩
      · simpa [HostCapabilities.call, same, CapabilityCall.events] using tracks
      · simpa [HostCapabilities.call, moved, CapabilityCall.events] using tracks.accept waiting
  | invoke request =>
      rcases capabilities.invoke_cases request with
        ⟨error, same⟩ | ⟨routed, result, ready, number, moved⟩
      · simpa [HostCapabilities.call, same, CapabilityCall.events] using tracks
      · simpa [HostCapabilities.call, moved, CapabilityCall.events] using
          (tracks.route ready number).accept rfl

end

theorem tracks_of_run {past : List (HostCapabilities × CapabilityCall)}
    (run : machine.Run past capabilities) : Tracks (events past) capabilities := by
  induction run with
  | start initial =>
      obtain ⟨availability, rfl⟩ := initial
      exact tracks_new availability
  | @step past before after call earlier moved ih =>
      cases moved
      have extended := ih.call call
      simpa [events] using extended

/-- **Requests and completions.** After any calls on new capabilities the numbers of the
requests increase, at most one request is outstanding, a completion is accepted exactly
when it carries the identity of that request, and so neither a second time nor after a
stop; and a call that returns an error changes nothing. -/
theorem capability_routing {past : List (HostCapabilities × CapabilityCall)}
    (run : machine.Run past capabilities) :
    ((events past).filterMap RoutingEvent.routedId).Pairwise (· < ·) ∧
      (∀ one other, Outstanding (events past) one → Outstanding (events past) other →
        one = other) ∧
      (∀ completion, (∃ result, (capabilities.complete completion).1 = .ok result) ↔
        Outstanding (events past) completion.id) ∧
      (∀ completion result, RoutingEvent.accepted completion.id ∈ events past →
        (capabilities.complete completion).1 ≠ .ok result) ∧
      (∀ before after completion result, events past = before ++ .stopped :: after →
        RoutingEvent.routed completion.id ∈ before →
          (capabilities.complete completion).1 ≠ .ok result) ∧
      ∀ call, (capabilities.call call).1.failed = true →
        (capabilities.call call).2 = capabilities := by
  have tracks := tracks_of_run run
  have accepts : ∀ completion, (∃ result, (capabilities.complete completion).1 = .ok result) ↔
      capabilities.state = .waiting completion.id := by
    intro completion
    rcases capabilities.complete_cases completion with
      ⟨idle, error, same⟩ | ⟨waiting, result, moved⟩
    · simp [same, idle]
    · simp [moved, waiting]
  refine ⟨tracks.increasing, fun one other first second => ?_, fun completion => ?_,
    fun completion result member done => ?_,
    fun before after completion result split routed done => ?_, fun _ => call_of_failed⟩
  · have same := (tracks.outstanding one).mp first
    rw [(tracks.outstanding other).mp second] at same
    exact (RuntimeState.waiting.inj same).symm
  · rw [accepts, tracks.outstanding]
  · exact (tracks.accepted _ member).2 ((accepts completion).mp ⟨result, done⟩)
  · exact tracks.stale before after _ split routed ((accepts completion).mp ⟨result, done⟩)

/-- A read is stopped before it completes, and another one is routed after the restart. The
completion of the first one is refused. -/
theorem kept_completion_refused :
    ∃ past capabilities, machine.Run past capabilities ∧
      (events past).filterMap RoutingEvent.routedId = [1, 2, 3] ∧
      ∀ result answer, (capabilities.complete
        ⟨⟨.availabilityRead, .deterministicAvailability, 1⟩, result⟩).1 ≠ .ok answer := by
  have run := ((((((StepSystem.Run.start ⟨.available, rfl⟩ : machine.Run [] (new .available)).step
    (a := .lifecycle .start) rfl).step (a := .route .readAvailability) rfl).step
    (a := .lifecycle .stop) rfl).step (a := .lifecycle .start) rfl).step
    (a := .invoke .readAvailability) rfl).step (a := .route .readAvailability) rfl
  refine ⟨_, _, run, rfl, fun result answer => ?_⟩
  exact (capability_routing run).2.2.2.2.1
    [.routed ⟨.availabilityRead, .deterministicAvailability, 1⟩]
    _ ⟨⟨.availabilityRead, .deterministicAvailability, 1⟩, result⟩ answer rfl List.mem_cons_self

end HostCapabilities

end Deskkin.Host
