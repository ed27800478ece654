/-
# Runs that are closed

A run that the simulator starts is followed by its terminal run, at the latest when the
spans are drained at the end. Contexts are drawn at random and name one span each, so no span
is opened under the key of another one, except for a pairing: all pairings share one key. A
second pairing that starts while the span of the first one is open takes its place, and the
first run is never closed.
-/

import Deskkin.Lib.SpanLedger
import Deskkin.Simulator.Diagnostics

namespace Deskkin.Simulator

open Protocol Diagnostics

/-! ## The names of spans -/

theorem encodeContext_injective : Function.Injective encodeContext := by
  intro one two same
  have decoded := congrArg decodeHex same
  rw [encodeContext, encodeContext, decodeHex_hex, decodeHex_hex, Option.some.injEq] at decoded
  exact Vector.toList_inj.mp decoded

theorem encodeContext_ne_pairingKey (context : ContextId) : encodeContext context ≠ pairingKey := by
  intro same
  have long := congrArg List.length same
  rw [encodeContext, length_hex, Vector.length_toList] at long
  exact absurd long (by decide)

theorem runIdOf_injective : Function.Injective runIdOf := fun _ _ same =>
  encodeContext_injective (List.append_cancel_left same)

variable {key : Text} {context : ContextId} {call : DiagnosticCall}

/-- The key of a start is named by a context, or it is the one of all pairings. -/
theorem protocolDiagnosticKey_eq {operationKind : Diagnostics.Operation}
    {session operation : Option ContextId}
    (named : protocolDiagnosticKey operationKind session operation = some key) :
    (∃ context, operation.or session = some context ∧ key = encodeContext context) ∨
      (operation.or session = none ∧ key = pairingKey) := by
  cases here : operation.or session with
  | some context =>
      simp only [protocolDiagnosticKey, here, Option.map_some, Option.some.injEq] at named
      exact Or.inl ⟨context, rfl, named.symm⟩
  | none =>
      simp only [protocolDiagnosticKey, here, Option.map_none] at named
      split at named
      · cases named
        exact Or.inr ⟨rfl, rfl⟩
      · cases named

/-! ## The ledger of the runs -/

/-- A run in progress that the publisher got opens a span, and a terminal run closes it. -/
def runEvents : SpanEvents Send Text where
  opened send := if !send.run.terminal && !send.full then some send.run.runId else none
  closed send := if send.run.terminal then some send.run.runId else none
  exclusive send := by
    cases send.run.terminal with
    | true => exact Or.inl rfl
    | false => exact Or.inr rfl

def entry (found : OpenSpan) : Text × Text := (found.key, found.span.runId)

/-- The open spans account for all sends, and the contexts name what there is. -/
structure Ledger (named : List ContextId) (spans : List OpenSpan) (sent : List Send) : Prop where
  accounted : runEvents.Accounted (spans.map entry) sent
  keys : ∀ found ∈ spans,
    found.key = pairingKey ∨ ∃ context ∈ named, found.key = encodeContext context
  runIds : ∀ found ∈ spans, ∃ context ∈ named, found.span.runId = runIdOf context
  sends : ∀ send ∈ sent, ∃ context ∈ named, send.run.runId = runIdOf context

variable {named : List ContextId} {spans front back : List OpenSpan} {found : OpenSpan}
  {sent : List Send} {run : DiagnosticRun}

theorem ledger_nil : Ledger named [] [] :=
  ⟨SpanEvents.accounted_nil, fun _ member => absurd member List.not_mem_nil,
    fun _ member => absurd member List.not_mem_nil, fun _ member => absurd member List.not_mem_nil⟩

section

variable (ledger : Ledger named spans sent)
include ledger

theorem Ledger.extend (more : List ContextId) : Ledger (named ++ more) spans sent := by
  have grow : ∀ {P : ContextId → Prop}, (∃ context ∈ named, P context) →
      ∃ context ∈ named ++ more, P context := by
    intro P found
    obtain ⟨context, member, holds⟩ := found
    exact ⟨context, List.mem_append_left _ member, holds⟩
  exact ⟨ledger.accounted, fun found member => (ledger.keys found member).imp_right grow,
    fun found member => grow (ledger.runIds found member),
    fun send member => grow (ledger.sends send member)⟩

theorem Ledger.perm {others : List OpenSpan} (same : others.Perm spans) :
    Ledger named others sent :=
  ⟨ledger.accounted.perm (same.map entry), fun found member => ledger.keys found
      (same.mem_iff.mp member), fun found member => ledger.runIds found (same.mem_iff.mp member),
    ledger.sends⟩

theorem Ledger.nodup_keys : (spans.map OpenSpan.key).Nodup := by
  have keys := ledger.accounted.keys
  rwa [List.map_map] at keys

theorem Ledger.sends_concat (member : context ∈ named) (same : run.runId = runIdOf context)
    (full : Bool) :
    ∀ send ∈ sent ++ [⟨run, full⟩], ∃ context ∈ named, send.run.runId = runIdOf context := by
  intro send here
  rcases List.mem_append.mp here with old | new
  · exact ledger.sends send old
  · rw [List.mem_singleton.mp new]
    exact ⟨context, member, same⟩

omit ledger in
/-- A terminal run closes its span, also where the publisher is full. -/
theorem Ledger.close (ledger : Ledger named (front ++ found :: back) sent)
    (terminal : run.terminal = true) (same : run.runId = found.span.runId) (full : Bool) :
    Ledger named (front ++ back) (sent ++ [⟨run, full⟩]) := by
  obtain ⟨accounted, keys, runIds, -⟩ := id ledger
  have fewer : ∀ other ∈ front ++ back, other ∈ front ++ found :: back := fun other member =>
    List.mem_append.mpr ((List.mem_append.mp member).imp_right (List.mem_cons_of_mem _))
  obtain ⟨context, member, known⟩ := runIds found
    (List.mem_append_right _ List.mem_cons_self)
  refine ⟨?_, fun other here => keys other (fewer other here),
    fun other here => runIds other (fewer other here),
    ledger.sends_concat member (same.trans known) full⟩
  rw [List.map_append, List.map_cons] at accounted
  rw [List.map_append]
  apply accounted.closing
  simp only [runEvents, terminal, if_true, same]

/-- A run that the publisher refused opens nothing. -/
theorem Ledger.refuse (unfinished : run.terminal = false) (member : context ∈ named)
    (same : run.runId = runIdOf context) : Ledger named spans (sent ++ [⟨run, true⟩]) := by
  refine ⟨?_, ledger.keys, ledger.runIds, ledger.sends_concat member same true⟩
  apply ledger.accounted.passing
  · simp [runEvents]
  · simp [runEvents, unfinished]

/-- A run in progress opens a span under a free key, named by a context that is new. -/
theorem Ledger.start {more : List ContextId} (unfinished : run.terminal = false)
    (same : run.runId = found.span.runId) (known : found.span.runId = runIdOf context)
    (fresh : context ∉ named) (member : context ∈ more) (free : found.key ∉ spans.map OpenSpan.key)
    (key : found.key = pairingKey ∨ ∃ context ∈ more, found.key = encodeContext context) :
    Ledger (named ++ more) (spans ++ [found]) (sent ++ [⟨run, false⟩]) := by
  have later := ledger.extend more
  refine ⟨?_, ?_, ?_,
    later.sends_concat (List.mem_append_right _ member) (same.trans known) false⟩
  · have opened : runEvents.opened ⟨run, false⟩ = some found.span.runId := by
      simp [runEvents, unfinished, same]
    rw [List.map_append, List.map_singleton]
    refine ledger.accounted.opening opened ?_ ?_ ?_
    · rwa [List.map_map]
    · rw [List.map_map, List.mem_map]
      rintro ⟨other, here, equal⟩
      obtain ⟨past, old, name⟩ := ledger.runIds other here
      have equal : runIdOf past = runIdOf context := name.symm.trans (equal.trans known)
      exact fresh (runIdOf_injective equal ▸ old)
    · rw [SpanEvents.closings, List.filter_eq_nil_iff]
      intro send here closes
      obtain ⟨past, old, name⟩ := ledger.sends send here
      have closed := of_decide_eq_true closes
      simp only [runEvents] at closed
      split at closed
      · rw [Option.some.injEq, name, known] at closed
        exact fresh (runIdOf_injective closed ▸ old)
      · cases closed
  · intro other here
    rcases List.mem_append.mp here with old | new
    · exact later.keys other old
    · rw [List.mem_singleton.mp new]
      rcases key with pairing | ⟨name, there, equal⟩
      · exact Or.inl pairing
      · exact Or.inr ⟨name, List.mem_append_right _ there, equal⟩
  · intro other here
    rcases List.mem_append.mp here with old | new
    · exact later.runIds other old
    · rw [List.mem_singleton.mp new]
      exact ⟨context, List.mem_append_right _ member, known⟩

/-! ## Sends -/

end

variable {self : ProtocolDiagnostics} {given : Given} {queue : List DiagnosticRun}

/-- The publisher is there, and the spans are in order. -/
def Kept (named : List ContextId) (diagnostics : ProtocolDiagnostics) : Prop :=
  (∃ queue, diagnostics.publisher = some queue) ∧
    Ledger named diagnostics.diagnosticSpans diagnostics.sent

theorem send_spans (queue : List DiagnosticRun) (run : DiagnosticRun) :
    (self.send queue run).2.diagnosticSpans = self.diagnosticSpans := by
  unfold ProtocolDiagnostics.send
  split <;> rfl

theorem send_sent (queue : List DiagnosticRun) (run : DiagnosticRun) :
    (self.send queue run).2.sent = self.sent ++ [⟨run, !(self.send queue run).1⟩] := by
  unfold ProtocolDiagnostics.send
  split <;> rfl

theorem send_publisher (present : self.publisher = some queue) (run : DiagnosticRun) :
    ∃ kept, (self.send queue run).2.publisher = some kept := by
  unfold ProtocolDiagnostics.send
  split
  · exact ⟨_, rfl⟩
  · exact ⟨queue, present⟩

/-- The terminal run of a span, whatever the spans are that the diagnostics still hold. -/
theorem sendTerminal_spec (present : ∃ queue, self.publisher = some queue)
    (terminal : run.terminal = true) (same : run.runId = found.span.runId)
    (ledger : Ledger named (front ++ found :: back) self.sent) :
    (∃ queue, (self.sendTerminal run).publisher = some queue) ∧
      (self.sendTerminal run).diagnosticSpans = self.diagnosticSpans ∧
      Ledger named (front ++ back) (self.sendTerminal run).sent := by
  obtain ⟨queue, present⟩ := present
  simp only [ProtocolDiagnostics.sendTerminal, present]
  refine ⟨send_publisher present run, send_spans queue run, ?_⟩
  rw [send_sent]
  exact ledger.close terminal same _

/-! ## Records and drains -/

/-- Under a free key nothing is replaced. -/
theorem filter_of_free (free : key ∉ spans.map OpenSpan.key) :
    spans.filter (fun other => other.key ≠ key) = spans := by
  rw [List.filter_eq_self]
  intro other member
  exact decide_eq_true fun same => free (List.mem_map.mpr ⟨other, member, same⟩)

/-- Taking the span under a key leaves the spans around it. -/
theorem filter_key (keys : ((front ++ found :: back).map OpenSpan.key).Nodup) :
    (front ++ found :: back).filter (fun other => other.key ≠ found.key) = front ++ back := by
  rw [List.map_append, List.map_cons] at keys
  have apart := (List.nodup_middle.mp keys).notMem
  rw [← List.map_append] at apart
  have mine : [found].filter (fun other => other.key ≠ found.key) = [] := by simp
  rw [← List.singleton_append, List.filter_append, List.filter_append, mine, List.nil_append,
    ← List.filter_append, filter_of_free apart]

theorem recordProtocol_kept (kept : Kept named self) (operationKind : Diagnostics.Operation)
    (outcome : RunOutcome) (errorType : Option ErrorType) (session operation : Option ContextId) :
    Kept named (self.recordProtocol given operationKind outcome errorType session operation) := by
  unfold ProtocolDiagnostics.recordProtocol
  split
  · exact kept
  · rename_i key _
    split
    · exact kept
    · rename_i found searched
      obtain ⟨present, ledger⟩ := kept
      obtain ⟨matches_, front, back, spans, -⟩ := List.find?_eq_some_iff_append.mp searched
      obtain rfl := of_decide_eq_true matches_
      rw [spans] at ledger
      rw [spans, filter_key ledger.nodup_keys]
      generalize made : protocolRun _ _ _ _ _ _ _ _ = run
      have terminal : run.terminal = true := by rw [← made]; rfl
      have same : run.runId = found.span.runId := by rw [← made]; rfl
      have present : ∃ queue, { self with diagnosticSpans := front ++ back }.publisher =
        some queue := present
      obtain ⟨stays, spans, closed⟩ := sendTerminal_spec present terminal same ledger
      refine ⟨stays, ?_⟩
      rw [spans]
      exact closed

/-- Draining closes the spans one by one. -/
theorem drain_kept {terminalRun : ProtocolDiagnostics → OpenSpan → DiagnosticRun}
    (terminal : ∀ self found, (terminalRun self found).terminal = true)
    (same : ∀ self found, (terminalRun self found).runId = found.span.runId)
    (spans : List OpenSpan) (present : ∃ queue, self.publisher = some queue)
    (taken : self.diagnosticSpans = []) (ledger : Ledger named spans self.sent) :
    Kept named (spans.foldl (fun self found => self.sendTerminal (terminalRun self found)) self) ∧
      (spans.foldl (fun self found => self.sendTerminal (terminalRun self found))
        self).diagnosticSpans = [] := by
  induction spans generalizing self with
  | nil =>
      refine ⟨⟨present, ?_⟩, taken⟩
      rw [List.foldl_nil, taken]
      exact ledger
  | cons found rest ih =>
      have ledger : Ledger named ([] ++ found :: rest) self.sent := ledger
      obtain ⟨stays, kept, closed⟩ :=
        sendTerminal_spec present (terminal self found) (same self found) ledger
      exact ih stays (kept.trans taken) closed

theorem drainProtocolSpans_kept (kept : Kept named self) (outcome : RunOutcome)
    (errorType : Option ErrorType) :
    Kept named (self.drainProtocolSpans given outcome errorType) ∧
      (self.drainProtocolSpans given outcome errorType).diagnosticSpans = [] := by
  obtain ⟨present, ledger⟩ := kept
  have present : ∃ queue, { self with diagnosticSpans := [] }.publisher = some queue := present
  exact drain_kept (fun _ _ => rfl) (fun _ _ => rfl) _ present rfl
    (ledger.perm (given.perm_drained self.diagnosticSpans))

/-! ## Starts -/

/-- A pairing that the publisher takes finds no other one open. -/
def PairsAlone (self : ProtocolDiagnostics) (given : Given) : Prop :=
  ∀ queue, self.publisher = some queue → queue.length < diagnosticCapacity →
    given.runContext.isSome → self.protocolSpanActive .pairingPersist none none = false

theorem Kept.extend (kept : Kept named self) (more : List ContextId) :
    Kept (named ++ more) self :=
  ⟨kept.1, kept.2.extend more⟩

/-- The key of a start is free: it is new, or the one of pairings and none is open. -/
theorem Ledger.free_key {more : List ContextId} (ledger : Ledger named spans sent)
    (distinct : (named ++ more).Nodup) (new : (∃ context ∈ more, key = encodeContext context) ∨
      (key = pairingKey ∧ ∀ found ∈ spans, found.key ≠ pairingKey)) :
    key ∉ spans.map OpenSpan.key := by
  rw [List.mem_map]
  rintro ⟨found, member, same⟩
  rcases new with ⟨context, fresh, rfl⟩ | ⟨rfl, alone⟩
  · rcases ledger.keys found member with pairing | ⟨other, old, equal⟩
    · exact encodeContext_ne_pairingKey context (same.symm.trans pairing)
    · have equal : context = other := encodeContext_injective (same.symm.trans equal)
      exact (List.nodup_append.mp distinct).2.2 other old context fresh equal.symm
  · exact alone found member same

theorem key_ne_of_inactive (inactive : self.protocolSpanActive .pairingPersist none none = false) :
    ∀ found ∈ self.diagnosticSpans, found.key ≠ pairingKey := by
  intro found member same
  have active : self.protocolSpanActive .pairingPersist none none = true :=
    List.any_eq_true.mpr ⟨found, member, decide_eq_true same⟩
  rw [active] at inactive
  cases inactive

theorem startProtocol_kept (kept : Kept named self) (operationKind : Diagnostics.Operation)
    (session operation : Option ContextId)
    (distinct : (named ++ DiagnosticCall.contexts given
      (.start operationKind session operation)).Nodup)
    (alone : operation.or session = none → PairsAlone self given) :
    Kept (named ++ DiagnosticCall.contexts given (.start operationKind session operation))
      (self.startProtocol given operationKind session operation) := by
  unfold ProtocolDiagnostics.startProtocol
  split
  · exact kept.extend _
  · rename_i key keyed
    split
    · exact kept.extend _
    · rename_i runContext drawn
      obtain ⟨⟨queue, present⟩, ledger⟩ := kept
      have member : runContext ∈ DiagnosticCall.contexts given
          (.start operationKind session operation) := by
        rw [DiagnosticCall.contexts, drawn]
        exact List.mem_append_right _ (List.mem_singleton_self _)
      have fresh : runContext ∉ named := fun old =>
        (List.nodup_append.mp distinct).2.2 runContext old runContext member rfl
      simp only [present]
      generalize made : protocolRun _ _ _ _ _ _ _ _ = run
      have unfinished : run.terminal = false := by rw [← made]; rfl
      have name : run.runId = runIdOf runContext := by rw [← made]; rfl
      unfold ProtocolDiagnostics.send
      by_cases room : queue.length < diagnosticCapacity
      · have new : (∃ context ∈ DiagnosticCall.contexts given
            (.start operationKind session operation), key = encodeContext context) ∨
            (key = pairingKey ∧ ∀ found ∈ self.diagnosticSpans, found.key ≠ pairingKey) := by
          rcases protocolDiagnosticKey_eq keyed with ⟨context, here, same⟩ | ⟨here, same⟩
          · refine Or.inl ⟨context, ?_, same⟩
            rw [DiagnosticCall.contexts, here]
            exact List.mem_append_left _ (List.mem_singleton_self _)
          · exact Or.inr ⟨same, key_ne_of_inactive
              (alone here queue present room (by rw [drawn]; rfl))⟩
        have free := ledger.free_key distinct new
        simp only [room, if_true, ProtocolDiagnostics.insertSpan, filter_of_free free]
        exact ⟨⟨_, rfl⟩, ledger.start unfinished name rfl fresh member free
          (new.symm.imp_left And.left)⟩
      · simp only [room, if_false]
        exact ⟨⟨queue, present⟩,
          (ledger.extend _).refuse unfinished (List.mem_append_right _ member) name⟩

/-! ## Callbacks -/

/-- A start of a pairing is alone, and any other one has a context. -/
def Fits (self : ProtocolDiagnostics) (given : Given) : DiagnosticCall → Prop
  | .start _ session operation => operation.or session = none → PairsAlone self given
  | _ => True

theorem perform_kept (kept : Kept named self) (distinct : (named ++ call.contexts given).Nodup)
    (fits : Fits self given call) :
    Kept (named ++ call.contexts given) (self.perform given call) := by
  cases call with
  | start operationKind session operation =>
      exact startProtocol_kept kept operationKind session operation distinct fits
  | record operationKind outcome errorType session operation =>
      exact (recordProtocol_kept kept _ _ _ _ _).extend _
  | recordIfActive operationKind outcome errorType session operation =>
      simp only [ProtocolDiagnostics.perform]
      split
      · exact (recordProtocol_kept kept _ _ _ _ _).extend _
      · exact kept.extend _
  | drain outcome errorType => exact (drainProtocolSpans_kept kept _ _).1.extend _

/-- Only pairings start without a context. -/
def Keyed : DiagnosticCall → Prop
  | .start _ session operation => operation.or session ≠ none
  | _ => True

def AllKeyed (calls : List DiagnosticCall) : Prop := ∀ call ∈ calls, Keyed call

theorem allKeyed_nil : AllKeyed [] := fun _ member => absurd member List.not_mem_nil

theorem allKeyed_cons {rest : List DiagnosticCall} (first : Keyed call) (others : AllKeyed rest) :
    AllKeyed (call :: rest) :=
  List.forall_mem_cons.mpr ⟨first, others⟩

theorem allKeyed_singleton (first : Keyed call) : AllKeyed [call] :=
  allKeyed_cons first allKeyed_nil

theorem performAll_kept {calls : List DiagnosticCall} (kept : Kept named self)
    (distinct : (named ++ calls.flatMap (DiagnosticCall.contexts given)).Nodup)
    (keyed : AllKeyed calls) :
    Kept (named ++ calls.flatMap (DiagnosticCall.contexts given))
      (self.performAll given calls) := by
  induction calls generalizing named self with
  | nil => exact kept.extend _
  | cons call rest ih =>
      obtain ⟨first, others⟩ := List.forall_mem_cons.mp keyed
      rw [List.flatMap_cons, ← List.append_assoc] at distinct ⊢
      have fits : Fits self given call := by
        cases call with
        | start operationKind session operation => exact fun none => absurd none first
        | record | recordIfActive | drain => exact trivial
      exact ih (perform_kept kept (List.nodup_append.mp distinct).1 fits) distinct others

section

variable (runtime : ProtocolRuntime)

theorem protocolDisconnectedCalls_keyed : AllKeyed runtime.protocolDisconnectedCalls := by
  have reported : ∀ session, AllKeyed [.record .protocolNegotiate .error (some .connectionLost)
      session none] := fun _ => allKeyed_singleton trivial
  unfold ProtocolRuntime.protocolDisconnectedCalls
  split
  · exact reported _
  · split
    · exact allKeyed_nil
    · split
      · exact allKeyed_nil
      · exact reported _

theorem performProtocolReadCalls_keyed (effect : Application.Effect) (operation : ContextId) :
    AllKeyed (runtime.performProtocolReadCalls effect operation) := by
  unfold ProtocolRuntime.performProtocolReadCalls
  split
  · exact allKeyed_nil
  · split
    · exact allKeyed_nil
    · split
      · exact allKeyed_nil
      · refine allKeyed_cons (Option.some_ne_none operation) ?_
        split
        · exact allKeyed_nil
        · exact allKeyed_cons trivial (protocolDisconnectedCalls_keyed _)

variable (session : ContextId)

theorem attemptProtocolConnectCalls_keyed :
    AllKeyed (runtime.attemptProtocolConnectCalls session) := by
  unfold ProtocolRuntime.attemptProtocolConnectCalls
  split
  · exact allKeyed_nil
  · refine allKeyed_cons (Option.some_ne_none session) ?_
    split
    · exact allKeyed_nil
    · exact allKeyed_singleton trivial

theorem handleConnectResultCalls_keyed (result : Except SessionError Unit) :
    AllKeyed (runtime.handleConnectResultCalls session result) := by
  unfold ProtocolRuntime.handleConnectResultCalls
  split
  · exact allKeyed_nil
  · split
    · exact allKeyed_nil
    all_goals exact allKeyed_singleton trivial

theorem acceptReadResultCalls_keyed (requestId : ℕ) (operation : ContextId)
    (result : AvailabilityResult) :
    AllKeyed (runtime.acceptReadResultCalls session requestId operation result) := by
  unfold ProtocolRuntime.acceptReadResultCalls
  split
  · exact allKeyed_nil
  · split
    · exact allKeyed_nil
    · split
      · exact allKeyed_nil
      · split
        · exact allKeyed_nil
        · exact allKeyed_singleton trivial

theorem handleReadResultCalls_keyed (admitted : ℕ → Bool) (session : ContextId)
    (generation requestId : ℕ) (operation : ContextId)
    (result : Except SessionError AvailabilityResult) :
    AllKeyed (runtime.handleReadResultCalls admitted session generation requestId operation
      result) := by
  have lost := protocolDisconnectedCalls_keyed runtime
  unfold ProtocolRuntime.handleReadResultCalls
  split
  · exact allKeyed_cons trivial lost
  · split
    · refine List.forall_mem_append.mpr ⟨acceptReadResultCalls_keyed _ _ _ _ _, ?_⟩
      split
      · exact allKeyed_singleton trivial
      · exact allKeyed_nil
    · exact allKeyed_cons trivial lost

theorem handleNetworkEventCalls_keyed (admitted : ℕ → Bool) (event : NetworkEvent) :
    AllKeyed (runtime.handleNetworkEventCalls admitted event) := by
  cases event with
  | paired trustPaired result => exact allKeyed_singleton trivial
  | connected session result => exact handleConnectResultCalls_keyed _ _ _
  | readCompleted session generation requestId operation result =>
      exact handleReadResultCalls_keyed _ _ _ _ _ _ _
  | closed => exact allKeyed_singleton trivial

/-- The start of a pairing is followed by records only. -/
theorem handlePairStartCalls_eq :
    ∃ rest, runtime.handlePairStartCalls = .start .pairingPersist none none :: rest ∧
      AllKeyed rest := by
  refine ⟨_, rfl, ?_⟩
  split
  · exact allKeyed_nil
  · exact allKeyed_singleton trivial

theorem calls_keyed {label : ProtocolRuntime.Label} (other : label ≠ .pairStart) :
    AllKeyed (runtime.calls label) := by
  cases label with
  | pairStart => exact absurd rfl other
  | networkEvent admitted =>
      simp only [ProtocolRuntime.calls]
      split
      · exact allKeyed_nil
      · exact handleNetworkEventCalls_keyed _ _ _
  | refreshDue operation =>
      simp only [ProtocolRuntime.calls]
      split
      · exact allKeyed_nil
      · unfold ProtocolRuntime.protocolRefreshDueCalls
        split
        · exact performProtocolReadCalls_keyed _ _ _
        · exact allKeyed_nil
  | reconnectDue session =>
      simp only [ProtocolRuntime.calls]
      split
      · exact allKeyed_nil
      · exact attemptProtocolConnectCalls_keyed _ _
  | identityRevoked | workerControl | workerTake | workerAnswer | workerEnds =>
      exact allKeyed_nil

/-! ## Runs -/

end

/-- The terminal runs that were sent for a run. -/
def terminalRuns (runId : Text) (log : List Send) : List Send :=
  log.filter fun send => send.run.terminal && decide (send.run.runId = runId)

/-- Every run in progress that the publisher got is followed by exactly one terminal run,
which may have found the publisher full. -/
def ClosedOnce (log : List Send) : Prop :=
  ∀ before send after, log = before ++ send :: after → send.run.terminal = false →
    send.full = false → terminalRuns send.run.runId before = [] ∧
      ∃ last, terminalRuns send.run.runId after = [last]

theorem closings_eq (runId : Text) (log : List Send) :
    runEvents.closings runId log = terminalRuns runId log := by
  refine List.filter_congr fun send _ => ?_
  cases terminal : send.run.terminal <;> simp [runEvents, terminal]

/-- Where no span is left, every run is closed. -/
theorem Ledger.closedOnce (ledger : Ledger named [] sent) : ClosedOnce sent := by
  intro before send after split unfinished accepted
  have opened : runEvents.opened send = some send.run.runId := by
    simp [runEvents, unfinished, accepted]
  rcases ledger.accounted.settled before send after _ split opened with waiting | closed
  · exact absurd waiting List.not_mem_nil
  · rw [closings_eq, closings_eq] at closed
    exact closed

end Simulator

open Simulator

namespace DiagnosedRuntime

/-- The condition on a step: a pairing that starts is alone. -/
def Alone (self : DiagnosedRuntime) : Label → Prop
  | .runtime .pairStart given => PairsAlone self.diagnostics given
  | _ => True

/-- The spans are in order, and none is left once the publisher is gone. -/
structure Sound (runtime : DiagnosedRuntime) : Prop where
  ledger : Ledger runtime.named runtime.diagnostics.diagnosticSpans runtime.diagnostics.sent
  taken : runtime.diagnostics.publisher = none → runtime.diagnostics.diagnosticSpans = []

variable {self next : DiagnosedRuntime} {label : Label}

theorem Sound.kept (sound : self.Sound) (present : self.diagnostics.publisher.isNone ≠ true) :
    Kept self.named self.diagnostics := by
  refine ⟨Option.ne_none_iff_exists'.mp fun gone => present ?_, sound.ledger⟩
  rw [gone]
  rfl

theorem sound_of_kept (kept : Kept self.named self.diagnostics) : self.Sound := by
  obtain ⟨⟨queue, present⟩, ledger⟩ := kept
  refine ⟨ledger, fun gone => ?_⟩
  rw [present] at gone
  cases gone

/-- The contexts that name the starts are only ever added to. -/
theorem step_named (moved : self.step label = some next) :
    ∃ more, next.named = self.named ++ more := by
  cases label with
  | runtime label given =>
      simp only [step, Option.ite_none_left_eq_some, Option.map_eq_some_iff] at moved
      obtain ⟨-, runtime, -, rfl⟩ := moved
      exact ⟨_, rfl⟩
  | runtimeShutdown =>
      simp only [step, Option.ite_none_left_eq_some, Option.some.injEq] at moved
      obtain ⟨-, rfl⟩ := moved
      exact ⟨[], (List.append_nil _).symm⟩
  | workerQuits =>
      simp only [step, Option.ite_none_right_eq_some, Option.some.injEq] at moved
      obtain ⟨-, rfl⟩ := moved
      exact ⟨[], (List.append_nil _).symm⟩
  | workerStopped given =>
      simp only [step, Option.ite_none_left_eq_some, Option.some.injEq] at moved
      obtain ⟨-, rfl⟩ := moved
      exact ⟨_, rfl⟩
  | publisherTakes =>
      simp only [step] at moved
      split at moved
      · cases moved
        exact ⟨[], (List.append_nil _).symm⟩
      · cases moved
  | shutdown given =>
      simp only [step, Option.ite_none_left_eq_some, Option.some.injEq] at moved
      obtain ⟨-, rfl⟩ := moved
      exact ⟨_, rfl⟩

/-- What the callbacks report keeps the spans in order. -/
theorem report_kept (given : Given) {label : ProtocolRuntime.Label}
    (kept : Kept self.named self.diagnostics)
    (distinct : (self.report given (self.runtime.calls label)).named.Nodup)
    (alone : self.Alone (.runtime label given)) :
    Kept (self.report given (self.runtime.calls label)).named
      (self.report given (self.runtime.calls label)).diagnostics := by
  by_cases pairs : label = .pairStart
  · subst pairs
    obtain ⟨rest, calls, keyed⟩ := handlePairStartCalls_eq self.runtime
    have calls : self.runtime.calls .pairStart = .start .pairingPersist none none :: rest := calls
    simp only [report, calls, List.flatMap_cons, ← List.append_assoc] at distinct ⊢
    have started : Kept _ (self.diagnostics.perform given (.start .pairingPersist none none)) :=
      perform_kept kept (List.nodup_append.mp distinct).1 fun _ => alone
    exact performAll_kept started distinct keyed
  · exact performAll_kept kept distinct (calls_keyed self.runtime pairs)

theorem step_sound (sound : self.Sound) (distinct : next.named.Nodup) (alone : self.Alone label)
    (moved : self.step label = some next) : next.Sound := by
  cases label with
  | runtime label given =>
      simp only [step, Option.ite_none_left_eq_some, Option.map_eq_some_iff] at moved
      obtain ⟨present, runtime, -, rfl⟩ := moved
      exact sound_of_kept (report_kept given (sound.kept present) distinct alone)
  | runtimeShutdown =>
      simp only [step, Option.ite_none_left_eq_some, Option.some.injEq] at moved
      obtain ⟨-, rfl⟩ := moved
      exact ⟨sound.ledger, sound.taken⟩
  | workerQuits =>
      simp only [step, Option.ite_none_right_eq_some, Option.some.injEq] at moved
      obtain ⟨-, rfl⟩ := moved
      exact ⟨sound.ledger, sound.taken⟩
  | workerStopped given =>
      simp only [step, Bool.or_eq_true, Option.ite_none_left_eq_some, Option.some.injEq,
        not_or] at moved
      obtain ⟨⟨⟨present, -⟩, -⟩, rfl⟩ := moved
      exact sound_of_kept (performAll_kept (sound.kept present) distinct
        (allKeyed_singleton trivial))
  | publisherTakes =>
      simp only [step] at moved
      split at moved
      · cases moved
        exact ⟨sound.ledger, nofun⟩
      · cases moved
  | shutdown given =>
      simp only [step, Option.ite_none_left_eq_some, Option.some.injEq] at moved
      obtain ⟨present, rfl⟩ := moved
      obtain ⟨kept, empty⟩ := @drainProtocolSpans_kept _ _ given (sound.kept present) .cancel
        (some .cancelled)
      exact ⟨(kept.extend _).2, fun _ => empty⟩

/-- Startup reports the first connection. -/
theorem initial_sound (initial : machine.Initial self) (distinct : self.named.Nodup) :
    self.Sound := by
  obtain ⟨session, operation, given, runtime, -, rfl⟩ := initial
  have fresh : Kept [] ProtocolDiagnostics.new := ⟨⟨[], rfl⟩, ledger_nil⟩
  exact sound_of_kept (performAll_kept fresh distinct (attemptProtocolConnectCalls_keyed _ _))

theorem run_sound {past : List (DiagnosedRuntime × Label)} (run : machine.Run past self)
    (distinct : self.named.Nodup) (alone : StepSystem.Guarded Alone past) : self.Sound := by
  have invariant : self.named.Nodup → self.Sound :=
    run.invariant_of_guarded Alone
      (fun _ initial distinct => initial_sound initial distinct)
      (fun before label next holds alone moved distinct => by
        obtain ⟨more, grown⟩ := step_named moved
        have earlier : before.named.Nodup := by
          rw [grown] at distinct
          exact (List.nodup_append.mp distinct).1
        exact step_sound (holds earlier) distinct alone moved)
      alone
  exact invariant distinct

/-- **Runs are closed once.** In a run whose pairings start alone, and whose contexts are all
different, every run that the publisher got is closed once when the diagnostics are taken. -/
theorem closedOnce_of_alone {past : List (DiagnosedRuntime × Label)} (run : machine.Run past self)
    (distinct : self.named.Nodup) (alone : StepSystem.Guarded Alone past)
    (ended : self.diagnostics.publisher = none) : ClosedOnce self.diagnostics.sent := by
  have sound := run_sound run distinct alone
  have ledger := sound.ledger
  rw [sound.taken ended] at ledger
  exact ledger.closedOnce

/-- A callback that draws the context, at a time that stands still. -/
def drawing (byte : UInt8) : Given where
  runContext := some (.replicate 16 byte)
  clock _ := ⟨0, 0⟩
  drained := id
  perm_drained _ := .refl _

/-- The runtime after startup, with its first connection reported. -/
def started : DiagnosedRuntime :=
  { new.report (drawing 3) (ProtocolRuntime.new.attemptProtocolConnectCalls (.replicate 16 1)) with
    runtime := (ProtocolRuntime.startup (.replicate 16 1) (.replicate 16 2)).2 }

theorem started_initial : machine.Run [] started :=
  .start ⟨.replicate 16 1, .replicate 16 2, drawing 3, _, rfl, rfl⟩

theorem closedOnce_of_alone_pairing :
    ∃ past self, machine.Run past self ∧ self.diagnostics.sent.length = 4 ∧
      ClosedOnce self.diagnostics.sent := by
  have along : machine.Along Alone started
      [.runtime .pairStart (drawing 4), .shutdown (drawing 5)] := by
    refine ⟨fun _ _ _ _ => ?_, fun _ _ => ⟨trivial, fun _ _ => trivial⟩⟩
    decide +kernel
  obtain ⟨past, run, alone⟩ := started_initial.exists_guarded_of_execute
    (StepSystem.guarded_nil _) _ along rfl
  exact ⟨past, _, run, rfl, closedOnce_of_alone run (by decide +kernel) alone rfl⟩

/-- The second of two pairings takes the place of the first one, which is never closed. -/
theorem second_pairing_leaves_first_unclosed :
    ∃ past self, machine.Run past self ∧ self.named.Nodup ∧
      self.diagnostics.publisher = none ∧ self.diagnostics.diagnosticDropped = false ∧
      ¬ClosedOnce self.diagnostics.sent := by
  obtain ⟨past, run, -⟩ := started_initial.exists_of_execute
    [.runtime .pairStart (drawing 4), .runtime .pairStart (drawing 5), .shutdown (drawing 6)] rfl
  refine ⟨past, _, run, by decide +kernel, rfl, rfl, fun closed => ?_⟩
  obtain ⟨-, last, same⟩ := closed [_] _ [_, _, _] rfl rfl rfl
  cases same

end DiagnosedRuntime

end Deskkin
