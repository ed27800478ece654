/-
# Every answer in an availability session

The device numbers its requests from one without a gap and has at most one of them open. The
host answers them in that order, each at most once, and each result that the device stores
is what the host found for that very request. Neither end ever blames the other for a breach
of the protocol, until the numbers of the device are used up.
-/

import Deskkin.EndToEnd.EndSteps

namespace Deskkin.EndToEnd

open Protocol Device Host Simulator

/-! ## What is under way -/

/-- The request that a message to the host carries. -/
def requestOf : Message → Option AvailabilityRequest
  | .readAvailability requestId operation => some (requestId.toNat, operation)
  | _ => none

/-- The result that a message to the device carries. -/
def resultOf : Message → Option (AvailabilityRequest × AvailabilityResult)
  | .availabilityResult requestId operation result => some ((requestId.toNat, operation), result)
  | _ => none

/-- The answer of a host that finds this value. -/
def found (value : AvailabilityResult) (request : AvailabilityRequest) :
    AvailabilityRequest × AvailabilityResult :=
  (request, value)

/-- A device that is in its loop has numbered its requests itself, waits for the last one at
most, and has not said that it closes. -/
structure Looping (session : AvailabilitySession) (loop : AvailabilityLoop) : Prop where
  sound : loop.Sound
  numbered : loop.adapter.requestId = session.requests.length
  free : awaiting loop = none → session.requests.length = session.results.length
  waiting : ∀ request, awaiting loop = some request → ∃ earlier,
    session.requests = earlier ++ [request] ∧ earlier.length = session.results.length
  unclosed : ∀ message ∈ session.toHost, isClose message = false
  unasked : session.host.log.filterMap SessionEvent.requestedReason = []

/-- What the device is up to. -/
def Attends (session : AvailabilitySession) : Prop :=
  match session.device with
  | .looping loop => Looping session loop
  | .returned result => result = .error .protocol → Checked.u32Max ≤ session.requests.length

/-- What holds in every state of a session with a host that finds `value`. -/
structure Sound (value : AvailabilityResult) (session : AvailabilitySession) : Prop where
  reachable : Session.machine.Reachable session.host
  capabilities : ∃ issued, session.host.capabilities = ⟨.ready, hostAvailability value, issued⟩ ∧
    issued ≤ session.host.lastRequestId.toNat
  speaks : Speaks session.host
  trusting : Trusting session.host
  backlog : Backlog session.host
  numbered : session.requests.map Prod.fst = List.range' 1 session.requests.length
  accepted : session.host.lastRequestId.toNat ≤ session.requests.length
  unread : session.toHost.filterMap requestOf =
    session.requests.drop session.host.lastRequestId.toNat
  polite : ∀ message ∈ session.toHost,
    (requestOf message).isSome ∨ message = .pong ∨ isClose message = true
  answered : session.host.enqueued.filterMap resultOf =
    (session.requests.take session.host.enqueued.length).map (found value)
  stream : (SessionEvent.writes session.host.log).filterMap resultOf =
    session.results ++ session.toDevice.filterMap resultOf
  arrived : session.toDevice ⊆ SessionEvent.writes session.host.log
  outstanding : session.requests.length ≤ session.results.length + 1
  attends : Attends session

section Steps

variable {session after : AvailabilitySession} {value : AvailabilityResult}

theorem isSome_resultOf (message : Message) : (resultOf message).isSome = isResponse message := by
  cases message <;> rfl

theorem filterMap_filter_response (messages : List Message) :
    (messages.filter isResponse).filterMap resultOf = messages.filterMap resultOf := by
  induction messages with
  | nil => rfl
  | cons message rest ih =>
      cases message with
      | availabilityResult requestId operation result =>
          rw [List.filter_cons_of_pos rfl, List.filterMap_cons, List.filterMap_cons, ih]
      | _ => exact ih

theorem length_results_le (messages : List Message) :
    (messages.filterMap resultOf).length = (messages.filter isResponse).length := by
  rw [List.length_filterMap_eq_countP, ← List.countP_eq_length_filter]
  simp only [isSome_resultOf]

theorem Sound.flow (sound : Sound value session) : session.host.Flow :=
  (Session.ordered_of_reachable sound.reachable).1

/-- What is stored or on the way to the device answers the requests in their order. -/
theorem Sound.results_prefix (sound : Sound value session) :
    session.results ++ session.toDevice.filterMap resultOf <+:
      session.requests.map (found value) := by
  rw [← sound.stream, ← filterMap_filter_response]
  refine (sound.flow.fifo.filterMap resultOf).trans ?_
  rw [sound.answered]
  exact (List.take_prefix _ _).map _

/-- Every result that is stored has been written. -/
theorem Sound.results_le (sound : Sound value session) :
    session.results.length ≤ session.host.responsesWritten.length := by
  rw [Session.responsesWritten, ← length_results_le, sound.stream, List.length_append]
  exact Nat.le_add_right _ _

variable {rest : List Message} {loop : AvailabilityLoop} {message : Message}
  {request : AvailabilityRequest} {result : AvailabilityResult} {operation : ContextId}
  {host : Session} {toDevice : List Message} {requestId : UInt32} {paired : Option ℕ}

section

variable (sound : Sound value session)
include sound

/-- The next result is that of the request that the device waits for. -/
theorem Sound.next_result (looping : Looping session loop)
    (next : session.toDevice = message :: rest)
    (carries : resultOf message = some (request, result)) :
    awaiting loop = some request ∧ result = value := by
  have inOrder := sound.results_prefix
  rw [next, List.filterMap_cons, carries] at inOrder
  dsimp only at inOrder
  have longer := inOrder.length_le
  rw [List.length_append, List.length_cons, List.length_map] at longer
  cases waits : awaiting loop with
  | none =>
      have same := looping.free waits
      omega
  | some last =>
      obtain ⟨earlier, requests, stored⟩ := looping.waiting last waits
      obtain ⟨more, whole⟩ := inOrder
      rw [requests, List.map_append, List.append_assoc] at whole
      have here := (List.append_inj whole (by rw [List.length_map, stored])).2
      rw [List.cons_append] at here
      cases (List.cons.inj here).1
      exact ⟨rfl, rfl⟩

/-- A message that comes while the device waits is one that it waits for. -/
theorem Sound.expected (looping : Looping session loop)
    (next : session.toDevice = message :: rest) : Expected loop message := by
  have ordered := Session.order_of_writes sound.reachable
  have there : message ∈ SessionEvent.writes session.host.log :=
    sound.arrived (next ▸ List.mem_cons_self)
  rcases sound.speaks.written message there with response | ping | close
  · cases message with
    | availabilityResult requestId operation result =>
        have waits := (sound.next_result looping next rfl).1
        exact .inr ⟨requestId, operation, result, waits, rfl⟩
    | _ => cases response
  · exact .inl ping
  · rw [ordered.1.uncalled looping.unasked message there] at close
    cases close

/-! ## The steps of the device -/

/-- A device that ends its loop has nothing more to attend to. -/
theorem Sound.ends {result : Except SessionFailure Unit}
    (blames : result = .error .protocol → Checked.u32Max ≤ session.requests.length) :
    Sound value { session with device := .returned result } :=
  { sound with attends := blames }

theorem Sound.pongs (here : session.device = .looping loop) :
    Sound value { session with toHost := session.toHost ++ [.pong] } := by
  have attends := sound.attends
  rw [Attends, here] at attends
  refine { sound with unread := ?_, polite := ?_, attends := ?_ }
  · rw [List.filterMap_append, sound.unread]
    exact List.append_nil _
  · intro message there
    rcases List.mem_append.mp there with there | there
    · exact sound.polite message there
    · exact .inr (.inl (List.mem_singleton.mp there))
  · rw [Attends]
    simp only [here]
    refine { attends with unclosed := fun message there => ?_ }
    rcases List.mem_append.mp there with there | there
    · exact attends.unclosed message there
    · rw [List.mem_singleton.mp there]
      rfl

/-- The device goes on without another message. -/
theorem Sound.waits {loop next : AvailabilityLoop} (here : session.device = .looping loop)
    (before : awaiting loop = none) (free : awaiting next = none)
    (kept : next.adapter.requestId = loop.adapter.requestId) (loops : next.Sound) :
    Sound value { session with device := .looping next } := by
  have looping := sound.attends
  rw [Attends, here] at looping
  have numbered : next.adapter.requestId = session.requests.length := kept ▸ looping.numbered
  refine { sound with
    attends := { looping with
      sound := loops, numbered := numbered, free := fun _ => looping.free before,
      waiting := fun request waits => ?_ } }
  rw [free] at waits
  cases waits

/-- The device asks for the next number. -/
theorem Sound.asks {loop next : AvailabilityLoop} (here : session.device = .looping loop)
    (free : awaiting loop = none) (waits : awaiting next = some (next.adapter.requestId, operation))
    (numbered : next.adapter.requestId = loop.adapter.requestId + 1)
    (fits : next.adapter.requestId ≤ Checked.u32Max) (loops : next.Sound) :
    Sound value { session with
      device := .looping next
      toHost := session.toHost ++
        [.readAvailability (UInt32.ofNat next.adapter.requestId) operation]
      requests := session.requests ++ [(next.adapter.requestId, operation)] } := by
  have looping := sound.attends
  rw [Attends, here] at looping
  rw [looping.numbered] at numbered
  have settled := looping.free free
  have fewer := (length_enqueued sound.flow).1.trans sound.accepted
  have number : (UInt32.ofNat next.adapter.requestId).toNat = next.adapter.requestId :=
    UInt32.toNat_ofNat_of_lt' (Nat.lt_succ_of_le fits)
  refine { sound with
    numbered := ?_, accepted := ?_, unread := ?_, polite := ?_, answered := ?_,
    outstanding := ?_, attends := {
      sound := loops, numbered := ?_, free := ?_, waiting := ?_, unclosed := ?_,
      unasked := looping.unasked } }
  · rw [List.map_append, sound.numbered, List.length_append, List.length_singleton,
      List.range'_1_concat, List.map_singleton, numbered, Nat.add_comm]
  · rw [List.length_append]
    exact sound.accepted.trans (Nat.le_add_right _ _)
  · rw [List.filterMap_append, sound.unread, List.drop_append_of_le_length sound.accepted]
    simp only [List.filterMap_cons, List.filterMap_nil, requestOf, number]
  · intro message there
    rcases List.mem_append.mp there with there | there
    · exact sound.polite message there
    · rw [List.mem_singleton.mp there]
      exact .inl rfl
  · rw [sound.answered, List.take_append_of_le_length fewer]
  · apply Nat.le_of_eq
    rw [List.length_append, List.length_singleton, settled]
  · rw [List.length_append, List.length_singleton, numbered]
  · intro impossible
    rw [waits] at impossible
    cases impossible
  · intro request same
    rw [waits] at same
    cases same
    exact ⟨session.requests, rfl, settled⟩
  · intro message there
    rcases List.mem_append.mp there with there | there
    · exact looping.unclosed message there
    · rw [List.mem_singleton.mp there]
      rfl

/-- The device says that it closes. -/
theorem Sound.closes {last : List Message} (said : ∀ message ∈ last, isClose message = true) :
    Sound value { session with
      device := .returned (.ok ()), toHost := session.toHost ++ last } := by
  have none : last.filterMap requestOf = [] := by
    rw [List.filterMap_eq_nil_iff]
    intro message there
    have close := said message there
    cases message with
    | close reason => rfl
    | _ => cases close
  refine { sound with unread := ?_, polite := ?_, attends := nofun }
  · rw [List.filterMap_append, none, sound.unread, List.append_nil]
  · intro message there
    rcases List.mem_append.mp there with there | there
    · exact sound.polite message there
    · exact .inr (.inr (said message there))

/-- The device stores the result that it reads. -/
theorem Sound.stores {loop next : AvailabilityLoop} (here : session.device = .looping loop)
    (first : session.toDevice = message :: rest)
    (carries : resultOf message = some (request, result)) (waiting : awaiting loop = some request)
    (free : awaiting next = none) (kept : next.adapter.requestId = loop.adapter.requestId)
    (loops : next.Sound) :
    Sound value { session with
      device := .looping next
      toDevice := rest
      results := session.results ++ [(request, result)] } := by
  have looping := sound.attends
  rw [Attends, here] at looping
  have numbered : next.adapter.requestId = session.requests.length := kept ▸ looping.numbered
  obtain ⟨earlier, requests, stored⟩ := looping.waiting request waiting
  have settled : session.requests.length = (session.results ++ [(request, result)]).length := by
    rw [requests, List.length_append, List.length_append, stored]
    rfl
  refine { sound with
    stream := ?_, arrived := ?_, outstanding := settled.le.trans (Nat.le_succ _),
    attends := { looping with
      sound := loops, numbered := numbered, free := fun _ => settled,
      waiting := fun other waits => ?_ } }
  · rw [sound.stream, first, List.filterMap_cons, carries, List.append_assoc]
    rfl
  · exact fun other there => sound.arrived (first ▸ List.mem_cons_of_mem _ there)
  · rw [free] at waits
    cases waits

/-- A message without a result is taken off the stream. -/
theorem Sound.takes (first : session.toDevice = message :: rest)
    (carries : resultOf message = none) : Sound value { session with toDevice := rest } := by
  have attends : Attends { session with toDevice := rest } := by
    have attends := sound.attends
    unfold Attends at attends ⊢
    dsimp only
    split at attends
    · exact { attends with }
    · exact attends
  refine { sound with stream := ?_, arrived := ?_, attends := attends }
  · rw [sound.stream, first, List.filterMap_cons, carries]
  · exact fun other there => sound.arrived (first ▸ List.mem_cons_of_mem _ there)

/-- A step of the loop that reads no result. -/
theorem Sound.turn (here : session.device = .looping loop) {input : LoopInput} {last : List Message}
    (link : LinkFailure.protocol ∉ losses input)
    (closing : ∀ message ∈ last, isClose message = true)
    (plain : ∀ message unwritten, input = .received (.ok message) unwritten → message = .ping)
    (moved : session.turn loop input last = some after) : Sound value after := by
  have looping := sound.attends
  rw [Attends, here] at looping
  unfold AvailabilitySession.turn at moved
  cases stepped : loop.step input with
  | none =>
      rw [stepped] at moved
      cases moved
  | some result =>
      have turns := turns_of_step looping.sound link stepped
      have answers := AvailabilityLoop.step_answers looping.sound stepped
      rw [stepped] at moved
      cases turns with
      | stops other =>
          cases moved
          exact sound.ends fun same => absurd (Except.error.inj same) other
      | exhausts full =>
          cases moved
          exact sound.ends fun _ => looping.numbered ▸ full
      | refuses unexpected => exact absurd (.inl (plain _ _ rfl)) unexpected
      | asks free waits numbered fits asking saying =>
          have next := sound.asks here free waits numbered fits answers.2.2
          rw [← saying, ← asking] at next
          cases moved
          exact next
      | pongs =>
          cases moved
          have next := sound.pongs here
          simp only [said, asked, List.append_nil, ← here]
          exact next
      | stores waiting free kept => cases plain _ _ rfl
      | waits before after kept =>
          cases moved
          have next := sound.waits here before after kept answers.2.2
          simp only [said, asked, List.map_nil, List.append_nil]
          exact next
      | closes free =>
          cases moved
          exact sound.closes closing

omit sound in
/-- The loop does not fail on the answer that it waits for. -/
theorem fails_of_awaiting {answerId : UInt32}
    (waits : awaiting loop = some (answerId.toNat, operation)) (result : AvailabilityResult)
    (unwritten : Option LinkFailure) :
    loop.fails (.received (.ok (.availabilityResult answerId operation result)) unwritten) =
      false := by
  unfold awaiting at waits
  split at waits
  · rename_i phase
    cases waits
    simp [AvailabilityLoop.fails, phase]
  · cases waits

/-- The device takes the next message off the stream. -/
theorem Sound.receives (here : session.device = .looping loop)
    (first : session.toDevice = message :: rest) {unwritten : Option LinkLoss}
    (moved : AvailabilitySession.turn { session with toDevice := rest } loop
      (.received (.ok message) (unwritten.map Subtype.val)) [] = some after) :
    Sound value after := by
  have looping := sound.attends
  rw [Attends, here] at looping
  have link : LinkFailure.protocol ∉
      losses (.received (.ok message) (unwritten.map Subtype.val)) := by
    cases unwritten with
    | none => exact List.not_mem_nil
    | some loss => exact fun there => loss.2 (List.mem_singleton.mp there).symm
  have expected := sound.expected looping first
  rcases id expected with rfl | ⟨answerId, operation, result, waits, rfl⟩
  · refine (sound.takes first rfl).turn here link
      (fun _ none => absurd none List.not_mem_nil) ?_ moved
    intro other unwritten same
    cases same
    rfl
  · have fine := fails_of_awaiting waits result (unwritten.map Subtype.val)
    unfold AvailabilitySession.turn at moved
    generalize taken : LoopInput.received (.ok (.availabilityResult answerId operation result))
      (unwritten.map Subtype.val) = input at moved link fine
    cases stepped : loop.step input with
    | none =>
        rw [stepped] at moved
        cases moved
    | some outcome =>
        have turns := turns_of_step looping.sound link stepped
        have answers := AvailabilityLoop.step_answers looping.sound stepped
        rw [stepped] at moved
        cases turns with
        | stops other => rw [answers.1] at fine; cases fine
        | exhausts full => rw [answers.1] at fine; cases fine
        | refuses unexpected => rw [answers.1] at fine; cases fine
        | asks free _ numbered fits asking saying =>
            subst taken
            cases asking
        | pongs => cases taken
        | stores waiting free kept =>
            cases taken
            cases moved
            exact sound.stores here first rfl waiting free kept answers.2.2
        | waits before after kept => cases taken
        | closes free => cases taken

/-! ## The steps of the host -/

omit sound in
theorem Looping.withHost (looping : Looping session loop)
    (unasked : host.log.filterMap SessionEvent.requestedReason =
      session.host.log.filterMap SessionEvent.requestedReason) :
    Looping { session with host := host, toDevice := toDevice } loop :=
  { looping with unasked := unasked.trans looping.unasked }

omit sound in
theorem Attends.withHost (attends : Attends session)
    (unasked : host.log.filterMap SessionEvent.requestedReason =
      session.host.log.filterMap SessionEvent.requestedReason) :
    Attends { session with host := host, toDevice := toDevice } := by
  unfold Attends at attends ⊢
  dsimp only
  split at attends
  · exact attends.withHost unasked
  · exact attends

/-- A host that reads and writes no message. -/
theorem Sound.stays (reachable : Session.machine.Reachable host)
    (capabilities : host.capabilities = session.host.capabilities)
    (last : host.lastRequestId = session.host.lastRequestId)
    (applications : host.applications = session.host.applications)
    (enqueued : host.enqueued = session.host.enqueued)
    (writes : SessionEvent.writes host.log = SessionEvent.writes session.host.log)
    (speaks : Speaks host) (trusting : Trusting host)
    (attends : Attends { session with host := host }) :
    Sound value { session with host := host } where
  reachable := reachable
  capabilities := by rw [capabilities, last]; exact sound.capabilities
  speaks := speaks
  trusting := trusting
  backlog := by
    rw [Backlog, Session.responsesWritten, writes, enqueued, applications]
    exact sound.backlog
  numbered := sound.numbered
  accepted := last ▸ sound.accepted
  unread := last ▸ sound.unread
  polite := sound.polite
  answered := enqueued ▸ sound.answered
  stream := writes ▸ sound.stream
  arrived := writes ▸ sound.arrived
  outstanding := sound.outstanding
  attends := attends

/-- A step of the reader that takes no message. -/
theorem Sound.keeps (reachable : Session.machine.Reachable host) (keeps : Keeps session.host host)
    (trusting : Trusting host) : Sound value { session with host := host } := by
  have enqueued : host.enqueued = session.host.enqueued := by
    rw [Session.enqueued, keeps.log, Session.enqueued]
  exact sound.stays reachable keeps.capabilities keeps.lastRequestId keeps.applications enqueued
    (by rw [keeps.log]) (sound.speaks.keeps keeps) trusting
    (sound.attends.withHost (by rw [keeps.log]))

/-- No response waits in the channel when the device asks again. -/
theorem Sound.caught_up (inside : session.host.reader.InLoop)
    (more : session.host.lastRequestId.toNat < session.requests.length) :
    session.host.applications.messages = [] := by
  have all := (length_enqueued sound.flow).2 inside
  have outstanding := sound.outstanding
  have stored := sound.results_le
  have backlog := sound.backlog
  rw [Backlog] at backlog
  exact List.eq_nil_of_length_eq_zero (by omega)

/-- The queue of a writer that goes on has room for a response. -/
theorem Sound.room (going : ¬session.host.writer.Ended) :
    session.host.queue.application.length < 8 := by
  have kept := congrArg List.length (sound.flow.kept going)
  have fewer := (length_enqueued sound.flow).1.trans sound.accepted
  have outstanding := sound.outstanding
  have stored := sound.results_le
  rw [List.length_append, Session.held, List.length_append, List.length_append] at kept
  omega

/-- The request that the host reads next is the one after the last that it accepted. -/
theorem Sound.next_request
    (first : session.toHost = .readAvailability requestId operation :: rest) :
    requestId.toNat = session.host.lastRequestId.toNat + 1 ∧
    ∃ earlier, earlier.length = session.host.lastRequestId.toNat ∧
      session.requests = earlier ++ (requestId.toNat, operation) :: rest.filterMap requestOf := by
  have unread := sound.unread
  rw [first, List.filterMap_cons] at unread
  dsimp only [requestOf] at unread
  have whole := (List.take_append_drop session.host.lastRequestId.toNat session.requests).symm
  rw [← unread] at whole
  have earlier := List.length_take_of_le sound.accepted
  refine ⟨?_, _, earlier, whole⟩
  have numbered := sound.numbered
  rw [whole, List.map_append, List.map_cons] at numbered
  have here := congrArg (·[session.host.lastRequestId.toNat]?) numbered
  dsimp only at here
  rw [List.getElem?_append_right (by rw [List.length_map, earlier]), List.length_map, earlier,
    Nat.sub_self, List.getElem?_cons_zero, List.getElem?_range' (by simp [earlier])] at here
  have same := Option.some.inj here
  omega

/-- What a request that is accepted leaves as it is. -/
theorem Sound.accepts (first : session.toHost = .readAvailability requestId operation :: rest)
    (reachable : Session.machine.Reachable host)
    (capabilities : ∃ issued, host.capabilities = ⟨.ready, hostAvailability value, issued⟩ ∧
      issued ≤ session.host.lastRequestId.toNat + 1) (trusting : Trusting host)
    (backlog : Backlog host) (last : host.lastRequestId = requestId)
    (queue : host.queue = session.host.queue) (controls : host.controls = session.host.controls)
    (writer : host.writer = session.host.writer)
    (log : SessionEvent.writes host.log = SessionEvent.writes session.host.log)
    (unasked : host.log.filterMap SessionEvent.requestedReason =
      session.host.log.filterMap SessionEvent.requestedReason)
    (answered : host.enqueued.filterMap resultOf =
      (session.requests.take host.enqueued.length).map (found value)) :
    Sound value { session with host := host, toHost := rest } := by
  obtain ⟨next, earlier, before, whole⟩ := sound.next_request first
  have attends : Attends { session with host := host, toHost := rest } := by
    have attends := sound.attends
    unfold Attends at attends ⊢
    dsimp only
    split at attends
    · refine { attends with
        unclosed := fun message there => attends.unclosed message ?_,
        unasked := unasked.trans attends.unasked }
      rw [first]
      exact List.mem_cons_of_mem _ there
    · exact attends
  refine { sound with
    reachable := reachable, capabilities := ?_, speaks := ?_, trusting := trusting,
    backlog := backlog, accepted := ?_, unread := ?_, polite := ?_, answered := answered,
    stream := ?_, arrived := ?_, attends := attends }
  · dsimp only
    rw [last, next]
    exact capabilities
  · refine ⟨?_, ?_, ?_, ?_⟩
    · rw [queue]
      exact sound.speaks.unponged
    · rw [controls]
      exact sound.speaks.unasked
    · rw [writer]
      exact sound.speaks.hand
    · rw [log]
      exact sound.speaks.written
  · dsimp only
    rw [last, next, whole, List.length_append, List.length_cons, before]
    omega
  · dsimp only
    rw [last, next, whole, ← before, List.drop_append]
    simp
  · exact fun message there => sound.polite message (first ▸ List.mem_cons_of_mem _ there)
  · dsimp only
    rw [log]
    exact sound.stream
  · dsimp only
    rw [log]
    exact sound.arrived

/-- The host takes the next request off the stream. -/
theorem Sound.reads_request (reading : session.host.reader = .reading)
    (first : session.toHost = .readAvailability requestId operation :: rest)
    (reachable : Session.machine.Reachable
      (session.host.readAvailability paired requestId operation)) :
    Sound value { session with
      host := session.host.readAvailability paired requestId operation, toHost := rest } := by
  have inside : session.host.reader.InLoop := .inl reading
  obtain ⟨next, earlier, before, whole⟩ := sound.next_request first
  obtain ⟨issued, ready, few⟩ := sound.capabilities
  have more : session.host.lastRequestId.toNat < session.requests.length := by
    rw [whole, List.length_append, List.length_cons, before]
    omega
  have left : issued < Checked.u64Max := by
    have fits := session.host.lastRequestId.toNat_lt
    simp only [Checked.u64Max]
    omega
  have empty := sound.caught_up inside more
  have all := (length_enqueued sound.flow).2 inside
  have log : ∀ events, SessionEvent.writes events = [] →
      SessionEvent.writes (session.host.log ++ events) = SessionEvent.writes session.host.log := by
    intro events none
    rw [SessionEvent.writes_append, none, List.append_nil]
  have unasked : ∀ events, events.filterMap SessionEvent.requestedReason = [] →
      (session.host.log ++ events).filterMap SessionEvent.requestedReason =
        session.host.log.filterMap SessionEvent.requestedReason := by
    intro events none
    rw [List.filterMap_append, none, List.append_nil]
  have refused : ∀ {capabilities : HostCapabilities} {error : SessionError} (host : Session),
      host = { session.host with
        lastRequestId := requestId
        capabilities := capabilities
        log := session.host.log ++ [.accepted requestId]
        reader := .failed error } →
      Backlog host ∧ host.enqueued.filterMap resultOf =
        (session.requests.take host.enqueued.length).map (found value) := by
    rintro capabilities error host rfl
    have enqueued : (session.host.log ++ [SessionEvent.accepted requestId]).filterMap
        SessionEvent.enqueuedResponse = session.host.enqueued :=
      List.filterMap_concat_of_none rfl _
    rw [Backlog, Session.responsesWritten, Session.enqueued]
    dsimp only
    rw [enqueued, log _ rfl]
    exact ⟨sound.backlog, sound.answered⟩
  rcases readAvailability_cases paired operation next ready left empty with ⟨read, -⟩ |
    ⟨read, gone⟩ | ⟨applications, sent, read⟩
  · obtain ⟨backlog, answered⟩ := refused _ read
    rw [read] at reachable backlog answered ⊢
    refine sound.accepts first reachable ⟨issued, ready, by omega⟩ ?_ backlog rfl rfl rfl rfl
      (log _ rfl) (unasked _ rfl) answered
    refine ⟨sound.trusting.failure, sound.trusting.writer, fun error left => ?_⟩
    cases left
    refine ⟨fun same => ?_, fun same => ?_⟩ <;> cases same
  · obtain ⟨backlog, answered⟩ := refused _ read
    rw [read] at reachable backlog answered ⊢
    refine sound.accepts first reachable ⟨issued + 1, rfl, by omega⟩ ?_ backlog rfl rfl rfl rfl
      (log _ rfl) (unasked _ rfl) answered
    refine ⟨sound.trusting.failure, sound.trusting.writer, fun error left => ⟨?_, fun _ => ?_⟩⟩
    · cases left
      intro same
      cases same
    · have stopped := (Session.order_of_writes sound.reachable).1.stopped
      unfold Session.disconnected at gone
      split at gone
      · rename_i result here
        cases result with
        | ok done => exact absurd inside (stopped (by rw [here]; exact trivial))
        | error cause => exact ⟨cause, here⟩
      · cases gone
  · have enqueued : (session.host.log ++ [SessionEvent.accepted requestId,
        .enqueued (.availabilityResult requestId operation value)]).filterMap
        SessionEvent.enqueuedResponse =
        session.host.enqueued ++ [.availabilityResult requestId operation value] :=
      List.filterMap_append
    rw [read] at reachable ⊢
    refine sound.accepts first reachable ⟨issued + 1, rfl, by omega⟩ ?_ ?_ rfl rfl rfl rfl
      (log _ rfl) (unasked _ rfl) ?_
    · refine ⟨sound.trusting.failure, sound.trusting.writer, fun error left => ?_⟩
      cases left
    · have fewer := sound.flow.fifo.length_le
      rw [Backlog, Session.responsesWritten, Session.enqueued]
      dsimp only
      rw [enqueued, log _ rfl, sent, List.length_append]
      exact Nat.add_le_add_right fewer 1
    · rw [Session.enqueued]
      dsimp only
      have upTo : session.requests.take (session.host.enqueued.length + 1) =
          session.requests.take session.host.enqueued.length ++ [(requestId.toNat, operation)] := by
        rw [whole, all, ← before, List.take_append, List.take_append]
        simp
      rw [enqueued, List.filterMap_append, sound.answered, List.length_append,
        List.length_singleton, upTo, List.map_append]
      rfl

/-- The host takes a message that is no request off the stream. -/
theorem Sound.skips (first : session.toHost = message :: rest)
    (carries : requestOf message = none) : Sound value { session with toHost := rest } := by
  have there : ∀ other ∈ rest, other ∈ session.toHost := fun other there =>
    first ▸ List.mem_cons_of_mem _ there
  have attends : Attends { session with toHost := rest } := by
    have attends := sound.attends
    unfold Attends at attends ⊢
    dsimp only
    split at attends
    · exact { attends with unclosed := fun other inside => attends.unclosed other (there _ inside) }
    · exact attends
  refine { sound with unread := ?_, polite := ?_, attends := attends }
  · have unread := sound.unread
    rwa [first, List.filterMap_cons, carries] at unread
  · exact fun other inside => sound.polite other (there _ inside)

/-- The host is asked to close, by a device that has left its loop. -/
theorem Sound.closed {reason : CloseReason} (reachable : Session.machine.Reachable host)
    (left : ∀ loop, session.device ≠ .looping loop) (asked : host = { session.host with
      close := some reason
      log := session.host.log ++ [.closeRequested reason]
      reader := .joining }) : Sound value { session with host := host } := by
  subst asked
  have enqueued : (session.host.log ++ [SessionEvent.closeRequested reason]).filterMap
      SessionEvent.enqueuedResponse = session.host.enqueued :=
    List.filterMap_concat_of_none rfl _
  have writes : SessionEvent.writes (session.host.log ++ [.closeRequested reason]) =
      SessionEvent.writes session.host.log := List.filterMap_concat_of_none rfl _
  have attends := sound.attends
  refine sound.stays reachable rfl rfl rfl enqueued writes
    { sound.speaks with written := by rw [writes]; exact sound.speaks.written }
    { sound.trusting with reader := nofun } ?_
  unfold Attends at attends ⊢
  dsimp only
  split
  · rename_i loop here
    exact absurd here (left loop)
  · rename_i result here
    rw [here] at attends
    exact attends

/-- The host takes the next message off the stream. -/
theorem Sound.reads (reading : session.host.reader = .reading)
    (first : session.toHost = message :: rest)
    (reachable : Session.machine.Reachable (session.host.handle paired message)) :
    Sound value { session with host := session.host.handle paired message, toHost := rest } := by
  rcases sound.polite message (first ▸ List.mem_cons_self) with request | rfl | close
  · cases message with
    | readAvailability requestId operation => exact sound.reads_request reading first reachable
    | _ => cases request
  · have keeps : Keeps session.host (session.host.handle paired .pong) :=
      ⟨rfl, rfl, rfl, rfl, rfl, rfl, id, List.Subset.refl _⟩
    exact (sound.skips first rfl).keeps reachable keeps (sound.trusting.keeps keeps nofun)
  · have gone : ∀ loop, session.device ≠ .looping loop := by
      intro loop here
      have attends := sound.attends
      rw [Attends, here] at attends
      rw [attends.unclosed message (first ▸ List.mem_cons_self)] at close
      cases close
    cases message with
    | close reason => exact (sound.skips first rfl).closed reachable gone rfl
    | _ => cases close

/-- A step of the writer. -/
theorem Sound.writes {answers : Answers}
    (sent : ∀ error, answers.sent = .error error → Outside error)
    (moved : session.host.writerStep answers = some host) {messages : List Message}
    (log : host.log = session.host.log ++ messages.map SessionEvent.written) :
    Sound value { session with host := host, toDevice := session.toDevice ++ messages } := by
  have move := Session.writerStep_move moved
  have takes := writerStep_takes sent sound.room moved
  obtain ⟨reader, last, capabilities⟩ : host.reader = session.host.reader ∧
      host.lastRequestId = session.host.lastRequestId ∧
      host.capabilities = session.host.capabilities := by
    cases move <;> exact ⟨rfl, rfl, rfl⟩
  have silent : ∀ {β : Type} (f : SessionEvent → Option β),
      (∀ message, f (.written message) = none) →
      host.log.filterMap f = session.host.log.filterMap f := by
    intro β f none
    have gone : (messages.map SessionEvent.written).filterMap f = [] := by
      rw [List.filterMap_map]
      exact List.filterMap_eq_nil_iff.mpr fun message _ => none message
    rw [log, List.filterMap_append, gone, List.append_nil]
  have enqueued : host.enqueued = session.host.enqueued := silent _ fun _ => rfl
  have unasked := silent SessionEvent.requestedReason fun _ => rfl
  have writes : SessionEvent.writes host.log =
      SessionEvent.writes session.host.log ++ messages := by
    rw [log, SessionEvent.writes_append, SessionEvent.writes, SessionEvent.writes,
      List.filterMap_map]
    exact congrArg _ List.filterMap_some
  refine { sound with
    reachable := sound.reachable.next (a := .writer answers) moved, capabilities := ?_,
    speaks := sound.speaks.writer sound.flow move,
    trusting := sound.trusting.writer_step takes reader,
    backlog := sound.backlog.writer sound.flow takes move, accepted := ?_, unread := ?_,
    answered := ?_, stream := ?_, arrived := ?_, attends := sound.attends.withHost unasked }
  · dsimp only
    rw [capabilities, last]
    exact sound.capabilities
  · dsimp only
    rw [last]
    exact sound.accepted
  · dsimp only
    rw [last]
    exact sound.unread
  · dsimp only
    rw [enqueued]
    exact sound.answered
  · dsimp only
    rw [writes, List.filterMap_append, sound.stream, List.filterMap_append, List.append_assoc]
  · dsimp only
    rw [writes]
    exact List.append_subset.mpr
      ⟨fun message there => List.mem_append_left _ (sound.arrived there),
        List.subset_append_right _ _⟩

omit sound in
/-- What a step of the writer adds to the log is what it puts on the stream. -/
theorem writerStep_log {host next : Session} (lost : Option StreamLoss) {answers : Answers}
    (sent : answers.sent = match lost with
      | none => .ok ()
      | some error => .error error.1)
    (moved : host.writerStep answers = some next) :
    next.log = host.log ++ (AvailabilitySession.sentBy host.writer lost).map .written := by
  have move := Session.writerStep_move moved
  cases here : host.writer with
  | sending message =>
      simp only [Session.writerStep, here, sent] at moved
      cases lost with
      | none =>
          cases moved
          rfl
      | some error =>
          cases moved
          exact (List.append_nil _).symm
  | _ =>
      cases move with
      | wrote there =>
          rw [here] at there
          cases there
      | _ => exact (List.append_nil _).symm

/-! ## Every run -/

theorem Sound.reader_step {lost : Option StreamLoss}
    (moved : session.readerStep lost paired = some after) : Sound value after := by
  have quiet : ∀ {answers : Answers} {host : Session},
      (session.host.reader = .reading → ∃ error, answers.read = .error error ∧ Outside error) →
      session.host.readerStep answers = some host → Sound value { session with host := host } := by
    intro answers host read stepped
    obtain ⟨keeps, trusting⟩ := readerStep_keeps sound.trusting read stepped
    exact sound.keeps (sound.reachable.next (a := .reader answers) stepped) keeps trusting
  unfold AvailabilitySession.readerStep at moved
  split at moved
  · rename_i error
    obtain ⟨host, stepped, rfl⟩ := Option.map_eq_some_iff.mp moved
    exact quiet (fun _ => ⟨error.1, rfl, error.2⟩) stepped
  · cases moved
  · rename_i message rest reading first
    obtain ⟨host, stepped, rfl⟩ := Option.map_eq_some_iff.mp moved
    have reachable : Session.machine.Reachable host :=
      sound.reachable.next (a := .reader ⟨.ok message, paired, false, .ok ()⟩) stepped
    simp only [Session.readerStep, reading] at stepped
    cases stepped
    exact sound.reads reading first reachable
  · rename_i elsewhere busy
    obtain ⟨host, stepped, rfl⟩ := Option.map_eq_some_iff.mp moved
    refine quiet (fun reading => ?_) stepped
    cases there : session.toHost with
    | nil => exact absurd there (elsewhere reading)
    | cons message rest => exact (busy message rest reading there).elim

theorem Sound.step {input : SessionInput} (moved : session.step input = some after) :
    Sound value after := by
  unfold AvailabilitySession.step at moved
  split at moved
  · exact sound.reader_step moved
  · rename_i lost paired idle
    obtain ⟨host, stepped, rfl⟩ := Option.map_eq_some_iff.mp moved
    refine sound.writes ?_ stepped (writerStep_log lost rfl stepped)
    intro error lostHere
    split at lostHere
    · cases lostHere
    · rename_i error
      cases lostHere
      exact error.2
  · cases moved
  · rename_i loop poll operation unwritten here
    refine sound.turn here ?_ (fun _ none => absurd none List.not_mem_nil)
      (fun _ _ other => by cases other) moved
    cases unwritten with
    | none => exact List.not_mem_nil
    | some loss => exact fun there => loss.2 (List.mem_singleton.mp there).symm
  · rename_i loop unwritten here
    split at moved
    · cases moved
    · rename_i first
      exact sound.receives here first moved
  · rename_i loop loss here
    refine sound.turn here ?_ (fun _ none => absurd none List.not_mem_nil)
      (fun _ _ other => by cases other) moved
    exact fun there => loss.2 (List.mem_singleton.mp there).symm
  · rename_i loop poll action written here
    refine sound.turn here List.not_mem_nil ?_ (fun _ _ other => by cases other) moved
    unfold farewell
    split
    · rintro message there
      rw [List.mem_singleton.mp there]
      rfl
    · exact fun _ none => absurd none List.not_mem_nil

end

theorem sound_start (generation : ℕ) (value : AvailabilityResult) {context : ContextId}
    (started : AvailabilityLoop.start context = .ok loop) :
    Sound value (AvailabilitySession.start generation value loop) := by
  obtain ⟨first, begun, loops⟩ := AvailabilityLoop.start_sound context
  rw [started] at begun
  cases begun
  cases started
  exact {
    reachable := ⟨[], .start ⟨generation, value, rfl⟩⟩
    capabilities := ⟨0, rfl, Nat.zero_le _⟩
    speaks := ⟨rfl, List.not_mem_nil, nofun, fun _ none => absurd none List.not_mem_nil⟩
    trusting := ⟨fun _ none => absurd none List.not_mem_nil, nofun, nofun⟩
    backlog := Nat.le_refl _
    numbered := rfl
    accepted := Nat.le_refl _
    unread := rfl
    polite := fun _ none => absurd none List.not_mem_nil
    answered := rfl
    stream := rfl
    arrived := List.Subset.refl _
    outstanding := Nat.zero_le _
    attends := ⟨loops, rfl, fun _ => rfl, nofun,
      fun _ none => absurd none List.not_mem_nil, rfl⟩ }

theorem sound_of_reachable {generation : ℕ}
    (reachable : (AvailabilitySession.machine generation value).Reachable session) :
    Sound value session := by
  refine reachable.invariant (P := Sound value) ?_ ?_
  · rintro _ ⟨context, loop, started, rfl⟩
    exact sound_start generation value started
  · intro before label next sound moved
    exact sound.step moved

end Steps

/-- What the two ends can rely on. -/
structure Conversation (value : AvailabilityResult) (session : AvailabilitySession) : Prop where
  numbered : session.requests.map Prod.fst = List.range' 1 session.requests.length
  answered : session.results = (session.requests.take session.results.length).map (found value)
  outstanding : session.requests.length ≤ session.results.length + 1
  trusted : session.device = .returned (.error .protocol) →
    Checked.u32Max ≤ session.requests.length
  trusting : ∀ error, readerError session.host.reader = some error → error ≠ .protocol ∧
    (error = .queueFull → ∃ cause, session.host.writer = .exited (.error cause))

namespace AvailabilitySession

variable {value : AvailabilityResult} {generation : ℕ} {session : AvailabilitySession}

/-- **The availability session.** Under every interleaving of the loop of the device with the
reader and the writer of the host, and wherever a connection is lost, the device asks for one
number after the other and stores the host's own answers to them, in order, none twice and
none skipped; and neither end blames the other. -/
theorem availability_conversation (reachable : (machine generation value).Reachable session) :
    Conversation value session := by
  have sound := sound_of_reachable reachable
  refine ⟨sound.numbered, ?_, sound.outstanding, fun blamed => ?_, sound.trusting.reader⟩
  · have inOrder := (List.prefix_append _ _).trans sound.results_prefix
    rw [List.prefix_iff_eq_take] at inOrder
    rw [← List.map_take] at inOrder
    exact inOrder
  · have attends := sound.attends
    rw [Attends, blamed] at attends
    exact attends rfl

/-- The device asks, the host reads and writes, and the device reads. -/
def oneRead : List SessionInput :=
  [.request none (some (Vector.replicate 16 7)) none, .reader none (some 1),
    .reader none (some 1)] ++ List.replicate 6 (.writer none (some 1) false) ++ [.receive none]

theorem availability_conversation_once : ∃ loop session,
    AvailabilityLoop.start (Vector.replicate 16 0) = .ok loop ∧
    (machine 1 .unavailable).execute (start 1 .unavailable loop) oneRead = some session ∧
    session.results = [((1, Vector.replicate 16 7), .unavailable)] ∧
    Conversation .unavailable session := by
  refine ⟨_, _, rfl, rfl, rfl, ?_⟩
  have reachable := StepSystem.reachable_of_execute (T := machine 1 .unavailable)
    ⟨Vector.replicate 16 0, _, rfl, rfl⟩ oneRead rfl
  exact availability_conversation reachable

end AvailabilitySession

end Deskkin.EndToEnd
