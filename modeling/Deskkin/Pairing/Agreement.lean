/-
# Agreement of the pairing exchange

What a message says is what its sender did before it sent it. A signal of a
script vouches for the durable writes that stand before it in the script, and a
positive decision for the confirmation of the sender's user. A party that reads
the message knows as much, and nothing it learns is ever undone, because the log
only grows. Together with its own progress this decides what a record may say:
pending needs both users, committing needs a pending record on both sides, and
paired on the responder needs paired on the initiator.

The argument holds for every interleaving of several connections, whichever
messages, writes and processes fail. It does not need transactions to be fresh.
-/

import Deskkin.Pairing.Exchange

namespace Deskkin.Pairing

variable {κ τ : Type*}

@[simp]
theorem Role.other_other (role : Role) : role.other.other = role := by
  cases role <;> rfl

/-! ## Places in a script -/

/-- What stands before an action in the script that contains it. -/
def before (role : Role) (action : Action) : List Action :=
  (script role).takeWhile (· ≠ action)

variable {role : Role}

variable {transaction : τ} {signal : Signal} {message : Message τ} {confirmed heard : Bool}
  {progress : Progress τ} {connection : Connection τ} {done rest : List Action}

/-- A script has no action twice, so the rest of a script determines what was
done. -/
theorem done_eq_before {action : Action} (split : done ++ action :: rest = script role) :
    done = before role action := by
  have distinct : (script role).Nodup := by
    cases role <;> decide
  rw [← split, List.nodup_append] at distinct
  have absent : ∀ other ∈ done, (decide (other ≠ action)) = true := by
    intro other member
    have different := distinct.2.2 other member action (List.mem_cons_self)
    simpa using different
  rw [before, ← split, List.takeWhile_append_of_pos absent]
  simp

/-! ## What is known -/

section Knowledge

variable (key : Role → κ) (log : List (Entry κ τ))

def Confirmed (role : Role) (transaction : τ) : Prop :=
  .confirmed role transaction ∈ log

def Stored (role : Role) (transaction : τ) (phase : Phase) : Prop :=
  .stored role (phase.peer (key role.other) transaction) ∈ log

/-- A signal vouches for the writes before it in its sender's script. -/
def Vouches (sender : Role) (transaction : τ) (signal : Signal) : Prop :=
  ∀ phase, .store phase ∈ before sender (.send signal) → Stored key log sender transaction phase

/-- What a message on a connection says about its sender. -/
def Means (sender : Role) (transaction : τ) : Message τ → Prop
  | .pairing signal named => named = transaction ∧ Vouches key log sender transaction signal
  | .pairingDecision named confirmed =>
      named = transaction ∧ (confirmed = true → Confirmed log sender transaction)
  | .hello => Vouches key log sender transaction .hello
  | .helloAck => Vouches key log sender transaction .helloAck
  | .pairingClose _ _ | .helloReject => True

/-- What a party knows after a part of its script. -/
structure Followed (role : Role) (transaction : τ) (confirmed heard : Bool)
    (done : List Action) : Prop where
  asked : .confirm ∈ done → confirmed = true → Confirmed log role transaction
  read : .hear ∈ done → heard = true → Confirmed log role.other transaction
  decided : .decide ∈ done → confirmed = true ∧ heard = true
  stored : ∀ phase, .store phase ∈ done → Stored key log role transaction phase
  expected : ∀ signal, .expect signal ∈ done → Vouches key log role.other transaction signal

def Progresses (role : Role) (transaction : τ) : Progress τ → Prop
  | .running own confirmed heard rest => own = transaction ∧ ∃ done, done ++ rest = script role ∧
      Followed key log role transaction confirmed heard done
  | _ => True

structure Truthful (connection : Connection τ) : Prop where
  progress : ∀ role, Progresses key log role connection.transaction (connection.progress role)
  inbox : ∀ role, ∀ message ∈ connection.inbox role,
    Means key log role.other connection.transaction message

/-- What a record may say. -/
def Supported (role : Role) : PeerState κ τ → Prop
  | .unpaired => True
  | .pending remote transaction =>
      remote = key role.other ∧ ∀ user, Confirmed log user transaction
  | .committing remote transaction =>
      remote = key role.other ∧ ∀ party, Stored key log party transaction .pending
  | .paired remote transaction =>
      remote = key role.other ∧ (∀ party, Stored key log party transaction .pending) ∧
        (role = .responder → Stored key log .initiator transaction .paired)
  | .revoking remote _ => remote = key role.other

end Knowledge

variable {key : Role → κ} {log more : List (Entry κ τ)}

/-! ## The log only grows -/

variable {sender : Role} {peer : PeerState κ τ} {inbox : List (Message τ)}

section

variable (grows : log ⊆ more)
include grows

theorem Vouches.mono (vouches : Vouches key log sender transaction signal) :
    Vouches key more sender transaction signal :=
  fun phase earlier => grows (vouches phase earlier)

theorem Means.mono (means : Means key log sender transaction message) :
    Means key more sender transaction message := by
  cases message with
  | pairing signal named => exact ⟨means.1, means.2.mono grows⟩
  | pairingDecision named confirmed => exact ⟨means.1, fun positive => grows (means.2 positive)⟩
  | pairingClose => trivial
  | hello => exact Vouches.mono grows means
  | helloAck => exact Vouches.mono grows means
  | helloReject => trivial

theorem Followed.mono {done : List Action}
    (followed : Followed key log role transaction confirmed heard done) :
    Followed key more role transaction confirmed heard done where
  asked done positive := grows (followed.asked done positive)
  read done positive := grows (followed.read done positive)
  decided := followed.decided
  stored phase written := grows (followed.stored phase written)
  expected signal read := (followed.expected signal read).mono grows

theorem Progresses.mono (progresses : Progresses key log role transaction progress) :
    Progresses key more role transaction progress := by
  cases progress with
  | running own confirmed heard rest =>
      obtain ⟨same, done, split, followed⟩ := progresses
      exact ⟨same, done, split, followed.mono grows⟩
  | _ => trivial

theorem Truthful.mono (truthful : Truthful key log connection) : Truthful key more connection where
  progress role := (truthful.progress role).mono grows
  inbox role message member := (truthful.inbox role message member).mono grows

theorem Supported.mono (supported : Supported key log role peer) :
    Supported key more role peer := by
  cases peer with
  | unpaired => trivial
  | pending => exact ⟨supported.1, fun user => grows (supported.2 user)⟩
  | committing => exact ⟨supported.1, fun party => grows (supported.2 party)⟩
  | paired =>
      exact ⟨supported.1, fun party => grows (supported.2.1 party),
        fun responder => grows (supported.2.2 responder)⟩
  | revoking => exact supported

/-! ## Changes of a connection -/

end

section

variable (truthful : Truthful key log connection)
include truthful

theorem Truthful.setProgress
    (progresses : Progresses key log role connection.transaction progress) :
    Truthful key log (connection.setProgress role progress) where
  progress other := by
    by_cases same : other = role
    · subst same
      simpa [Connection.setProgress] using progresses
    · simpa [Connection.setProgress, same] using truthful.progress other
  inbox := truthful.inbox

theorem Truthful.push (means : Means key log role connection.transaction message) :
    Truthful key log (connection.push role message) where
  progress := truthful.progress
  inbox reader message member := by
    by_cases same : reader = role.other
    · subst same
      simp only [Connection.push, if_true, List.mem_append, List.mem_singleton] at member
      rcases member with member | rfl
      · exact truthful.inbox _ _ member
      · rw [Role.other_other]
        exact means
    · simp only [Connection.push, same, if_false] at member
      exact truthful.inbox _ _ member

/-- Reading takes the first message of an inbox. -/
theorem Truthful.setInbox (first : connection.inbox role = message :: inbox) :
    Truthful key log (connection.setInbox role inbox) where
  progress := truthful.progress
  inbox reader message member := by
    by_cases same : reader = role
    · subst same
      simp only [Connection.setInbox, if_true] at member
      apply truthful.inbox
      rw [first]
      exact List.mem_cons_of_mem _ member
    · simp only [Connection.setInbox, same, if_false] at member
      exact truthful.inbox _ _ member

theorem Truthful.read (first : connection.inbox role = message :: inbox) :
    Means key log role.other connection.transaction message := by
  apply truthful.inbox
  rw [first]
  exact List.mem_cons_self

/-! ## Progress along a script -/

end

/-- One more action is done. -/
theorem Followed.concat {done : List Action}
    (followed : Followed key log role transaction confirmed heard done) (action : Action)
    (asked : action = .confirm → confirmed = true → Confirmed log role transaction)
    (read : action = .hear → heard = true → Confirmed log role.other transaction)
    (decided : action = .decide → confirmed = true ∧ heard = true)
    (stored : ∀ phase, action = .store phase → Stored key log role transaction phase)
    (expected : ∀ signal, action = .expect signal →
      Vouches key log role.other transaction signal) :
    Followed key log role transaction confirmed heard (done ++ [action]) where
  asked member := by
    rcases List.mem_append.mp member with earlier | now
    · exact followed.asked earlier
    · exact asked (List.mem_singleton.mp now).symm
  read member := by
    rcases List.mem_append.mp member with earlier | now
    · exact followed.read earlier
    · exact read (List.mem_singleton.mp now).symm
  decided member := by
    rcases List.mem_append.mp member with earlier | now
    · exact followed.decided earlier
    · exact decided (List.mem_singleton.mp now).symm
  stored phase member := by
    rcases List.mem_append.mp member with earlier | now
    · exact followed.stored phase earlier
    · exact stored phase (List.mem_singleton.mp now).symm
  expected signal member := by
    rcases List.mem_append.mp member with earlier | now
    · exact followed.expected signal earlier
    · exact expected signal (List.mem_singleton.mp now).symm

/-- The progress after one more action. -/
theorem Followed.advances {action : Action}
    (followed : Followed key log role transaction confirmed heard (done ++ [action]))
    (split : done ++ action :: rest = script role) :
    Progresses key log role transaction (.running transaction confirmed heard rest) :=
  ⟨rfl, done ++ [action], by rw [← split]; simp, followed⟩

section

variable (followed : Followed key log role transaction confirmed heard done)
include followed

/-- A write or a message without a fact of its own is one more action. -/
theorem Followed.advances_send (split : done ++ .send signal :: rest = script role) :
    Progresses key log role transaction (.running transaction confirmed heard rest) :=
  (followed.concat (.send signal) nofun nofun nofun nofun nofun).advances split

/-- Before the user is asked nothing relies on the answer. -/
theorem Followed.unasked (split : done ++ .confirm :: rest = script role) (answer : Bool) :
    Followed key log role transaction answer heard done := by
  have place := done_eq_before split
  have unasked : .confirm ∉ done := by
    rw [place]
    cases role <;> decide
  have undecided : .decide ∉ done := by
    rw [place]
    cases role <;> decide
  exact ⟨fun h => absurd h unasked, followed.read, fun h => absurd h undecided, followed.stored,
    followed.expected⟩

theorem Followed.advances_confirm (positive : confirmed = true → Confirmed log role transaction)
    (split : done ++ .confirm :: rest = script role) :
    Progresses key log role transaction (.running transaction confirmed heard rest) :=
  (followed.concat .confirm (fun _ => positive) nofun nofun nofun nofun).advances split

theorem Followed.advances_decide (both : confirmed = true ∧ heard = true)
    (split : done ++ .decide :: rest = script role) :
    Progresses key log role transaction (.running transaction confirmed heard rest) :=
  (followed.concat .decide nofun nofun (fun _ => both) nofun nofun).advances split

theorem Followed.advances_store {phase : Phase} (stored : Stored key log role transaction phase)
    (split : done ++ .store phase :: rest = script role) :
    Progresses key log role transaction (.running transaction confirmed heard rest) :=
  (followed.concat (.store phase) nofun nofun nofun
    (fun _ same => Action.store.inj same ▸ stored) nofun).advances split

theorem Followed.advances_expect (vouches : Vouches key log role.other transaction signal)
    (split : done ++ .expect signal :: rest = script role) :
    Progresses key log role transaction (.running transaction confirmed heard rest) :=
  (followed.concat (.expect signal) nofun nofun nofun nofun
    fun _ same => Action.expect.inj same ▸ vouches).advances split

/-- What stands before a signal is done when it is sent. -/
theorem Followed.vouches (split : done ++ .send signal :: rest = script role) :
    Vouches key log role transaction signal := by
  intro phase earlier
  rw [← done_eq_before split] at earlier
  exact followed.stored phase earlier

omit followed in
/-- A signal means what it vouches for. -/
theorem means_message (vouches : Vouches key log sender transaction signal) :
    Means key log sender transaction (signal.message transaction) := by
  cases signal with
  | hello => exact vouches
  | helloAck => exact vouches
  | _ => exact ⟨rfl, vouches⟩

omit followed in
theorem vouches_of_message (means : Means key log sender transaction (signal.message transaction)) :
    Vouches key log sender transaction signal := by
  cases signal with
  | hello => exact means
  | helloAck => exact means
  | _ => exact means.2

/-- Reading the remote decision. -/
theorem Followed.afterDecision [DecidableEq τ] (kind : InitiatorKind)
    (split : done ++ .hear :: rest = script role)
    (means : Means key log role.other transaction message) :
    Progresses key log role transaction
      (System.afterDecision kind role transaction confirmed rest message) := by
  have place := done_eq_before split
  have unread : .hear ∉ done := by
    rw [place]
    cases role <;> decide
  unfold System.afterDecision
  split
  · -- The other user has confirmed.
    rename_i positive
    subst positive
    have reset : Followed key log role transaction confirmed true done :=
      ⟨followed.asked, fun h => absurd h unread, fun h => ⟨(followed.decided h).1, rfl⟩,
        followed.stored, followed.expected⟩
    exact (reset.concat .hear nofun (fun _ _ => means.2 rfl) nofun nofun nofun).advances split
  · split
    · rename_i negative
      obtain ⟨rfl, _⟩ := negative
      have undecided : .decide ∉ done := by
        rw [place]
        decide
      have reset : Followed key log .initiator transaction confirmed false done :=
        ⟨followed.asked, fun h => absurd h unread, fun h => absurd h undecided, followed.stored,
          followed.expected⟩
      exact (reset.concat .hear nofun (fun _ => nofun) nofun nofun nofun).advances split
    · trivial

/-! ## What the writes rest on -/

/-- When a party writes pending, both users have confirmed. -/
theorem Followed.supports_pending (split : done ++ .store .pending :: rest = script role) :
    ∀ user, Confirmed log user transaction := by
  have place := done_eq_before split
  have asked : .confirm ∈ done := by
    rw [place]
    cases role <;> decide
  have read : .hear ∈ done := by
    rw [place]
    cases role <;> decide
  have decided : .decide ∈ done := by
    rw [place]
    cases role <;> decide
  obtain ⟨positive, heard⟩ := followed.decided decided
  have own := followed.asked asked positive
  have remote := followed.read read heard
  intro user
  cases role <;> cases user
  · exact own
  · exact remote
  · exact remote
  · exact own

end

/-- The signal from which a party learns that the other one has written pending. -/
def pendingSignal : Role → Signal
  | .initiator => .committed
  | .responder => .commit

/-- A party that has written pending and read that signal knows of both. -/
theorem Followed.both_pending {done : List Action}
    (followed : Followed key log role transaction confirmed heard done)
    (written : .store .pending ∈ done) (learned : .expect (pendingSignal role) ∈ done) :
    ∀ party, Stored key log party transaction .pending := by
  have own := followed.stored .pending written
  have remote : Stored key log role.other transaction .pending := by
    apply followed.expected _ learned
    cases role <;> decide
  intro party
  cases role <;> cases party
  · exact own
  · exact remote
  · exact remote
  · exact own

section

variable (followed : Followed key log role transaction confirmed heard done)
include followed

/-- When a party writes committing, both have written pending. -/
theorem Followed.supports_committing (split : done ++ .store .committing :: rest = script role) :
    ∀ party, Stored key log party transaction .pending := by
  have place := done_eq_before split
  apply followed.both_pending
  · rw [place]
    cases role <;> decide
  · rw [place]
    cases role <;> decide

/-- When a party writes paired, both have written pending, and for the responder
the initiator has written paired. -/
theorem Followed.supports_paired (split : done ++ .store .paired :: rest = script role) :
    (∀ party, Stored key log party transaction .pending) ∧
      (role = .responder → Stored key log .initiator transaction .paired) := by
  have place := done_eq_before split
  refine ⟨?_, ?_⟩
  · apply followed.both_pending
    · rw [place]
      cases role <;> decide
    · rw [place]
      cases role <;> decide
  · intro responder
    subst responder
    exact followed.expected .hello (by rw [place]; decide) .paired (by decide)

theorem Followed.supports {phase : Phase} (split : done ++ .store phase :: rest = script role) :
    Supported key log role (phase.peer (key role.other) transaction) := by
  cases phase with
  | pending => exact ⟨rfl, followed.supports_pending split⟩
  | committing => exact ⟨rfl, followed.supports_committing split⟩
  | paired =>
      obtain ⟨pending, initiator⟩ := followed.supports_paired split
      exact ⟨rfl, pending, initiator⟩

/-! ## Steps of the system -/

end

namespace System

structure Sound (key : Role → κ) (system : System κ τ) : Prop where
  connections : ∀ connection ∈ system.connections, Truthful key system.log connection
  visible : ∀ role, Supported key system.log role (system.records role).visible
  durable : ∀ role, Supported key system.log role (system.records role).durable

variable {connection : Connection τ} {self : System κ τ} {index : ℕ} {role : Role}
  {kind : InitiatorKind}

section

variable (sound : self.Sound key)
include sound

theorem Sound.setConnection (index : ℕ) (truthful : Truthful key self.log connection) :
    (self.setConnection index connection).Sound key where
  connections other member := by
    rcases List.mem_or_eq_of_mem_set member with kept | rfl
    · exact sound.connections other kept
    · exact truthful
  visible := sound.visible
  durable := sound.durable

theorem Sound.append (entry : Entry κ τ) : (self.append entry).Sound key where
  connections connection member :=
    (sound.connections connection member).mono (List.subset_cons_self _ _)
  visible role := (sound.visible role).mono (List.subset_cons_self _ _)
  durable role := (sound.durable role).mono (List.subset_cons_self _ _)

theorem Sound.setRecord (role : Role) {record : Record κ τ}
    (visible : Supported key self.log role record.visible)
    (durable : Supported key self.log role record.durable) :
    (self.setRecord role record).Sound key where
  connections := sound.connections
  visible other := by
    by_cases same : other = role
    · subst same
      simpa [System.setRecord] using visible
    · simpa [System.setRecord, same] using sound.visible other
  durable other := by
    by_cases same : other = role
    · subst same
      simpa [System.setRecord] using durable
    · simpa [System.setRecord, same] using sound.durable other

/-- Writing a supported record, however the write ends. -/
theorem Sound.write (role : Role) {peer : PeerState κ τ}
    (supported : Supported key self.log role peer) (outcome : WriteOutcome) :
    (self.setRecord role ((self.records role).write peer outcome)).Sound key := by
  cases outcome with
  | completed => exact sound.setRecord role supported supported
  | refused => exact sound.setRecord role (sound.visible role) (sound.durable role)
  | unsynced => exact sound.setRecord role supported (sound.durable role)

theorem Sound.crash (role : Role) (survived : Bool) : (self.crash role survived).Sound key := by
  have recorded : (self.setRecord role ((self.records role).crash survived)).Sound key := by
    cases survived with
    | true => exact sound.setRecord role (sound.visible role) (sound.visible role)
    | false => exact sound.setRecord role (sound.durable role) (sound.durable role)
  refine ⟨?_, recorded.visible, recorded.durable⟩
  intro connection member
  obtain ⟨other, present, rfl⟩ := List.mem_map.mp member
  exact (sound.connections other present).setProgress trivial

omit sound in
theorem failStore_truthful (kind : InitiatorKind) (role : Role) (transaction : τ)
    (truthful : Truthful key log connection) :
    Truthful key log (failStore kind connection role transaction) := by
  have ended : Truthful key log (connection.setProgress role .ended) :=
    truthful.setProgress (by trivial)
  unfold failStore
  split
  · exact ended.push trivial
  · exact ended

/-- A connection in the table is truthful. -/
theorem Sound.truthful (found : self.connections[index]? = some connection) :
    Truthful key self.log connection :=
  sound.connections connection (List.mem_of_getElem? found)

theorem Sound.abort (index : ℕ) (truthful : Truthful key self.log connection) (role : Role)
    (notice : Option CloseReason) : (self.abort index connection role notice).Sound key := by
  have ended : Truthful key self.log (connection.setProgress role .ended) :=
    truthful.setProgress (by trivial)
  apply sound.setConnection index
  cases notice with
  | none => exact ended
  | some reason => exact ended.push trivial

end

theorem opened_truthful (key : Role → κ) (log : List (Entry κ τ)) (transaction : τ) :
    Truthful key log (opened transaction) where
  progress role := by
    cases role with
    | initiator => exact ⟨rfl, [], rfl, nofun, nofun, nofun, nofun, nofun⟩
    | responder => trivial
  inbox role message member := by
    cases member

/-- The record an unpair writes still holds the key of the other party. -/
theorem supported_unpairNext {log : List (Entry κ τ)} {peer next : PeerState κ τ}
    (supported : Supported key log role peer) (unpairs : unpairNext peer = some next) :
    Supported key log role next := by
  cases peer with
  | unpaired => cases unpairs
  | pending =>
      cases unpairs
      exact supported.1
  | committing =>
      cases unpairs
      exact supported.1
  | paired =>
      cases unpairs
      exact supported.1
  | revoking =>
      cases unpairs
      trivial

variable [DecidableEq κ] [DecidableEq τ]

/-- One action of a script keeps everything known. -/
theorem Sound.takeAction {self next : System κ τ} {transaction : τ} {confirmed heard : Bool}
    {action : Action} {done rest : List Action} {choice : Choice} (sound : self.Sound key)
    (truthful : Truthful key self.log connection) (own : connection.transaction = transaction)
    (split : done ++ action :: rest = script role)
    (followed : Followed key self.log role transaction confirmed heard done)
    (moved : self.takeAction kind key index connection role transaction confirmed heard action rest
      choice = some next) : next.Sound key := by
  subst own
  have place := done_eq_before split
  cases action with
  | confirm =>
      simp only [System.takeAction, Option.some.injEq] at moved
      subst moved
      -- The answer of the user is logged before the next action relies on it.
      cases choice.accepted with
      | false =>
          simp only [Bool.false_eq_true, if_false]
          have refused := (followed.unasked split false).advances_confirm nofun split
          exact sound.setConnection index (truthful.setProgress refused)
      | true =>
          simp only [if_true]
          have logged := sound.append (.confirmed role connection.transaction)
          have grows : self.log ⊆ .confirmed role connection.transaction :: self.log :=
            List.subset_cons_self _ _
          have asked := ((followed.mono grows).unasked split true).advances_confirm
            (fun _ => List.mem_cons_self) split
          exact logged.setConnection index ((truthful.mono grows).setProgress asked)
  | decide =>
      have asked : .confirm ∈ done := by
        rw [place]
        cases role <;> decide
      simp only [System.takeAction, Option.some.injEq] at moved
      subst moved
      have announced : Truthful key self.log
          (connection.push role (.pairingDecision connection.transaction confirmed)) :=
        truthful.push ⟨rfl, followed.asked asked⟩
      refine sound.setConnection index (announced.setProgress ?_)
      split
      · rename_i positive
        have both : confirmed = true ∧ heard = true := by simpa using positive
        exact followed.advances_decide both split
      · trivial
  | hear =>
      simp only [System.takeAction] at moved
      split at moved
      · cases moved
      · rename_i message inbox first
        cases moved
        exact sound.setConnection index ((truthful.setInbox first).setProgress
          (followed.afterDecision kind split (truthful.read first)))
  | send signal =>
      simp only [System.takeAction, Option.some.injEq] at moved
      subst moved
      have sent := truthful.push (means_message (followed.vouches split))
      exact sound.setConnection index (sent.setProgress (followed.advances_send split))
  | expect signal =>
      simp only [System.takeAction] at moved
      split at moved
      · cases moved
      · rename_i message inbox first
        cases moved
        refine sound.setConnection index ((truthful.setInbox first).setProgress ?_)
        have means := truthful.read first
        split
        · rename_i same
          subst same
          exact followed.advances_expect (vouches_of_message means) split
        · trivial
  | store phase =>
      have supported := followed.supports split
      have failed := failStore_truthful kind role connection.transaction truthful
      simp only [System.takeAction] at moved
      split at moved
      · -- The record does not admit the transition.
        cases moved
        exact sound.setConnection index failed
      · have written := sound.write role supported choice.outcome
        split at moved
        · cases moved
          have grows : self.log ⊆
              .stored role (phase.peer (key role.other) connection.transaction) :: self.log :=
            List.subset_cons_self _ _
          have logged := written.append
            (.stored role (phase.peer (key role.other) connection.transaction))
          refine logged.setConnection index ((truthful.mono grows).setProgress ?_)
          exact (followed.mono grows).advances_store List.mem_cons_self split
        · cases moved
          exact written.setConnection index failed
  | answer =>
      have stored : ∀ phase, .store phase ∈ done := by
        intro phase
        rw [place]
        cases role <;> cases phase <;> decide
      simp only [System.takeAction, Option.some.injEq] at moved
      subst moved
      refine sound.setConnection index ((truthful.push ?_).setProgress (by trivial))
      split
      · exact fun phase _ => followed.stored phase (stored phase)
      · trivial

theorem Sound.accept {self next : System κ τ} (sound : self.Sound key)
    (truthful : Truthful key self.log connection)
    (moved : self.accept index connection = some next) :
    next.Sound key := by
  unfold System.accept at moved
  split at moved
  · cases moved
    refine sound.setConnection index (truthful.setProgress ?_)
    split <;> trivial
  · cases moved

omit [DecidableEq κ] [DecidableEq τ] in
/-- The responder takes the transaction from the first message, which is the one
its initiator drew. -/
theorem Sound.begin {self next : System κ τ} {reserved : Bool} (sound : self.Sound key)
    (truthful : Truthful key self.log connection)
    (moved : self.begin index connection reserved = some next) : next.Sound key := by
  unfold System.begin at moved
  split at moved
  · rename_i transaction inbox listening first
    cases moved
    obtain ⟨same, _⟩ := truthful.read first
    subst same
    have taken := truthful.setInbox first
    apply sound.setConnection index
    split
    · refine taken.setProgress ⟨rfl, [], rfl, ?_⟩
      exact ⟨nofun, nofun, nofun, nofun, nofun⟩
    · have closed : Truthful key self.log ((connection.setInbox .responder inbox).push .responder
          (.pairingClose connection.transaction .pairingBusy)) := taken.push trivial
      exact closed.setProgress (by trivial)
  · rename_i message inbox listening first
    cases moved
    exact sound.setConnection index ((truthful.setInbox first).setProgress (by trivial))
  · cases moved

theorem Sound.act {self next : System κ τ} {choice : Choice} (sound : self.Sound key)
    (truthful : Truthful key self.log connection)
    (moved : self.act kind key index connection role choice = some next) : next.Sound key := by
  unfold System.act at moved
  split at moved
  · rename_i transaction confirmed heard action rest running
    have progress := truthful.progress role
    rw [running] at progress
    obtain ⟨own, done, split, followed⟩ := progress
    rw [← own] at followed
    exact sound.takeAction truthful own.symm split followed moved
  · cases moved

theorem Sound.step {self next : System κ τ} {label : Label τ} (sound : self.Sound key)
    (moved : step kind key self label = some next) : next.Sound key := by
  cases label with
  | connect transaction =>
      simp only [System.step] at moved
      split at moved
      · cases moved
        refine ⟨?_, sound.visible, sound.durable⟩
        intro connection member
        rcases List.mem_append.mp member with earlier | new
        · exact sound.connections connection earlier
        · rw [List.mem_singleton.mp new]
          exact opened_truthful key self.log transaction
      · cases moved
  | accept index =>
      obtain ⟨connection, found, moved⟩ := Option.bind_eq_some_iff.mp moved
      exact sound.accept (sound.truthful found) moved
  | begin index reserved =>
      obtain ⟨connection, found, moved⟩ := Option.bind_eq_some_iff.mp moved
      exact sound.begin (sound.truthful found) moved
  | act index role choice =>
      obtain ⟨connection, found, moved⟩ := Option.bind_eq_some_iff.mp moved
      exact sound.act (sound.truthful found) moved
  | abort index role notice =>
      obtain ⟨connection, found, rfl⟩ := Option.map_eq_some_iff.mp moved
      exact sound.abort index (sound.truthful found) role notice
  | crash role survived =>
      cases moved
      exact sound.crash role survived
  | unpair role outcome =>
      obtain ⟨peer, unpairs, rfl⟩ := Option.map_eq_some_iff.mp moved
      exact sound.write role (supported_unpairNext (sound.visible role) unpairs) outcome

theorem sound_of_reachable (reachable : (machine kind key).Reachable self) : self.Sound key := by
  apply reachable.invariant
  · intro system start
    have same : system = ⟨fun _ => ⟨.unpaired, .unpaired⟩, [], []⟩ := start
    rw [same]
    refine ⟨?_, fun _ => trivial, fun _ => trivial⟩
    intro connection member
    cases member
  · intro before label next sound moved
    exact Sound.step sound moved

end System

/-! ## Agreement -/

/-- What a record holds now, or would hold after a crash. -/
def Record.Holds (record : Record κ τ) (peer : PeerState κ τ) : Prop :=
  record.visible = peer ∨ record.durable = peer

theorem System.Sound.supported {self : System κ τ} (sound : self.Sound key)
    (holds : (self.records role).Holds peer) : Supported key self.log role peer := by
  rcases holds with visible | durable
  · rw [← visible]
    exact sound.visible role
  · rw [← durable]
    exact sound.durable role

/-- A record that names a transaction holds the key of the other party. -/
theorem Supported.remote {remote : κ} (supported : Supported key log role peer)
    (named : peer.names = some (remote, transaction)) : remote = key role.other := by
  cases peer with
  | unpaired => cases named
  | pending =>
      cases named
      exact supported.1
  | committing =>
      cases named
      exact supported.1
  | paired =>
      cases named
      exact supported.1
  | revoking =>
      cases named
      exact supported

/-- The four promises of a pairing, about what both records say and what both
parties did before. -/
structure Agreement (key : Role → κ) (system : System κ τ) : Prop where
  responder_last : ∀ remote transaction,
    (system.records .responder).Holds (.paired remote transaction) →
      .stored .initiator (.paired (key .responder) transaction) ∈ system.log
  both_confirmed : ∀ role remote transaction,
    (system.records role).Holds (.pending remote transaction) →
      ∀ user, .confirmed user transaction ∈ system.log
  both_pending : ∀ role remote transaction,
    ((system.records role).Holds (.committing remote transaction) ∨
        (system.records role).Holds (.paired remote transaction)) →
      ∀ party, .stored party (.pending (key party.other) transaction) ∈ system.log
  keys_exchanged : ∀ initiator responder initiatorKey responderKey transaction,
    (system.records .initiator).Holds initiator → (system.records .responder).Holds responder →
      initiator.names = some (initiatorKey, transaction) →
      responder.names = some (responderKey, transaction) →
        initiatorKey = key .responder ∧ responderKey = key .initiator

/-- **Pairing agreement.** Every reachable state of the two parties keeps the
four promises. -/
theorem agreement_of_reachable [DecidableEq κ] [DecidableEq τ] {kind : InitiatorKind}
    {key : Role → κ} {self : System κ τ} (reachable : (System.machine kind key).Reachable self) :
    Agreement key self := by
  have sound := System.sound_of_reachable reachable
  refine ⟨?_, ?_, ?_, ?_⟩
  · intro remote transaction holds
    have supported := sound.supported holds
    exact supported.2.2 rfl
  · intro role remote transaction holds
    have supported := sound.supported holds
    exact supported.2
  · intro role remote transaction holds
    rcases holds with committing | paired
    · have supported := sound.supported committing
      exact supported.2
    · have supported := sound.supported paired
      exact supported.2.1
  · intro initiator responder initiatorKey responderKey transaction initiatorHolds responderHolds
      namedI namedR
    exact ⟨(sound.supported initiatorHolds).remote namedI,
      (sound.supported responderHolds).remote namedR⟩

/-- Every action of a pairing that succeeds, with both users confirming. -/
def pairs : List (System.Label ℕ) :=
  let act (role : Role) : System.Label ℕ := .act 0 role ⟨true, .completed⟩
  [.connect 7, .accept 0, act .initiator, .begin 0 true] ++
    List.replicate 2 (act .responder) ++ List.replicate 5 (act .initiator) ++
    List.replicate 4 (act .responder) ++ List.replicate 2 (act .initiator) ++
    List.replicate 3 (act .responder) ++ List.replicate 3 (act .initiator) ++
    List.replicate 2 (act .responder) ++ List.replicate 3 (act .initiator) ++
    List.replicate 2 (act .responder)

theorem agreement_after_pairing :
    ∃ self : System ℕ ℕ, (self.records .responder).durable = .paired 1 7 ∧
      Agreement (fun | .initiator => 1 | .responder => 2) self := by
  have replayed : ((System.machine .simulator fun | .initiator => 1 | .responder => 2).execute
      ⟨fun _ => ⟨.unpaired, .unpaired⟩, [], []⟩ pairs).map
        (fun self => (self.records .responder).durable) = some (.paired 1 7) := by
    decide +kernel
  obtain ⟨self, reachable, paired⟩ := StepSystem.exists_reachable_of_map replayed rfl
  exact ⟨self, paired, agreement_of_reachable reachable⟩

end Deskkin.Pairing
