/-
# Processes that leave temporary files behind

Processes publish runs, health records and results, and each may die after any update. A
process numbers its temporary files from its own counter, which starts at zero, so a later
process draws the numbers of an earlier one again. Every operation removes the leftovers of
the directory it works in before it writes there, with one exception: the health record is
written into the root, whose leftovers nobody removes.

An operation is one step. Run ids are drawn between operations only, and the health record
that follows a failed publication, under a lock of its own, belongs to the same step.
-/

import Deskkin.Lib.Runs
import Deskkin.Recorder.Leftovers

namespace Deskkin.Diagnostics

open Durable

variable {γ : Type} {env : Environment γ} {codec : Codec γ}

/-! ## The operations -/

/-- It works in the directory of the results as the other operations do in that of the runs,
which is the one that `Place.diagnostics` stands for here. -/
def publishScenarioResult (env : Environment γ) (codec : Codec γ) (name : Text) (bytes : γ) :
    Io γ Text :=
  if validRunId name then do
    check env
    cleanupStaleTemps env
    atomicWrite env codec.empty .publication .diagnostics (runFile name) bytes
    check env
    return runFile name
  else Durable.fail .invalid

inductive RecorderOperation (γ : Type)
  | publish (recorder : Recorder) (run : DiagnosticRun)
  | publishHealth (publication : Publication)
  | publishScenarioResult (name : Text) (bytes : γ)
  | command (recorder : Recorder) (command : DiagnosticsCommand)

inductive RecorderAnswer
  | publication (publication : Publication)
  | recorded (recorded : Bool)
  | path (path : Text)
  | command (answer : CommandAnswer)
  deriving DecidableEq

/-- The private directories under the root, and the root itself. -/
inductive Location
  | root
  | diagnostics
  | results
  deriving DecidableEq

/-- The directories with the processes that work on them. -/
structure RecorderProcesses (γ : Type) where
  root : Directory γ
  diagnostics : Directory γ
  results : Directory γ
  runCounter : ℕ → UInt64
  dead : ℕ → Bool

namespace RecorderProcesses

def directory (self : RecorderProcesses γ) : Location → Directory γ
  | .root => self.root
  | .diagnostics => self.diagnostics
  | .results => self.results

end RecorderProcesses

namespace RecorderOperation

def perform (env : Environment γ) (codec : Codec γ) :
    RecorderOperation γ → Io γ RecorderAnswer
  | .publish recorder run => do
      let publication ← recorder.publish env codec run
      return .publication publication
  | .publishHealth publication => do
      let recorded ← Recorder.publishHealthBestEffort env codec publication
      return .recorded recorded
  | .publishScenarioResult name bytes => do
      let path ← Diagnostics.publishScenarioResult env codec name bytes
      return .path path
  | .command recorder issued => do
      let answer ← runDiagnosticsCommand recorder env codec issued
      return .command answer

/-- The root and the directory that the operation works in. -/
def store (operation : RecorderOperation γ) (self : RecorderProcesses γ) : Store γ :=
  match operation with
  | .publishScenarioResult _ _ => ⟨self.root, self.results⟩
  | _ => ⟨self.root, self.diagnostics⟩

/-- What the operation leaves of the store goes back to where it is from. -/
def put (operation : RecorderOperation γ) (self : RecorderProcesses γ) (store : Store γ) :
    RecorderProcesses γ :=
  match operation with
  | .publishScenarioResult _ _ => { self with root := store.root, results := store.diagnostics }
  | _ => { self with root := store.root, diagnostics := store.diagnostics }

/-- What the operation may leave of a file: a whole record, or nothing of a run, of its
marker or of a run that has to go. -/
def writes (codec : Codec γ) (self : RecorderProcesses γ) (operation : RecorderOperation γ)
    (location : Location) (name : Text) (contents : Option γ) : Prop :=
  match operation, location with
  | .publishScenarioResult result bytes, .results =>
      name = runFile result ∧ contents = some bytes
  | .publishScenarioResult _ _, _ => False
  | _, .root => Records codec (operation.store self) .root name contents
  | _, .diagnostics => Records codec (operation.store self) .diagnostics name contents
  | _, .results => False

end RecorderOperation

/-- An operation of some process, which may die after any of its updates, a number that a
process draws for a new run id, and the death of a process that does nothing. -/
inductive ProcessLabel (γ : Type)
  | perform (process : ℕ) (environment : Environment γ) (operation : RecorderOperation γ)
      (lost : Option ℕ)
  | newRunId (process : ℕ)
  | die (process : ℕ)

namespace RecorderProcesses

def session (self : RecorderProcesses γ) (process : ℕ) (operation : RecorderOperation γ) :
    Session γ :=
  ⟨operation.store self, self.runCounter process, 0, []⟩

def step (codec : Codec γ) (self : RecorderProcesses γ) :
    ProcessLabel γ → Option (RecorderProcesses γ)
  | .perform process env operation lost =>
      if self.dead process then none
      else
        ((operation.perform env codec).upTo (self.session process operation) lost).map
          fun session =>
            { operation.put self session.store with
              runCounter := Function.update self.runCounter process session.runCounter
              dead := if lost.isSome then Function.update self.dead process true else self.dead }
  | .newRunId process =>
      if self.dead process then none
      else some { self with
        runCounter := Function.update self.runCounter process (self.runCounter process + 1) }
  | .die process => some { self with dead := Function.update self.dead process true }

/-- Every process starts to count at zero. -/
def machine (codec : Codec γ) : StepSystem (RecorderProcesses γ) (ProcessLabel γ) where
  Initial self := ∀ process, self.runCounter process = 0 ∧ self.dead process = false
  step := step codec

end RecorderProcesses

/-! ## What a step leaves behind -/

/-- The session without any leftovers. -/
def cleaned (env : Environment γ) (session : Session γ) : Session γ :=
  { session with
    store := ⟨withoutTemps env session.store.root, withoutTemps env session.store.diagnostics⟩ }

namespace RecorderProcesses

/-- Every file that is not temporary is as it was before or as the operation leaves it. -/
def LeftWhole (codec : Codec γ) (self : RecorderProcesses γ) (operation : RecorderOperation γ)
    (next : RecorderProcesses γ) : Prop :=
  ∀ location name, isTemp name = false →
    (next.directory location).lookup name = (self.directory location).lookup name ∨
      operation.writes codec self location name ((next.directory location).lookup name)

/-- The step, which may be one that the process does not survive, leaves whole files. -/
def LeavesWhole (codec : Codec γ) (self : RecorderProcesses γ) (label : ProcessLabel γ) : Prop :=
  ∀ process env operation lost next, label = .perform process env operation lost →
    self.step codec label = some next → self.LeftWhole codec operation next

/-- If none of its calls fails the operation goes as it goes without the leftovers. -/
def Unhindered (codec : Codec γ) (self : RecorderProcesses γ) : ProcessLabel γ → Prop
  | .perform process env operation _ =>
      (∀ n, env.fails n = false) →
        let here := (operation.perform env codec).run (self.session process operation)
        let without := (operation.perform env codec).run
          (cleaned env (self.session process operation))
        here.result = without.result ∧
          ∀ place name, isTemp name = false →
            (here.final.store.directory place).lookup name =
              (without.final.store.directory place).lookup name
  | _ => True

/-- No health record that the operation writes draws the number of a temporary file that is
left over in the root. -/
def Vacant (codec : Codec γ) (self : RecorderProcesses γ) : ProcessLabel γ → Prop
  | .perform process env operation _ =>
      ∀ entry ∈ ((operation.perform env codec).run
          (cleaned env (self.session process operation))).trail,
        entry.1 = .health → healthTemp (entry.2.runCounter - 1) ∉ self.root
  | _ => True

/-- Where the run has started. -/
def start (past : List (RecorderProcesses γ × ProcessLabel γ)) (self : RecorderProcesses γ) :
    RecorderProcesses γ :=
  past.head?.elim self Prod.fst

/-- Every file that is not temporary is as it was at the start or as some operation has left
it whole. -/
def Whole (codec : Codec γ) (past : List (RecorderProcesses γ × ProcessLabel γ))
    (self : RecorderProcesses γ) : Prop :=
  ∀ location name, isTemp name = false →
    (self.directory location).lookup name =
        ((start past self).directory location).lookup name ∨
      ∃ before process env operation lost,
        (before, .perform process env operation lost) ∈ past ∧
          operation.writes codec before location name ((self.directory location).lookup name)

/-! ## Every operation -/

end RecorderProcesses

/-- What the operation writes, in the directory that it works in. -/
def RecorderOperation.writesAt (codec : Codec γ) (before : Store γ) :
    RecorderOperation γ → Writes γ
  | .publishScenarioResult result bytes => fun place name contents =>
      place = .diagnostics ∧ name = runFile result ∧ contents = some bytes
  | _ => Records codec before

variable {left : Text → Prop}

theorem publishScenarioResult_tidy (base : Store γ) (result : Text) (bytes : γ) :
    Tidy env (RecorderOperation.writesAt codec base (.publishScenarioResult result bytes)) base left
      False (publishScenarioResult env codec result bytes) False := by
  unfold publishScenarioResult
  split
  · exact check_tidy.bind fun _ => cleanupStaleTemps_tidy.bind fun _ =>
      (atomicWrite_tidy (runFile_ne_nil result) ⟨rfl, rfl, rfl⟩).bind fun _ =>
        check_tidy.bind fun _ => (Tidy.pure _).forget
  · exact Tidy.fail .invalid

theorem perform_tidy (base : Store γ) (operation : RecorderOperation γ) :
    Tidy env (operation.writesAt codec base) base left False (operation.perform env codec)
      False := by
  cases operation with
  | publish recorder run => exact (publish_tidy recorder run).bind fun _ => Tidy.pure _
  | publishHealth publication =>
      exact (publishHealthBestEffort_tidy publication).bind fun _ => Tidy.pure _
  | publishScenarioResult result bytes =>
      exact (publishScenarioResult_tidy base result bytes).bind fun _ => Tidy.pure _
  | command recorder issued =>
      exact (runDiagnosticsCommand_tidy recorder issued).forget.bind fun _ => Tidy.pure _

namespace RecorderProcesses

/-- Wherever the process dies and whatever call fails. -/
theorem leftWhole_of_step {self next : RecorderProcesses γ} {process : ℕ}
    {operation : RecorderOperation γ} {lost : Option ℕ}
    (moved : self.step codec (.perform process env operation lost) = some next) :
    self.LeftWhole codec operation next := by
  dsimp only [step] at moved
  split at moved
  · cases moved
  obtain ⟨session, reached, rfl⟩ := Option.map_eq_some_iff.mp moved
  have untorn := (@perform_tidy γ env codec (fun _ => False) (operation.store self)
    operation).untorn.upTo (fun _ _ _ => Or.inl rfl) reached
  intro location name file
  have root := untorn .root name file
  have work := untorn .diagnostics name file
  cases operation with
  | publishScenarioResult result bytes =>
      cases location with
      | root => exact root.imp_right fun written => by cases written.1
      | diagnostics => exact Or.inl rfl
      | results => exact work.imp_right And.right
  | publish recorder run =>
      cases location with
      | root => exact root
      | diagnostics => exact work
      | results => exact Or.inl rfl
  | publishHealth publication =>
      cases location with
      | root => exact root
      | diagnostics => exact work
      | results => exact Or.inl rfl
  | command recorder issued =>
      cases location with
      | root => exact root
      | diagnostics => exact work
      | results => exact Or.inl rfl

/-- The session and the one without leftovers differ in leftovers. -/
theorem alongside_cleaned (session : Session γ) :
    Alongside (fun name => name ∈ session.store.root ∧ isTemp name = true) False session
      (cleaned env session) where
  counter := rfl
  root := by
    intro name kept
    cases temporary : isTemp name with
    | true =>
        have absent : name ∉ session.store.root := fun there => kept ⟨there, temporary⟩
        rw [Finmap.lookup_eq_none.mpr absent]
        exact (lookup_withoutTemps_temp _ temporary).symm
    | false => exact (lookup_withoutTemps _ temporary).symm
  clean := by
    intro name there
    by_contra temporary
    have gone := @lookup_withoutTemps_temp γ env name session.store.root
      (Bool.eq_true_of_not_eq_false temporary)
    exact Finmap.lookup_eq_none.mp gone there
  targets name file := (lookup_withoutTemps _ file).symm
  runs := False.elim

/-- An operation whose health records have numbers of their own goes as without leftovers. -/
theorem unhindered_of_vacant {self : RecorderProcesses γ} {label : ProcessLabel γ}
    (vacant : self.Vacant codec label) : self.Unhindered codec label := by
  cases label with
  | perform process env operation lost =>
      intro quiet
      have root : (self.session process operation).store.root = self.root := by
        cases operation <;> rfl
      have matched := (@perform_tidy γ env codec _ (operation.store self) operation).lockstep quiet
        (self.session process operation) _ (alongside_cleaned _) fun entry member health there =>
          vacant entry member health (by rw [← root]; exact there.1)
      refine ⟨matched.result_eq, fun place name file => ?_⟩
      have along := matched.final
      cases place with
      | root =>
          apply along.root name
          rintro ⟨-, temporary⟩
          rw [temporary] at file
          cases file
      | diagnostics => exact along.targets name file
  | newRunId process => exact trivial
  | die process => exact trivial

theorem start_concat (past : List (RecorderProcesses γ × ProcessLabel γ))
    (self next : RecorderProcesses γ) (label : ProcessLabel γ) :
    start (past ++ [(self, label)]) next = start past self := by
  cases past <;> rfl

theorem Whole.step {past : List (RecorderProcesses γ × ProcessLabel γ)}
    {self next : RecorderProcesses γ} {label : ProcessLabel γ} (whole : Whole codec past self)
    (moved : self.step codec label = some next) :
    Whole codec (past ++ [(self, label)]) next := by
  intro location name file
  rw [start_concat]
  have before := whole location name file
  have earlier : ∀ {contents}, (∃ before process env operation lost,
      (before, .perform process env operation lost) ∈ past ∧
        operation.writes codec before location name contents) →
      ∃ before process env operation lost,
        (before, .perform process env operation lost) ∈ past ++ [(self, label)] ∧
          operation.writes codec before location name contents := by
    rintro contents ⟨before, process, env, operation, lost, member, written⟩
    exact ⟨before, process, env, operation, lost, List.mem_append_left _ member, written⟩
  have idle : (next.directory location).lookup name = (self.directory location).lookup name →
      (next.directory location).lookup name =
          ((start past self).directory location).lookup name ∨
        ∃ before process env operation lost,
          (before, .perform process env operation lost) ∈ past ++ [(self, label)] ∧
            operation.writes codec before location name
              ((next.directory location).lookup name) := by
    intro same
    rw [same]
    exact before.imp_right earlier
  cases label with
  | perform process env operation lost =>
      rcases leftWhole_of_step moved location name file with same | written
      · exact idle same
      · exact Or.inr ⟨self, process, env, operation, lost,
          List.mem_append_right _ (List.mem_singleton_self _), written⟩
  | newRunId process =>
      apply idle
      dsimp only [RecorderProcesses.step] at moved
      split at moved
      · cases moved
      · cases moved
        cases location <;> rfl
  | die process =>
      cases moved
      apply idle
      cases location <;> rfl

/-- **Leftovers.** In every state of every run each file is whole, each step leaves a file as
it was or writes it whole, and in a run in which no health record draws the number of a
leftover in the root no operation is hindered. -/
theorem unhindered_throughout {past : List (RecorderProcesses γ × ProcessLabel γ)}
    {self : RecorderProcesses γ} (run : (machine codec).Run past self) :
    Whole codec past self ∧ StepSystem.Guarded (LeavesWhole codec) past ∧
      (StepSystem.Guarded (Vacant codec) past → StepSystem.Guarded (Unhindered codec) past) := by
  refine ⟨?_, fun entry _ => ?_,
    fun vacant entry member => unhindered_of_vacant (vacant entry member)⟩
  case refine_2 =>
    rintro process env operation lost next same moved
    rw [same] at moved
    exact leftWhole_of_step moved
  induction run with
  | start initial => exact fun location name file => Or.inl rfl
  | step earlier moved whole => exact whole.step moved

/-! ## A process that dies in the middle of a health record -/

def exhausted : Publication := ⟨['r'], .dropped, .capacityExhausted, false⟩

def nothingStored : RecorderProcesses PlainFile := ⟨∅, ∅, ∅, fun _ => 0, fun _ => false⟩

def publishExhausted (process : ℕ) (lost : Option ℕ) : ProcessLabel PlainFile :=
  .perform process quietEnvironment (.publishHealth exhausted) lost

/-- The second process has drawn a number before. -/
def dieAndCountOn : List (ProcessLabel PlainFile) :=
  [publishExhausted 0 (some 0), .newRunId 1, publishExhausted 1 none]

instance (self : RecorderProcesses γ) : DecidablePred (self.Vacant codec)
  | .perform process env operation _ =>
      inferInstanceAs (Decidable (∀ entry ∈ ((operation.perform env codec).run
          (cleaned env (self.session process operation))).trail,
        entry.1 = .health → healthTemp (entry.2.runCounter - 1) ∉ self.root))
  | .newRunId _ => isTrue trivial
  | .die _ => isTrue trivial

/-- The leftover stays and the record is written beside it. -/
theorem unhindered_throughout_counted :
    ∃ past self, (machine plainCodec).Run past self ∧
      Whole plainCodec past self ∧ StepSystem.Guarded (Unhindered plainCodec) past ∧
      self.root.lookup healthFile = some (.health exhausted) ∧ healthTemp 0 ∈ self.root := by
  have ran : ((machine plainCodec).execute nothingStored dieAndCountOn).map
      (fun self => (self.root.lookup healthFile, decide (healthTemp 0 ∈ self.root))) =
        some (some (.health exhausted), true) := by
    decide +kernel
  have along : (machine plainCodec).Along (Vacant plainCodec) nothingStored dieAndCountOn := by
    decide +kernel
  obtain ⟨past, self, run, vacant, found⟩ :=
    StepSystem.exists_guarded_of_map along ran (fun _ => ⟨rfl, rfl⟩)
  obtain ⟨written, remains⟩ := Prod.mk.inj found
  obtain ⟨whole, -, unhindered⟩ := unhindered_throughout run
  exact ⟨past, self, run, whole, unhindered vacant, written, of_decide_eq_true remains⟩

/-- The second process finds the file of the first under the number that it draws. -/
theorem hindered_by_leftover :
    ∃ past self, (machine plainCodec).Run past self ∧
      ¬StepSystem.Guarded (Unhindered plainCodec) past := by
  have ran : ((machine plainCodec).step nothingStored (publishExhausted 0 (some 0))).map
      (fun second => (
        (((RecorderOperation.publishHealth exhausted).perform quietEnvironment plainCodec).run
          (second.session 1 (.publishHealth exhausted))).result.toOption,
        (((RecorderOperation.publishHealth exhausted).perform quietEnvironment plainCodec).run
          (cleaned quietEnvironment
            (second.session 1 (.publishHealth exhausted)))).result.toOption,
        ((machine plainCodec).step second (publishExhausted 1 none)).isSome)) =
      some (some (.recorded false), some (.recorded true), true) := by
    decide +kernel
  obtain ⟨second, died, found⟩ := Option.map_eq_some_iff.mp ran
  obtain ⟨here, rest⟩ := Prod.mk.inj found
  obtain ⟨without, moves⟩ := Prod.mk.inj rest
  obtain ⟨third, moved⟩ := Option.isSome_iff_exists.mp moves
  have run : (machine plainCodec).Run [] nothingStored := .start fun _ => ⟨rfl, rfl⟩
  refine ⟨_, third, (run.step died).step moved, fun guarded => ?_⟩
  have same := (guarded (second, publishExhausted 1 none)
    (List.mem_append_right _ (List.mem_singleton_self _)) fun _ => rfl).1
  rw [same, without] at here
  cases here

end RecorderProcesses

end Deskkin.Diagnostics
