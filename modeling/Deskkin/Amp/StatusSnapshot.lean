/-
# Status snapshots while the renderer publishes its profile

The raster profile is published by the renderer core under a number that goes round, and
the snapshot copies it in three attempts. The two run in any order. How many profiles were
published during an attempt is recorded with the answer: fewer than there are numbers, and
the profile in the response is one that was published, as a whole and with its number.
-/

import Deskkin.Amp.StatusReadback

namespace Deskkin.Amp

open Layout Placement Program Seqlock Device

/-! ## The profile -/

def profileBytes (values : RasterProfile) : List UInt8 :=
  packed ((values.toList.map UInt32.toNat).map fun value => (4, value))

def profileOfBytes (bytes : List UInt8) : RasterProfile :=
  Vector.ofFn fun index => .ofNat (number bytes (4 * index.val) 4)

variable (values : RasterProfile)

theorem length_profileBytes : (profileBytes values).length = 64 := by
  rw [profileBytes, length_packed, sum_widths, List.length_map, Vector.length_toList]

/-- The values are read back. -/
theorem profileOfBytes_profileBytes : profileOfBytes (profileBytes values) = values := by
  apply Vector.ext
  intro index inside
  have here : (values.toList.map UInt32.toNat)[index]? = some values[index].toNat := by
    simp [inside]
  rw [profileOfBytes, Vector.getElem_ofFn, profileBytes, number_packed_same here (word_lt _),
    UInt32.ofNat_toNat]

/-! ## The two programs -/

/-- The publisher keeps its generation, which goes round and leaves zero out. -/
def rasterProfile (cut : List ℕ) (values : RasterProfile) (generation : UInt32) :
    Program Mailbox UInt32 := do
  let generation := nextGeneration generation
  Seqlock.publish cut generation (profileBytes values)
  return generation

/-- A profile that the snapshot accepted, with the number of publications that were
completed between its two looks at the number. -/
structure Sample where
  generation : UInt32
  bytes : List UInt8
  passed : ℕ
  deriving DecidableEq

def Sample.profile (sample : Sample) : UInt32 × RasterProfile :=
  (sample.generation, profileOfBytes sample.bytes)

/-- The number, and how much has been published: no program reads that. -/
def look (cell : Mailbox) : UInt32 × ℕ := (cell.publication, cell.published.length)

def profileSnapshot (cut : List ℕ) : ℕ → Program Mailbox (Option Sample)
  | 0 => return none
  | attempts + 1 => do
      let before ← load look
      if before.1 = 0 then profileSnapshot cut attempts
      else do
        let bytes ← copyFrom 0 cut
        let after ← load look
        if before.1 ≠ after.1 then profileSnapshot cut attempts
        else return some ⟨before.1, bytes, after.2 - before.2⟩

/-- An answer to the status command, with what it was made of. -/
structure StatusAnswer where
  commandId : Vector UInt8 16
  state : DeviceState
  sample : Option Sample

def StatusAnswer.response (answer : StatusAnswer) : List UInt8 :=
  controlSnapshot answer.commandId answer.state (answer.sample.map Sample.profile)

structure StatusRequest where
  cut : List ℕ
  commandId : Vector UInt8 16
  state : DeviceState

/-- The answers so far are kept. -/
def answerStatus (request : StatusRequest) (answers : List StatusAnswer) :
    Program Mailbox (List StatusAnswer) := do
  let sample ← profileSnapshot request.cut 3
  return answers ++ [⟨request.commandId, request.state, sample⟩]

/-- The renderer core publishes any profiles, the service core answers any requests. -/
def statusDuo :
    Duo Mailbox UInt32 (List StatusAnswer) (List ℕ × RasterProfile) StatusRequest where
  initial := .cleared 64
  firstKept := 0
  secondKept := []
  mayCall input _ := input.1.sum = 64
  mayRead request := request.cut.sum = 64
  first input := rasterProfile input.1 input.2
  second := answerStatus

/-! ## The numbers -/

/-- The number of the publication with this index, the first one being one. -/
def publicationNumber : ℕ → UInt32
  | 0 => 0
  | index + 1 => nextGeneration (publicationNumber index)

def publicationNumbers : ℕ := 2 ^ 32 - 1

theorem nextGeneration_toNat (generation : UInt32) :
    (nextGeneration generation).toNat = generation.toNat % publicationNumbers + 1 := by
  have small := generation.toNat_lt
  have sum : (generation + 1).toNat = (generation.toNat + 1) % 2 ^ 32 := by
    rw [UInt32.toNat_add, UInt32.toNat_one]
  rw [nextGeneration, publicationNumbers]
  split
  · rename_i zero
    rw [zero, UInt32.toNat_zero] at sum
    rw [UInt32.toNat_one]
    omega
  · rename_i nonzero
    have positive : (generation + 1).toNat ≠ 0 := fun zero => nonzero (UInt32.toNat.inj zero)
    omega

theorem publicationNumber_toNat (index : ℕ) :
    (publicationNumber (index + 1)).toNat = index % publicationNumbers + 1 := by
  induction index with
  | zero => rfl
  | succ index ih =>
      rw [publicationNumber, nextGeneration_toNat, ih]
      simp only [publicationNumbers]
      omega

theorem publicationNumber_distinct : DistinctWithin publicationNumber publicationNumbers := by
  intro m n positive less few same
  obtain ⟨i, rfl⟩ := Nat.exists_eq_add_of_lt positive
  obtain ⟨j, rfl⟩ := Nat.exists_eq_add_of_lt less
  have numbers := congrArg UInt32.toNat same
  rw [Nat.zero_add, publicationNumber_toNat, publicationNumber_toNat] at numbers
  simp only [publicationNumbers] at few numbers
  omega

/-! ## The contracts of the two threads -/

/-- The profile of the answer was published as a whole under its number, unless the
numbers went round during an attempt. -/
def StatusAnswer.Whole (answer : StatusAnswer) (cell : Mailbox) : Prop :=
  ∀ sample, answer.sample = some sample → sample.passed < publicationNumbers →
    (sample.generation, sample.bytes) ∈ cell.published

/-- What was published are profiles. -/
def OfProfiles (cell : Mailbox) : Prop :=
  ∀ entry ∈ cell.published, ∃ values, entry.2 = profileBytes values

theorem StatusAnswer.Whole.turns {answer : StatusAnswer} {c d : Mailbox}
    (whole : answer.Whole c) (turns : Turns publicationNumber 64 c d) : answer.Whole d :=
  fun sample found few => turns.follows.grown.subset (whole sample found few)

theorem profileSnapshot_safe {cut : List ℕ} {s t : Mailbox} {guar : Mailbox → Mailbox → Prop}
    (sound : s.Cyclic publicationNumber 64) (whole : cut.sum = 64)
    (quiet : ∀ u, Turns publicationNumber 64 s u → guar u u) (attempts : ℕ)
    (before : Turns publicationNumber 64 s t) :
    (profileSnapshot cut attempts).Safe (Turns publicationNumber 64) guar
      (fun sample u => Turns publicationNumber 64 s u ∧
        ∀ x, sample = some x → x.passed < publicationNumbers →
          (x.generation, x.bytes) ∈ u.published) t := by
  induction attempts generalizing t with
  | zero =>
      intro u later
      exact ⟨before.trans later, fun x found => by cases found⟩
  | succ attempts ih =>
      apply Safe.load
      intro u later
      have seen := before.trans later
      refine ⟨quiet u seen, ?_⟩
      split
      · exact ih seen
      · rename_i shown
        apply snapshot_turns publicationNumber_distinct (seen.sound sound) shown whole
          fun v more => quiet v (seen.trans more)
        intro bytes v reached standing
        split
        · exact ih (seen.trans reached)
        · rename_i same
          intro w last
          refine ⟨(seen.trans reached).trans last, fun x found few => ?_⟩
          cases found
          have inTime : v.published.length < u.published.length + publicationNumbers := by
            have passed : v.published.length - u.published.length < publicationNumbers := few
            omega
          exact last.follows.grown.subset (standing (not_not.mp same).symm inTime)

def statusPublisher : Duo.Contract Mailbox UInt32 where
  rely := Eq
  guar := Turns publicationNumber 64
  always _ := OfProfiles
  atRest generation cell := cell.Cyclic publicationNumber 64 ∧
    generation = publicationNumber cell.published.length ∧ OfProfiles cell
  reflexive _ := rfl
  transitive _ _ _ := Eq.trans
  calm _ _ rests := rests.2.2

def statusReader : Duo.Contract Mailbox (List StatusAnswer) where
  rely := Turns publicationNumber 64
  guar := Eq
  always answers cell := ∀ answer ∈ answers, answer.Whole cell
  atRest answers cell := cell.Cyclic publicationNumber 64 ∧ ∀ answer ∈ answers, answer.Whole cell
  reflexive := Turns.refl
  transitive _ _ _ := Turns.trans
  calm _ _ rests := rests.2

theorem rasterProfile_kept {cut : List ℕ} (generation : UInt32) (s : Mailbox)
    (whole : cut.sum = 64) : statusPublisher.Kept (rasterProfile cut values) generation s := by
  intro rests
  obtain ⟨sound, same, profiles⟩ := rests s rfl
  have next : nextGeneration generation = publicationNumber (s.published.length + 1) := by
    rw [same, publicationNumber]
  rw [rasterProfile, next]
  have published : (Seqlock.publish cut (publicationNumber (s.published.length + 1))
      (profileBytes values)).Safe Eq
      (fun a b => OfProfiles a ∧ Turns publicationNumber 64 a b)
      (fun _ t => statusPublisher.atRest (publicationNumber (s.published.length + 1)) t) s := by
    apply publish_turns sound (length_profileBytes values) whole
    · intro c d record turns
      refine ⟨?_, turns⟩
      rw [OfProfiles, record]
      exact profiles
    · intro c soundThen record
      refine ⟨soundThen, by rw [record, List.length_append, List.length_singleton], ?_⟩
      rw [OfProfiles, record, List.forall_mem_append, List.forall_mem_singleton]
      exact ⟨profiles, values, rfl⟩
  apply published.bind fun _ => rfl
  rintro _ t rested _ rfl
  exact rested

theorem answerStatus_kept {request : StatusRequest} (answers : List StatusAnswer) (s : Mailbox)
    (whole : request.cut.sum = 64) :
    statusReader.Kept (answerStatus request) answers s := by
  intro rests
  obtain ⟨sound, before⟩ := rests s (Turns.refl s)
  have quiet : ∀ u, Turns publicationNumber 64 s u →
      (∀ answer ∈ answers, answer.Whole u) ∧ u = u :=
    fun u turns => ⟨fun answer member => (before answer member).turns turns, rfl⟩
  apply (profileSnapshot_safe sound whole quiet 3 (Turns.refl s)).bind Turns.refl
  rintro sample t ⟨turns, known⟩ u later
  refine ⟨(turns.trans later).sound sound, ?_⟩
  rw [List.forall_mem_append, List.forall_mem_singleton]
  exact ⟨fun answer member => (before answer member).turns (turns.trans later),
    fun x found few => later.follows.grown.subset (known x found few)⟩

/-! ## Every interleaving -/

variable {s : Duo.State Mailbox UInt32 (List StatusAnswer)}
  {two : Thread Mailbox (List StatusAnswer)}

theorem status_holds (reachable : statusDuo.system.Reachable s) :
    OfProfiles s.shared ∧ ∀ answer ∈ s.two.kept, answer.Whole s.shared := by
  have cleared : (Mailbox.cleared 64).Cyclic publicationNumber 64 :=
    ⟨List.length_replicate, rfl, fun shown => absurd rfl shown⟩
  apply Duo.holds_of_contracts statusPublisher statusReader (fun _ _ turns => turns)
    (fun _ _ same => same) _ _ _ _ reachable
  · rintro _ rfl
    exact ⟨cleared, rfl, fun entry member => by cases member⟩
  · intro t turns
    exact ⟨turns.sound cleared, fun answer member => by cases member⟩
  · exact fun input generation s allowed =>
      rasterProfile_kept input.2 generation s (of_decide_eq_true allowed)
  · exact fun request answers s allowed =>
      answerStatus_kept answers s (of_decide_eq_true allowed)

/-- The profile that an answer shows: none, or one that was published under its number, or
more were published during an attempt than there are numbers. -/
def StatusAnswer.Shows (answer : StatusAnswer) (published : List (UInt32 × List UInt8))
    (profile : Option (UInt32 × RasterProfile)) : Prop :=
  profile = none ∨
    (∃ generation values, profile = some (generation, values) ∧
      (generation, profileBytes values) ∈ published) ∨
    ∃ sample, answer.sample = some sample ∧ publicationNumbers ≤ sample.passed

theorem StatusAnswer.shows_of_whole {answer : StatusAnswer} {cell : Mailbox}
    (whole : answer.Whole cell) (profiles : OfProfiles cell) :
    answer.Shows cell.published (answer.sample.map Sample.profile) := by
  cases found : answer.sample with
  | none => exact Or.inl rfl
  | some sample =>
      by_cases few : sample.passed < publicationNumbers
      · have member := whole sample found few
        obtain ⟨values, same⟩ := profiles _ member
        rw [show sample.bytes = profileBytes values from same] at member
        refine Or.inr (Or.inl ⟨sample.generation, values, ?_, member⟩)
        rw [Option.map_some, Sample.profile, show sample.bytes = profileBytes values from same,
          profileOfBytes_profileBytes]
      · exact Or.inr (Or.inr ⟨sample, found, Nat.le_of_not_lt few⟩)

/-- **Status responses.** In every interleaving with the publisher each response is read
as the state it was made of, its writes do not overlap but at byte 80, and the profile in
it is one that was published. -/
theorem status_decodes {s : Duo.State Mailbox UInt32 (List StatusAnswer)}
    (reachable : statusDuo.system.Reachable s) {answer : StatusAnswer}
    (answered : answer ∈ s.two.kept) :
    (∃ profile, decodeWorldStatus answer.response = some (answer.state.reported profile) ∧
        answer.Shows s.shared.published profile) ∧
      ∀ profile, Tidy statusResponseSize
          (statusWrites answer.commandId answer.state ++ profileWrites profile) ∧
        ∀ override ∈ overrides answer.state,
          ∀ write ∈ statusWrites answer.commandId answer.state ++ profileWrites profile,
            ¬Apart override.shape write.shape →
              override.shape = (80, 1) ∧ write.shape = (80, 1) := by
  obtain ⟨profiles, whole⟩ := status_holds reachable
  constructor
  · exact ⟨answer.sample.map Sample.profile, decode_controlSnapshot _ _ _,
      StatusAnswer.shows_of_whole (whole answer answered) profiles⟩
  · exact fun profile => ⟨tidy_writes _ _ _, fun override put write written meets =>
      overrides_apart put written meets⟩

/-! ## A response outside the paired shell, and numbers that went round -/

def onesProfile : RasterProfile := Vector.replicate 16 1

def twosProfile : RasterProfile := Vector.replicate 16 2

/-- A device that shows the pairing shell, with nothing counted yet. -/
def unpairedState : DeviceState where
  heartbeatGeneration := 9
  heartbeatReceivedMs := 100
  completedFrames := 5
  renderUs := 0
  transferUs := 0
  rendererStage := 4
  rendererFault := 0
  allocationFailures := 0
  transferFailures := 0
  displayReady := 1
  renderMaxUs := 0
  transferMaxUs := 0
  nvsLastFailure := 0
  rendererPublication := 9
  bootStage := 7
  bootError := 0
  displaySpiHz := 40000000
  copyUs := 0
  uptime := 200
  deadlineMisses := 300
  dirtyRectCount := 0
  worldBenchmarkActive := 0
  worldBenchmarkComplete := 0
  pixelDmaBatches := 40
  worldGeneration := 7
  worldBenchmarkStartedGeneration := 0
  validViewGeneration := 0
  viewGeneration := 7
  poseGeneration := 0
  inputGeneration := 0
  staleSnapshots := 0
  touchDrops := 0
  atlasCacheHits := 0
  atlasCacheMisses := 0
  atlasCacheFailures := 0
  visibleBillboards := 0
  culledBillboards := 0
  rendererShell := 3
  rendererShellPropertyMatches := 1
  nearestSamples := 0
  bilinearSamples := 0
  projectionUs := 0
  projectionMaxUs := 0
  sortUs := 0
  sortMaxUs := 0
  textureUs := 0
  textureMaxUs := 0
  worldRasterUs := 0
  worldRasterMaxUs := 0
  rendererProgress := 0
  displayProgress := 0
  ownerGeneration := 1
  uiShell := 3
  uiView := 0
  validResult := 0

def unpairedRequest : StatusRequest := ⟨[32, 32], Vector.replicate 16 7, unpairedState⟩

/-- One profile is published, and half of it is copied. -/
def firstMoves : List (Duo.Move (List ℕ × RasterProfile) StatusRequest) :=
  [.callFirst ([64], onesProfile), .advanceFirst, .advanceFirst, .advanceFirst,
    .callSecond unpairedRequest, .advanceSecond, .advanceSecond]

/-- The rest of the copy without anything in between. -/
def lastMoves : List (Duo.Move (List ℕ × RasterProfile) StatusRequest) :=
  [.advanceSecond, .advanceSecond]

theorem status_decodes_alone :
    ∃ s, statusDuo.system.Reachable s ∧ ∃ answer ∈ s.two.kept,
      answer.sample = some ⟨1, profileBytes onesProfile, 0⟩ ∧
        ∃ profile, decodeWorldStatus answer.response = some (answer.state.reported profile) ∧
          answer.Shows s.shared.published profile := by
  have ran : (statusDuo.system.execute statusDuo.start (firstMoves ++ lastMoves)).map
      (fun s => s.two.kept.map StatusAnswer.sample) =
      some [some ⟨1, profileBytes onesProfile, 0⟩] := by
    decide +kernel
  obtain ⟨s, reachable, sampled⟩ := StepSystem.exists_reachable_of_map ran rfl
  obtain ⟨answer, answered, sample⟩ := List.mem_map.mp (sampled ▸ List.mem_singleton_self _)
  exact ⟨s, reachable, answer, answered, sample, (status_decodes reachable answered).1⟩

/-- Between two publications of the second profile, with the snapshot in its attempt. -/
structure Lapped (index : ℕ) (two : Thread Mailbox (List StatusAnswer))
    (s : Duo.State Mailbox UInt32 (List StatusAnswer)) : Prop where
  reachable : statusDuo.system.Reachable s
  one : s.one = ⟨publicationNumber (index + 1), none⟩
  two : s.two = two
  number : s.shared.publication = publicationNumber (index + 1)
  width : s.shared.payload.length = 64
  latest : 0 < index → s.shared.payload = profileBytes twosProfile
  record : ∀ entry ∈ s.shared.published,
    entry.2 = profileBytes onesProfile ∨ entry.2 = profileBytes twosProfile

/-- One more publication of the second profile. -/
theorem Lapped.next {index : ℕ} (lapped : Lapped index two s) : ∃ t, Lapped (index + 1) two t := by
  obtain ⟨⟨number, payload, published⟩, one, here⟩ := s
  obtain ⟨reachable, rfl, rfl, -, width, -, record⟩ := lapped
  have called := reachable.next (a := .callFirst ([64], twosProfile)) rfl
  have withdrawn := called.next (a := .advanceFirst) rfl
  have copied := withdrawn.next (a := .advanceFirst) rfl
  have shown := copied.next (a := .advanceFirst) rfl
  have whole : splice payload 0 (((profileBytes twosProfile).drop 0).take 64) =
      profileBytes twosProfile := by
    have exactly : ((profileBytes twosProfile).drop 0).take 64 = profileBytes twosProfile :=
      List.take_of_length_le (Nat.le_of_eq (length_profileBytes twosProfile))
    rw [exactly, splice, List.take_zero, List.nil_append, Nat.zero_add, length_profileBytes,
      List.drop_eq_nil_of_le (Nat.le_of_eq width), List.append_nil]
  refine ⟨_, shown, rfl, rfl, rfl, ?_, fun _ => whole, ?_⟩
  · exact (congrArg List.length whole).trans (length_profileBytes twosProfile)
  · intro entry member
    rcases List.mem_append.mp member with earlier | last
    · exact record entry earlier
    · rw [List.mem_singleton.mp last]
      exact Or.inr rfl

theorem exists_lapped (first : Lapped 0 two s) (index : ℕ) : ∃ t, Lapped index two t := by
  induction index with
  | zero => exact ⟨s, first⟩
  | succ index ih =>
      obtain ⟨t, lapped⟩ := ih
      exact lapped.next

/-- The number of the first publication comes back. -/
theorem publicationNumber_lap : publicationNumber (publicationNumbers + 1) = 1 := by
  apply UInt32.toNat.inj
  rw [publicationNumber_toNat, Nat.mod_self]
  rfl

/-- Half of the first profile and half of the second. -/
def mixedBytes : List UInt8 :=
  ((profileBytes onesProfile).drop 0).take 32 ++ ((profileBytes twosProfile).drop 32).take 32

/-- The snapshot ends its attempt after the numbers went round. -/
theorem mixed_reachable :
    ∃ s, statusDuo.system.Reachable s ∧
      (∃ passed, s.two.kept =
        [⟨unpairedRequest.commandId, unpairedState, some ⟨1, mixedBytes, passed⟩⟩]) ∧
      ∀ entry ∈ s.shared.published,
        entry.2 = profileBytes onesProfile ∨ entry.2 = profileBytes twosProfile := by
  have started : statusDuo.system.Reachable statusDuo.start := ⟨[], .start rfl⟩
  have called := started.next (a := .callFirst ([64], onesProfile)) rfl
  have withdrawn := called.next (a := .advanceFirst) rfl
  have copied := withdrawn.next (a := .advanceFirst) rfl
  have shown := copied.next (a := .advanceFirst) rfl
  have asked := shown.next (a := .callSecond unpairedRequest) rfl
  have seen := asked.next (a := .advanceSecond) rfl
  have halved := seen.next (a := .advanceSecond) rfl
  have first : Lapped 0 _ _ :=
    ⟨halved, rfl, rfl, rfl, by decide +kernel, fun positive => by omega, by
    intro entry member
    rw [List.mem_singleton.mp member]
    exact Or.inl rfl⟩
  obtain ⟨⟨⟨number, payload, published⟩, one, two⟩, lapped⟩ :=
    exists_lapped first publicationNumbers
  obtain ⟨reachable, -, rfl, same, -, latest, record⟩ := lapped
  rw [publicationNumber_lap] at same
  obtain rfl : number = 1 := same
  obtain rfl : payload = profileBytes twosProfile := latest (by decide)
  have copiedAll := reachable.next (a := .advanceSecond) rfl
  have answered := copiedAll.next (a := .advanceSecond) rfl
  have mixed : ((splice (List.replicate 64 0) 0 (((profileBytes onesProfile).drop 0).take 64)).drop
      0).take 32 ++ (((profileBytes twosProfile).drop 32).take 32 ++ []) = mixedBytes := by
    decide +kernel
  refine ⟨_, answered, ⟨published.length - 1, ?_⟩, record⟩
  rw [← mixed]
  rfl

/-- Outside the paired shell the field of the visible billboards is the shell. And when as
many profiles are published during an attempt as there are numbers, half of the profile
in the response is of the first one and half of the last. -/
theorem status_misread :
    ∃ s, statusDuo.system.Reachable s ∧ ∃ answer ∈ s.two.kept, ∃ status,
      decodeWorldStatus answer.response = some status ∧
        status.visibleBillboards = 3 ∧ answer.state.visibleBillboards = 0 ∧
        status.coverageUs = 1 ∧ status.frameTransferUs = 2 ∧
        ∀ entry ∈ s.shared.published,
          entry.2 = profileBytes onesProfile ∨ entry.2 = profileBytes twosProfile := by
  obtain ⟨s, reachable, ⟨passed, answers⟩, record⟩ := mixed_reachable
  refine ⟨s, reachable, _, by rw [answers]; exact List.mem_singleton_self _, _,
    decode_controlSnapshot _ _ _, ?_, rfl, ?_, ?_, record⟩
  · show (unpairedState.reported (some (1, profileOfBytes mixedBytes))).visibleBillboards = 3
    decide
  · show (unpairedState.reported (some (1, profileOfBytes mixedBytes))).coverageUs = 1
    decide +kernel
  · show (unpairedState.reported (some (1, profileOfBytes mixedBytes))).frameTransferUs = 2
    decide +kernel

end Deskkin.Amp
