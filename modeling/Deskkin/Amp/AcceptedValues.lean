/-
# Published values and the checks of their readers

The publishers take their values from the state of the service, from the events of
the touch panel and from the user interface, and the readers check every field on
their own. What the service shows is cut down to its range before it is published;
the coordinates of a touch are not. A touch outside the screen is published, and
its reader takes the sample for a broken one.
-/

import Deskkin.Amp.StableReads
import Deskkin.Amp.TouchRing
import Deskkin.Protocol.Codec

namespace Deskkin

/-! ## The authentication string -/

namespace Protocol

/-- `u8::try_from` of a word. -/
def u8TryFrom (value : UInt32) : Except Fault UInt8 :=
  if value < 256 then .ok value.toUInt8 else .error (.codec .invalidValue)

/-- Write the last digits of `n` in front of the index, from the last one on. -/
def fillDigits : ℕ → List UInt8 → UInt32 → Except Fault (List UInt8)
  | 0, out, _ => .ok out
  | i + 1, out, n => do
      let digit ← u8TryFrom (n % 10)
      fillDigits i (out.set i (48 + digit)) (n / 10)

/-- Six digits of the first four bytes of the handshake hash. -/
def authenticationString (handshakeHash : List UInt8) : Except Fault (List UInt8) :=
  if handshakeHash.length < 4 then
    .error (.codec .invalidValue)
  else
    let first := handshakeHash.take 4
    fillDigits 6 [48, 48, 48, 48, 48, 48] (UInt32.ofNat (BigEndian.ofBytes first) % 1000000)

end Protocol

namespace Amp

open Program Seqlock

/-- The number that `wait_pairing_decision` makes of the digits again. -/
def numericSas (digits : List UInt8) : UInt32 :=
  digits.foldl (fun value digit => value * 10 + (if digit < 48 then 0 else digit - 48).toUInt32) 0

/-! ## The service core -/

inductive TouchCode
  | absX
  | absY
  | button
  | other
  deriving DecidableEq

/-- What is published depends on the atomics of the service, the last touch values
and the counters of the publishers; all that was published is kept, newest last. -/
structure Core where
  uiShell : UInt8
  uiSas : UInt32
  uiView : UInt8
  uiFilter : UInt8
  benchmarkActive : Bool
  benchmarkStarted : UInt32
  touch : Touch
  worldGeneration : UInt32
  touchGeneration : UInt32
  commandGeneration : UInt32
  yawGeneration : UInt32
  worlds : List WorldSnapshot
  touches : List TouchSample
  commands : List UiCommand
  yaws : List TargetYaw

def Core.booted : Core where
  uiShell := 0
  uiSas := 0xffffffff
  uiView := 0
  uiFilter := 1
  benchmarkActive := false
  benchmarkStarted := 0
  touch := ⟨0, 0, 0⟩
  worldGeneration := 0
  touchGeneration := 0
  commandGeneration := 0
  yawGeneration := 0
  worlds := []
  touches := []
  commands := []
  yaws := []

/-- The buttons of the user interface. -/
inductive UiButton
  | pair
  | confirm
  | cancel
  deriving DecidableEq

def UiButton.command : UiButton → UInt8
  | .pair => 1
  | .confirm => 2
  | .cancel => 3

theorem UiButton.command_range (button : UiButton) : 1 ≤ button.command ∧ button.command ≤ 3 := by
  cases button <;> decide

/-- The events: the service changes what it shows, the benchmark starts, the panel
is touched, and the two cores publish. -/
inductive CoreEvent
  | showShell (value : UInt8)
  | showView (value : UInt8)
  | showFilter (value : UInt8)
  | askDecision (handshakeHash : List UInt8)
  | decided
  | startBenchmark
  | touch (code : TouchCode) (value : Int32) (sync : Bool)
  | publishWorld (observedYaw : Int64)
  | press (button : UiButton)
  | turn (value : Int64)

def Core.serviceShell (core : Core) : UInt8 := if core.uiShell ≤ 4 then core.uiShell else 4

def Core.serviceAvailability (core : Core) : UInt8 :=
  (if core.uiView ≤ 2 then core.uiView else 2) + 1

def Core.serviceAvailabilityFilter (core : Core) : UInt8 :=
  if core.uiFilter ≤ 1 then core.uiFilter else 1

def filtered (value filter : UInt8) : UInt8 :=
  value ||| (if filter ≠ 0 then worldFilterBilinear else 0)

/-- The view of `publish_world_snapshot`; a benchmark shows fixed values. -/
def Core.view (core : Core) (observedYaw : Int64) : WorldView where
  observedYaw := observedYaw
  sas := core.uiSas
  shell := core.serviceShell
  availability :=
    if core.benchmarkActive then filtered 2 0
    else filtered core.serviceAvailability core.serviceAvailabilityFilter
  notice := if core.benchmarkActive then filtered 1 1 else filtered 0 0

def Core.publishWorld (core : Core) (observedYaw : Int64) : Core :=
  let generation := core.worldGeneration + 1
  { core with
    worldGeneration := generation
    worlds := core.worlds ++ [(core.view observedYaw).snapshot generation]
    benchmarkActive :=
      core.benchmarkActive && !decide (1200 ≤ generation - core.benchmarkStarted) }

def Touch.event (touch : Touch) (code : TouchCode) (value : Int32) : Touch :=
  match code with
  | .absX => { touch with x := value }
  | .absY => { touch with y := value }
  | .button => { touch with pressed := if value ≠ 0 then 1 else 0 }
  | .other => touch

/-- The callback of the touch panel: the last event of a report publishes. -/
def Core.touchCallback (core : Core) (code : TouchCode) (value : Int32) (sync : Bool) : Core :=
  let touch := core.touch.event code value
  if sync then
    { core with
      touch := touch
      touchGeneration := core.touchGeneration + 1
      touches := core.touches ++ [touch.sample (core.touchGeneration + 1)] }
  else { core with touch := touch }

def Core.step (core : Core) : CoreEvent → Option Core
  | .showShell value => some { core with uiShell := value }
  | .showView value => some { core with uiView := value }
  | .showFilter value => some { core with uiFilter := value }
  | .askDecision handshakeHash =>
      (Protocol.authenticationString handshakeHash).toOption.map fun digits =>
        { core with uiSas := numericSas digits }
  | .decided => some { core with uiSas := 0xffffffff }
  | .startBenchmark =>
      if core.serviceShell = shellPaired then
        some { core with benchmarkActive := true, benchmarkStarted := core.worldGeneration }
      else some core
  | .touch code value sync => some (core.touchCallback code value sync)
  | .publishWorld observedYaw => some (core.publishWorld observedYaw)
  | .press button =>
      let generation := nextGeneration core.commandGeneration
      some { core with
        commandGeneration := generation
        commands := core.commands ++ [⟨generation, button.command, channelSchema⟩] }
  | .turn value =>
      let generation := nextGeneration core.yawGeneration
      some { core with
        yawGeneration := generation
        yaws := core.yaws ++ [⟨generation, channelSchema, value⟩] }

def coreSystem : StepSystem Core CoreEvent where
  Initial core := core = .booted
  step := Core.step

/-! ## What is accepted -/

/-- A reader that finds these bytes under this number does not refuse them. -/
def Unrefused (program : Program Mailbox Reading) (number : UInt32) (bytes : List UInt8) : Prop :=
  (program.alone ⟨number, bytes, []⟩).1 ≠ .refused

/-- Every published value passes the checks of its reader, which does not refuse
it in its memory. -/
structure Core.Agrees (core : Core) : Prop where
  worlds : ∀ world ∈ core.worlds, world.Acceptable ∧ ∀ cut attempts,
    cut.sum = WorldSnapshot.size →
      Unrefused (worldSnapshot cut attempts) world.generation world.bytes
  touches : ∀ sample ∈ core.touches, sample.Acceptable sample.generation ∧ ∀ cut,
    cut.sum = TouchSample.size →
      Unrefused (readSlot cut sample.generation) sample.generation sample.bytes
  commands : ∀ command ∈ core.commands, command.Acceptable command.generation ∧ ∀ cut received,
    cut.sum = UiCommand.size →
      Unrefused (receiveUiCommand cut received) command.generation command.bytes
  yaws : ∀ yaw ∈ core.yaws, yaw.Acceptable yaw.generation ∧ ∀ cut,
    cut.sum = TargetYaw.size → Unrefused (updateObservedYaw cut) yaw.generation yaw.bytes

/-- The coordinates as they are published lie on the screen. -/
def Touch.OnScreen (touch : Touch) : Prop :=
  0 ≤ touch.x.toInt16 ∧ touch.x.toInt16 < 320 ∧ 0 ≤ touch.y.toInt16 ∧ touch.y.toInt16 < 240

instance (touch : Touch) : Decidable touch.OnScreen := by
  unfold Touch.OnScreen
  infer_instance

/-- A report of the touch panel ends on the screen. -/
def TouchesOnScreen (core : Core) : CoreEvent → Prop
  | .touch code value true => (core.touch.event code value).OnScreen
  | _ => True

/-! ## What the service shows is in range -/

/-- The last digits of a number as ASCII, most significant first. -/
def decimalDigits : ℕ → ℕ → List UInt8
  | 0, _ => []
  | count + 1, number => decimalDigits count (number / 10) ++ [UInt8.ofNat (48 + number % 10)]

theorem decimalDigits_succ (count number : ℕ) :
    decimalDigits (count + 1) number =
      decimalDigits count (number / 10) ++ [UInt8.ofNat (48 + number % 10)] :=
  rfl

theorem digit_value : ∀ digit < 10, (if UInt8.ofNat (48 + digit) < 48 then (0 : UInt8)
    else UInt8.ofNat (48 + digit) - 48).toUInt32.toNat = digit := by
  decide

/-- The digits of a number are read back, as many as there are. -/
theorem numericSas_decimalDigits {count : ℕ} (few : count ≤ 9) (number : ℕ) :
    (numericSas (decimalDigits count number)).toNat = number % 10 ^ count := by
  induction count generalizing number with
  | zero => simp [numericSas, decimalDigits, Nat.mod_one]
  | succ count ih =>
      have before := ih (by omega) (number / 10)
      have digit := digit_value (number % 10) (Nat.mod_lt _ (by decide))
      have bound : number / 10 % 10 ^ count < 10 ^ 8 :=
        Nat.lt_of_lt_of_le (Nat.mod_lt _ (Nat.pow_pos (by decide)))
          (Nat.pow_le_pow_right (by decide) (by omega))
      rw [decimalDigits_succ, numericSas, List.foldl_append, List.foldl_cons, List.foldl_nil,
        ← numericSas, UInt32.toNat_add, UInt32.toNat_mul, before, digit]
      have ten : (10 : UInt32).toNat = 10 := rfl
      rw [ten, Nat.mod_eq_of_lt (a := _ * 10) (by omega), Nat.mod_eq_of_lt (by omega), pow_succ,
        Nat.mul_comm (10 ^ count) 10, Nat.mod_mul]
      omega

theorem u8TryFrom_digit (n : UInt32) : Protocol.u8TryFrom (n % 10) = .ok (n % 10).toUInt8 := by
  apply if_pos
  rw [UInt32.lt_iff_toNat_lt, UInt32.toNat_mod]
  exact Nat.lt_of_lt_of_le (Nat.mod_lt _ (by decide)) (by decide)

/-- The loop of `authenticationString` writes the last digits. -/
theorem fillDigits_eq {index : ℕ} {out : List UInt8} (room : index ≤ out.length) (n : UInt32) :
    Protocol.fillDigits index out n = .ok (decimalDigits index n.toNat ++ out.drop index) := by
  induction index generalizing out n with
  | zero => simp [Protocol.fillDigits, decimalDigits]
  | succ index ih =>
      have inside : index < out.length := room
      have digit : 48 + (n % 10).toUInt8 = UInt8.ofNat (48 + n.toNat % 10) := by
        have value : n.toNat % 10 < 10 := Nat.mod_lt _ (by decide)
        apply UInt8.toNat_inj.mp
        simp [UInt32.toNat_mod]
      have written : (out.set index (48 + (n % 10).toUInt8)).drop index =
          (48 + (n % 10).toUInt8) :: out.drop (index + 1) := by
        rw [List.drop_eq_getElem_cons (by simpa using inside), List.getElem_set_self,
          List.drop_set_of_lt (Nat.lt_succ_self index)]
      rw [Protocol.fillDigits, u8TryFrom_digit, Fallible.ok_bind,
        ih (by simpa using inside.le), written, decimalDigits_succ, List.append_assoc, digit]
      simp [UInt32.toNat_div]

/-- The string is the six digits of a number below a million. -/
theorem authenticationString_eq {handshakeHash : List UInt8} (long : 4 ≤ handshakeHash.length) :
    Protocol.authenticationString handshakeHash =
      .ok (decimalDigits 6 (BigEndian.ofBytes (handshakeHash.take 4) % 1000000)) := by
  have word : BigEndian.ofBytes (handshakeHash.take 4) < 2 ^ 32 := by
    have bound := BigEndian.ofBytes_lt (handshakeHash.take 4)
    rwa [List.length_take, Nat.min_eq_left long] at bound
  have number : (UInt32.ofNat (BigEndian.ofBytes (handshakeHash.take 4)) % 1000000).toNat =
      BigEndian.ofBytes (handshakeHash.take 4) % 1000000 := by
    rw [UInt32.toNat_mod, UInt32.toNat_ofNat_of_lt' word]
    rfl
  rw [Protocol.authenticationString, if_neg (Nat.not_lt.mpr long), fillDigits_eq (by simp), number]
  rfl

/-- The string on the screen stays within six digits. -/
def Core.SasInRange (core : Core) : Prop := core.uiSas = 0xffffffff ∨ core.uiSas ≤ 999999

theorem numericSas_le {handshakeHash digits : List UInt8}
    (shown : Protocol.authenticationString handshakeHash = .ok digits) :
    numericSas digits ≤ 999999 := by
  have long : 4 ≤ handshakeHash.length := by
    by_contra short
    rw [Protocol.authenticationString, if_pos (Nat.lt_of_not_le short)] at shown
    cases shown
  cases (authenticationString_eq long).symm.trans shown
  rw [UInt32.le_iff_toNat_le, numericSas_decimalDigits (by decide)]
  have small := Nat.mod_lt (BigEndian.ofBytes (handshakeHash.take 4) % 1000000)
    (show 0 < 10 ^ 6 by decide)
  have top : (999999 : UInt32).toNat = 999999 := rfl
  omega

theorem sasInRange_step {core after : Core} {event : CoreEvent} (range : core.SasInRange)
    (moved : core.step event = some after) : after.SasInRange := by
  cases event with
  | askDecision handshakeHash =>
      obtain ⟨digits, shown, rfl⟩ := Option.map_eq_some_iff.mp moved
      cases answer : Protocol.authenticationString handshakeHash with
      | error fault =>
          rw [answer] at shown
          cases shown
      | ok own =>
          rw [answer] at shown
          cases shown
          exact Or.inr (numericSas_le answer)
  | decided =>
      cases moved
      exact Or.inl rfl
  | startBenchmark =>
      simp only [Core.step] at moved
      split at moved <;> cases moved <;> exact range
  | touch code value sync =>
      cases moved
      cases sync <;> exact range
  | showShell value => cases moved; exact range
  | showView value => cases moved; exact range
  | showFilter value => cases moved; exact range
  | publishWorld observedYaw => cases moved; exact range
  | press button => cases moved; exact range
  | turn value => cases moved; exact range

theorem filtered_small : ∀ value < 4, ∀ bilinear : Bool,
    (UInt8.ofNat value ||| (if bilinear then worldFilterBilinear else 0)) &&& worldValueMask =
      UInt8.ofNat value := by
  decide

/-- The filter bit does not disturb a small value. -/
theorem filtered_mask {value : UInt8} (filter : UInt8) (small : value ≤ 3) :
    filtered value filter &&& worldValueMask = value := by
  have bound : value.toNat < 4 := Nat.lt_succ_of_le (UInt8.le_iff_toNat_le.mp small)
  have masked := filtered_small value.toNat bound (decide (filter ≠ 0))
  rw [UInt8.ofNat_toNat] at masked
  simpa [filtered] using masked

theorem serviceAvailability_le (core : Core) : core.serviceAvailability ≤ 3 := by
  have capped : ∀ view < 3, UInt8.ofNat view + 1 ≤ 3 := by decide
  unfold Core.serviceAvailability
  split
  · rename_i small
    have bound : core.uiView.toNat < 3 := Nat.lt_succ_of_le (UInt8.le_iff_toNat_le.mp small)
    have next := capped core.uiView.toNat bound
    rwa [UInt8.ofNat_toNat] at next
  · decide

theorem acceptable_view {core : Core} (range : core.SasInRange) (observedYaw : Int64)
    (generation : UInt32) : ((core.view observedYaw).snapshot generation).Acceptable := by
  refine ⟨rfl, rfl, ?_, ?_, ?_, range⟩
  · show core.serviceShell ≤ 4
    unfold Core.serviceShell
    split
    · assumption
    · decide
  · show (if core.benchmarkActive then filtered 2 0
      else filtered core.serviceAvailability core.serviceAvailabilityFilter) &&& worldValueMask ≤ 3
    split
    · decide
    · rw [filtered_mask _ (serviceAvailability_le core)]
      exact serviceAvailability_le core
  · show (if core.benchmarkActive then filtered 1 1 else filtered 0 0) &&& worldValueMask ≤ 1
    split <;> decide

/-! ## What passes the checks is not refused -/

/-- One attempt over a value that stands copies it as a whole. -/
theorem attempt_unrefused {size : ℕ} {cut : List ℕ} {number : UInt32} {bytes : List UInt8}
    (width : bytes.length = size) (whole : cut.sum = size) {refuses : UInt32 → Prop}
    [DecidablePred refuses] {rest : UInt32 → List UInt8 → UInt32 → Program Mailbox Reading}
    (onward : ¬refuses number → Unrefused (rest number bytes number) number bytes) :
    Unrefused (load Cell.publication >>= fun number =>
      if refuses number then (return .nothing : Program Mailbox Reading)
      else copyFrom 0 cut >>= fun bytes => load Cell.publication >>= rest number bytes)
        number bytes := by
  have copied : (bytes.drop 0).take cut.sum = bytes := by
    rw [List.drop_zero, whole, ← width, List.take_length]
  rw [Unrefused, alone_load_bind]
  split
  · exact Reading.noConfusion
  · rename_i shown
    rw [alone_bind, copyFrom_alone, alone_load_bind, copied]
    exact onward shown

theorem worldSnapshot_unrefused {world : WorldSnapshot} (acceptable : world.Acceptable)
    {cut : List ℕ} (whole : cut.sum = WorldSnapshot.size) (attempts : ℕ) :
    Unrefused (worldSnapshot cut attempts) world.generation world.bytes := by
  cases attempts with
  | zero => exact Reading.noConfusion
  | succ attempts =>
      apply attempt_unrefused world.length_bytes whole
      intro shown
      simp [Unrefused, alone, WorldSnapshot.ofBytes_bytes, acceptable]

theorem readSlot_unrefused {sample : TouchSample} (acceptable : sample.Acceptable sample.generation)
    {cut : List ℕ} (whole : cut.sum = TouchSample.size) :
    Unrefused (readSlot cut sample.generation) sample.generation sample.bytes := by
  apply attempt_unrefused sample.length_bytes whole
  intro shown
  simp [Unrefused, alone, TouchSample.ofBytes_bytes, acceptable]

theorem receiveUiCommand_unrefused {command : UiCommand}
    (acceptable : command.Acceptable command.generation) {cut : List ℕ} (received : UInt32)
    (whole : cut.sum = UiCommand.size) :
    Unrefused (receiveUiCommand cut received) command.generation command.bytes := by
  apply attempt_unrefused command.length_bytes whole
  intro shown
  simp [Unrefused, alone, UiCommand.ofBytes_bytes, acceptable]

theorem updateObservedYaw_unrefused {yaw : TargetYaw} (acceptable : yaw.Acceptable yaw.generation)
    {cut : List ℕ} (whole : cut.sum = TargetYaw.size) :
    Unrefused (updateObservedYaw cut) yaw.generation yaw.bytes := by
  apply attempt_unrefused yaw.length_bytes whole
  intro shown
  simp [Unrefused, alone, TargetYaw.ofBytes_bytes, acceptable]

/-! ## Exactly the touches on the screen are accepted -/

theorem acceptable_sample_iff (touch : Touch) (generation : UInt32) :
    (touch.sample generation).Acceptable generation ↔ touch.OnScreen := by
  have pressed : (touch.sample generation).pressed ≤ 1 := by
    show (if touch.pressed ≠ 0 then (1 : UInt8) else 0) ≤ 1
    split <;> decide
  constructor
  · rintro ⟨-, -, -, inside⟩
    exact inside
  · intro inside
    exact ⟨rfl, rfl, pressed, inside⟩

/-- A list of published values grows by one that is accepted. -/
theorem forall_mem_concat {α : Type} {P : α → Prop} {items : List α} {last : α}
    (before : ∀ item ∈ items, P item) (here : P last) : ∀ item ∈ items ++ [last], P item := by
  intro item found
  rcases List.mem_append.mp found with earlier | latest
  · exact before item earlier
  · rw [List.mem_singleton.mp latest]
    exact here

theorem Core.Agrees.step {core after : Core} {event : CoreEvent} (agrees : core.Agrees)
    (range : core.SasInRange) (onScreen : TouchesOnScreen core event)
    (moved : core.step event = some after) : after.Agrees := by
  obtain ⟨worlds, touches, commands, yaws⟩ := agrees
  cases event with
  | showShell value => cases moved; exact ⟨worlds, touches, commands, yaws⟩
  | showView value => cases moved; exact ⟨worlds, touches, commands, yaws⟩
  | showFilter value => cases moved; exact ⟨worlds, touches, commands, yaws⟩
  | decided => cases moved; exact ⟨worlds, touches, commands, yaws⟩
  | askDecision handshakeHash =>
      obtain ⟨digits, shown, rfl⟩ := Option.map_eq_some_iff.mp moved
      exact ⟨worlds, touches, commands, yaws⟩
  | startBenchmark =>
      simp only [Core.step] at moved
      split at moved <;> cases moved <;> exact ⟨worlds, touches, commands, yaws⟩
  | touch code value sync =>
      cases moved
      cases sync with
      | false => exact ⟨worlds, touches, commands, yaws⟩
      | true =>
          have accepted := (acceptable_sample_iff (core.touch.event code value)
            (core.touchGeneration + 1)).mpr onScreen
          exact ⟨worlds, forall_mem_concat touches
            ⟨accepted, fun cut whole => readSlot_unrefused accepted whole⟩, commands, yaws⟩
  | publishWorld observedYaw =>
      cases moved
      have accepted := acceptable_view range observedYaw (core.worldGeneration + 1)
      exact ⟨forall_mem_concat worlds ⟨accepted, fun cut attempts whole =>
        worldSnapshot_unrefused accepted whole attempts⟩, touches, commands, yaws⟩
  | press button =>
      cases moved
      have accepted : UiCommand.Acceptable ⟨nextGeneration core.commandGeneration, button.command,
          channelSchema⟩ (nextGeneration core.commandGeneration) := ⟨rfl, rfl, button.command_range⟩
      exact ⟨worlds, touches, forall_mem_concat commands ⟨accepted, fun cut received whole =>
        receiveUiCommand_unrefused accepted received whole⟩, yaws⟩
  | turn value =>
      cases moved
      have accepted : TargetYaw.Acceptable ⟨nextGeneration core.yawGeneration, channelSchema,
          value⟩ (nextGeneration core.yawGeneration) := ⟨rfl, rfl⟩
      exact ⟨worlds, touches, commands, forall_mem_concat yaws ⟨accepted, fun cut whole =>
        updateObservedYaw_unrefused accepted whole⟩⟩

/-- **Publishers and readers agree.** In a run of the two cores every published
value is accepted by its reader if and only if every report of the touch panel lies
on the screen. -/
theorem agrees_throughout_iff {past : List (Core × CoreEvent)} {core : Core}
    (run : coreSystem.Run past core) :
    StepSystem.Throughout Core.Agrees past core ↔ StepSystem.Guarded TouchesOnScreen past := by
  apply run.throughout_iff_guarded (I := fun core => core.Agrees ∧ core.SasInRange)
  · rintro _ rfl
    refine ⟨⟨fun _ found => ?_, fun _ found => ?_, fun _ found => ?_, fun _ found => ?_⟩,
      Or.inl rfl⟩
    all_goals cases found
  · rintro core event after ⟨agrees, range⟩ onScreen moved
    exact ⟨agrees.step range onScreen moved, sasInRange_step range moved⟩
  · exact fun core held => held.1
  · rintro core event after - moved agrees
    cases event with
    | touch code value sync =>
        cases sync with
        | false => exact trivial
        | true =>
            cases moved
            have accepted :=
              (agrees.touches _ (List.mem_append_right _ (List.mem_singleton_self _))).1
            exact (acceptable_sample_iff _ _).mp accepted
    | _ => exact trivial

/-- A report in the middle of the screen, a snapshot and the first button. -/
def onScreenEvents : List CoreEvent :=
  [.touch .absX 160 false, .touch .absY 120 false, .touch .button 1 true, .publishWorld 0,
    .press .pair]

theorem agrees_throughout_iff_on_screen :
    ∃ past core, coreSystem.Run past core ∧ StepSystem.Throughout Core.Agrees past core ∧
      core.touches = [⟨1, 160, 120, 1, 1⟩] := by
  have ran : (coreSystem.execute .booted onScreenEvents).map Core.touches =
      some [⟨1, 160, 120, 1, 1⟩] := by
    decide +kernel
  have along : coreSystem.Along TouchesOnScreen .booted onScreenEvents := by
    refine ⟨trivial, ?_⟩
    rintro _ ⟨⟩
    refine ⟨trivial, ?_⟩
    rintro _ ⟨⟩
    refine ⟨(by decide : Touch.OnScreen ⟨160, 120, 1⟩), ?_⟩
    rintro _ ⟨⟩
    refine ⟨trivial, ?_⟩
    rintro _ ⟨⟩
    exact ⟨trivial, fun _ _ => trivial⟩
  obtain ⟨past, core, run, guarded, touches⟩ := StepSystem.exists_guarded_of_map along ran rfl
  exact ⟨past, core, run, (agrees_throughout_iff run).mpr guarded, touches⟩

/-- A touch one column to the right of the screen is published, and its reader
refuses it. -/
theorem touch_refused_off_screen :
    (∃ core, coreSystem.Reachable core ∧ core.touches = [⟨1, 320, 0, 0, 1⟩] ∧ ¬core.Agrees) ∧
      ((touchRead [4, 4, 4] 0).alone
        ((publishTouch [4, 4, 4] ⟨320, 0, 0⟩ 0).alone .cleared).2).1 = .refused := by
  have ran : (coreSystem.execute .booted [.touch .absX 320 true]).map Core.touches =
      some [⟨1, 320, 0, 0, 1⟩] := by
    decide +kernel
  obtain ⟨core, reachable, touches⟩ := StepSystem.exists_reachable_of_map ran rfl
  have refused : ¬core.Agrees := by
    intro agrees
    have accepted :=
      (agrees.touches ⟨1, 320, 0, 0, 1⟩ (by rw [touches]; exact List.mem_cons_self)).1
    exact absurd accepted (by decide +kernel)
  exact ⟨⟨core, reachable, touches, refused⟩, by decide +kernel⟩

end Amp

end Deskkin
