/-
# Profiles and their names

A profile says under which directory a host keeps its state and which address it binds.
Its name is the name of its file. Both are checked before anything is stored, and a stored
profile is checked again when it is read.
-/

import Deskkin.Identity.Hex
import Mathlib.Data.List.Infix
import Mathlib.Data.List.Basic

namespace Deskkin.Profiles

def profileLimit : ℕ := 32

def profileBytesMax : ℕ := 4 * 1024

def profileSchemaVersion : UInt8 := 1

def privateLanPort : UInt16 := 39042

/-- The failures of the operations of this module; stopping and running have more. -/
inductive ProfileError
  | nameInvalid
  | schemaInvalid
  | addressInvalid
  | storeUnsafe
  | notFound
  | limitExceeded
  | ownerBusy
  | ownerUnknown
  | publicationUnknown
  | io
  deriving DecidableEq

/-! ## Addresses -/

inductive SocketAddr
  | v4 (octets : Vector UInt8 4) (port : UInt16)
  | v6 (segments : Vector UInt16 8) (port : UInt16) (flowinfo scopeId : UInt32)
  deriving DecidableEq

namespace SocketAddr

def port : SocketAddr → UInt16
  | v4 _ port | v6 _ port _ _ => port

def isLoopback : SocketAddr → Bool
  | v4 octets _ => octets[0] = 127
  | v6 segments _ _ _ => segments = #v[0, 0, 0, 0, 0, 0, 0, 1]

def isExactPrivateLanAddress : SocketAddr → Bool
  | v4 octets port =>
      let isPrivate := decide (octets[0] = 10) ||
        (decide (octets[0] = 172) && decide ((16 : UInt8) ≤ octets[1] ∧ octets[1] ≤ 31)) ||
        (decide (octets[0] = 192) && decide (octets[1] = 168))
      isPrivate && !decide (octets = #v[0, 0, 0, 0]) && decide (port = privateLanPort)
  | v6 _ _ _ _ => false

end SocketAddr

/-! ## Role roots -/

/-- A component of a path. -/
inductive Component
  | rootDir
  | curDir
  | parentDir
  | normal (name : Text)
  deriving DecidableEq

def Component.name : Component → Text
  | rootDir => ['/']
  | curDir => ['.']
  | parentDir => ['.', '.']
  | normal name => name

def Component.isNormal : Component → Bool
  | normal _ => true
  | _ => false

/-- A dot counts only at the start of a path. -/
def component (atStart : Bool) (piece : Text) : Option Component :=
  if piece = [] then none
  else if piece = ['.'] then if atStart then some .curDir else none
  else if piece = ['.', '.'] then some .parentDir
  else some (.normal piece)

def components (path : Text) : List Component :=
  match path.splitOn '/' with
  | [] => []
  | first :: rest =>
      (if path.head? = some '/' then [.rootDir] else []) ++
        (component true first).toList ++ rest.filterMap (component false)

def validateRoleRoot (value : Text) : Except ProfileError Unit :=
  if value = [] ∨ value.head? = some '/' then .error .schemaInvalid
  else
    let parts := components value
    if parts = [] ∨ parts.any (fun part => !part.isNormal) then .error .schemaInvalid
    else
      let names := parts.map Component.name
      if ['/'].intercalate names ≠ value ∨
          names.head? = some "profiles".toList ∨ names.head? = some "profile-control".toList then
        .error .schemaInvalid
      else .ok ()

/-! ## Profiles -/

inductive BindMode
  | loopback
  | privateLan
  deriving DecidableEq

structure BindProfile where
  mode : BindMode
  address : SocketAddr
  deriving DecidableEq

inductive ProfileAvailability
  | available
  | unavailable
  | readFailed
  deriving DecidableEq

inductive ProfileRecording
  | on
  | off
  deriving DecidableEq

structure PhysicalProfile where
  schemaVersion : UInt8
  roleRoot : Text
  bind : BindProfile
  availability : ProfileAvailability
  recording : ProfileRecording
  deriving DecidableEq

def PhysicalProfile.validate (self : PhysicalProfile) : Except ProfileError Unit :=
  if self.schemaVersion ≠ profileSchemaVersion then .error .schemaInvalid
  else
    match validateRoleRoot self.roleRoot with
    | .error error => .error error
    | .ok () =>
        if self.bind.address.port = 0 then .error .addressInvalid
        else
          match self.bind.mode with
          | .loopback =>
              if self.bind.address.isLoopback then .ok () else .error .addressInvalid
          | .privateLan =>
              if self.bind.address.isExactPrivateLanAddress then .ok ()
              else .error .addressInvalid

/-- The text of a profile with its final newline, and the profile that a text is read as,
before it is checked. -/
structure ProfileCodec where
  encode : PhysicalProfile → List UInt8
  decode : List UInt8 → Option PhysicalProfile
  decode_encode : ∀ profile, profile.validate = .ok () →
    ∃ stored, decode (encode profile) = some stored ∧ stored.validate = .ok ()

/-! ## Names -/

def isNameCharacter (character : Char) : Bool :=
  decide ('a' ≤ character ∧ character ≤ 'z') || decide ('0' ≤ character ∧ character ≤ '9') ||
    decide (character = '-')

/-- The length in bytes is that in characters: any other name has a character that no name
may have. -/
def validateProfileName (name : Text) : Except ProfileError Unit :=
  if name = [] ∨ name.length > 32 ∨ name.head? = some '-' ∨ name.getLast? = some '-' ∨
      ['-', '-'] <:+: name ∨ !name.all isNameCharacter then .error .nameInvalid
  else .ok ()

/-- The file of the profile with this name. -/
def profileFile (name : Text) : Text := name ++ ".json".toList

/-- The file that a profile is written to before it is published. -/
def temporaryFile (name : Text) : Text := ".tmp-".toList ++ name

theorem dropSuffix?_eq_some_iff {file name : Text} :
    file.dropSuffix? ".json".toList = some name ↔ file = profileFile name := by
  rw [List.dropSuffix?_eq_some_iff, profileFile]
  constructor
  · rintro ⟨suffix, rfl, same⟩
    rw [eq_of_beq same]
  · exact fun same => ⟨_, same, beq_self_eq_true _⟩

theorem dropPrefix?_eq_some_iff {file name : Text} :
    file.dropPrefix? ".tmp-".toList = some name ↔ file = temporaryFile name := by
  rw [List.dropPrefix?_eq_some_iff, temporaryFile]
  constructor
  · rintro ⟨start, rfl, same⟩
    rw [eq_of_beq same]
  · exact fun same => ⟨_, same, beq_self_eq_true _⟩

theorem profileFile_injective : Function.Injective profileFile :=
  fun _ _ same => List.append_cancel_right same

theorem temporaryFile_injective : Function.Injective temporaryFile :=
  fun _ _ same => List.append_cancel_left same

/-- The file of a profile is never one that a profile is written to first: no name starts
with a dot. -/
theorem profileFile_ne_temporaryFile {name : Text} (valid : validateProfileName name = .ok ())
    (other : Text) : profileFile name ≠ temporaryFile other := by
  intro same
  unfold validateProfileName at valid
  split at valid
  · cases valid
  · rename_i fine
    simp only [not_or, Bool.not_eq_true', Bool.not_eq_false] at fine
    obtain ⟨first, rest, rfl⟩ := List.exists_cons_of_ne_nil fine.1
    have dot : first = '.' := congrArg (·.headD ' ') same
    have allowed := List.all_eq_true.mp fine.2.2.2.2.2 first List.mem_cons_self
    rw [dot] at allowed
    cases allowed

end Deskkin.Profiles
