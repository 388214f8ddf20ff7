import Sentinel.PropertyType
import Sentinel.Text.Numeral
/-!
# Errors

One type of errors for each concern, a constructor for each cause, and one function for the wording.

Correspondence (operation of the component ↔ definition):
  the text of an error                    ↔ `message` of its type
  `is_recoverable`, `is_validation`       ↔ `isRecoverable`, `isValidation`
  `parameter`, `engine`                   ↔ `parameter?`, `engine?`
  a panic in place of an error            ↔ `Fault.panic`
  `from_str`, `property_types_from_names` ↔ `PropertyType.parse`, `PropertyType.parseAll`
  `validate_limit`                        ↔ `Limit.check`
-/

namespace Sentinel

open Text (natText)

inductive ScanError where
  | engineUnavailable (engine reason : String)
  | unreadable (reason : String)
deriving DecidableEq, Repr

namespace ScanError

/-- Whether trying again may help. -/
def isRecoverable : ScanError → Bool
  | engineUnavailable .. => true
  | unreadable _ => false

def kind : ScanError → String
  | engineUnavailable .. => "EngineUnavailable"
  | unreadable _ => "Io"

def engine? : ScanError → Option String
  | engineUnavailable engine _ => some engine
  | unreadable _ => none

def message : ScanError → String
  | engineUnavailable engine reason => "engine '" ++ engine ++ "' is unavailable: " ++ reason
  | unreadable reason => "I/O error: " ++ reason

end ScanError

inductive RepositoryError where
  | notFound (path : String)
  | indexOutOfRange (path : String) (index count : Nat)
  | accessFailed (path reason : String)
  | sessionUnavailable (reason : String)
deriving DecidableEq, Repr

namespace RepositoryError

def kind : RepositoryError → String
  | notFound _ => "NotFound"
  | indexOutOfRange .. => "IndexOutOfRange"
  | accessFailed .. => "AccessFailed"
  | sessionUnavailable _ => "SessionUnavailable"

def message : RepositoryError → String
  | notFound path => "no item found at path: " ++ path
  | indexOutOfRange path index count =>
    "index " ++ natText index ++ " out of range for property '" ++ path ++ "' with " ++ natText count ++
      " values"
  | accessFailed path reason => "access to '" ++ path ++ "' failed: " ++ reason
  | sessionUnavailable reason => "failed to open repository session: " ++ reason

end RepositoryError

/-- A failure to find or to process scan jobs. -/
inductive DispatchError where
  | validation (parameter reason : String)
  | repositoryAccess (cause : RepositoryError)
  | unsupportedType (path : String) (propertyType : PropertyType)
  | scanEngine (cause : ScanError)
  | jobSubmission (topic reason : String)
  | invalidJob (topic reason : String)
  | shapeMismatch (path reason : String)
  | rejected (reason : String)
deriving DecidableEq, Repr

namespace DispatchError

/-- A parameter with a value that is refused. -/
def invalidValue (parameter value : String) : DispatchError :=
  .validation parameter ("Invalid parameter value for " ++ parameter ++ ": " ++ value)

def kind : DispatchError → String
  | validation .. => "Validation"
  | repositoryAccess _ => "RepositoryAccess"
  | unsupportedType .. => "UnsupportedType"
  | scanEngine _ => "ScanEngine"
  | jobSubmission .. => "JobSubmission"
  | invalidJob .. => "InvalidJob"
  | shapeMismatch .. => "ShapeMismatch"
  | rejected _ => "Rejected"

/-- Whether the error was raised before any work began. -/
def isValidation : DispatchError → Bool
  | validation .. => true
  | _ => false

/-- Whether running the job again may help. -/
def isRecoverable : DispatchError → Bool
  | scanEngine cause => cause.isRecoverable
  | _ => false

def parameter? : DispatchError → Option String
  | validation parameter _ => some parameter
  | _ => none

def message : DispatchError → String
  | validation _ reason => reason
  | repositoryAccess cause => "repository access failed: " ++ cause.message
  | unsupportedType path propertyType =>
    "unsupported property type " ++ propertyType.canonicalName ++ " for '" ++ path ++ "'"
  | scanEngine cause => "scan engine failed: " ++ cause.message
  | jobSubmission topic reason => "failed to submit job to topic '" ++ topic ++ "': " ++ reason
  | invalidJob topic reason => "invalid scan job on topic '" ++ topic ++ "': " ++ reason
  | shapeMismatch path reason => "property '" ++ path ++ "' changed shape: " ++ reason
  | rejected reason => "dig task rejected: " ++ reason

end DispatchError

namespace PropertyType

/-- The type with a name, or the error that there is none. -/
def parse (name : String) : Except DispatchError PropertyType :=
  match ofName? name with
  | some t => .ok t
  | none => .error (.validation "propertyType" ("unknown property type: " ++ name))

/-- The types with the given names, in canonical order and each once. -/
def parseAll (names : List String) : Except DispatchError (List PropertyType) :=
  (names.mapM parse).map ordered

end PropertyType

inductive HandlerError where
  | publish (reason : String)
  | mail (reason : String)
  | template (reason : String)
  | persist (path reason : String)
  | serialization
  | panicked (handler : String)
deriving DecidableEq, Repr

namespace HandlerError

def kind : HandlerError → String
  | publish _ => "Publish"
  | mail _ => "Mail"
  | template _ => "Template"
  | persist .. => "Persist"
  | serialization => "Serialization"
  | panicked _ => "Panicked"

def message : HandlerError → String
  | publish reason => "failed to publish result event: " ++ reason
  | mail reason => "failed to send result mail: " ++ reason
  | template reason => "invalid template: " ++ reason
  | persist path reason => "failed to persist result at '" ++ path ++ "': " ++ reason
  | serialization => "failed to serialize result"
  | panicked handler => "handler '" ++ handler ++ "' panicked"

end HandlerError

inductive TransportError where
  | closed
  | refused (reason : String)
  | broken (reason : String)
deriving DecidableEq, Repr

namespace TransportError

def kind : TransportError → String
  | closed => "Closed"
  | refused _ => "Refused"
  | broken _ => "Io"

def message : TransportError → String
  | closed => "transport closed"
  | refused reason => "transport refused write: " ++ reason
  | broken reason => "I/O error: " ++ reason

end TransportError

/-- An error of its concern, or a panic, after which nothing is known. -/
inductive Fault (ε : Type) where
  | error (cause : ε)
  | panic
deriving DecidableEq, Repr

namespace Limit

/-- Refuses limits below minus one. -/
def check (parameter : String) (limit : Int) : Except DispatchError Unit :=
  if limit < -1 then .error (.invalidValue parameter (Text.intText limit)) else .ok ()

theorem check_eq_ok {parameter : String} {limit : Int} : check parameter limit = .ok () ↔ -1 ≤ limit := by
  rw [check]
  split <;> simp <;> omega

end Limit

/-- A computation ends well where its first part does and then the rest. -/
theorem bind_eq_ok {ε α β : Type} {x : Except ε α} {f : α → Except ε β} {b : β} :
    (x >>= f) = .ok b ↔ ∃ a, x = .ok a ∧ f a = .ok b := by
  cases x with
  | error e =>
    constructor
    · intro h
      cases h
    · rintro ⟨a, h, -⟩
      cases h
  | ok a =>
    constructor
    · intro h
      exact ⟨a, rfl, h⟩
    · rintro ⟨a', h, hf⟩
      rw [Except.ok.inj h]
      exact hf

end Sentinel
