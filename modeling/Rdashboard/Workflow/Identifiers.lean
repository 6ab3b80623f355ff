import Mathlib.Algebra.Group.Int.Defs
import Mathlib.Algebra.GroupWithZero.Nat
import Mathlib.Data.List.Basic
import Mathlib.Data.String.Basic
import Mathlib.Order.Basic
import Mathlib.Order.Lattice

/-! # Identifiers

Uuids and digests are fixed-width words: their text form is fixed-width lowercase
hexadecimal, so the order of the text is the order of the number.  The other identifiers
are strings that passed their parser; `Text valid` carries that fact, and inherits the
order of the string. -/

namespace Rdashboard

abbrev Uuid := BitVec 128

def Uuid.isNil (u : Uuid) : Bool := u = 0

/-- The result of `Uuid::new_v4`: an identifier the caller has not chosen, never nil. -/
abbrev FreshUuid := { u : Uuid // u.isNil = false }

/-- `EvidenceDigest`: a SHA-256 digest. -/
abbrev EvidenceDigest := BitVec 256

/-- `i64::MAX`. -/
def i64Max : Int := 2 ^ 63 - 1

/-- `u64::MAX`. -/
def u64Max : Nat := 2 ^ 64 - 1

/-! ### Character classes -/

def isAsciiLowercase (c : Char) : Bool := 97 ≤ c.toNat && c.toNat ≤ 122

def isAsciiUppercase (c : Char) : Bool := 65 ≤ c.toNat && c.toNat ≤ 90

def isAsciiDigit (c : Char) : Bool := 48 ≤ c.toNat && c.toNat ≤ 57

def isAsciiAlphanumeric (c : Char) : Bool :=
  isAsciiLowercase c || isAsciiUppercase c || isAsciiDigit c

def isAsciiGraphic (c : Char) : Bool := 33 ≤ c.toNat && c.toNat ≤ 126

def isAsciiControl (c : Char) : Bool := c.toNat < 32 || c.toNat = 127

def isLowercaseHex (c : Char) : Bool :=
  isAsciiDigit c || (97 ≤ c.toNat && c.toNat ≤ 102)

/-- `char::is_whitespace`: the Unicode property `White_Space`. -/
def isWhitespace (c : Char) : Bool :=
  (9 ≤ c.toNat && c.toNat ≤ 13) || c.toNat = 0x20 || c.toNat = 0x85 || c.toNat = 0xA0 ||
    c.toNat = 0x1680 || (0x2000 ≤ c.toNat && c.toNat ≤ 0x200A) || c.toNat = 0x2028 ||
    c.toNat = 0x2029 || c.toNat = 0x202F || c.toNat = 0x205F || c.toNat = 0x3000

/-- The length of `str::trim` of a string, in bytes. -/
def trimmedLength (s : String) : Nat :=
  (((s.toList.dropWhile isWhitespace).reverse.dropWhile isWhitespace).map Char.utf8Size).sum

/-- Is the first character of a text, and is its last, in the class `p`? -/
def bounded (p : Char → Bool) (text : List Char) : Bool :=
  text.head?.any p && text.getLast?.any p

/-! ### Parsed texts -/

/-- A string accepted by the parser `valid`. -/
structure Text (valid : String → Bool) where
  value : String
  accepted : valid value = true

namespace Text

variable {valid : String → Bool}

theorem value_injective : Function.Injective (value : Text valid → String) := by
  rintro ⟨a, _⟩ ⟨b, _⟩ h
  cases h
  rfl

instance : LinearOrder (Text valid) := LinearOrder.lift' value value_injective

instance : LawfulBEq (Text valid) := inferInstance

end Text

def validWorkflowToken (value : String) (maximum : Nat) : Bool :=
  (1 ≤ value.utf8ByteSize && value.utf8ByteSize ≤ maximum) &&
    bounded isAsciiAlphanumeric value.toList &&
    value.toList.all fun c =>
      isAsciiLowercase c || isAsciiDigit c || c = '-' || c = '.' || c = '_'

def validWorkflowNodeId (value : String) : Bool := validWorkflowToken value 64

def validWorkflowProfileId (value : String) : Bool := validWorkflowToken value 64

/-- `valid_workflow_identity`, the shape of worker and host names. -/
def validWorkflowIdentity (value : String) : Bool := validWorkflowToken value 96

/-- `ProjectId::validate`. -/
def validProjectId (value : String) : Bool :=
  (1 ≤ value.utf8ByteSize && value.utf8ByteSize ≤ 64) &&
    bounded isAsciiAlphanumeric value.toList &&
    value.toList.all fun c => isAsciiLowercase c || isAsciiDigit c || c = '-'

/-- `GitCommitId::validate`. -/
def validGitCommitId (value : String) : Bool :=
  (value.utf8ByteSize = 40 || value.utf8ByteSize = 64) && value.toList.all isLowercaseHex

/-- `WorkflowOciDigest::validate`. -/
def validWorkflowOciDigest (value : String) : Bool :=
  match value.toList with
  | 's' :: 'h' :: 'a' :: '2' :: '5' :: '6' :: ':' :: hex =>
    hex.length = 64 && hex.all isLowercaseHex
  | _ => false

abbrev WorkflowNodeId := Text validWorkflowNodeId
abbrev WorkflowProfileId := Text validWorkflowProfileId
abbrev ProjectId := Text validProjectId
abbrev GitCommitId := Text validGitCommitId
abbrev WorkflowOciDigest := Text validWorkflowOciDigest

end Rdashboard
