import Chlom.Library.Checked
import Chlom.Library.Scale

/-!
# Identifiers, record states and arithmetic shared by the pallets
-/

namespace Chlom

/-- A 32-byte identifier or hash. -/
abbrev Id32 := Vector UInt8 32

/-- Two identifiers are compared byte after byte. -/
instance decidableEqId32 : DecidableEq Id32 := fun first second =>
  decidable_of_iff (first.toList = second.toList) Vector.toList_inj

abbrev U32 := BitVec 32
abbrev U64 := BitVec 64
abbrev U128 := BitVec 128

def ZERO_ID : Id32 := Vector.replicate 32 0

/-- The identifier that repeats one byte, for samples. -/
def Id32.repeated (byte : UInt8) : Id32 := Vector.replicate 32 byte

abbrev BasisPoints := BitVec 16

def FULL_BASIS_POINTS : U32 := 10000

inductive AuthorityClass where
  | d0 | d1 | d2 | d3
  deriving DecidableEq, Repr

def AuthorityClass.rank : AuthorityClass → Nat
  | .d0 => 0
  | .d1 => 1
  | .d2 => 2
  | .d3 => 3

def AuthorityClass.permits (class' required : AuthorityClass) : Prop :=
  required.rank ≤ class'.rank

instance (class' required : AuthorityClass) : Decidable (class'.permits required) :=
  inferInstanceAs (Decidable (_ ≤ _))

theorem AuthorityClass.permits_d3 {class' : AuthorityClass} :
    class'.permits .d3 ↔ class' = .d3 := by
  cases class' <;> decide

inductive RecordState where
  | draft | asserted | underReview | verifiedForWorkflow | contractuallyRecorded | operative
  | suspended | revoked | expired | superseded | disputed | retired
  deriving DecidableEq, Repr

/-- The states that stand on a contract. -/
def RecordState.Contractual (state : RecordState) : Prop :=
  state = .contractuallyRecorded ∨ state = .operative

instance (state : RecordState) : Decidable state.Contractual :=
  inferInstanceAs (Decidable (_ ∨ _))

inductive DlaState where
  | hold | eligibleInternal | eligiblePublic | paused | retired
  deriving DecidableEq, Repr

inductive LicenseStatus where
  | pending | active | suspended | revoked | expired | superseded
  deriving DecidableEq, Repr

inductive OfferState where
  | draft | stagedInternal | published | paused | closed | revoked | superseded
  deriving DecidableEq, Repr

inductive TokenClassKind where
  | uniqueAsset | smartLicense | provenanceCertificate | ownershipCertificate | entitlement
  | nonTransferableCredential | multiEdition | utilityCandidate | governanceCandidate
  deriving DecidableEq, Repr

inductive ExternalIssuanceState where
  | productionGated | testnetEligible | productionEligible | suspended | retired
  deriving DecidableEq, Repr

inductive SignalAction where
  | observe | review | temporaryQuarantineRecommended | suspensionReviewRecommended | noAction
  deriving DecidableEq, Repr

/-! ## Splitting an amount -/

/-- The basis points of all legs together. -/
def sumBasisPoints (legs : List BasisPoints) : Option U32 :=
  legs.foldlM (fun sum value => Checked.add sum (value.setWidth 32)) 0

/-- The share of one leg, rounded down.  Dividing first keeps the product in range. -/
def legShare (total : U128) (basisPoints : BasisPoints) : Option U128 := do
  let denominator := FULL_BASIS_POINTS.setWidth 128
  let basis := basisPoints.setWidth 128
  let whole ← Checked.mul (total / denominator) basis
  let part ← Checked.mul (total % denominator) basis
  Checked.add whole (part / denominator)

/-- The amounts of the legs left, of which the last takes what remains. -/
def splitLegs (total : U128) : U128 → List BasisPoints → Option (List U128)
  | _, [] => some []
  | remaining, basisPoints :: rest => do
      let amount ← if rest.isEmpty then some remaining else legShare total basisPoints
      let remaining ← Checked.sub remaining amount
      let allocations ← splitLegs total remaining rest
      some (amount :: allocations)

def splitByBasisPoints (total : U128) (legs : List BasisPoints) : Option (List U128) :=
  if legs.isEmpty then none
  else do
    let sum ← sumBasisPoints legs
    if sum ≠ FULL_BASIS_POINTS then none else splitLegs total total legs

-- the remainder goes to the last leg
example : splitByBasisPoints 101 [7000, 2000, 1000] = some [70, 20, 11] := by decide

end Chlom
