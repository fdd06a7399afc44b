import Chlom.Settlement.Split

/-!
# Revenue policies and the previews made of them

A policy is accepted exactly when a split by its legs can succeed, so no preview of
a stored policy fails in its arithmetic.  Each stored preview commits to the one
split that its policy makes of its gross amount, and nothing that is stored changes.
-/

namespace Chlom.Settlement

open Chlom.Frame

section Calls

variable {T : Config} {AccountId BlockNumber : Type}

def RevenuePolicy.basisPoints (policy : RevenuePolicy T) : List BasisPoints :=
  policy.legs.toList.map SplitLeg.basisPoints

/-- The amounts that a preview computes for the legs of a policy. -/
def RevenuePolicy.allocations (policy : RevenuePolicy T) (gross : U128) : Option (List U128) :=
  splitByBasisPoints gross policy.basisPoints

/-- Everything a policy is asked for apart from its balance. -/
structure PolicyWellFormed (env : Env AccountId BlockNumber) (origin : RawOrigin AccountId)
    (policyId : Id32) (policy : RevenuePolicy T) (s : Storage T) : Prop where
  permitted : env.permits origin = true
  identifiers : policyId ≠ ZERO_ID ∧ policy.calculationBasis ≠ ZERO_ID ∧
    policy.currencyId ≠ ZERO_ID ∧ policy.legalTaxReviewHash ≠ ZERO_ID ∧
    policy.recordHash ≠ ZERO_ID
  fresh : s.revenuePolicies.get policyId = none
  noMovement : policy.moneyMovementAuthorized = false
  legIdentifiers : ∀ leg ∈ policy.legs.toList, leg.legId ≠ ZERO_ID ∧
    leg.beneficiarySubjectId ≠ ZERO_ID ∧ leg.allocationRole ≠ ZERO_ID

/-- Everything a preview is asked for apart from its policy. -/
structure PreviewWellFormed (env : Env AccountId BlockNumber) (origin : RawOrigin AccountId)
    (previewId : Id32) (details : PreviewDetails) (s : Storage T) : Prop where
  permitted : env.permits origin = true
  identifiers : previewId ≠ ZERO_ID ∧ details.policyId ≠ ZERO_ID ∧
    details.sourceObjectId ≠ ZERO_ID ∧ details.currencyId ≠ ZERO_ID ∧
    details.recordHash ≠ ZERO_ID
  fresh : s.settlementPreviews.get previewId = none

/-- A preview commits to the amounts that its stored policy gives its gross amount. -/
def Commits (s : Storage T) (preview : SettlementPreview) (allocations : List U128) : Prop :=
  ∃ policy, s.revenuePolicies.get preview.policyId = some policy ∧
    splitByBasisPoints preview.grossAmount policy.basisPoints = some allocations ∧
    preview.allocationRoot =
      T.blake2_256 (allocationPreimage preview.toPreviewDetails allocations)

/-! ## What a successful call does -/

theorem checkLegs_bind_ok {legs : List SplitLeg} {start : U32} {s s' : Storage T}
    {next : U32 → Body T Unit} :
    (checkLegs start legs >>= next) s = .ok () s' ↔
      (∀ leg ∈ legs, leg.legId ≠ ZERO_ID ∧ leg.beneficiarySubjectId ≠ ZERO_ID ∧
        leg.allocationRole ≠ ZERO_ID) ∧
      next (saturatingTotal start (legs.map SplitLeg.basisPoints)) s = .ok () s' := by
  induction legs generalizing start with
  | nil => simp [checkLegs, saturatingTotal]
  | cons leg legs ih =>
      rw [checkLegs, bind_assoc, ensure_bind_ok, ih, List.forall_mem_cons, List.map_cons,
        saturatingTotal, saturatingTotal, List.foldl_cons]
      exact and_assoc.symm

variable {env : Env AccountId BlockNumber} {origin : RawOrigin AccountId} {s s' : Storage T}

/-- What a successful recording stores, and what it has checked. -/
theorem recordRevenuePolicy_ok {policyId : Id32} {policy : RevenuePolicy T} :
    recordRevenuePolicy env origin policyId policy s = .ok () s' ↔
      PolicyWellFormed env origin policyId policy s ∧ policy.basisPoints ≠ [] ∧
        totalBasisPoints policy.basisPoints = 10000 ∧
        s' = { s with
          revenuePolicies := s.revenuePolicies.insert policyId policy
          events := s.events ++ [.revenuePolicyRecorded policyId
            (BitVec.ofNat 32 policy.legs.toList.length) policy.recordHash] } := by
  simp only [recordRevenuePolicy, depositEvent, ensureOrigin_bind_ok, ensure_bind_ok,
    Dispatch.read_bind, checkLegs_bind_ok, Dispatch.write_bind, Dispatch.write_apply]
  constructor
  · rintro ⟨permitted, identifiers, fresh, nonempty, noMovement, legIdentifiers, full, done⟩
    obtain rfl := (EStateM.Result.ok.inj done).2
    exact ⟨⟨permitted, identifiers, Option.isNone_iff_eq_none.mp fresh, by simpa using noMovement,
      legIdentifiers⟩, by simpa [RevenuePolicy.basisPoints] using nonempty,
      saturatingTotal_eq_full.mp full, rfl⟩
  · rintro ⟨wellFormed, nonempty, full, rfl⟩
    exact ⟨wellFormed.permitted, wellFormed.identifiers,
      Option.isNone_iff_eq_none.mpr wellFormed.fresh,
      by simpa [RevenuePolicy.basisPoints] using nonempty, by simp [wellFormed.noMovement],
      wellFormed.legIdentifiers, saturatingTotal_eq_full.mpr full, rfl⟩

/-- A policy is accepted exactly when it is well formed and some split by it succeeds. -/
theorem recordRevenuePolicy_succeeds {policyId : Id32} {policy : RevenuePolicy T} :
    (∃ s', recordRevenuePolicy env origin policyId policy s = .ok () s') ↔
      PolicyWellFormed env origin policyId policy s ∧
        ∃ gross, (splitByBasisPoints gross policy.basisPoints).isSome := by
  simp only [recordRevenuePolicy_ok, splitByBasisPoints_isSome, exists_const]
  constructor
  · rintro ⟨s', wellFormed, nonempty, full, _⟩
    exact ⟨wellFormed, nonempty, full⟩
  · rintro ⟨wellFormed, nonempty, full⟩
    exact ⟨_, wellFormed, nonempty, full, rfl⟩

/-- What a successful preview stores, and what it has checked. -/
theorem previewSettlement_ok {previewId : Id32} {details : PreviewDetails} :
    previewSettlement env origin previewId details s = .ok () s' ↔
      PreviewWellFormed env origin previewId details s ∧
        ∃ policy allocations, s.revenuePolicies.get details.policyId = some policy ∧
          policy.currencyId = details.currencyId ∧ policy.moneyMovementAuthorized = false ∧
          splitByBasisPoints details.grossAmount policy.basisPoints = some allocations ∧
          s' = { s with
            settlementPreviews := s.settlementPreviews.insert previewId
              { details with
                allocationRoot := T.blake2_256 (allocationPreimage details allocations)
                moneyMoved := false }
            events := s.events ++ [.settlementPreviewCalculated previewId details.policyId
              details.grossAmount details.currencyId
              (T.blake2_256 (allocationPreimage details allocations)) false] } := by
  simp only [previewSettlement, depositEvent, ensureOrigin_bind_ok, ensure_bind_ok,
    Dispatch.read_bind, okOr_bind_ok, Dispatch.write_bind, Dispatch.write_apply]
  constructor
  · rintro ⟨permitted, identifiers, fresh, policy, policyEq, currency, noMovement, allocations,
      split, done⟩
    obtain rfl := (EStateM.Result.ok.inj done).2
    exact ⟨⟨permitted, identifiers, Option.isNone_iff_eq_none.mp fresh⟩, policy, allocations,
      policyEq, currency, by simpa using noMovement, split, rfl⟩
  · rintro ⟨wellFormed, policy, allocations, policyEq, currency, noMovement, split, rfl⟩
    exact ⟨wellFormed.permitted, wellFormed.identifiers,
      Option.isNone_iff_eq_none.mpr wellFormed.fresh, policy, policyEq, currency,
      by simp [noMovement], allocations, split, rfl⟩

/-- A recorded policy is stored as it was given. -/
theorem recordRevenuePolicy_stores {policyId : Id32} {policy : RevenuePolicy T}
    (done : recordRevenuePolicy env origin policyId policy s = .ok () s') :
    s'.revenuePolicies.get policyId = some policy := by
  obtain ⟨_, _, _, rfl⟩ := recordRevenuePolicy_ok.mp done
  exact StorageMap.get_insert_self _ _ _

/-- A successful preview is stored with a commitment to the amounts of its policy. -/
theorem previewSettlement_allocations {previewId : Id32} {details : PreviewDetails}
    (done : previewSettlement env origin previewId details s = .ok () s') :
    ∃ policy allocations, s.revenuePolicies.get details.policyId = some policy ∧
      policy.allocations details.grossAmount = some allocations ∧
      s'.settlementPreviews.get previewId = some { details with
        allocationRoot := T.blake2_256 (allocationPreimage details allocations)
        moneyMoved := false } := by
  obtain ⟨_, policy, allocations, policyEq, _, _, split, rfl⟩ := previewSettlement_ok.mp done
  exact ⟨policy, allocations, policyEq, split, StorageMap.get_insert_self _ _ _⟩

/-! ## Nothing that is stored changes -/

/-- Every policy and every preview of the first storage is in the second one, unchanged. -/
structure Keeps (s s' : Storage T) : Prop where
  policies : ∀ policyId policy, s.revenuePolicies.get policyId = some policy →
    s'.revenuePolicies.get policyId = some policy
  previews : ∀ previewId preview, s.settlementPreviews.get previewId = some preview →
    s'.settlementPreviews.get previewId = some preview

theorem Keeps.refl (s : Storage T) : Keeps s s where
  policies _ _ present := present
  previews _ _ present := present

theorem Keeps.trans {s t u : Storage T} (first : Keeps s t) (second : Keeps t u) : Keeps s u where
  policies _ _ present := second.policies _ _ (first.policies _ _ present)
  previews _ _ present := second.previews _ _ (first.previews _ _ present)

theorem pallet_keeps {call : Call T} (done : pallet T env origin call s = .ok () s') :
    Keeps s s' := by
  cases call with
  | recordRevenuePolicy policyId policy =>
      obtain ⟨wellFormed, _, _, rfl⟩ := recordRevenuePolicy_ok.mp done
      constructor
      · intro other stored present
        have ne : other ≠ policyId := by
          rintro rfl
          simp [wellFormed.fresh] at present
        exact (StorageMap.get_insert_of_ne _ _ ne).trans present
      · exact fun _ _ present => present
  | previewSettlement previewId details =>
      obtain ⟨wellFormed, policy, allocations, _, _, _, _, rfl⟩ := previewSettlement_ok.mp done
      constructor
      · exact fun _ _ present => present
      · intro other stored present
        have ne : other ≠ previewId := by
          rintro rfl
          simp [wellFormed.fresh] at present
        exact (StorageMap.get_insert_of_ne _ _ ne).trans present

theorem Commits.mono {preview : SettlementPreview} {allocations : List U128} (keeps : Keeps s s')
    (commits : Commits s preview allocations) : Commits s' preview allocations := by
  obtain ⟨policy, policyEq, split, root⟩ := commits
  exact ⟨policy, keeps.policies _ _ policyEq, split, root⟩

/-! ## The invariant of a chain -/

/-- Every stored policy can be used, and every stored preview commits to a split. -/
structure Sound (s : Storage T) : Prop where
  policies : ∀ policyId policy, s.revenuePolicies.get policyId = some policy →
    policy.basisPoints ≠ [] ∧ totalBasisPoints policy.basisPoints = 10000 ∧
      policy.moneyMovementAuthorized = false
  previews : ∀ previewId preview, s.settlementPreviews.get previewId = some preview →
    ∃ allocations, Commits s preview allocations

theorem Sound.empty : Sound (.empty T) where
  policies _ _ present := by cases present
  previews _ _ present := by cases present

theorem pallet_sound {call : Call T} (sound : Sound s)
    (done : pallet T env origin call s = .ok () s') : Sound s' := by
  have keeps := pallet_keeps done
  have older (previewId : Id32) (preview : SettlementPreview)
      (present : s.settlementPreviews.get previewId = some preview) :
      ∃ allocations, Commits s' preview allocations :=
    (sound.previews previewId preview present).imp fun _ commits => commits.mono keeps
  cases call with
  | recordRevenuePolicy policyId policy =>
      obtain ⟨wellFormed, nonempty, full, rfl⟩ := recordRevenuePolicy_ok.mp done
      constructor
      · exact StorageMap.forall_get_insert ⟨nonempty, full, wellFormed.noMovement⟩ sound.policies
      · exact older
  | previewSettlement previewId details =>
      obtain ⟨wellFormed, policy, allocations, policyEq, _, _, split, rfl⟩ :=
        previewSettlement_ok.mp done
      constructor
      · exact sound.policies
      · exact StorageMap.forall_get_insert ⟨allocations, policy, policyEq, split, rfl⟩ older

/-- A well-formed preview of a stored policy succeeds, whatever its gross amount. -/
theorem Sound.previewSettlement_succeeds (sound : Sound s) {previewId : Id32}
    {details : PreviewDetails} {policy : RevenuePolicy T}
    (wellFormed : PreviewWellFormed env origin previewId details s)
    (policyEq : s.revenuePolicies.get details.policyId = some policy)
    (currency : details.currencyId = policy.currencyId) :
    ∃ s', previewSettlement env origin previewId details s = .ok () s' := by
  obtain ⟨nonempty, full, noMovement⟩ := sound.policies _ _ policyEq
  obtain ⟨allocations, split, _⟩ := exists_splitByBasisPoints details.grossAmount nonempty full
  exact ⟨_, previewSettlement_ok.mpr
    ⟨wellFormed, policy, allocations, policyEq, currency.symm, noMovement, split, rfl⟩⟩

/-- No preview fails in its arithmetic, well formed or not. -/
theorem Sound.previewSettlement_arithmetic (sound : Sound s) {previewId : Id32}
    {details : PreviewDetails} :
    previewSettlement env origin previewId details s ≠
      .error (.module Error.arithmeticFailure) s' := by
  intro failed
  simp only [previewSettlement, depositEvent, ensureOrigin, Dispatch.ensure_bind_error,
    ensure_bind_error, Dispatch.read_bind, okOr_bind_error, Dispatch.write_bind,
    Dispatch.write_apply, reduceCtorEq, false_and, and_false, false_or, exists_false, or_false,
    DispatchError.module.injEq, true_and] at failed
  obtain ⟨_, _, _, policy, policyEq, _, _, failed, _⟩ := failed
  obtain ⟨nonempty, full, _⟩ := sound.policies _ _ policyEq
  obtain ⟨allocations, split, _⟩ := exists_splitByBasisPoints details.grossAmount nonempty full
  rw [RevenuePolicy.basisPoints, failed] at split
  cases split

/-! ## What the allocation root commits to -/

/-- The amounts of a stored policy are one for each leg, and add up to the gross amount. -/
theorem Sound.allocations_amounts (sound : Sound s) {policyId : Id32} {policy : RevenuePolicy T}
    (policyEq : s.revenuePolicies.get policyId = some policy) {gross : U128}
    {allocations : List U128} (split : policy.allocations gross = some allocations) :
    allocations.length = policy.legs.toList.length ∧
      (allocations.map BitVec.toNat).sum = gross.toNat := by
  obtain ⟨nonempty, full, _⟩ := sound.policies _ _ policyEq
  obtain ⟨amounts, splitEq, length, sum⟩ := exists_splitByBasisPoints gross nonempty full
  obtain rfl := Option.some.inj (split.symm.trans splitEq)
  exact ⟨length.trans (List.length_map _), sum⟩

/-- A committed split has one amount for each leg, and the amounts add up to the
gross amount. -/
theorem Sound.commits_amounts (sound : Sound s) {preview : SettlementPreview}
    {allocations : List U128} (commits : Commits s preview allocations) :
    ∃ policy, s.revenuePolicies.get preview.policyId = some policy ∧
      allocations.length = policy.legs.toList.length ∧
      (allocations.map BitVec.toNat).sum = preview.grossAmount.toNat := by
  obtain ⟨policy, policyEq, split, _⟩ := commits
  exact ⟨policy, policyEq, sound.allocations_amounts policyEq split⟩

/-- The bytes that the roots of the stored previews commit to. -/
def committedPreimages (s : Storage T) : Set (List UInt8) :=
  {bytes | ∃ previewId preview allocations, s.settlementPreviews.get previewId = some preview ∧
    Commits s preview allocations ∧
    bytes = allocationPreimage preview.toPreviewDetails allocations}

theorem allocationPreimage_injective {first second : PreviewDetails}
    {firstAmounts secondAmounts : List U128} (firstFits : firstAmounts.length < 2 ^ 32)
    (secondFits : secondAmounts.length < 2 ^ 32)
    (equal : allocationPreimage first firstAmounts = allocationPreimage second secondAmounts) :
    first.policyId = second.policyId ∧ first.sourceObjectId = second.sourceObjectId ∧
      first.grossAmount = second.grossAmount ∧ first.currencyId = second.currencyId ∧
      firstAmounts = secondAmounts := by
  obtain ⟨detailsEq, amountsEq⟩ := Encode.split equal
  simp only [Prod.mk.injEq] at detailsEq
  have appended : Encode.vector firstAmounts ++ [] = Encode.vector secondAmounts ++ [] := by
    rw [amountsEq]
  obtain ⟨policyEq, sourceEq, grossEq, currencyEq⟩ := detailsEq
  exact ⟨policyEq, sourceEq, grossEq, currencyEq,
    (Encode.vector_split firstFits secondFits appended).1⟩

theorem Sound.length_lt (sound : Sound s) {preview : SettlementPreview} {allocations : List U128}
    (commits : Commits s preview allocations) : allocations.length < 2 ^ 32 := by
  obtain ⟨policy, _, length, _⟩ := sound.commits_amounts commits
  have bounded := policy.legs.length_le
  have limit := T.maxLegs.isLt
  omega

/-- Previews with one root agree on everything the root commits to. -/
theorem Sound.root_injective (sound : Sound s)
    (injective : Set.InjOn T.blake2_256 (committedPreimages s)) {firstId secondId : Id32}
    {first second : SettlementPreview} {firstAmounts secondAmounts : List U128}
    (firstEq : s.settlementPreviews.get firstId = some first)
    (secondEq : s.settlementPreviews.get secondId = some second)
    (firstCommits : Commits s first firstAmounts) (secondCommits : Commits s second secondAmounts)
    (equal : first.allocationRoot = second.allocationRoot) :
    first.policyId = second.policyId ∧ first.sourceObjectId = second.sourceObjectId ∧
      first.grossAmount = second.grossAmount ∧ first.currencyId = second.currencyId ∧
      firstAmounts = secondAmounts := by
  have firstRoot := firstCommits.choose_spec.2.2
  have secondRoot := secondCommits.choose_spec.2.2
  have preimages := injective ⟨firstId, first, firstAmounts, firstEq, firstCommits, rfl⟩
    ⟨secondId, second, secondAmounts, secondEq, secondCommits, rfl⟩
    (firstRoot.symm.trans (equal.trans secondRoot))
  exact allocationPreimage_injective (sound.length_lt firstCommits) (sound.length_lt secondCommits)
    preimages

end Calls

/-! ## Every reachable state -/

section Chain

variable {AccountId BlockNumber : Type} [LinearOrder BlockNumber]

/-- The chain after a list of inputs from empty storage at a genesis block. -/
abbrev run (T : Config) (genesis : BlockNumber)
    (inputs : List (Input AccountId BlockNumber (Call T))) : World BlockNumber (Storage T) :=
  Frame.run (pallet T) ⟨genesis, .empty T⟩ inputs

theorem sound_run (T : Config) (genesis : BlockNumber)
    (inputs : List (Input AccountId BlockNumber (Call T))) :
    Sound (run T genesis inputs).storage := by
  have invariant : Frame.Invariant (pallet T : Pallet AccountId BlockNumber _ _ _)
      fun _ s => Sound s :=
    { passes := fun _ sound => sound
      keeps := fun sound done => pallet_sound sound done }
  exact invariant.run (w := ⟨genesis, .empty T⟩) .empty inputs

/-- In every reachable state a policy is accepted, and then stored, exactly when a split by it
can succeed; a well-formed preview of a stored policy succeeds; a successful preview is stored
with the hash of the amounts of its policy, one for each leg, that add up to the gross amount; a
stored preview commits to its policy, its object and its amounts; nothing stored changes. -/
theorem revenue_policies_validated_as_used (T : Config) (genesis : BlockNumber)
    (inputs later : List (Input AccountId BlockNumber (Call T))) :
    let s := (run T genesis inputs).storage
    (∀ (env : Env AccountId BlockNumber) (origin : RawOrigin AccountId) policyId policy,
      (∃ s', recordRevenuePolicy env origin policyId policy s = .ok () s') ↔
        PolicyWellFormed env origin policyId policy s ∧
          ∃ gross, (splitByBasisPoints gross policy.basisPoints).isSome) ∧
    (∀ (env : Env AccountId BlockNumber) (origin : RawOrigin AccountId) policyId policy s',
      recordRevenuePolicy env origin policyId policy s = .ok () s' →
        s'.revenuePolicies.get policyId = some policy) ∧
    (∀ policyId policy, s.revenuePolicies.get policyId = some policy →
      ∀ gross, (splitByBasisPoints gross policy.basisPoints).isSome) ∧
    (∀ (env : Env AccountId BlockNumber) (origin : RawOrigin AccountId) previewId details policy,
      s.revenuePolicies.get details.policyId = some policy →
        details.currencyId = policy.currencyId →
          PreviewWellFormed env origin previewId details s →
            ∃ s', previewSettlement env origin previewId details s = .ok () s') ∧
    (∀ (env : Env AccountId BlockNumber) (origin : RawOrigin AccountId) previewId details s',
      previewSettlement env origin previewId details s = .ok () s' →
        ∃ policy allocations, s.revenuePolicies.get details.policyId = some policy ∧
          policy.allocations details.grossAmount = some allocations ∧
          allocations.length = policy.legs.toList.length ∧
          (allocations.map BitVec.toNat).sum = details.grossAmount.toNat ∧
          s'.settlementPreviews.get previewId = some { details with
            allocationRoot := T.blake2_256 (allocationPreimage details allocations)
            moneyMoved := false }) ∧
    (∀ (env : Env AccountId BlockNumber) (origin : RawOrigin AccountId) previewId details s',
      previewSettlement env origin previewId details s ≠
        .error (.module Error.arithmeticFailure) s') ∧
    (∀ previewId preview, s.settlementPreviews.get previewId = some preview →
      ∃ policy allocations, s.revenuePolicies.get preview.policyId = some policy ∧
        Commits s preview allocations ∧ allocations.length = policy.legs.toList.length ∧
        (allocations.map BitVec.toNat).sum = preview.grossAmount.toNat) ∧
    (Set.InjOn T.blake2_256 (committedPreimages s) →
      ∀ firstId secondId first second firstAmounts secondAmounts,
        s.settlementPreviews.get firstId = some first →
          s.settlementPreviews.get secondId = some second →
            Commits s first firstAmounts → Commits s second secondAmounts →
              first.allocationRoot = second.allocationRoot →
                first.policyId = second.policyId ∧ first.sourceObjectId = second.sourceObjectId ∧
                  first.grossAmount = second.grossAmount ∧
                  first.currencyId = second.currencyId ∧ firstAmounts = secondAmounts) ∧
    Keeps s (run T genesis (inputs ++ later)).storage := by
  intro s
  have sound : Sound s := sound_run T genesis inputs
  refine ⟨?_, ?_, ?_, ?_, ?_, ?_, ?_, ?_, ?_⟩
  · intro env origin policyId policy
    exact recordRevenuePolicy_succeeds
  · intro env origin policyId policy s' done
    exact recordRevenuePolicy_stores done
  · intro policyId policy policyEq gross
    obtain ⟨nonempty, full, _⟩ := sound.policies policyId policy policyEq
    exact splitByBasisPoints_isSome.mpr ⟨nonempty, full⟩
  · intro env origin previewId details policy policyEq currency wellFormed
    exact sound.previewSettlement_succeeds wellFormed policyEq currency
  · intro env origin previewId details s' done
    obtain ⟨policy, allocations, policyEq, split, stored⟩ := previewSettlement_allocations done
    obtain ⟨length, sum⟩ := sound.allocations_amounts policyEq split
    exact ⟨policy, allocations, policyEq, split, length, sum, stored⟩
  · intro env origin previewId details s'
    exact sound.previewSettlement_arithmetic
  · intro previewId preview present
    obtain ⟨allocations, commits⟩ := sound.previews previewId preview present
    obtain ⟨policy, policyEq, length, sum⟩ := sound.commits_amounts commits
    exact ⟨policy, allocations, policyEq, commits, length, sum⟩
  · intro injective _ _ _ _ _ _ firstEq secondEq firstCommits secondCommits equal
    exact sound.root_injective injective firstEq secondEq firstCommits secondCommits equal
  · exact Frame.preorder_run Keeps.refl Keeps.trans pallet_keeps inputs later

/-! ## A chain with two previews -/

/-- The origin of the sample is privileged. -/
def sampleEnv : Env Unit Nat := ⟨1, fun _ => true⟩

/-- A chain whose policies have at most three legs; the digest of the sample shows the gross
amount and the currency. -/
def sampleConfig : Config := ⟨3, fun bytes => Vector.ofFn fun i => bytes.getD (i + 64) 0⟩

/-- A policy that gives a third and two thirds of an amount. -/
def thirdsPolicy : RevenuePolicy sampleConfig where
  calculationBasis := .repeated 1
  currencyId := .repeated 2
  legalTaxReviewHash := .repeated 3
  moneyMovementAuthorized := false
  legs := ⟨[3333, 6667].map fun basisPoints =>
    ⟨.repeated 4, .repeated 5, .repeated 6, basisPoints, .repeated 7⟩, by decide⟩
  recordHash := .repeated 8

/-- A preview of an amount of the sample. -/
def sampleDetails (gross : U128) : PreviewDetails :=
  ⟨.repeated 9, .repeated 10, gross, .repeated 2, .repeated 11⟩

/-- A policy is recorded, 100 and 250 are previewed, and a preview with a known identifier is
refused. -/
def sampleInputs : List (Input Unit Nat (Call sampleConfig)) :=
  [.submit sampleEnv.permits .root (.recordRevenuePolicy (.repeated 9) thirdsPolicy),
    .submit sampleEnv.permits .root (.previewSettlement (.repeated 12) (sampleDetails 100)),
    .submit sampleEnv.permits .root (.previewSettlement (.repeated 13) (sampleDetails 250)),
    .submit sampleEnv.permits .root (.previewSettlement (.repeated 13) (sampleDetails 7))]

/-- The second preview is stored with an allocation of 250, and a third one would succeed. -/
theorem revenue_policies_validated_as_used_sample :
    let s := (run sampleConfig 0 sampleInputs).storage
    (∃ preview policy allocations, s.settlementPreviews.get (.repeated 13) = some preview ∧
      s.revenuePolicies.get preview.policyId = some policy ∧ Commits s preview allocations ∧
      allocations.length = policy.legs.toList.length ∧
      (allocations.map BitVec.toNat).sum = preview.grossAmount.toNat) ∧
    ∃ s', previewSettlement sampleEnv .root (.repeated 14) (sampleDetails 7) s = .ok () s' ∧
      (s'.settlementPreviews.get (.repeated 14)).isSome = true := by
  intro s
  obtain ⟨_, _, _, succeeds, stores, _, previews, _, _⟩ :=
    revenue_policies_validated_as_used sampleConfig 0 sampleInputs []
  constructor
  · have present : (s.settlementPreviews.get (.repeated 13)).isSome = true := by decide +kernel
    obtain ⟨preview, stored⟩ := Option.isSome_iff_exists.mp present
    obtain ⟨policy, allocations, policyEq, rest⟩ := previews _ preview stored
    exact ⟨preview, policy, allocations, stored, policyEq, rest⟩
  · have wellFormed : PreviewWellFormed sampleEnv .root (.repeated 14) (sampleDetails 7) s :=
      ⟨rfl, by decide, by decide +kernel⟩
    obtain ⟨s', done⟩ := succeeds sampleEnv .root (.repeated 14) (sampleDetails 7) thirdsPolicy
      rfl rfl wellFormed
    obtain ⟨_, _, _, _, _, _, stored⟩ := stores sampleEnv .root _ _ s' done
    exact ⟨s', done, Option.isSome_of_eq_some stored⟩

end Chain

end Chlom.Settlement
