import Chlom.Library.Js.Numerals
import Chlom.Protocol.Proofs

/-!
# Commitments bind

The canonical text of private evidence determines it up to the order of keys and the
two zeros.  A commitment that was created verifies, and no commitment verifies for two
openings unless their bytes collide.
-/

namespace Chlom.Protocol

open Js Results

variable {N : Type} [Numbers N]

/-! ## The canonical text -/

theorem unitsLe_antisymm (first second : Str) (before : UnitsLe first second)
    (after : UnitsLe second first) : first = second :=
  le_antisymm before after

instance : Std.Total UnitsLe := ⟨fun first second => le_total first second⟩

instance : IsTrans Str UnitsLe := ⟨fun _ _ _ first second => le_trans first second⟩

theorem canonicalItems_eq_mapM (depth : Nat) (items : List (Value N)) :
    canonicalItems depth items = items.mapM (canonical depth) := by
  induction items with
  | nil => rfl
  | cons item rest ih =>
      rw [canonicalItems, List.mapM_cons, ih]

theorem canonicalEntries_eq_map (depth : Nat) (entries : Entries N) :
    canonicalEntries depth entries = entries.map fun entry => (entry.1, canonical depth entry.2) := by
  induction entries with
  | nil => rfl
  | cons entry rest ih => rw [canonicalEntries, ih, List.map_cons]

/-- An accepted value is written with its keys in order, and all its numbers are finite. -/
theorem canonical_ok {v : Value N} {depth : Nat} {s : Str} (ran : canonical depth v = .ok s) :
    s = v.text UnitsLe ∧ v.Finite := by
  induction v using Value.induct generalizing depth s with
  | null =>
      obtain ⟨_, _, written⟩ := bind_eq_ok.mp ran
      exact ⟨(Except.ok.inj written).symm, .null⟩
  | boolean b =>
      obtain ⟨_, _, written⟩ := bind_eq_ok.mp ran
      exact ⟨(Except.ok.inj written).symm, .boolean b⟩
  | string t =>
      obtain ⟨_, _, written⟩ := bind_eq_ok.mp ran
      exact ⟨(Except.ok.inj written).symm, .string t⟩
  | number n =>
      obtain ⟨_, _, written⟩ := bind_eq_ok.mp ran
      split_ifs at written with finite
      · exact ⟨(Except.ok.inj written).symm, .number finite⟩
      · cases written
  | array items ih =>
      obtain ⟨_, _, rest⟩ := bind_eq_ok.mp ran
      split_ifs at rest with long
      · cases rest
      · obtain ⟨texts, written, joined⟩ := bind_eq_ok.mp rest
        rw [canonicalItems_eq_mapM] at written
        have each : texts = items.map (Value.text UnitsLe) :=
          eq_map_of_mapM written fun item member text ran => (ih item member ran).1
        have finite : ∀ item ∈ items, item.Finite := fun item member =>
          have ⟨_, ran⟩ := ok_of_mem written member
          (ih item member ran).2
        have opening : lit "[" = [unit '['] := by decide +kernel
        have closing : lit "]" = [unit ']'] := by decide +kernel
        refine ⟨?_, .array finite⟩
        rw [← Except.ok.inj joined, each, text_array, opening, closing, List.append_assoc]
        rfl
  | object entries ih =>
      obtain ⟨_, _, rest⟩ := bind_eq_ok.mp ran
      obtain ⟨texts, written, joined⟩ := bind_eq_ok.mp rest
      have keepsKey : ∀ entry : Str × Value N,
          (entry.1, canonical (depth + 1) entry.2).1 = entry.1 := fun _ => rfl
      rw [canonicalEntries_eq_map, sortByKey_map keepsKey, List.mapM_map] at written
      have sorted : (sortByKey UnitsLe entries).Perm entries := sortByKey_perm entries
      have colon : lit ":" = [unit ':'] := by decide +kernel
      have each : texts = memberTexts UnitsLe entries := by
        refine eq_map_of_mapM written fun entry member text ran => ?_
        obtain ⟨value, written, joined⟩ := bind_eq_ok.mp ran
        have value_eq := (ih entry (sorted.mem_iff.mp member) written).1
        rw [← Except.ok.inj joined, value_eq, colon, List.append_assoc]
        rfl
      have finite : ∀ entry ∈ entries, entry.2.Finite := by
        intro entry member
        obtain ⟨text, ran⟩ := ok_of_mem written (sorted.mem_iff.mpr member)
        obtain ⟨value, written, _⟩ := bind_eq_ok.mp ran
        exact (ih entry member written).2
      have opening : lit "\x7b" = [unit '\x7b'] := by decide +kernel
      have closing : lit "\x7d" = [unit '\x7d'] := by decide +kernel
      refine ⟨?_, .object finite⟩
      rw [← Except.ok.inj joined, each, text_object, opening, closing, List.append_assoc]
      rfl

/-- Two accepted values have one canonical text exactly when they agree up to the order of
keys and the zeros. -/
theorem canonical_eq_iff
    (injective : ∀ a b : N, Numbers.isFinite a = true → Numbers.isFinite b = true →
      Numbers.text a = Numbers.text b → SameNumber a b)
    {v w : Value N} (formed : v.WellFormed) (otherFormed : w.WellFormed) {depth : Nat} {s t : Str}
    (ran : canonical depth v = .ok s) (otherRan : canonical depth w = .ok t) :
    s = t ↔ v.Reordered SameNumber w := by
  obtain ⟨rfl, finite⟩ := canonical_ok ran
  obtain ⟨rfl, otherFinite⟩ := canonical_ok otherRan
  constructor
  · intro same
    have stops : Stops [] := nofun
    exact (text_reads injective finite otherFinite stops stops (by rw [same])).1
  · intro reordered
    have numbers : ∀ a b : N, SameNumber a b → Numbers.text a = Numbers.text b := by
      rintro a b (rfl | ⟨aZero, bZero⟩)
      · rfl
      · rw [Numbers.text_zero a aZero, Numbers.text_zero b bZero]
    exact reordered.text_eq numbers formed otherFormed (tieFree_of_antisymm unitsLe_antisymm v)

/-! ## Hashes of private evidence -/

/-- The bytes of private evidence that are hashed. -/
def evidenceBytes (evidence : Value N) : List UInt8 := utf8 (evidence.text UnitsLe)

theorem hexText_toList_inj {first second : Id32}
    (same : hexText first.toList = hexText second.toList) : first = second := by
  have bytes := congrArg hexBytes same
  rw [hexBytes_hexText, hexBytes_hexText] at bytes
  exact Vector.toList_inj.mp bytes

theorem hashPrivateEvidenceLocally_ok {sha256 : Sha256} {evidence : Value N} {hash : Str}
    (ran : hashPrivateEvidenceLocally sha256 evidence = .ok hash) :
    (∃ s, canonical 0 evidence = .ok s) ∧ hash = hexText (sha256 (evidenceBytes evidence)).toList := by
  obtain ⟨encoded, written, rest⟩ := bind_eq_ok.mp ran
  split_ifs at rest
  · cases rest
  · refine ⟨⟨encoded, written⟩, ?_⟩
    rw [← Except.ok.inj rest, (canonical_ok written).1]
    rfl

/-- Equal hashes come from equal evidence, unless the bytes collide. -/
theorem hashPrivateEvidenceLocally_inj
    (injective : ∀ a b : N, Numbers.isFinite a = true → Numbers.isFinite b = true →
      Numbers.text a = Numbers.text b → SameNumber a b)
    {sha256 : Sha256} {v w : Value N} (formed : v.WellFormed) (otherFormed : w.WellFormed)
    (collisionFree : Set.InjOn sha256 {evidenceBytes v, evidenceBytes w}) {hash : Str}
    (ran : hashPrivateEvidenceLocally sha256 v = .ok hash)
    (otherRan : hashPrivateEvidenceLocally sha256 w = .ok hash) : v.Reordered SameNumber w := by
  obtain ⟨⟨s, written⟩, hashed⟩ := hashPrivateEvidenceLocally_ok ran
  obtain ⟨⟨t, otherWritten⟩, otherHashed⟩ := hashPrivateEvidenceLocally_ok otherRan
  have bytes : evidenceBytes v = evidenceBytes w :=
    collisionFree (by simp) (by simp) (hexText_toList_inj (hashed.symm.trans otherHashed))
  have text : v.text UnitsLe = w.text UnitsLe :=
    (utf8_inj (isWellFormed_text (canonical_ok written).2)
      (isWellFormed_text (canonical_ok otherWritten).2)).mp bytes
  rw [← (canonical_ok written).1, ← (canonical_ok otherWritten).1] at text
  exact (canonical_eq_iff injective formed otherFormed written otherWritten).mp text

/-! ## Salts and digests -/

omit [Numbers N] in
theorem digest_eq_ok {value : Any N} {s : Str} :
    digest value = .ok s ↔ value = some (.string s) ∧ isDigest s = true := by
  unfold digest
  split
  · rename_i t
    split_ifs with checked
    · constructor
      · intro same
        obtain rfl := Except.ok.inj same
        exact ⟨rfl, checked⟩
      · rintro ⟨same, _⟩
        cases same
        rfl
    · constructor
      · nofun
      · rintro ⟨same, valid⟩
        cases same
        exact absurd valid checked
  · rename_i other
    constructor
    · nofun
    · rintro ⟨rfl, _⟩
      exact absurd rfl (other s)

theorem hexBytes_inj_of_isDigest {s t : Str} (valid : isDigest s = true)
    (otherValid : isDigest t = true) (same : hexBytes s = hexBytes t) : s = t := by
  simp only [isDigest, Bool.and_eq_true, decide_eq_true_eq, List.all_eq_true] at valid otherValid
  rw [← hexText_hexBytes valid.2 (by rw [valid.1]), same,
    hexText_hexBytes otherValid.2 (by rw [otherValid.1])]

theorem isDigest_hexText (hash : Id32) : isDigest (hexText hash.toList) = true := by
  have length : (hexText hash.toList).length = 64 := by
    rw [length_hexText, Vector.length_toList]
  rw [isDigest, length, decide_eq_true rfl, Bool.true_and, List.all_eq_true]
  exact fun c member => isLowerHex_of_mem_hexText member

omit [Numbers N] in
/-- The salt of an accepted value is written as the value has it. -/
theorem saltBytes_ok {value : Any N} {salt : Salt} (ran : saltBytes value = .ok salt) :
    value = some (.string salt.text) := by
  unfold saltBytes at ran
  split at ran
  · split_ifs at ran
    · cases ran
      rfl
    · cases ran
    · cases ran
  · cases ran

omit [Numbers N] in
/-- Every salt is accepted as it is written. -/
theorem saltBytes_text (salt : Salt) : saltBytes (some (.string salt.text) : Any N) = .ok salt := by
  obtain ⟨text, bytes, length, encoded⟩ := salt
  subst encoded
  have size : (base64url bytes).length = 43 := by rw [length_base64url, length]
  have units : (base64url bytes).all (fun c => base64Alphabet.contains c) = true := by
    rw [List.all_eq_true]
    exact fun c member => List.contains_iff_mem.mpr (mem_base64url member)
  have back := base64urlBytes_base64url bytes
  simp only [saltBytes, size, units, back, length, and_self, if_true, dite_true]

/-- The salt made of 32 bytes. -/
def Salt.ofBytes (bytes : Id32) : Salt := ⟨base64url bytes.toList, bytes.toList, by simp, rfl⟩

/-! ## Creating a commitment -/

omit [Numbers N] in
theorem createDigestCommitment_eq_ok {sha256 : Sha256} {random : Id32} {input : Any N}
    {created : DigestCommitment} :
    createDigestCommitment sha256 random input = .ok created ↔
      ∃ entries evidenceDigest contextDigest salt,
        object input ["evidenceDigest", "contextDigest", "salt"]
          ["evidenceDigest", "contextDigest"] = .ok entries ∧
        digest (property entries "evidenceDigest") = .ok evidenceDigest ∧
        digest (property entries "contextDigest") = .ok contextDigest ∧
        saltBytes (saltOf random entries) = .ok salt ∧
        commitmentOf sha256 contextDigest evidenceDigest salt = created := by
  constructor
  · intro ran
    obtain ⟨entries, read, rest⟩ := bind_eq_ok.mp ran
    obtain ⟨evidenceDigest, evidence, rest⟩ := bind_eq_ok.mp rest
    obtain ⟨contextDigest, context, rest⟩ := bind_eq_ok.mp rest
    obtain ⟨salt, salted, made⟩ := bind_eq_ok.mp rest
    exact ⟨entries, evidenceDigest, contextDigest, salt, read, evidence, context, salted,
      Except.ok.inj made⟩
  · rintro ⟨entries, evidenceDigest, contextDigest, salt, read, evidence, context, salted, made⟩
    rw [← made, createDigestCommitment, read]
    refine bind_eq_ok.mpr ⟨_, rfl, bind_eq_ok.mpr ⟨_, evidence, bind_eq_ok.mpr ⟨_, context,
      bind_eq_ok.mpr ⟨_, salted, rfl⟩⟩⟩⟩

/-- The input of a commitment, with a salt or without. -/
def commitmentInput (evidenceDigest contextDigest : Str) (salt : Option Str) : Value N :=
  .object ([(lit "evidenceDigest", .string evidenceDigest),
    (lit "contextDigest", .string contextDigest)] ++
      salt.toList.map fun text => (lit "salt", .string text))

omit [Numbers N] in
/-- A commitment is created for valid digests under a given or a fresh salt. -/
theorem createDigestCommitment_commitmentInput (sha256 : Sha256) (random : Id32)
    {evidenceDigest contextDigest : Str} (evidence : isDigest evidenceDigest = true)
    (context : isDigest contextDigest = true) (salt : Option Salt) :
    createDigestCommitment sha256 random
        (some (commitmentInput evidenceDigest contextDigest (salt.map Salt.text) : Value N)) =
      .ok (commitmentOf sha256 contextDigest evidenceDigest (salt.getD (.ofBytes random))) := by
  rw [createDigestCommitment_eq_ok]
  cases salt with
  | none =>
      refine ⟨_, evidenceDigest, contextDigest, Salt.ofBytes random, object_eq_ok.mpr ⟨rfl, ?_, ?_⟩,
        digest_eq_ok.mpr ⟨?_, evidence⟩, digest_eq_ok.mpr ⟨?_, context⟩, ?_, rfl⟩
      · simp
      · simp
      · simp
      · simp
      · have fresh : saltOf random ([(lit "evidenceDigest", .string evidenceDigest),
            (lit "contextDigest", .string contextDigest)] : Entries N) =
            some (.string (Salt.ofBytes random).text) := by
          simp [saltOf, Salt.ofBytes]
        exact (congrArg saltBytes fresh).trans (saltBytes_text _)
  | some salt =>
      refine ⟨_, evidenceDigest, contextDigest, salt, object_eq_ok.mpr ⟨rfl, ?_, ?_⟩,
        digest_eq_ok.mpr ⟨?_, evidence⟩, digest_eq_ok.mpr ⟨?_, context⟩, ?_, rfl⟩
      · simp
      · simp
      · simp
      · simp
      · have given : saltOf random ([(lit "evidenceDigest", .string evidenceDigest),
            (lit "contextDigest", .string contextDigest), (lit "salt", .string salt.text)] :
            Entries N) = some (.string salt.text) := by
          simp [saltOf]
        exact (congrArg saltBytes given).trans (saltBytes_text salt)

/-! ## Verifying an opening -/

/-- The input of a verification. -/
def verificationInput (claim opening : Value N) : Value N :=
  .object [(lit "publicCommitment", claim), (lit "privateOpening", opening)]

/-- What a verified public commitment and opening consist of. -/
structure Opens (claim opening : Value N) (claimed : PublicCommitment)
    (salt : Salt) (evidenceDigest : Str) : Prop where
  opening : ∃ entries, opening = .object entries ∧
    (∀ entry ∈ entries, entry.1 ∈ ["evidenceDigest", "salt"].map lit) ∧
    property entries "evidenceDigest" = some (.string evidenceDigest) ∧
    property entries "salt" = some (.string salt.text)
  claim : ∃ entries, claim = .object entries ∧
    property entries "contextDigest" = some (.string claimed.contextDigest) ∧
    property entries "commitment" = some (.string claimed.commitment)
  evidence : isDigest evidenceDigest = true
  commitment : isDigest claimed.commitment = true

omit [Numbers N] in
/-- A verification compares the hash of the opened bytes with the commitment. -/
theorem verifyDigestCommitment_ok {sha256 : Sha256} {random : Id32} {claim opening : Value N}
    {verified : CommitmentVerification}
    (ran : verifyDigestCommitment sha256 random (some (verificationInput claim opening)) =
      .ok verified) :
    ∃ claimed salt evidenceDigest, Opens claim opening claimed salt evidenceDigest ∧
      verified = verificationOf (decide
        ((sha256 (commitmentBytes claimed.contextDigest evidenceDigest salt.bytes)).toList =
          hexBytes claimed.commitment)) := by
  obtain ⟨entries, read, afterInput⟩ := bind_eq_ok.mp ran
  obtain ⟨same, -, -⟩ := object_eq_ok.mp read
  cases same
  obtain ⟨claimEntries, claimRead, afterClaim⟩ := bind_eq_ok.mp afterInput
  obtain ⟨openingEntries, openingRead, afterOpening⟩ := bind_eq_ok.mp afterClaim
  clear ran afterInput afterClaim
  obtain ⟨claimEq, -, claimThere⟩ := object_eq_ok.mp claimRead
  obtain ⟨openingEq, known, there⟩ := object_eq_ok.mp openingRead
  rw [property_cons_self, Option.some.injEq] at claimEq
  rw [property_cons_of_ne (by decide), property_cons_self, Option.some.injEq] at openingEq
  subst claimEq openingEq
  split at afterOpening
  · split_ifs at afterOpening
    · cases afterOpening
    · obtain ⟨commitment, commitmentRead, afterDigest⟩ := bind_eq_ok.mp afterOpening
      obtain ⟨actual, created, afterCreated⟩ := bind_eq_ok.mp afterDigest
      obtain ⟨valid, compared, made⟩ := bind_eq_ok.mp afterCreated
      obtain ⟨committed, commitmentValid⟩ := digest_eq_ok.mp commitmentRead
      obtain ⟨joined, evidenceDigest, contextDigest, salt, joinedRead, evidenceRead, contextRead,
        salted, rfl⟩ := createDigestCommitment_eq_ok.mp created
      obtain ⟨joinedEq, -, -⟩ := object_eq_ok.mp joinedRead
      cases joinedEq
      obtain ⟨evidence, evidenceValid⟩ := digest_eq_ok.mp evidenceRead
      obtain ⟨context, -⟩ := digest_eq_ok.mp contextRead
      -- the opening has a digest and a salt of its own, and no context
      have evidenceThere := there "evidenceDigest" (by simp)
      have saltThere := there "salt" (by simp)
      have noContext : property openingEntries "contextDigest" = none := by
        cases found : property openingEntries "contextDigest" with
        | none => rfl
        | some v =>
            have listed := known _ (mem_of_property found)
            simp at listed
      have contextEq : property claimEntries "contextDigest" = some (.string contextDigest) := by
        rw [property_append, noContext, Option.none_or] at context
        cases found : property claimEntries "contextDigest" with
        | none => simp [found] at context
        | some v => simpa [found] using context
      obtain ⟨evidenceValue, evidenceFound⟩ := Option.isSome_iff_exists.mp evidenceThere
      obtain ⟨saltValue, saltFound⟩ := Option.isSome_iff_exists.mp saltThere
      have evidenceEq : evidenceValue = .string evidenceDigest := by
        rw [property_append, evidenceFound, Option.some_or, Option.some.injEq] at evidence
        exact evidence
      have saltEq : saltValue = .string salt.text := by
        have given := saltBytes_ok salted
        rw [saltOf, property_append, saltFound, Option.some_or] at given
        exact Option.some.inj given
      refine ⟨{ schema := SCHEMA, algorithm := lit "SHA-256", contextDigest, commitment }, salt,
        evidenceDigest, ⟨⟨openingEntries, rfl, known, evidenceEq ▸ evidenceFound,
          saltEq ▸ saltFound⟩, ⟨claimEntries, rfl, contextEq, committed⟩, evidenceValid,
          commitmentValid⟩, ?_⟩
      rw [← Except.ok.inj made]
      unfold timingSafeEqual at compared
      split_ifs at compared
      rw [← Except.ok.inj compared, commitmentOf, hexBytes_hexText]
  · cases afterOpening

omit [Numbers N] in
/-- The commitment to an opening verifies. -/
theorem verifyDigestCommitment_commitmentOf (sha256 : Sha256) (random : Id32)
    {evidenceDigest contextDigest : Str} (evidence : isDigest evidenceDigest = true)
    (context : isDigest contextDigest = true) (salt : Salt) :
    verifyDigestCommitment sha256 random (some (verificationInput (N := N)
        (commitmentOf sha256 contextDigest evidenceDigest salt).publicCommitment.toValue
        (commitmentOf sha256 contextDigest evidenceDigest salt).privateOpening.toValue)) =
      .ok (verificationOf true) := by
  have committed := isDigest_hexText
    (sha256 (commitmentBytes contextDigest evidenceDigest salt.bytes))
  have created : createDigestCommitment sha256 random (some (.object
      ([(lit "evidenceDigest", .string evidenceDigest), (lit "salt", .string salt.text)] ++
        [(lit "contextDigest", .string contextDigest)]) : Value N)) =
      .ok (commitmentOf sha256 contextDigest evidenceDigest salt) := by
    refine createDigestCommitment_eq_ok.mpr ⟨_, evidenceDigest, contextDigest, salt,
      object_eq_ok.mpr ⟨rfl, ?_, ?_⟩, digest_eq_ok.mpr ⟨?_, evidence⟩,
      digest_eq_ok.mpr ⟨?_, context⟩, ?_, rfl⟩
    · simp
    · simp
    · simp
    · simp
    · have given : saltOf random (([(lit "evidenceDigest", .string evidenceDigest),
          (lit "salt", .string salt.text)] ++ [(lit "contextDigest", .string contextDigest)]) :
          Entries N) = some (.string salt.text) := by
        simp [saltOf]
      exact (congrArg saltBytes given).trans (saltBytes_text salt)
  refine bind_eq_ok.mpr ⟨_, object_eq_ok.mpr ⟨rfl, by simp, by simp⟩, ?_⟩
  rw [property_cons_self, property_cons_of_ne (by decide), property_cons_self]
  refine bind_eq_ok.mpr ⟨_, object_eq_ok.mpr ⟨rfl, by simp, by simp⟩, ?_⟩
  refine bind_eq_ok.mpr ⟨_, object_eq_ok.mpr ⟨rfl, by simp, by simp⟩, ?_⟩
  rw [property_cons_self, property_cons_of_ne (by decide), property_cons_self]
  dsimp only
  rw [if_neg (by simp [commitmentOf])]
  refine bind_eq_ok.mpr ⟨_, digest_eq_ok.mpr ⟨by simp; rfl, committed⟩, ?_⟩
  refine bind_eq_ok.mpr ⟨commitmentOf sha256 contextDigest evidenceDigest salt, ?_, ?_⟩
  · simpa [commitmentOf] using created
  · refine bind_eq_ok.mpr ⟨true, ?_, rfl⟩
    simp [timingSafeEqual, commitmentOf]

/-! ## Binding -/

def entriesOf : Value N → Entries N
  | .object entries => entries
  | _ => []

def textOf : Any N → Str
  | some (.string s) => s
  | _ => []

/-- The bytes that a verification hashes for a public commitment and an opening. -/
def openedBytes (claim opening : Value N) : List UInt8 :=
  commitmentBytes (textOf (property (entriesOf claim) "contextDigest"))
    (textOf (property (entriesOf opening) "evidenceDigest"))
    (base64urlBytes (textOf (property (entriesOf opening) "salt")))

theorem Salt.bytes_eq (salt : Salt) : salt.bytes = base64urlBytes salt.text := by
  rw [← salt.encoded, base64urlBytes_base64url]

/-- The parts of the committed bytes have fixed lengths, so they can be told apart. -/
theorem commitmentBytes_inj {contextDigest first second : Str} {salt other : List UInt8}
    (length : salt.length = other.length)
    (same : commitmentBytes contextDigest first salt = commitmentBytes contextDigest second other) :
    salt = other ∧ hexBytes first = hexBytes second := by
  simp only [commitmentBytes, List.append_assoc, List.append_cancel_left_eq] at same
  exact List.append_inj same length

omit [Numbers N] in
theorem Opens.bytes_eq {claim opening : Value N} {claimed : PublicCommitment} {salt : Salt}
    {evidenceDigest : Str} (opens : Opens claim opening claimed salt evidenceDigest) :
    openedBytes claim opening =
      commitmentBytes claimed.contextDigest evidenceDigest salt.bytes := by
  obtain ⟨openingEntries, rfl, -, evidence, salted⟩ := opens.opening
  obtain ⟨claimEntries, rfl, context, -⟩ := opens.claim
  rw [openedBytes, entriesOf, entriesOf, context, evidence, salted, salt.bytes_eq]
  rfl

omit [Numbers N] in
/-- An object with exactly two properties, in one order or the other. -/
theorem perm_pair {entries : Entries N} {first second : String} {v w : Value N}
    (distinct : (entries.map Prod.fst).Nodup) (differs : first ≠ second)
    (known : ∀ entry ∈ entries, entry.1 ∈ [first, second].map lit)
    (one : property entries first = some v) (two : property entries second = some w) :
    entries.Perm [(lit first, v), (lit second, w)] := by
  have oneMember := mem_of_property one
  have twoMember := mem_of_property two
  have pairDistinct : [(lit first, v), (lit second, w)].Nodup := by
    simp [differs]
  rw [List.perm_ext_iff_of_nodup (List.Nodup.of_map _ distinct) pairDistinct]
  intro entry
  constructor
  · intro member
    rcases List.mem_pair.mp (known entry member) with named | named
    · exact List.mem_pair.mpr (.inl (List.inj_on_of_nodup_map distinct member oneMember named))
    · exact List.mem_pair.mpr (.inr (List.inj_on_of_nodup_map distinct member twoMember named))
  · intro member
    rcases List.mem_pair.mp member with rfl | rfl
    · exact oneMember
    · exact twoMember

omit [Numbers N] in
/-- Two openings that verify for one public commitment are equal, unless their bytes
collide. -/
theorem opening_unique {sha256 : Sha256} {random otherRandom : Id32} {claim first second : Value N}
    (formed : first.WellFormed) (otherFormed : second.WellFormed)
    (collisionFree : Set.InjOn sha256 {openedBytes claim first, openedBytes claim second})
    {verified otherVerified : CommitmentVerification}
    (ran : verifyDigestCommitment sha256 random (some (verificationInput claim first)) = .ok verified)
    (otherRan : verifyDigestCommitment sha256 otherRandom
      (some (verificationInput claim second)) = .ok otherVerified)
    (valid : verified.valid = true) (otherValid : otherVerified.valid = true) :
    first.Reordered (· = ·) second := by
  obtain ⟨claimed, salt, evidence, opens, rfl⟩ := verifyDigestCommitment_ok ran
  obtain ⟨otherClaimed, otherSalt, otherEvidence, otherOpens, rfl⟩ := verifyDigestCommitment_ok otherRan
  have hash := of_decide_eq_true valid
  have otherHash := of_decide_eq_true otherValid
  have sameClaim : claimed.contextDigest = otherClaimed.contextDigest ∧
      claimed.commitment = otherClaimed.commitment := by
    obtain ⟨entries, rfl, context, committed⟩ := opens.claim
    obtain ⟨others, same, otherContext, otherCommitted⟩ := otherOpens.claim
    cases same
    have contexts := context.symm.trans otherContext
    have commitments := committed.symm.trans otherCommitted
    simp only [Option.some.injEq, Value.string.injEq] at contexts commitments
    exact ⟨contexts, commitments⟩
  rw [← sameClaim.1, ← sameClaim.2] at otherHash
  rw [← opens.bytes_eq] at hash
  rw [sameClaim.1, ← otherOpens.bytes_eq] at otherHash
  have bytes : openedBytes claim first = openedBytes claim second :=
    collisionFree (by simp) (by simp) (Vector.toList_inj.mp (hash.trans otherHash.symm))
  rw [opens.bytes_eq, otherOpens.bytes_eq, sameClaim.1] at bytes
  obtain ⟨salts, evidences⟩ :=
    commitmentBytes_inj (salt.length.trans otherSalt.length.symm) bytes
  have saltText : salt.text = otherSalt.text := by
    rw [← salt.encoded, ← otherSalt.encoded, salts]
  have evidenceText := hexBytes_inj_of_isDigest opens.evidence otherOpens.evidence evidences
  obtain ⟨entries, rfl, known, evidenceFound, saltFound⟩ := opens.opening
  obtain ⟨others, rfl, otherKnown, otherEvidenceFound, otherSaltFound⟩ := otherOpens.opening
  cases formed with | object distinct =>
  cases otherFormed with | object otherDistinct =>
  rw [← evidenceText] at otherEvidenceFound
  rw [← saltText] at otherSaltFound
  have reflexive : ∀ v : Value N, v.Reordered (· = ·) v := .refl fun _ => rfl
  exact .object (perm_pair distinct (by decide) known evidenceFound saltFound) rfl
    (fun pair member => (mem_zip_self member).1 ▸ reflexive pair.1.2)
    (perm_pair otherDistinct (by decide) otherKnown otherEvidenceFound otherSaltFound).symm

/-- Canonical texts are equal exactly for evidence that is equal up to the order of keys
and the zeros, so are hashes that do not collide; every commitment that is created
verifies; and no public commitment verifies for two different openings whose bytes do
not collide. -/
theorem evidence_commitments_bind
    (injective : ∀ a b : N, Numbers.isFinite a = true → Numbers.isFinite b = true →
      Numbers.text a = Numbers.text b → SameNumber a b) (sha256 : Sha256) :
    (∀ (v w : Value N) (s t : Str), v.WellFormed → w.WellFormed → canonical 0 v = .ok s →
      canonical 0 w = .ok t → (s = t ↔ v.Reordered SameNumber w)) ∧
    (∀ (v w : Value N) (hash : Str), v.WellFormed → w.WellFormed →
      Set.InjOn sha256 {evidenceBytes v, evidenceBytes w} →
      hashPrivateEvidenceLocally sha256 v = .ok hash →
      hashPrivateEvidenceLocally sha256 w = .ok hash → v.Reordered SameNumber w) ∧
    (∀ (random otherRandom : Id32) (evidenceDigest contextDigest : Str) (saltText : Option Str),
      isDigest evidenceDigest = true → isDigest contextDigest = true →
      (∀ text ∈ saltText, ∃ salt, saltBytes (some (.string text) : Any N) = .ok salt) →
      ∃ created, createDigestCommitment sha256 random
          (some (commitmentInput evidenceDigest contextDigest saltText : Value N)) = .ok created ∧
        verifyDigestCommitment sha256 otherRandom (some (verificationInput (N := N)
          created.publicCommitment.toValue created.privateOpening.toValue)) =
          .ok (verificationOf true)) ∧
    ∀ (random otherRandom : Id32) (claim first second : Value N)
      (verified otherVerified : CommitmentVerification), first.WellFormed → second.WellFormed →
      Set.InjOn sha256 {openedBytes claim first, openedBytes claim second} →
      verifyDigestCommitment sha256 random (some (verificationInput claim first)) = .ok verified →
      verifyDigestCommitment sha256 otherRandom (some (verificationInput claim second)) =
        .ok otherVerified →
      verified.valid = true → otherVerified.valid = true → first.Reordered (· = ·) second := by
  refine ⟨?_, ?_, ?_, ?_⟩
  · intro v w s t formed otherFormed ran otherRan
    exact canonical_eq_iff injective formed otherFormed ran otherRan
  · intro v w hash formed otherFormed collisionFree ran otherRan
    exact hashPrivateEvidenceLocally_inj injective formed otherFormed collisionFree ran otherRan
  · intro random otherRandom evidenceDigest contextDigest saltText evidence context accepted
    have salted : ∃ salt : Option Salt, salt.map Salt.text = saltText := by
      cases saltText with
      | none => exact ⟨none, rfl⟩
      | some text =>
          obtain ⟨salt, read⟩ := accepted text rfl
          have written := saltBytes_ok read
          simp only [Option.some.injEq, Value.string.injEq] at written
          exact ⟨some salt, congrArg some written.symm⟩
    obtain ⟨salt, rfl⟩ := salted
    exact ⟨_, createDigestCommitment_commitmentInput sha256 random evidence context salt,
      verifyDigestCommitment_commitmentOf sha256 otherRandom evidence context _⟩
  · intro random otherRandom claim first second verified otherVerified formed otherFormed
      collisionFree ran otherRan valid otherValid
    exact opening_unique formed otherFormed collisionFree ran otherRan valid otherValid

/-! ## A commitment -/

theorem safeInteger_text_inj (a b : SafeInteger) (_ : Numbers.isFinite a = true)
    (_ : Numbers.isFinite b = true) (same : Numbers.text a = Numbers.text b) : SameNumber a b :=
  .inl (Subtype.ext (intText_inj same))

/-- A digest that keeps the first bytes. -/
def sampleSha256 : Sha256 := fun bytes => Vector.ofFn fun i => bytes.getD i 0

def sampleEvidence : Value SafeInteger :=
  .object [(lit "b", .number .one), (lit "a", .array [.null, .string (lit "x")])]

def sampleReordered : Value SafeInteger :=
  .object [(lit "a", .array [.null, .string (lit "x")]), (lit "b", .number .one)]

def sampleDigest : Str := List.replicate 64 (unit 'a')

def sampleSalt : Salt := .ofBytes (Vector.replicate 32 7)

def sampleCommitment : DigestCommitment :=
  commitmentOf sampleSha256 sampleDigest sampleDigest sampleSalt

def sampleClaim : Value SafeInteger := sampleCommitment.publicCommitment.toValue

def sampleOpening : Value SafeInteger := sampleCommitment.privateOpening.toValue

def reorderedOpening : Value SafeInteger :=
  .object [(lit "salt", .string sampleSalt.text), (lit "evidenceDigest", .string sampleDigest)]

theorem sampleArray_wellFormed :
    (Value.array [.null, .string (lit "x")] : Value SafeInteger).WellFormed := by
  refine .array fun v member => ?_
  rcases List.mem_pair.mp member with rfl | rfl
  · exact .null
  · exact .string _

theorem evidence_commitments_bind_sample :
    sampleEvidence.Reordered SameNumber sampleReordered ∧
    (∃ created, createDigestCommitment sampleSha256 ZERO_ID
        (some (commitmentInput sampleDigest sampleDigest (some sampleSalt.text) :
          Value SafeInteger)) = .ok created ∧
      verifyDigestCommitment sampleSha256 ZERO_ID (some (verificationInput (N := SafeInteger)
        created.publicCommitment.toValue created.privateOpening.toValue)) =
        .ok (verificationOf true)) ∧
    sampleOpening.Reordered (· = ·) reorderedOpening := by
  obtain ⟨-, hashes, commitments, openings⟩ :=
    evidence_commitments_bind safeInteger_text_inj sampleSha256
  have evidence : evidenceBytes sampleEvidence = evidenceBytes sampleReordered := by decide +kernel
  have opened : openedBytes sampleClaim sampleOpening = openedBytes sampleClaim reorderedOpening := by
    decide +kernel
  have number : (Value.number .one : Value SafeInteger).WellFormed := .number _
  refine ⟨?_, ?_, ?_⟩
  · exact hashes sampleEvidence sampleReordered
      (hexText (sampleSha256 (evidenceBytes sampleEvidence)).toList)
      (wellFormed_pair (by decide +kernel) (by decide +kernel) number sampleArray_wellFormed)
      (wellFormed_pair (by decide +kernel) (by decide +kernel) sampleArray_wellFormed number)
      (by simp [evidence]) (by decide +kernel) (by decide +kernel)
  · exact commitments ZERO_ID ZERO_ID sampleDigest sampleDigest (some sampleSalt.text)
      (by decide +kernel) (by decide +kernel)
      (fun text given => ⟨sampleSalt, Option.some.inj given ▸ saltBytes_text sampleSalt⟩)
  · exact openings ZERO_ID ZERO_ID sampleClaim sampleOpening reorderedOpening (verificationOf true)
      (verificationOf true)
      (wellFormed_pair (by decide +kernel) (by decide +kernel) (.string _) (.string _))
      (wellFormed_pair (by decide +kernel) (by decide +kernel) (.string _) (.string _))
      (by simp [opened]) (by decide +kernel) (by decide +kernel) rfl rfl

end Chlom.Protocol
