import Chlom.Library.Js.Date
import Chlom.Library.Js.Json
import Chlom.Library.Results

/-!
# Checks of protocol inputs and registries

Every check returns what it has read, so that a value that passed carries what was
checked: a timestamp its time value, a window its order, a version its number.
-/

namespace Chlom.Protocol

open Js Results

/-! ## Errors -/

structure ChlomError where
  code : Str
  message : Str
  status : Nat
  deriving DecidableEq

/-- What a call can throw: an error of the protocol, or the error of a time value out of
range. -/
inductive Thrown where
  | chlom (error : ChlomError)
  | rangeError
  deriving DecidableEq

def invalidWith {α : Type} (message : Str) : Except Thrown α :=
  .error (.chlom ⟨lit "CHLOM_PROTOCOL_INVALID_INPUT", message, 400⟩)

/-- The message of an error that names no other. -/
def UNSUPPORTED : Str := lit "Protocol input does not match the supported schema."

def invalid {α : Type} : Except Thrown α := invalidWith UNSUPPORTED

variable {N : Type}

/-- A value that is read from a property or an argument, `none` where it is undefined. -/
abbrev Any (N : Type) := Option (Value N)

/-! ## Objects, lists and labels -/

def object (value : Any N) (allowed required : List String) : Except Thrown (Entries N) :=
  match value with
  | some (.object entries) =>
      if (∃ entry ∈ entries, entry.1 ∉ allowed.map lit) ∨
          ∃ key ∈ required, (property entries key).isNone = true then
        invalid
      else .ok entries
  | _ => invalid

def list (value : Any N) (max min : Nat) : Except Thrown (List (Value N)) :=
  match value with
  | some (.array items) =>
      if items.length < min ∨ max < items.length then invalid else .ok items
  | _ => invalid

theorem object_eq_ok {value : Any N} {allowed required : List String} {entries : Entries N} :
    object value allowed required = .ok entries ↔
      value = some (.object entries) ∧ (∀ entry ∈ entries, entry.1 ∈ allowed.map lit) ∧
        ∀ key ∈ required, (property entries key).isSome = true := by
  unfold object
  split
  · rename_i others
    split_ifs with refused
    · refine ⟨nofun, ?_⟩
      rintro ⟨same, known, present⟩
      cases same
      rcases refused with ⟨entry, member, unknown⟩ | ⟨key, member, absent⟩
      · exact absurd (known entry member) unknown
      · have there := present key member
        rw [Option.isNone_iff_eq_none.mp absent] at there
        cases there
    · push Not at refused
      constructor
      · intro same
        obtain rfl := Except.ok.inj same
        exact ⟨rfl, refused.1, fun key member => by simpa [Option.isSome_iff_ne_none] using refused.2 key member⟩
      · rintro ⟨same, _⟩
        cases same
        rfl
  · rename_i other
    exact ⟨nofun, fun ⟨same, _⟩ => absurd same (other entries)⟩

theorem list_eq_ok {value : Any N} {max min : Nat} {items : List (Value N)} :
    list value max min = .ok items ↔
      value = some (.array items) ∧ min ≤ items.length ∧ items.length ≤ max := by
  unfold list
  split
  · rename_i others
    split_ifs with refused
    · refine ⟨nofun, ?_⟩
      rintro ⟨same, least, most⟩
      cases same
      omega
    · constructor
      · intro same
        obtain rfl := Except.ok.inj same
        exact ⟨rfl, by omega, by omega⟩
      · rintro ⟨same, _⟩
        cases same
        rfl
  · rename_i other
    exact ⟨nofun, fun ⟨same, _⟩ => absurd same (other items)⟩

def isAlphanumeric (c : CodeUnit) : Bool :=
  isDigit c || (0x41 ≤ c.val && c.val ≤ 0x5A) || (0x61 ≤ c.val && c.val ≤ 0x7A)

/-- A letter or digit and at most 127 letters, digits, dots, underscores, colons, slashes
and hyphens. -/
def isLabel (s : Str) : Bool :=
  s.head?.any isAlphanumeric && s.length ≤ 128 &&
    s.tail.all fun c => isAlphanumeric c || decide (c ∈ lit "._:/-")

def label (value : Any N) (wildcard : Bool) : Except Thrown Str :=
  match value with
  | some (.string s) =>
      if wildcard = true ∧ s = lit "*" then .ok s else if isLabel s = true then .ok s else invalid
  | _ => invalid

def labels (value : Any N) (wildcard : Bool) (min : Nat) : Except Thrown (List Str) := do
  let items ← list value 50 min
  let names ← items.mapM fun item => label (some item) wildcard
  if names.Nodup then return names
  invalidWith (lit "Duplicate values are not permitted.")

/-- Exactly 64 lower-case hexadecimal digits. -/
def isDigest (s : Str) : Bool := s.length = 64 && s.all isLowerHex

def digest (value : Any N) : Except Thrown Str :=
  match value with
  | some (.string s) =>
      if isDigest s = true then .ok s
      else invalidWith (lit "A lowercase SHA-256 digest is required.")
  | _ => invalidWith (lit "A lowercase SHA-256 digest is required.")

/-- A decimal without leading zeros of at most 38 digits. -/
def isIntegerString (s : Str) : Bool :=
  decide (s = lit "0") ||
    (s.all isDigit && 1 ≤ s.length && s.length ≤ 38 && decide (s.head? ≠ some (unit '0')))

def integerString (value : Any N) : Except Thrown Nat :=
  match value with
  | some (.string s) =>
      if isIntegerString s = true then .ok (digitsValue s)
      else invalidWith (lit "Quantities must be unsigned decimal strings of at most 38 digits.")
  | _ => invalidWith (lit "Quantities must be unsigned decimal strings of at most 38 digits.")

/-! ## Timestamps and windows -/

/-- A UTC timestamp with milliseconds that is the text of its time value. -/
structure Timestamp where
  text : Str
  time : Int
  shaped : fits isoPattern text = true
  parsed : dateParse text = some time
  canonical : isoText time = text

def timestamp (value : Any N) : Except Thrown Timestamp :=
  match value with
  | some (.string text) =>
      if shaped : fits isoPattern text = true then
        match parsed : dateParse text with
        | some time =>
            if canonical : isoText time = text then .ok ⟨text, time, shaped, parsed, canonical⟩
            else invalid
        | none => invalid
      else invalidWith (lit "Use a UTC timestamp with milliseconds.")
  | _ => invalidWith (lit "Use a UTC timestamp with milliseconds.")

/-- A time that starts before it stops. -/
structure Window where
  start : Timestamp
  stop : Timestamp
  ordered : start.time < stop.time

/-- The window between two timestamps; the later one is read first. -/
def windowBetween (start stop : Any N) (message : Str) : Except Thrown Window := do
  let stop ← timestamp stop
  let start ← timestamp start
  if ordered : start.time < stop.time then return ⟨start, stop, ordered⟩
  invalidWith message

def windowOf (value : Entries N) : Except Thrown Window :=
  windowBetween (property value "effectiveAt") (property value "expiresAt")
    (lit "The expiry must follow the effective date.")

/-- The window contains its start but not its stop. -/
def Window.active (window : Window) (now : Int) : Bool :=
  window.start.time ≤ now && now < window.stop.time

/-! ## Versions and scopes -/

section Versions

variable [Numbers N]

/-- A version of a configured record. -/
structure Versioned (N : Type) [Numbers N] where
  id : Str
  version : N
  window : Window
  positive : ∃ number, Numbers.safeInteger version = some number ∧ 1 ≤ number

def versioned (value : Entries N) : Except Thrown (Versioned N) := do
  let id ← label (property value "id") false
  match property value "version" with
  | some (.number version) =>
      if positive : ∃ number ∈ Numbers.safeInteger version, 1 ≤ number then
        let window ← windowOf value
        return ⟨id, version, window, positive⟩
      else invalid
  | _ => invalid

end Versions

structure Scope where
  tenantId : Str
  jurisdictions : List Str
  actions : List Str

def scope (value : Any N) : Except Thrown Scope := do
  let entries ← object value ["tenantId", "jurisdictions", "actions"]
    ["tenantId", "jurisdictions", "actions"]
  let tenantId ← label (property entries "tenantId") false
  let jurisdictions ← labels (property entries "jurisdictions") true 1
  let actions ← labels (property entries "actions") true 1
  return { tenantId, jurisdictions, actions }

def scopeMatches (value : Scope) (tenantId jurisdiction action : Str) : Bool :=
  value.tenantId = tenantId &&
    (value.jurisdictions.contains (lit "*") || value.jurisdictions.contains jurisdiction) &&
    (value.actions.contains (lit "*") || value.actions.contains action)

/-! ## Unique versions -/

section Unique

variable [Numbers N]

/-- A version with the scope it is configured for. -/
structure Configured (N : Type) [Numbers N] extends Versioned N where
  scope : Scope

/-- `JSON.stringify([value.scope.tenantId, value.id, value.version])`. -/
def versionKey (value : Configured N) : Str :=
  stringify (.array [.string value.scope.tenantId, .string value.id, .number value.version])

/-- Compare a version with all others; a version is told from itself by its place. -/
def checkOverlaps (value : Configured N × Nat) :
    List (Configured N × Nat) → Except Thrown Unit
  | [] => .ok ()
  | other :: rest =>
      if value.2 = other.2 ∨ value.1.id ≠ other.1.id ∨
          value.1.scope.tenantId ≠ other.1.scope.tenantId then
        checkOverlaps value rest
      else if value.1.window.start.time < other.1.window.stop.time ∧
          other.1.window.start.time < value.1.window.stop.time then
        invalidWith (lit "Configured version windows overlap.")
      else checkOverlaps value rest

def uniqueVersionsFrom (values : List (Configured N × Nat)) :
    List Str → List (Configured N × Nat) → Except Thrown Unit
  | _, [] => .ok ()
  | keys, value :: rest =>
      if versionKey value.1 ∈ keys then
        invalidWith (lit "Duplicate configured versions are not permitted.")
      else do
        checkOverlaps value values
        uniqueVersionsFrom values (versionKey value.1 :: keys) rest

def uniqueVersions (values : List (Configured N)) : Except Thrown Unit :=
  uniqueVersionsFrom values.zipIdx [] values.zipIdx

end Unique

/-! ## Unique keys -/

section Keys

variable {α : Type} (read : Value N → Except Thrown α) (key : α → Str) (message : Str)

/-- Read the items of a list in order; each item's key must be new. -/
def readUniqueFrom : List Str → List (Value N) → Except Thrown (List α)
  | _, [] => .ok []
  | keys, item :: rest => do
      let result ← read item
      if key result ∈ keys then
        invalidWith message
      else
        let results ← readUniqueFrom (key result :: keys) rest
        return result :: results

def readUnique (items : List (Value N)) : Except Thrown (List α) :=
  readUniqueFrom read key message [] items

theorem readUniqueFrom_eq_ok {keys : List Str} {items : List (Value N)} {results : List α} :
    readUniqueFrom read key message keys items = .ok results ↔
      items.mapM read = .ok results ∧ (∀ result ∈ results, key result ∉ keys) ∧
        (results.map key).Nodup := by
  induction items generalizing keys results with
  | nil =>
      rw [readUniqueFrom, List.mapM_nil]
      constructor
      · intro same
        cases same
        exact ⟨rfl, by simp, by simp⟩
      · exact fun read => read.1
  | cons item rest ih =>
      rw [readUniqueFrom, List.mapM_cons, bind_eq_ok, bind_eq_ok]
      constructor
      · rintro ⟨result, ran, next⟩
        split_ifs at next with known
        · cases next
        · obtain ⟨results, ranRest, same⟩ := bind_eq_ok.mp next
          cases same
          obtain ⟨all, fresh, distinct⟩ := ih.mp ranRest
          refine ⟨⟨result, ran, bind_eq_ok.mpr ⟨results, all, rfl⟩⟩, ?_, ?_⟩
          · intro other member
            rcases List.mem_cons.mp member with rfl | member
            · exact known
            · exact fun old => fresh other member (List.mem_cons_of_mem _ old)
          · rw [List.map_cons, List.nodup_cons]
            refine ⟨fun again => ?_, distinct⟩
            obtain ⟨other, member, same⟩ := List.mem_map.mp again
            exact fresh other member (same ▸ List.mem_cons_self)
      · rintro ⟨⟨result, ran, all⟩, fresh, distinct⟩
        obtain ⟨results, ranRest, same⟩ := bind_eq_ok.mp all
        cases same
        rw [List.map_cons, List.nodup_cons] at distinct
        refine ⟨result, ran, ?_⟩
        rw [if_neg (fresh result List.mem_cons_self)]
        refine bind_eq_ok.mpr ⟨results, ih.mpr ⟨ranRest, fun other member old => ?_, distinct.2⟩, rfl⟩
        rcases List.mem_cons.mp old with same | old
        · exact distinct.1 (same ▸ List.mem_map_of_mem member)
        · exact fresh other (List.mem_cons_of_mem _ member) old

theorem readUnique_eq_ok {items : List (Value N)} {results : List α} :
    readUnique read key message items = .ok results ↔
      items.mapM read = .ok results ∧ (results.map key).Nodup := by
  rw [readUnique, readUniqueFrom_eq_ok]
  simp

end Keys

/-- The time value of the moment of an evaluation. -/
def evaluationTime [Numbers N] (now : N) : Except Thrown Int :=
  match Numbers.safeInteger now with
  | some time =>
      if Numbers.isFinite now = false then invalid
      else if time < -MAX_TIME ∨ MAX_TIME < time then .error .rangeError
      else .ok time
  | none => invalid

end Chlom.Protocol
