import Chlom.Assurance.Tables
import Chlom.Library.Table

/-!
# Routines of the database

A routine reads and writes the tables of its component and may raise an exception.
A statement whose exception is raised leaves nothing behind.
-/

namespace Chlom

/-- A JSON document by the text of its canonical form. -/
abbrev Jsonb := Assurance.Text

/-- A step of a routine over the tables `σ`. -/
abbrev Sql (σ α : Type) := Dispatch σ Assurance.SqlError α

/-- A row that comes after all others leaves the rows of another kind. -/
theorem filter_concat {α : Type} {p : α → Bool} {row : α} {rows : List α} (other : p row = false) :
    (rows ++ [row]).filter p = rows.filter p := by
  simp [other]

namespace Sql

open Assurance (SqlError)

variable {σ α : Type}

/-- The code of an exception that is raised without one. -/
def raiseException : String := "P0001"

/-- Raise an exception unless a condition holds. -/
def require (condition : Prop) [Decidable condition] (message : String) : Sql σ Unit :=
  Dispatch.ensure condition (.raised message raiseException)

/-- Raise an exception unless a row was found. -/
def demand (found : Option α) (message : String) : Sql σ α :=
  Dispatch.okOr found (.raised message raiseException)

/-- A column that must not be null. -/
def notNull (value : Option α) (column : String) : Sql σ α :=
  Dispatch.okOr value (.notNullViolation column)

def check (condition : Prop) [Decidable condition] (constraint : String) : Sql σ Unit :=
  Dispatch.ensure condition (.checkViolation constraint)

def unique (condition : Prop) [Decidable condition] (column : String) : Sql σ Unit :=
  Dispatch.ensure condition (.uniqueViolation column)

def references (condition : Prop) [Decidable condition] (column : String) : Sql σ Unit :=
  Dispatch.ensure condition (.foreignKeyViolation column)

/-- `=` of two values that may be null. -/
def equals {β : Type} [DecidableEq β] : Option β → Option β → Option Bool
  | some first, some second => some (decide (first = second))
  | _, _ => none

theorem equals_eq_true {β : Type} [DecidableEq β] {first second : Option β} :
    equals first second = some true ↔ ∃ value, first = some value ∧ second = some value := by
  cases first with
  | none => simp [equals]
  | some value =>
      cases second with
      | none => simp [equals]
      | some other => simp [equals, eq_comm]

/-- The greatest value of an `integer` column or variable. -/
def maxInteger : Int := 2 ^ 31 - 1

/-- The greatest value of a `bigint` column or variable. -/
def maxBigint : Int := 2 ^ 63 - 1

def fitsInteger (value : Int) : Sql σ Unit :=
  Dispatch.ensure (-maxInteger - 1 ≤ value ∧ value ≤ maxInteger)
    (.raised "integer out of range" "22003")

def fitsBigint (value : Int) : Sql σ Unit :=
  Dispatch.ensure (-maxBigint - 1 ≤ value ∧ value ≤ maxBigint)
    (.raised "bigint out of range" "22003")

/-- Run a statement, whose exception undoes it. -/
def statement (body : Sql σ α) (s : σ) : σ × Except SqlError α :=
  let ran := Dispatch.withStorageLayer body s
  (Dispatch.finalState ran, Dispatch.outcome ran)

variable {body : Sql σ α} {s s' : σ} {value : α} {failure : SqlError}

theorem statement_of_ok (ran : body s = .ok value s') : statement body s = (s', .ok value) := by
  simp [statement, Dispatch.withStorageLayer, ran, Dispatch.finalState, Dispatch.outcome]

theorem statement_of_error (ran : body s = .error failure s') :
    statement body s = (s, .error failure) := by
  simp [statement, Dispatch.withStorageLayer, ran, Dispatch.finalState, Dispatch.outcome]

/-- A statement that answers ran to its end. -/
theorem ok_of_statement (answered : (statement body s).2 = .ok value) :
    body s = .ok value (statement body s).1 := by
  cases ran : body s with
  | ok found after =>
      rw [statement_of_ok ran] at answered ⊢
      rw [Except.ok.inj answered]
  | error failure after =>
      rw [statement_of_error ran] at answered
      cases answered

end Sql

end Chlom
