import Mathlib.Data.List.Basic

/-! A single SQLite table as an application drives it: statements commit at once
outside a transaction, a transaction that ends unmarked is rolled back, and an
insert may fail. -/

namespace AhsApp.Library

universe u
variable {Row : Type u}

/-- The committed rows in insertion order, and the working rows of an open
transaction. -/
structure Table (Row : Type u) where
  committed : List Row
  transaction : Option (List Row)
  successful : Bool
  deriving DecidableEq

namespace Table

def idle (rows : List Row) : Table Row := ⟨rows, none, false⟩

/-- The rows that a statement sees. -/
def rows (table : Table Row) : List Row := table.transaction.getD table.committed

/-- A statement that rewrites the rows. -/
def execSQL (statement : List Row → List Row) (table : Table Row) : Table Row :=
  match table.transaction with
  | some working => { table with transaction := some (statement working) }
  | none => { table with committed := statement table.committed }

/-- The flag says whether the result differs from `-1`. -/
def insert (fails : Bool) (row : Row) (table : Table Row) : Bool × Table Row :=
  if fails then (false, table) else (true, table.execSQL (· ++ [row]))

def beginTransaction (table : Table Row) : Table Row :=
  { table with transaction := some table.committed, successful := false }

def setTransactionSuccessful (table : Table Row) : Table Row := { table with successful := true }

def endTransaction (table : Table Row) : Table Row :=
  match table.transaction with
  | some working => idle (if table.successful then working else table.committed)
  | none => table

/-- One turn of a loop of inserts; the insert at an index fails when `fails` says
so, and the loop goes on. -/
def insertStep (fails : Nat → Bool) (state : Bool × Table Row) (entry : Row × Nat) :
    Bool × Table Row :=
  let result := state.2.insert (fails entry.2) entry.1
  (state.1 && result.1, result.2)

def insertAll (fails : Nat → Bool) (rows : List Row) (table : Table Row) : Bool × Table Row :=
  rows.zipIdx.foldl (insertStep fails) (true, table)

/-- All inserts in one transaction, marked successful when none of them failed. -/
def insertAllInTransaction (fails : Nat → Bool) (rows : List Row) (table : Table Row) :
    Bool × Table Row :=
  let (succeeded, table) := insertAll fails rows table.beginTransaction
  let table := if succeeded then table.setTransactionSuccessful else table
  (succeeded, table.endTransaction)

/-- No insert of the rows fails. -/
def NoneFails (fails : Nat → Bool) (rows : List Row) : Prop :=
  ∀ index < rows.length, fails index = false

/-- The rows whose insert succeeds. -/
def inserted (fails : Nat → Bool) (rows : List Row) : List Row :=
  (rows.zipIdx.filter fun (_, index) => !fails index).map Prod.fst

private theorem noneFails_iff {fails : Nat → Bool} {rows : List Row} :
    NoneFails fails rows ↔ ∀ entry ∈ rows.zipIdx, fails entry.2 = false := by
  constructor
  · rintro none ⟨row, index⟩ member
    exact none index (by simpa using (List.snd_lt_of_mem_zipIdx member))
  · intro none index bound
    exact none (rows[index], index) (by simp [List.mem_zipIdx_iff_getElem?, bound])

theorem inserted_of_noneFails {fails : Nat → Bool} {rows : List Row}
    (none : NoneFails fails rows) : inserted fails rows = rows := by
  have all := noneFails_iff.mp none
  rw [inserted, List.filter_eq_self.mpr fun entry member => by simp [all entry member]]
  simp

theorem inserted_sublist (fails : Nat → Bool) (rows : List Row) :
    (inserted fails rows).Sublist rows := by
  have kept := (List.filter_sublist (l := rows.zipIdx) (p := fun (_, index) => !fails index)).map
    Prod.fst
  simpa [inserted] using kept

theorem mem_inserted {fails : Nat → Bool} {rows : List Row} {row : Row} :
    row ∈ inserted fails rows ↔ ∃ index, rows[index]? = some row ∧ fails index = false := by
  simp [inserted, List.mem_zipIdx_iff_getElem?]

private theorem execSQL_execSQL (first second : List Row → List Row) (table : Table Row) :
    (table.execSQL first).execSQL second = table.execSQL (second ∘ first) := by
  obtain ⟨committed, transaction, successful⟩ := table
  cases transaction <;> rfl

private theorem execSQL_id (table : Table Row) : table.execSQL id = table := by
  obtain ⟨committed, transaction, successful⟩ := table
  cases transaction <;> rfl

theorem rows_execSQL (statement : List Row → List Row) (table : Table Row) :
    (table.execSQL statement).rows = statement table.rows := by
  obtain ⟨committed, transaction, successful⟩ := table
  cases transaction <;> rfl

private theorem foldl_insertStep (fails : Nat → Bool) (entries : List (Row × Nat)) (flag : Bool)
    (table : Table Row) :
    entries.foldl (insertStep fails) (flag, table) =
      (flag && entries.all (fun entry => !fails entry.2),
        table.execSQL (· ++ (entries.filter fun entry => !fails entry.2).map Prod.fst)) := by
  induction entries generalizing flag table with
  | nil =>
    simp only [List.foldl_nil, List.all_nil, Bool.and_true, List.filter_nil, List.map_nil,
      List.append_nil]
    exact congrArg (Prod.mk flag) (execSQL_id table).symm
  | cons entry rest ih =>
    rw [List.foldl_cons, insertStep, insert]
    cases failed : fails entry.2 with
    | true => simp [failed, ih]
    | false =>
      simp only [Bool.false_eq_true, ↓reduceIte, ih, execSQL_execSQL, Bool.and_true,
        List.all_cons, failed, Bool.not_false, Bool.true_and, List.filter_cons, List.map_cons]
      congr 2
      funext rows
      simp

/-- The loop adds the rows that can be inserted, and reports a failure. -/
theorem insertAll_eq (fails : Nat → Bool) (rows : List Row) (table : Table Row) :
    insertAll fails rows table =
      (rows.zipIdx.all (fun entry => !fails entry.2),
        table.execSQL (· ++ inserted fails rows)) := by
  rw [insertAll, foldl_insertStep, Bool.true_and, inserted]

private theorem insertAll_flag {fails : Nat → Bool} {rows : List Row} (table : Table Row) :
    (insertAll fails rows table).1 = true ↔ NoneFails fails rows := by
  rw [insertAll_eq, noneFails_iff]
  simp

/-- A transaction of inserts that all succeed adds them all. -/
theorem insertAllInTransaction_of_noneFails {fails : Nat → Bool} {rows prior : List Row}
    (none : NoneFails fails rows) :
    (insertAllInTransaction fails rows (idle prior)).2 = idle (prior ++ rows) := by
  have flag := (insertAll_flag (idle prior).beginTransaction).mpr none
  rw [insertAllInTransaction]
  simp only [flag, ↓reduceIte]
  rw [insertAll_eq, inserted_of_noneFails none]
  rfl

theorem insertAllInTransaction_of_fails {fails : Nat → Bool} {rows prior : List Row}
    (some : ¬ NoneFails fails rows) :
    (insertAllInTransaction fails rows (idle prior)).2 = idle prior := by
  have flag : (insertAll fails rows (idle prior).beginTransaction).1 = false :=
    Bool.eq_false_iff.mpr fun succeeded => some ((insertAll_flag _).mp succeeded)
  rw [insertAllInTransaction]
  simp only [flag, Bool.false_eq_true, ↓reduceIte]
  rw [insertAll_eq]
  rfl

end Table

end AhsApp.Library
