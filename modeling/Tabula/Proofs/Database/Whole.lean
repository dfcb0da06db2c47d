import Tabula.Proofs.Database.Given
import Tabula.Proofs.Number.Overflow
import Tabula.Proofs.Number.Whole

/-!
Whole numbers on the way into a column of whole numbers.

A number goes through a test of whether a floating-point number is as large; text that spells the
number is read without one. So the same digits can be stored as text where the number is refused.
-/

namespace Tabula

/-- Neither a primary key nor a unique column. -/
structure Constraints.Absent (c : Constraints) : Prop where
  key : c.key = .ok none
  unique : c.unique = []

/-! ### Casts -/

namespace ColumnType

variable {column : String} {n : Int}

lemma cast_integer (column : String) (n : Int) :
    integer.cast column (.int n) = (·, []) <$> toInteger (.int n) := by
  change (·, []) <$> ((Value.int n).number?.elim (.ok .null) toInteger) = _
  rw [Value.number?, Option.elim_some]

lemma cast_integer_int (h : n.natAbs < Binary64.overflow) :
    integer.cast column (.int n) = .ok (.int n, []) := by
  obtain ⟨x, hx⟩ := (Binary64.ofInt_eq n).1 h
  rw [cast_integer, toInteger, hx]
  rfl

lemma cast_integer_overflow (h : Binary64.overflow ≤ n.natAbs) :
    integer.cast column (.int n) = .error .tooLargeForReal := by
  rw [cast_integer, toInteger, (Binary64.ofInt_eq n).2 h]
  rfl

lemma cast_integer_text {s : String} (h : Numeral.read? s.toList = .ok (some (.int n))) :
    integer.cast column (.text s) = .ok (.int n, []) := by
  simp only [cast, Numeral.leadingInt?_of_read? h]
  rfl

end ColumnType

namespace Table

variable {t : Table} {column : String} {columns : List String} {values : List Value} {v w : Value}

lemma cast_of_declares {type : ColumnType} (h : t.Declares column type) (v : Value) :
    t.cast column v = (type.cast column v).mapError .number := by
  obtain ⟨c, hc, htype⟩ := h
  rw [cast, hc]
  dsimp only
  rw [htype]
  rfl

/-- An insertion gives a value for a column, as the last one that is listed for it, and every other
cell of it can be cast. -/
structure Gives (t : Table) (columns : List String) (values : List Value) (column : String)
    (v : Value) : Prop where
  given : Statement.given? columns values column = some v
  others : ∀ c ∈ columns.zip values, c ≠ (column, v) → ∃ r, t.cast c.1 c.2 = .ok r

lemma gives_singleton (t : Table) (column : String) (v : Value) : t.Gives [column] [v] column v :=
  ⟨by simp [Statement.given?], by simp⟩

/-- Only the given cell may be one that cannot be cast. -/
lemma Gives.eq_of_cast_error (h : t.Gives columns values column v) {c : String × Value}
    (hc : c ∈ columns.zip values) {failure : Failure} (hf : t.cast c.1 c.2 = .error failure) :
    c = (column, v) := by
  by_contra hne
  obtain ⟨r, hr⟩ := h.others c hc hne
  rw [hr] at hf
  cases hf

/-- A value that can be cast is filled in. -/
lemma Gives.fill (h : t.Gives columns values column v) {notices : List Notice}
    (hv : t.cast column v = .ok (w, notices)) (row : Row) :
    ∃ filled, (t.fill row (columns.zip values)).2 = .ok filled ∧ Row.cell filled column = w := by
  rcases t.fill_cases row (columns.zip values) with
    ⟨filled, hfilled⟩ | ⟨c, hc, failure, hfailure, -⟩
  · obtain ⟨_, hcast⟩ := at_fill_given h.given hfilled
    rw [hv] at hcast
    exact ⟨filled, hfilled, congrArg Prod.fst (Except.ok.inj hcast.symm)⟩
  · rw [h.eq_of_cast_error hc hfailure, hv] at hfailure
    cases hfailure

/-- One that cannot is the failure of the row. -/
lemma Gives.fill_error (h : t.Gives columns values column v) {failure : Failure}
    (hv : t.cast column v = .error failure) (row : Row) :
    (t.fill row (columns.zip values)).2 = .error failure := by
  rcases t.fill_cases row (columns.zip values) with
    ⟨filled, hfilled⟩ | ⟨c, hc, other, hother, hfill⟩
  · obtain ⟨_, hcast⟩ := at_fill_given h.given hfilled
    rw [hv] at hcast
    cases hcast
  · rw [h.eq_of_cast_error hc hother, hv] at hother
    cases hother
    exact hfill

/-! ### Tables without constraints -/

lemma fault?_of_absent (h : t.constraints.Absent) (row : Row) : t.fault? none row = none := by
  rw [fault?_eq, keyFault?, uniqueFault?, h.unique]
  rfl

lemma spend_of_absent (h : t.constraints.Absent) (columns : List String) : t.spend columns = t := by
  rw [spend_eq h.key]
  rfl

/-- Only a cell that cannot be cast keeps a row out. -/
lemma insert_of_absent (h : t.constraints.Absent) (id : Nat) (columns : List String)
    (values : List Value) :
    (t.insert id columns values).outcome =
        ((t.fill [] (columns.zip values)).2.map fun row => ⟨id, row⟩) ∧
      (t.insert id columns values).table =
        match (t.fill [] (columns.zip values)).2 with
        | .ok row => { t with records := t.records ++ [⟨id, row⟩] }
        | .error _ => t := by
  rw [insert_eq h.key, startRow, spend_of_absent h]
  cases hfill : t.fill [] (columns.zip values) with
  | mk notices result =>
    cases result with
    | error failure => exact ⟨rfl, rfl⟩
    | ok row =>
      dsimp only
      rw [fault?_of_absent h]
      exact ⟨rfl, rfl⟩

end Table

/-! ### Insertions -/

namespace Database

/-- An insertion has added one record to a table, with this value in a column, and has changed no
other table. -/
structure Stores (db : Database) (name : String) (t : Table) (column : String) (v : Value)
    (e : Execution) : Prop where
  outcome : e.outcome = .ok (.done .inserted)
  table : ∃ row, Row.cell row column = v ∧
    e.database.table? name = some { t with records := t.records ++ [⟨db.freshId, row⟩] }
  others : ∀ other, other ≠ name → e.database.table? other = db.table? other

variable {db : Database} {name column : String} {t : Table} {columns : List String}
  {values : List Value} {v w : Value} {n : Int}

lemma stores_of_cast (hi : ∀ e ∈ db.indexes, e.2.column.IsText) (ht : db.table? name = some t)
    (hc : t.constraints.Absent) (h : t.Gives columns values column v) {notices : List Notice}
    (hv : t.cast column v = .ok (w, notices)) :
    db.Stores name t column w (db.execute (.insert name columns values)) := by
  obtain ⟨row, hrow, hcell⟩ := h.fill hv []
  obtain ⟨houtcome, htable⟩ := Table.insert_of_absent hc db.freshId columns values
  rw [hrow] at houtcome htable
  rw [execute, insert_accepted ht hi houtcome, htable]
  refine ⟨rfl, ⟨row, hcell, ?_⟩, fun other hother => ?_⟩
  · exact (table?_putTable db name name _).trans (if_pos rfl)
  · exact (table?_putTable db name other _).trans (if_neg (Ne.symm hother))

lemma insert_of_cast_error (ht : db.table? name = some t) (hc : t.constraints.Absent)
    (h : t.Gives columns values column v) {failure : Failure}
    (hv : t.cast column v = .error failure) :
    (db.execute (.insert name columns values)).outcome = .error failure ∧
      (db.execute (.insert name columns values)).database = db := by
  have hfill := h.fill_error hv []
  obtain ⟨houtcome, htable⟩ := Table.insert_of_absent hc db.freshId columns values
  rw [hfill] at houtcome htable
  rw [execute, insert_refused ht houtcome, htable, putTable_of_table? ht]
  exact ⟨rfl, rfl⟩

/-- What becomes of a whole number, given as a number and as text, in a column of whole numbers. -/
structure TakesWhole (db : Database) (name : String) (t : Table) (column : String) (n : Int) :
    Prop where
  number : ∀ columns values, t.Gives columns values column (.int n) →
    n.natAbs < Binary64.overflow →
    db.Stores name t column (.int n) (db.execute (.insert name columns values))
  overflow : ∀ columns values, t.Gives columns values column (.int n) →
    Binary64.overflow ≤ n.natAbs →
    (db.execute (.insert name columns values)).outcome = .error (.number .tooLargeForReal) ∧
      (db.execute (.insert name columns values)).database = db
  text : ∀ columns values s, t.Gives columns values column (.text s) →
    Numeral.read? s.toList = .ok (some (.int n)) →
    db.Stores name t column (.int n) (db.execute (.insert name columns values))

/-- **A column of whole numbers stores them exactly**, however long they are if they come as text,
and as numbers where they do not overflow. -/
theorem takesWhole (hi : ∀ e ∈ db.indexes, e.2.column.IsText) (ht : db.table? name = some t)
    (hc : t.constraints.Absent) (hd : t.Declares column .integer) (n : Int) :
    db.TakesWhole name t column n := by
  have hcast := Table.cast_of_declares hd
  constructor
  · intro columns values hg hn
    have hv : t.cast column (.int n) = .ok (.int n, []) := by
      rw [hcast, ColumnType.cast_integer_int hn]
      rfl
    exact stores_of_cast hi ht hc hg hv
  · intro columns values hg hn
    refine insert_of_cast_error ht hc hg ?_
    rw [hcast, ColumnType.cast_integer_overflow hn]
    rfl
  · intro columns values s hg hs
    have hv : t.cast column (.text s) = .ok (.int n, []) := by
      rw [hcast, ColumnType.cast_integer_text hs]
      rfl
    exact stores_of_cast hi ht hc hg hv

end Database

end Tabula
