import Tabula.Proofs.Database.Counter
import Tabula.Proofs.Database.Typed

/-!
Keys that are given and keys from the counter.

As long as no update assigns to the primary key, a row has the key that it was given by the counter,
or what a cast to the type of the column has made of the key that the insertion gave. In a column of
whole numbers a whole number is cast to itself, so a key of one origin is a reason to refuse the
same key of the other. In any other column a whole number becomes a value of another kind, which no
key from the counter is the same as.
-/

namespace Tabula

/-- The value that an insertion gives for a column: the last one that is listed. -/
def Statement.given? (columns : List String) (values : List Value) (column : String) :
    Option Value :=
  ((columns.zip values).reverse.find? fun c => c.1 == column).map (·.2)

lemma Value.same_int {v : Value} {n : Int} : v.same (.int n) = true ↔ v = .int n := by
  cases v with
  | int m => simp [same]
  | null | bool _ | real _ | text _ => simp [same]

lemma Value.int_same {v : Value} {n : Int} : (Value.int n).same v = true ↔ v = .int n := by
  cases v with
  | int m => rw [same, beq_iff_eq, Value.int.injEq, eq_comm]
  | null | bool _ | real _ | text _ => simp [same]

lemma Value.null_same {v : Value} : Value.null.same v = true ↔ v = .null := by
  cases v <;> simp [same]

lemma Statement.mem_of_given? {columns : List String} {values : List Value} {column : String}
    {v : Value} (h : given? columns values column = some v) : column ∈ columns := by
  obtain ⟨⟨c, w⟩, hfind, rfl⟩ := Option.map_eq_some_iff.1 h
  obtain rfl : c = column := by simpa using List.find?_some hfind
  exact (List.of_mem_zip (List.mem_reverse.1 (List.mem_of_find?_eq_some hfind))).1

/-! ### Casts of whole numbers -/

namespace ColumnType

lemma toInteger_int {n : Int} {w : Value} (h : toInteger (.int n) = .ok w) : w = .int n := by
  rw [toInteger] at h
  generalize Binary64.ofInt n = x at h
  cases x with
  | error fault => cases h
  | ok x =>
    cases h
    rfl

/-- A whole number is cast to itself in a column of whole numbers, and to a floating-point number or
text in every other one. -/
lemma cast_int {type : ColumnType} {column : String} {n : Int} {w : Value} {notices : List Notice}
    (h : type.cast column (.int n) = .ok (w, notices)) :
    (type = .integer ∧ w = .int n) ∨
      (type ≠ .integer ∧ ((∃ x, w = .real x) ∨ ∃ s, w = .text s)) := by
  cases type with
  | integer =>
    rw [cast, Value.number?, Option.elim_some, map_eq_ok] at h
    · obtain ⟨v, hv, hw⟩ := h
      cases hw
      exact .inl ⟨rfl, toInteger_int hv⟩
    all_goals nofun
  | real =>
    rw [cast, Value.number?, Option.elim_some, map_eq_ok] at h
    · obtain ⟨v, hv, hw⟩ := h
      cases hw
      exact .inr ⟨nofun, .inl (toReal_admits hv)⟩
    all_goals nofun
  | text =>
    rw [cast, Value.asText, map_eq_ok] at h
    · obtain ⟨v, hv, hw⟩ := h
      cases hw
      obtain ⟨s, -, rfl⟩ := map_eq_ok.1 hv
      exact .inr ⟨nofun, .inr ⟨s, rfl⟩⟩
    all_goals nofun

end ColumnType

namespace Table

variable {t u : Table} {key : String} {columns : List String} {values : List Value} {n : Int}

/-- The first declaration of a column has a type. -/
def Declares (t : Table) (column : String) (type : ColumnType) : Prop :=
  ∃ c, t.column? column = some c ∧ c.type = .ok type

lemma declares_congr (h : t.columns = u.columns) {type : ColumnType} :
    t.Declares key type ↔ u.Declares key type := by
  rw [Declares, Declares, column?, column?, h]

lemma cast_int {w : Value} {notices : List Notice} (h : t.cast key (.int n) = .ok (w, notices)) :
    (t.Declares key .integer ∧ w = .int n) ∨
      (¬ t.Declares key .integer ∧ ((∃ x, w = .real x) ∨ ∃ s, w = .text s)) := by
  unfold cast at h
  cases hc : t.column? key with
  | none =>
    rw [hc] at h
    obtain ⟨v, hv, hw⟩ := map_eq_ok.1 h
    cases hw
    rw [mapError_eq_ok, ColumnType.castUndeclared, map_eq_ok] at hv
    · obtain ⟨s, -, rfl⟩ := hv
      exact .inr ⟨by simp [Declares, hc], .inr ⟨s, rfl⟩⟩
    · nofun
  | some c =>
    rw [hc] at h
    obtain ⟨type, htype, hcast⟩ := bind_eq_ok.1 h
    have hdeclares : t.Declares key .integer ↔ type = .integer := by
      simp [Declares, hc, mapError_eq_ok.1 htype]
    rw [hdeclares]
    exact ColumnType.cast_int (mapError_eq_ok.1 hcast)

/-- A whole number is not cast to NULL. -/
lemma cast_ne_null {w : Value} {notices : List Notice}
    (h : t.cast key (.int n) = .ok (w, notices)) : w ≠ .null := by
  rintro rfl
  rcases cast_int h with ⟨-, h⟩ | ⟨-, ⟨_, h⟩ | ⟨_, h⟩⟩ <;> cases h

/-- No value is cast to a whole number in a column that is not one of whole numbers. -/
lemma cast_ne_int {v w : Value} {notices : List Notice} (ht : ¬ t.Declares key .integer)
    (h : t.cast key v = .ok (w, notices)) : w ≠ .int n := by
  rintro rfl
  have htypes := types_cast h
  unfold Types at htypes
  cases hc : t.column? key with
  | none => simp [hc, ColumnType.Admits] at htypes
  | some c =>
    rw [hc] at htypes
    obtain ⟨type, htype, hadmits⟩ := htypes.resolve_left (by simp)
    cases type with
    | integer => exact ht ⟨c, hc, htype⟩
    | real | text => simp [ColumnType.Admits] at hadmits

/-- A cell that is listed has what a cast makes of the last value that is listed for it. -/
lemma at_fill_given {row filled : Row} {v : Value}
    (hv : Statement.given? columns values key = some v)
    (h : (t.fill row (columns.zip values)).2 = .ok filled) :
    ∃ notices, t.cast key v = .ok (Row.at filled (.name key), notices) := by
  unfold Statement.given? at hv
  generalize columns.zip values = cells at hv h
  induction cells generalizing row with
  | nil => cases hv
  | cons cell cells ih =>
    obtain ⟨column, w⟩ := cell
    rw [fill] at h
    split at h
    · cases h
    · rename_i u notices hcast
      rw [List.reverse_cons, List.find?_append] at hv
      cases hlast : cells.reverse.find? fun c => c.1 == key with
      | some c =>
        rw [hlast] at hv ih
        exact ih hv h
      | none =>
        have hrest : ∀ c ∈ cells, c.1 ≠ key := by simpa using hlast
        have hfirst : column = key ∧ w = v := by simpa [hlast, List.find?_singleton] using hv
        obtain ⟨rfl, rfl⟩ := hfirst
        rw [at_fill hrest h, Row.at, Keyed.find?_put, if_pos (Key.same_refl _)]
        exact ⟨notices, hcast⟩

/-- A cell for which nothing is given is as it was before. -/
lemma at_fill_not_given {row filled : Row} (hv : Statement.given? columns values key = none)
    (h : (t.fill row (columns.zip values)).2 = .ok filled) :
    Row.at filled (.name key) = Row.at row (.name key) := by
  refine at_fill (fun c hc => ?_) h
  rw [Statement.given?, Option.map_eq_none_iff, List.find?_eq_none] at hv
  simpa using hv c (List.mem_reverse.2 hc)

/-! ### Where a key comes from -/

/-- Where the key of a row comes from that was inserted into these columns. The counter has moved
on since. -/
inductive KeyFrom (t : Table) (key : String) (columns : List String) (values : List Value) :
    Value → Prop
  | drawn (n : Int) (hc : key ∉ columns) (hn : n < t.counter) : KeyFrom t key columns values (.int n)
  | given (v w : Value) (notices : List Notice)
    (hv : Statement.given? columns values key = some v) (hw : t.cast key v = .ok (w, notices)) :
    KeyFrom t key columns values w
  /-- The key is listed, but the values end before it. -/
  | missing (hc : key ∈ columns) (hv : Statement.given? columns values key = none) :
    KeyFrom t key columns values .null

lemma KeyFrom.mono {v : Value} (h : t.KeyFrom key columns values v) (hc : u.columns = t.columns)
    (hn : t.counter ≤ u.counter) : u.KeyFrom key columns values v := by
  cases h with
  | drawn n hk hlt => exact .drawn n hk (hlt.trans_le hn)
  | given w _ notices hv hw => exact .given w v notices hv (by rwa [cast_congr hc])
  | missing hk hv => exact .missing hk hv

lemma keyFrom_fill {row : Row} (hk : t.constraints.key = .ok (some (.name key)))
    (hrow : (t.fill (t.startRow (some (.name key)) columns).1 (columns.zip values)).2 = .ok row) :
    (t.spend columns).KeyFrom key columns values (Row.at row (.name key)) := by
  by_cases hc : key ∈ columns
  · cases hv : Statement.given? columns values key with
    | some v =>
      obtain ⟨notices, hcast⟩ := at_fill_given hv hrow
      exact .given v _ notices hv (by rwa [cast_congr (spend_columns t)])
    | none =>
      have hstart : (t.startRow (some (.name key)) columns).1 = [] := by
        rw [startRow_of_name, if_pos (by simpa using hc)]
      rw [at_fill_not_given hv hrow, hstart]
      exact .missing hc hv
  · rw [at_drawn hc hrow]
    refine .drawn _ hc ?_
    rw [counter_spend hk, if_neg (by simpa using hc)]
    exact Int.lt_succ _

lemma KeyFrom.of_notMem {v : Value} (h : t.KeyFrom key columns values v) (hc : key ∉ columns) :
    ∃ n, v = .int n := by
  cases h with
  | drawn n => exact ⟨n, rfl⟩
  | given v w notices hv => exact absurd (Statement.mem_of_given? hv) hc
  | missing hk => exact absurd hk hc

lemma KeyFrom.of_given {v w : Value} (h : t.KeyFrom key columns values w)
    (hv : Statement.given? columns values key = some v) :
    ∃ notices, t.cast key v = .ok (w, notices) := by
  cases h with
  | drawn n hc => exact absurd (Statement.mem_of_given? hv) hc
  | given v' _ notices hv' hw =>
    obtain rfl : v' = v := Option.some.inj (hv'.symm.trans hv)
    exact ⟨notices, hw⟩
  | missing _ hnone => cases hnone.symm.trans hv

/-- In a column that is not one of whole numbers, only keys from the counter are whole numbers, and
they are less than it. -/
lemma KeyFrom.lt_of_int (h : t.KeyFrom key columns values (.int n))
    (ht : ¬ t.Declares key .integer) : n < t.counter := by
  cases h with
  | drawn n hc hn => exact hn
  | given v _ notices hv hw => exact absurd rfl (cast_ne_int ht hw)

/-- What is the same as a value that is neither NULL nor a whole number has been given. -/
lemma KeyFrom.isSome_given? {v w : Value} (h : t.KeyFrom key columns values v)
    (hnull : w ≠ .null) (hint : ∀ m, w ≠ .int m) (hs : v.same w = true) :
    (Statement.given? columns values key).isSome := by
  cases h with
  | drawn n => exact absurd (Value.int_same.1 hs) (hint n)
  | given v _ notices hv => simp [hv]
  | missing => exact absurd (Value.null_same.1 hs) hnull

/-! ### The check of a key -/

lemma cast_error {v : Value} {failure : Failure} (h : t.cast key v = .error failure) :
    failure.isRefusal = false := by
  have hnumber : ∀ {α : Type} {x : Except NumberFault α},
      x.mapError Failure.number = .error failure → failure.isRefusal = false := by
    intro α x hx
    cases x with
    | error fault =>
      cases hx
      rfl
    | ok a => cases hx
  unfold cast at h
  cases hc : t.column? key with
  | none =>
    rw [hc] at h
    cases hx : (ColumnType.castUndeclared v).mapError Failure.number with
    | error fault =>
      rw [hx] at h
      cases h
      exact hnumber hx
    | ok w =>
      rw [hx] at h
      cases h
  | some c =>
    rw [hc] at h
    rcases bind_eq_error.1 h with hshape | ⟨type, -, hcast⟩
    · cases htype : c.type with
      | error fault =>
        rw [htype] at hshape
        cases hshape
        rfl
      | ok type =>
        rw [htype] at hshape
        cases hshape
    · exact hnumber hcast

/-- A value that cannot be cast is not refused on account of the other rows. -/
lemma fill_error {row : Row} {cells : List (String × Value)} {failure : Failure}
    (h : (t.fill row cells).2 = .error failure) : failure.isRefusal = false := by
  rcases t.fill_cases row cells with ⟨filled, hfilled⟩ | ⟨c, -, other, hother, hfill⟩
  · rw [hfilled] at h
    cases h
  · obtain rfl : other = failure := Except.error.inj (hfill.symm.trans h)
    exact cast_error hother

lemma uniqueFault?_ne_primaryKey {row : Row} {l : Label} {fault : KeyFault} :
    t.uniqueFault? row ≠ some (.primaryKey l fault) := by
  intro h
  obtain ⟨j, -, hj⟩ := List.exists_of_findSome?_eq_some h
  split at hj
  · cases hj
  · split at hj <;> cases hj

/-- What is at fault with a key that is not NULL. -/
lemma fault?_of_holds {l : Label} {row : Row} (hrow : Row.at row l ≠ .null)
    (hh : t.holds l (Row.at row l) = true) :
    t.fault? (some l) row = some (.primaryKey l .duplicate) := by
  rw [fault?_eq, keyFault?, Option.bind_some, if_neg hrow, if_pos hh]
  rfl

lemma key_of_fault? {l m : Label} {row : Row} {fault : KeyFault}
    (h : t.fault? (some l) row = some (.primaryKey m fault)) :
    Row.at row l = .null ∨ t.holds l (Row.at row l) = true := by
  by_contra hnot
  rw [not_or] at hnot
  rw [fault?_eq, keyFault?, Option.bind_some, if_neg hnot.1, if_neg hnot.2, Option.none_or] at h
  exact uniqueFault?_ne_primaryKey h

/-- An insertion ends where a value cannot be cast. -/
lemma insert_uncast (hk : t.constraints.key = .ok (some (.name key))) (id : Nat)
    {failure : Failure}
    (h : (t.fill (t.startRow (some (.name key)) columns).1 (columns.zip values)).2 =
      .error failure) :
    (t.insert id columns values).outcome = .error failure := by
  rw [insert_eq hk]
  cases hfill : t.fill (t.startRow (some (.name key)) columns).1 (columns.zip values) with
  | mk notices result =>
    rw [hfill] at h
    subst h
    rfl

lemma holds_iff {l : Label} {v : Value} :
    t.holds l v = true ↔ ∃ row ∈ t.rows, (Row.at row l).same v = true := by
  simp [holds, rows]

end Table

namespace Database

variable {db : Database} {name key : String} {t : Table} {columns : List String}
  {values : List Value}

/-- An insertion is refused since its key is taken, unless one of its values cannot be cast, which
is found before. -/
structure RefusesKey (db : Database) (name key : String) (t : Table) (columns : List String)
    (values : List Value) : Prop where
  taken : ∀ row, (t.fill (t.startRow (some (.name key)) columns).1 (columns.zip values)).2 =
    .ok row → (db.execute (.insert name columns values)).outcome =
      .error (.primaryKey (.name key) .duplicate)
  uncast : ∀ failure, (t.fill (t.startRow (some (.name key)) columns).1
    (columns.zip values)).2 = .error failure →
      (db.execute (.insert name columns values)).outcome = .error failure

lemma refusesKey (ht : db.table? name = some t)
    (hk : t.constraints.key = .ok (some (.name key)))
    (hkey : ∀ row, (t.fill (t.startRow (some (.name key)) columns).1 (columns.zip values)).2 =
      .ok row → ∃ n, Row.at row (.name key) = .int n ∧
        ∃ a ∈ t.rows, Row.at a (.name key) = .int n) :
    db.RefusesKey name key t columns values := by
  constructor
  · intro row hrow
    obtain ⟨n, hn, a, ha, han⟩ := hkey row hrow
    have hholds : t.holds (.name key) (Row.at row (.name key)) = true := by
      rw [hn, Table.holds_iff]
      exact ⟨a, ha, Value.same_int.2 han⟩
    have hout := Table.insert_outcome hk db.freshId hrow
    rw [Table.fault?_of_holds (by simp [hn]) hholds] at hout
    rw [execute, insert_refused ht hout]
  · intro failure hfailure
    rw [execute, insert_refused ht (Table.insert_uncast hk db.freshId hfailure)]

/-- An insertion that is refused on account of the key has none, or has one that is taken. -/
lemma key_of_outcome (ht : db.table? name = some t)
    (hk : t.constraints.key = .ok (some (.name key))) {l : Label} {fault : KeyFault}
    (h : (db.execute (.insert name columns values)).outcome = .error (.primaryKey l fault)) :
    ∃ row, (t.fill (t.startRow (some (.name key)) columns).1 (columns.zip values)).2 = .ok row ∧
      (Row.at row (.name key) = .null ∨
        ∃ a ∈ t.rows, (Row.at a (.name key)).same (Row.at row (.name key)) = true) := by
  have hout : (t.insert db.freshId columns values).outcome = .error (.primaryKey l fault) := by
    cases hout : (t.insert db.freshId columns values).outcome with
    | error failure =>
      rw [execute, insert_refused ht hout] at h
      exact congrArg Except.error (Except.error.inj h)
    | ok r =>
      rw [execute, insert, table_eq_ok.2 ht] at h
      simp only [hout] at h
      split at h <;> cases h
  cases hrow : (t.fill (t.startRow (some (.name key)) columns).1 (columns.zip values)).2 with
  | error failure =>
    rw [Table.insert_uncast hk db.freshId hrow] at hout
    cases hout
    cases Table.fill_error hrow
  | ok row =>
    rw [Table.insert_outcome hk db.freshId hrow] at hout
    split at hout
    · rename_i hfault
      cases hout
      exact ⟨row, rfl, (Table.key_of_fault? hfault).imp_right Table.holds_iff.1⟩
    · cases hout

end Database

/-! ### Logs -/

namespace Log

variable {log : Log} {name key : String} {t u : Table} {db : Database}

/-- The value that the insertion of a record has given for a column. -/
def given? (log : Log) (r : Record) (column : String) : Option Value :=
  (log[r.id]?).bind fun
    | .insert _ columns values => Statement.given? columns values column
    | _ => none

/-- **Where keys come from**, as long as no update assigns to the key. -/
theorem keyFrom (h : log.table? name = some t) (hk : t.constraints.key = .ok (some (.name key)))
    (ha : ∀ s ∈ log.since name, ¬ s.Assigns name key) :
    ∀ r ∈ t.records, ∃ columns values, log[r.id]? = some (.insert name columns values) ∧
      t.KeyFrom key columns values (Row.at r.row (.name key)) := by
  refine table_induction (P := fun log t => t.constraints.key = .ok (some (.name key)) →
    (∀ s ∈ log.since name, ¬ s.Assigns name key) →
      ∀ r ∈ t.records, ∃ columns values, log[r.id]? = some (.insert name columns values) ∧
        t.KeyFrom key columns values (Row.at r.row (.name key))) ?_ ?_ h hk ha
  · intro log defs _ _ r hr
    cases hr
  · intro log s t u ht ih hs hstep hk ha
    rw [hstep.constraints] at hk
    rw [since_concat hs, List.forall_mem_cons] at ha
    have hcounter : t.counter ≤ u.counter := by
      rw [hstep.counter hk]
      split <;> omega
    -- a record that had its key before comes from where it came from
    have hold : ∀ r : Record, (∃ q ∈ t.records, (q.id, Row.at q.row (.name key)) =
        (r.id, Row.at r.row (.name key))) → ∃ columns values,
          (log ++ [s])[r.id]? = some (.insert name columns values) ∧
            u.KeyFrom key columns values (Row.at r.row (.name key)) := by
      rintro r ⟨q, hq, hqr⟩
      obtain ⟨hid, hat⟩ := Prod.mk.inj hqr
      rw [← hid, ← hat, List.getElem?_append_left (id_lt ht hq)]
      obtain ⟨columns, values, hget, hfrom⟩ := ih hk ha.2 q hq
      exact ⟨columns, values, hget, hfrom.mono hstep.columns hcounter⟩
    cases hstep with
    | other s hother => exact fun r hr => hold r ⟨r, hr, rfl⟩
    | refuse columns values =>
      intro r hr
      rw [Table.spend_records] at hr
      exact hold r ⟨r, hr, rfl⟩
    | @append found columns values row hkey hrow =>
      intro r hr
      rcases List.mem_append.1 hr with hr | hr
      · exact hold r ⟨r, hr, rfl⟩
      · obtain rfl := List.mem_singleton.1 hr
        obtain rfl : some (.name key) = found := Except.ok.inj (hk.symm.trans hkey)
        exact ⟨columns, values, List.getElem?_concat_length,
          (Table.keyFrom_fill hk hrow).mono rfl le_rfl⟩
    | update assignments c =>
      have hother : ∀ a ∈ assignments, a.1 ≠ key :=
        fun a ham hak => ha.1 ⟨assignments, c, rfl, a, ham, hak⟩
      have hsame := Table.map_updateRecords (fun r : Record => (r.id, Row.at r.row (.name key)))
        (fun r => by rw [Table.at_assign hother]) c t.records
      intro r hr
      refine hold r (List.mem_map.1 ?_)
      rw [← hsame]
      exact List.mem_map_of_mem hr
    | delete c hkept => exact fun r hr => hold r ⟨r, hkept.subset hr, rfl⟩

/-- How the insertions that a table refuses on account of its key depend on where the keys of its
rows come from. Which records have got a key from the counter, and which one was given for the
others, is found in the log. -/
structure KeysMeet (log : Log) (db : Database) (name key : String) (t u : Table) : Prop where
  /-- Whatever the declaration, a key from the counter is a whole number. -/
  drawn_whole : ∀ r ∈ u.records, log.drew name key r = true →
    ∃ n, Row.at r.row (.name key) = .int n
  /-- In a column of whole numbers, a whole number that is given is stored as it is. -/
  given_whole : t.Declares key .integer → ∀ r ∈ u.records, ∀ n,
    log.given? r key = some (.int n) → Row.at r.row (.name key) = .int n
  /-- In any other column, it is stored as a floating-point number or as text. -/
  given_apart : ¬ t.Declares key .integer → ∀ r ∈ u.records, ∀ n,
    log.given? r key = some (.int n) →
      (∃ x, Row.at r.row (.name key) = .real x) ∨ ∃ s, Row.at r.row (.name key) = .text s
  /-- In a column of whole numbers, a key that the counter has given cannot be given again. -/
  given_refused : t.Declares key .integer → ∀ r ∈ u.records, log.drew name key r = true →
    ∃ n, Row.at r.row (.name key) = .int n ∧
      ∀ columns values, Statement.given? columns values key = some (.int n) →
        db.RefusesKey name key t columns values
  /-- In a column of whole numbers, the counter cannot give a key that was given. -/
  drawn_refused : t.Declares key .integer →
    ∀ r ∈ u.records, log.given? r key = some (.int t.counter) →
      ∀ columns values, key ∉ columns → db.RefusesKey name key t columns values
  /-- In any other column, the key from the counter is never taken. -/
  drawn_accepted : ¬ t.Declares key .integer → ∀ columns values, key ∉ columns →
    ∀ l fault, (db.execute (.insert name columns values)).outcome ≠ .error (.primaryKey l fault)
  /-- In any other column, a whole number is taken only where a key was given that is stored as the
  same. -/
  given_taken : ¬ t.Declares key .integer → ∀ columns values n,
    Statement.given? columns values key = some (.int n) → ∀ l fault,
      (db.execute (.insert name columns values)).outcome = .error (.primaryKey l fault) →
        ∃ w notices, t.cast key (.int n) = .ok (w, notices) ∧
          ∃ r ∈ u.records, (log.given? r key).isSome ∧
            (Row.at r.row (.name key)).same w = true

lemma drew_of_get {r : Record} {columns : List String} {values : List Value}
    (h : log[r.id]? = some (.insert name columns values)) :
    log.drew name key r = true ↔ key ∉ columns := by
  simp [drew, h, Statement.draws]

lemma given?_of_get {r : Record} {columns : List String} {values : List Value}
    (h : log[r.id]? = some (.insert name columns values)) :
    log.given? r key = Statement.given? columns values key := by
  rw [given?, h, Option.bind_some]

section Keys

variable (h : log.table? name = some t) (hk : t.constraints.key = .ok (some (.name key)))
  (ha : ∀ s ∈ log.since name, ¬ s.Assigns name key) {r : Record}

include h hk ha

/-- A key that the counter has given is a whole number. -/
lemma at_of_drew (hr : r ∈ t.records) (hdrew : log.drew name key r = true) :
    ∃ n, Row.at r.row (.name key) = .int n := by
  obtain ⟨_, _, hget, hkey⟩ := keyFrom h hk ha r hr
  exact hkey.of_notMem ((drew_of_get hget).1 hdrew)

/-- A whole number that was given is stored as the type of the column has it. -/
lemma at_of_given {n : Int} (hr : r ∈ t.records) (hv : log.given? r key = some (.int n)) :
    (t.Declares key .integer ∧ Row.at r.row (.name key) = .int n) ∨
      (¬ t.Declares key .integer ∧ ((∃ x, Row.at r.row (.name key) = .real x) ∨
        ∃ s, Row.at r.row (.name key) = .text s)) := by
  obtain ⟨_, _, hget, hkey⟩ := keyFrom h hk ha r hr
  rw [given?_of_get hget] at hv
  obtain ⟨notices, hcast⟩ := hkey.of_given hv
  exact Table.cast_int hcast

end Keys

end Log

namespace Database

/-- Keys of both origins meet as the declaration of the primary key has it, in every table whose
primary key no update has assigned to since the table was created. -/
def KeysMeet (db : Database) (log : Log) : Prop :=
  ∀ name t key, db.table? name = some t → t.constraints.key = .ok (some (.name key)) →
    (∀ s ∈ log.since name, ¬ s.Assigns name key) →
      ∃ u, log.table? name = some u ∧ t.Alike u ∧ log.KeysMeet db name key t u

/-- **Keys of both origins meet in a column of whole numbers, and in no other.** -/
theorem Follows.keysMeet {db : Database} {log : Log} (h : db.Follows log) : db.KeysMeet log := by
  intro name t key ht hk ha
  obtain ⟨u, hlog, halike⟩ := h name t ht
  have hku : u.constraints.key = .ok (some (.name key)) := halike.constraints ▸ hk
  have hfrom := Log.keyFrom hlog hku ha
  -- the rows of the table are those of the records of the log
  have hrows : ∀ {row : Row}, row ∈ t.rows ↔ ∃ r ∈ u.records, r.row = row := by
    intro row
    rw [halike.rows, Table.rows, List.mem_map]
  have hdeclares : t.Declares key .integer ↔ u.Declares key .integer :=
    Table.declares_congr halike.columns
  have hwhole : t.Declares key .integer → ∀ r ∈ u.records, ∀ n,
      log.given? r key = some (.int n) → Row.at r.row (.name key) = .int n := fun hint r hr n hv =>
    ((Log.at_of_given hlog hku ha hr hv).resolve_right fun h => h.1 (hdeclares.1 hint)).2
  refine ⟨u, hlog, halike, ⟨fun r => Log.at_of_drew hlog hku ha, hwhole, ?_, ?_, ?_, ?_, ?_⟩⟩
  · intro hint r hr n hv
    exact ((Log.at_of_given hlog hku ha hr hv).resolve_left fun h => hint (hdeclares.2 h.1)).2
  · intro hint r hr hdrew
    obtain ⟨n, hn⟩ := Log.at_of_drew hlog hku ha hr hdrew
    refine ⟨n, hn, fun columns values hv => refusesKey ht hk fun row hrow => ?_⟩
    obtain ⟨notices, hcast⟩ := Table.at_fill_given hv hrow
    exact ⟨n, ((Table.cast_int hcast).resolve_right fun h => h.1 hint).2, r.row,
      hrows.2 ⟨r, hr, rfl⟩, hn⟩
  · intro hint r hr hv columns values hc
    exact refusesKey ht hk fun row hrow =>
      ⟨t.counter, Table.at_drawn hc hrow, r.row, hrows.2 ⟨r, hr, rfl⟩, hwhole hint r hr _ hv⟩
  · intro hint columns values hc l fault hout
    obtain ⟨row, hrow, hnull | ⟨a, ha, hsame⟩⟩ := key_of_outcome ht hk hout
    · rw [Table.at_drawn hc hrow] at hnull
      cases hnull
    · rw [Table.at_drawn hc hrow, Value.same_int] at hsame
      obtain ⟨r, hr, rfl⟩ := hrows.1 ha
      obtain ⟨_, _, -, hkey⟩ := hfrom r hr
      rw [hsame, halike.counter] at hkey
      exact (hkey.lt_of_int (hint ∘ hdeclares.2)).false
  · intro hint columns values n hv l fault hout
    obtain ⟨row, hrow, htaken⟩ := key_of_outcome ht hk hout
    obtain ⟨notices, hcast⟩ := Table.at_fill_given hv hrow
    have hnull := Table.cast_ne_null hcast
    obtain ⟨a, ha, hsame⟩ := htaken.resolve_left hnull
    obtain ⟨r, hr, rfl⟩ := hrows.1 ha
    obtain ⟨_, _, hget, hkey⟩ := hfrom r hr
    refine ⟨_, notices, hcast, r, hr, ?_, hsame⟩
    rw [Log.given?_of_get hget]
    exact hkey.isSome_given? hnull (fun m => Table.cast_ne_int hint hcast) hsame

end Database

end Tabula
