import Tabula.Proofs.Database.Coherent

/-!
How far an update comes.

An update goes through the records of a table up to the first for which the condition cannot be
decided. The matching ones before it have been assigned to, and stay so.
-/

namespace Tabula

namespace Table

/-- The records before the first for which a condition cannot be decided. -/
def reached (c : Condition) (rs : List Record) : List Record :=
  rs.takeWhile fun r => (c.holds r.row).isOk

/-- A record after an update that has come to it. -/
def assigned (assignments : List (String × Value)) (c : Condition) (r : Record) : Record :=
  if c.holds r.row = .ok true then { r with row := Row.assign r.row assignments } else r

/-- The matching records that are reached have the assigned values already. -/
def Idle (assignments : List (String × Value)) (c : Condition) (rs : List Record) : Prop :=
  ∀ r ∈ reached c rs, c.holds r.row = .ok true → Row.assign r.row assignments = r.row

variable {assignments : List (String × Value)} {c : Condition} {rs : List Record}

lemma reached_cons_of_ok {r : Record} {matched : Bool} (h : c.holds r.row = .ok matched)
    (rs : List Record) : reached c (r :: rs) = r :: reached c rs := by
  rw [reached, List.takeWhile_cons, h]
  rfl

lemma reached_cons_of_error {r : Record} {fault : NumberFault} (h : c.holds r.row = .error fault)
    (rs : List Record) : reached c (r :: rs) = [] := by
  rw [reached, List.takeWhile_cons, h]
  rfl

lemma updateRecords_cons_of_ok {r : Record} {matched : Bool} (h : c.holds r.row = .ok matched)
    (rs : List Record) :
    (updateRecords assignments c (r :: rs)).1 =
      assigned assignments c r :: (updateRecords assignments c rs).1 := by
  rw [updateRecords, h, assigned, h]
  cases matched <;> rfl

/-- The records after an update. -/
lemma updateRecords_eq (assignments : List (String × Value)) (c : Condition) (rs : List Record) :
    (updateRecords assignments c rs).1 =
      (reached c rs).map (assigned assignments c) ++ rs.drop (reached c rs).length := by
  induction rs with
  | nil => rfl
  | cons r rs ih =>
    cases h : c.holds r.row with
    | error fault =>
      rw [updateRecords, h, reached_cons_of_error h]
      rfl
    | ok matched =>
      rw [updateRecords_cons_of_ok h, reached_cons_of_ok h, ih]
      rfl

/-- An update fails unless it reaches every record. -/
lemma isOk_updateRecords (assignments : List (String × Value)) (c : Condition)
    (rs : List Record) :
    (updateRecords assignments c rs).2.isOk = true ↔ reached c rs = rs := by
  induction rs with
  | nil => exact ⟨fun _ => rfl, fun _ => rfl⟩
  | cons r rs ih =>
    cases h : c.holds r.row with
    | error fault =>
      rw [updateRecords, h, reached_cons_of_error h]
      simp [Except.isOk, Except.toBool]
    | ok matched =>
      have hsnd : (updateRecords assignments c (r :: rs)).2.isOk =
          (updateRecords assignments c rs).2.isOk := by
        rw [updateRecords, h]
        cases matched <;> dsimp only <;> cases (updateRecords assignments c rs).2 <;> rfl
      rw [hsnd, ih, reached_cons_of_ok h]
      simp

/-- An update keeps identities, so a record is the same if its row is. -/
lemma assigned_eq_iff (r : Record) :
    assigned assignments c r = r ↔
      (c.holds r.row = .ok true → Row.assign r.row assignments = r.row) := by
  unfold assigned
  by_cases h : c.holds r.row = .ok true
  · rw [if_pos h]
    exact ⟨fun he _ => congrArg Record.row he, fun he => by rw [he h]⟩
  · rw [if_neg h]
    exact ⟨fun _ hm => absurd hm h, fun _ => rfl⟩

lemma row_assigned_eq_iff (r : Record) :
    (assigned assignments c r).row = r.row ↔ assigned assignments c r = r := by
  refine ⟨fun h => ?_, congrArg Record.row⟩
  rw [assigned_eq_iff]
  intro hm
  rwa [assigned, if_pos hm] at h

lemma idle_cons_of_ok {r : Record} {matched : Bool} (h : c.holds r.row = .ok matched) :
    Idle assignments c (r :: rs) ↔ assigned assignments c r = r ∧ Idle assignments c rs := by
  unfold Idle
  rw [reached_cons_of_ok h, List.forall_mem_cons, assigned_eq_iff]

/-- **An update changes no row** exactly if there is nothing for it to change where it comes. -/
theorem rows_updateRecords :
    (updateRecords assignments c rs).1.map (·.row) = rs.map (·.row) ↔
      Idle assignments c rs := by
  induction rs with
  | nil => exact ⟨fun _ r hr => by simp [reached] at hr, fun _ => rfl⟩
  | cons r rs ih =>
    cases h : c.holds r.row with
    | error fault =>
      rw [updateRecords, h, Idle, reached_cons_of_error h]
      simp
    | ok matched =>
      rw [updateRecords_cons_of_ok h, idle_cons_of_ok h, ← ih, List.map_cons, List.map_cons,
        List.cons.injEq, row_assigned_eq_iff]

lemma updateRecords_of_idle (h : Idle assignments c rs) :
    (updateRecords assignments c rs).1 = rs := by
  induction rs with
  | nil => rfl
  | cons r rs ih =>
    cases hc : c.holds r.row with
    | error fault => rw [updateRecords, hc]
    | ok matched =>
      obtain ⟨hr, hrs⟩ := (idle_cons_of_ok hc).1 h
      rw [updateRecords_cons_of_ok hc, hr, ih hrs]

end Table

/-! ### The indexes after an update -/

namespace Database

variable {db : Database} {name : String} {t : Table} {assignments : List (String × Value)}
  {c : Condition}

/-- Indexes have nothing to take over from a table that has not changed. -/
lemma Coherent.refresh_eq (h : db.Coherent) (ht : db.table? name = some t) :
    db.indexes.map (fun e => (e.1, e.2.refresh t.records)) = db.indexes := by
  have hm := mem_of_table? ht
  have hcurrent : ∀ i ∈ db.indexes, ∀ q ∈ i.2.records, Index.current t.records q = q := by
    intro i hi q hq
    by_cases hr : ∃ r ∈ t.records, r.id = q.id
    · obtain ⟨r, hr, hid⟩ := hr
      rw [current_of_mem (h.nodup _ hm) hr hid.symm, h.agree _ hm r hr i hi q hq hid.symm]
    · exact current_of_not_mem fun r hrt hid => hr ⟨r, hrt, hid⟩
  have hrefresh : ∀ i ∈ db.indexes, (i.1, i.2.refresh t.records) = id i := by
    intro i hi
    rw [Index.refresh_eq_self (hcurrent i hi)]
    rfl
  rw [List.map_congr_left hrefresh, List.map_id]

lemma update_of_table? (ht : db.table? name = some t) :
    (db.update name assignments c).database =
      { db.putTable name { t with records := (Table.updateRecords assignments c t.records).1 } with
        indexes := db.indexes.map fun e =>
          (e.1, e.2.refresh (Table.updateRecords assignments c t.records).1) } := by
  rw [update, table_eq_ok.2 ht]
  rfl

lemma update_of_no_table (ht : db.table? name = none) :
    db.update name assignments c = ⟨db, [], .error (.noTable name)⟩ := by
  rw [update, table_eq_error ht]
  rfl

/-- Where there is nothing to change, an update leaves the database as it was. -/
lemma Coherent.update_idle (h : db.Coherent)
    (hi : ∀ t, db.table? name = some t → Table.Idle assignments c t.records) :
    (db.update name assignments c).database = db := by
  cases ht : db.table? name with
  | none => rw [update_of_no_table ht]
  | some t =>
    rw [update_of_table? ht, Table.updateRecords_of_idle (hi t ht), h.refresh_eq ht,
      putTable_of_table? ht]

/-- The rows of all tables, by name. -/
def rows? (db : Database) (name : String) : Option (List Row) := (db.table? name).map Table.rows

/-- The rows of a table after an update of it. -/
lemma rows?_update (ht : db.table? name = some t) :
    (db.update name assignments c).database.rows? name =
      some ((Table.updateRecords assignments c t.records).1.map (·.row)) := by
  rw [update_of_table? ht, rows?]
  change ((db.putTable name _).table? name).map Table.rows = _
  rw [table?_putTable, if_pos rfl]
  rfl

/-- An update of a table changes no row of it exactly if there is nothing for it to change. -/
lemma rows?_update_eq_iff :
    (db.update name assignments c).database.rows? name = db.rows? name ↔
      ∀ t, db.table? name = some t → Table.Idle assignments c t.records := by
  cases ht : db.table? name with
  | none =>
    rw [update_of_no_table ht]
    simp
  | some t =>
    rw [rows?_update ht, rows?, ht, Option.map_some, Option.some.injEq, Table.rows,
      Table.rows_updateRecords]
    simp

end Database

end Tabula
