import Tabula.Proofs.Database.Log
import Tabula.Proofs.Table.Keys

/-!
Identifiers from a counter.

The counter of a table with a primary key has moved once for every insertion since the table was
created that leaves the key out, whatever became of the insertion, and for nothing else. As long as
no update assigns to the key, the rows of such insertions have the identifiers that they were given,
which increase from row to row.
-/

namespace Tabula

namespace Statement

/-- Whether a statement takes an identifier from the counter of a table. -/
def draws (s : Statement) (name key : String) : Bool :=
  match s with
  | .insert n columns _ => n == name && !columns.contains key
  | _ => false

/-- Whether a statement is an update of a table that assigns to a column. -/
def Assigns (s : Statement) (name column : String) : Prop :=
  ∃ assignments condition, s = .update name assignments condition ∧
    ∃ a ∈ assignments, a.1 = column

end Statement

/-! ### One table -/

namespace Table

variable {t : Table} {key : String} {columns : List String}

/-- The counter moves where the key is left out. -/
lemma counter_spend (hk : t.constraints.key = .ok (some (.name key))) (columns : List String) :
    (t.spend columns).counter = t.counter + if columns.contains key then 0 else 1 := by
  rw [spend_eq hk, startRow_of_name]
  split <;> simp

/-- A step moves the counter if it draws from it, and not otherwise. -/
lemma Step.counter {name : String} {id : Nat} {s : Statement} {u : Table}
    (h : Step name id t s u) (hk : t.constraints.key = .ok (some (.name key))) :
    u.counter = t.counter + if s.draws name key then 1 else 0 := by
  have hspend : ∀ columns values, (t.spend columns).counter =
      t.counter + if (Statement.insert name columns values).draws name key then 1 else 0 := by
    intro columns values
    rw [counter_spend hk]
    by_cases hc : key ∈ columns <;> simp [Statement.draws, hc]
  cases h with
  | other s hs =>
    have hdraws : s.draws name key = false := by
      cases s with
      | insert n columns values =>
        have hn : n ≠ name := by
          rintro rfl
          exact hs columns values rfl
        simp [Statement.draws, hn]
      | createTable | select | update | delete | createIndex | showTables | describe => rfl
    simp [hdraws]
  | refuse columns values => exact hspend columns values
  | append hkey hrow => exact hspend _ _
  | update assignments c | delete c hk => simp [Statement.draws, Table.update]

/-- Filling in cells of other columns leaves a cell as it is. -/
lemma at_fill {row filled : Row} {cells : List (String × Value)}
    (hc : ∀ c ∈ cells, c.1 ≠ key) (h : (t.fill row cells).2 = .ok filled) :
    Row.at filled (.name key) = Row.at row (.name key) := by
  induction cells generalizing row with
  | nil =>
    cases h
    rfl
  | cons cell cells ih =>
    obtain ⟨column, v⟩ := cell
    have hother : Key.same (Label.name column) (.name key) = false := by
      rw [Label.same_name, beq_eq_false_iff_ne]
      exact hc (column, v) List.mem_cons_self
    rw [fill] at h
    split at h
    · cases h
    · rw [ih (fun c hm => hc c (List.mem_cons_of_mem _ hm)) h, Row.at, Row.at, Keyed.find?_put,
        hother]
      rfl

/-- A row whose key is left out gets the counter for its key. -/
lemma at_drawn {row : Row} {values : List Value} (hc : key ∉ columns)
    (hrow : (t.fill (t.startRow (some (.name key)) columns).1 (columns.zip values)).2 = .ok row) :
    Row.at row (.name key) = .int t.counter := by
  have hcells : ∀ c ∈ columns.zip values, c.1 ≠ key := by
    rintro c hm rfl
    exact hc (List.of_mem_zip hm).1
  rw [at_fill hcells hrow, startRow_of_name, if_neg (by simpa using hc)]
  simp [Row.at, Keyed.find?, Key.same_refl]

end Table

/-! ### Logs -/

namespace Log

variable {log : Log} {name key : String} {t : Table}

/-- Where a record comes from. -/
lemma getElem?_id (h : log.table? name = some t) :
    ∀ r ∈ t.records, ∃ columns values, log[r.id]? = some (.insert name columns values) := by
  refine table_induction (P := fun log t => ∀ r ∈ t.records, ∃ columns values,
    log[r.id]? = some (.insert name columns values)) ?_ ?_ h
  · intro log defs r hr
    cases hr
  · intro log s t u _ ih _ hstep
    -- a record that was there comes from where it came from
    have hold : ∀ r ∈ t.records, ∃ columns values,
        (log ++ [s])[r.id]? = some (.insert name columns values) := by
      intro r hr
      obtain ⟨columns, values, hget⟩ := ih r hr
      exact ⟨columns, values, (List.getElem?_append_left (List.getElem?_eq_some_iff.1 hget).1).trans
        hget⟩
    cases hstep with
    | other s hs => exact hold
    | refuse columns values =>
      rw [Table.spend_records]
      exact hold
    | @append key columns values row hkey hrow =>
      intro r hr
      rcases List.mem_append.1 hr with hr | hr
      · exact hold r hr
      · obtain rfl := List.mem_singleton.1 hr
        exact ⟨columns, values, List.getElem?_concat_length⟩
    | update assignments c =>
      intro r hr
      have hid : r.id ∈ t.records.map (·.id) := by
        rw [← Table.ids_updateRecords assignments c]
        exact List.mem_map_of_mem hr
      obtain ⟨q, hq, hqr⟩ := List.mem_map.1 hid
      rw [← hqr]
      exact hold q hq
    | delete c hk => exact fun r hr => hold r (hk.subset hr)

lemma id_lt (h : log.table? name = some t) {r : Record} (hr : r ∈ t.records) :
    r.id < log.length := by
  obtain ⟨columns, values, hget⟩ := getElem?_id h r hr
  exact (List.getElem?_eq_some_iff.1 hget).1

/-- **What the counter has counted**: the insertions since the table was created that leave its key
out. -/
theorem counter_eq (h : log.table? name = some t)
    (hk : t.constraints.key = .ok (some (.name key))) :
    t.counter = 1 + (log.since name).countP (·.draws name key) := by
  refine table_induction (P := fun log t => t.constraints.key = .ok (some (.name key)) →
    t.counter = 1 + (log.since name).countP (·.draws name key)) ?_ ?_ h hk
  · intro log defs _
    rw [since_created (by simp [Statement.creates])]
    rfl
  · intro log s t u _ ih hs hstep hk
    rw [hstep.constraints] at hk
    rw [since_concat hs, List.countP_cons, hstep.counter hk, ih hk]
    push_cast
    omega

lemma since_append {more : Log} (hc : ∀ s ∈ more, s.creates name = false) :
    since (log ++ more) name = more.reverse ++ log.since name := by
  rw [since, List.reverse_append, List.takeWhile_append_of_pos (by simpa using hc), since]

/-- A table has the constraints with which it was created. -/
lemma constraints_append {more : Log} {u : Table} (ht : log.table? name = some t)
    (hu : (log ++ more).table? name = some u) (hc : ∀ s ∈ more, s.creates name = false) :
    u.constraints = t.constraints := by
  induction more using List.reverseRecOn generalizing u with
  | nil =>
    rw [List.append_nil, ht] at hu
    cases hu
    rfl
  | append_singleton more s ih =>
    rw [← List.append_assoc, table?_concat] at hu
    rcases Table.step_onTable hu with ⟨defs, rfl, -⟩ | ⟨v, hv, -, hstep⟩
    · simpa [Statement.creates] using hc _ (List.mem_append_right _ (List.mem_singleton_self _))
    · rw [hstep.constraints, ih hv fun q hq => hc q (List.mem_append_left _ hq)]

/-- A counter that was drawn from has moved on. -/
theorem counter_lt {more : Log} {u : Table} (ht : log.table? name = some t)
    (hu : (log ++ more).table? name = some u) (hc : ∀ s ∈ more, s.creates name = false)
    (hk : u.constraints.key = .ok (some (.name key))) (hd : ∃ s ∈ more, s.draws name key = true) :
    t.counter < u.counter := by
  have hkt : t.constraints.key = .ok (some (.name key)) := by
    rwa [← constraints_append ht hu hc]
  have hpos : 0 < more.reverse.countP (·.draws name key) := by
    rw [List.countP_pos_iff]
    simpa using hd
  rw [counter_eq ht hkt, counter_eq hu hk, since_append hc, List.countP_append]
  omega

/-- Whether a record comes from an insertion that left the key out. -/
def drew (log : Log) (name key : String) (r : Record) : Bool :=
  (log[r.id]?).any (·.draws name key)

/-- The keys of the records that come from such insertions, in the order of the rows. -/
def drawnKeys (log : Log) (name key : String) (t : Table) : List Value :=
  (t.records.filter (log.drew name key)).map fun r => Row.at r.row (.name key)

lemma drew_concat {r : Record} (h : r.id < log.length) (s : Statement) :
    drew (log ++ [s]) name key r = log.drew name key r := by
  rw [drew, List.getElem?_append_left h, drew]

lemma drawnKeys_concat (h : ∀ r ∈ t.records, r.id < log.length) (s : Statement)
    (name key : String) :
    drawnKeys (log ++ [s]) name key t = log.drawnKeys name key t := by
  rw [drawnKeys, List.filter_congr fun r hr => drew_concat (h r hr) s, drawnKeys]

lemma drawnKeys_update {assignments : List (String × Value)} (ha : ∀ a ∈ assignments, a.1 ≠ key)
    (c : Condition) :
    log.drawnKeys name key (t.update assignments c).1 = log.drawnKeys name key t := by
  have hpairs : ∀ rs : List Record,
      (rs.filter (log.drew name key)).map (fun r => Row.at r.row (.name key)) =
        ((rs.map fun r => (r.id, Row.at r.row (.name key))).filter
          fun p => (log[p.1]?).any (·.draws name key)).map (·.2) := by
    intro rs
    rw [List.filter_map, List.map_map]
    rfl
  have hsame := Table.map_updateRecords (fun r : Record => (r.id, Row.at r.row (.name key)))
    (fun r => by rw [Table.at_assign ha]) c t.records
  rw [drawnKeys, drawnKeys, hpairs, Table.update, hsame, ← hpairs]

/-- The record of an insertion comes last, and it counts if the key is left out. -/
lemma drawnKeys_append (h : ∀ r ∈ t.records, r.id < log.length) (columns : List String)
    (values : List Value) (row : Row) (u : Table) :
    drawnKeys (log ++ [.insert name columns values]) name key
        { u with records := t.records ++ [⟨log.length, row⟩] } =
      log.drawnKeys name key t ++ if key ∈ columns then [] else [Row.at row (.name key)] := by
  have hnew : drew (log ++ [.insert name columns values]) name key ⟨log.length, row⟩ =
      !columns.contains key := by
    simp [drew, Statement.draws]
  have hold := drawnKeys_concat h (.insert name columns values) name key
  rw [drawnKeys] at hold
  rw [drawnKeys, List.filter_append, List.map_append, hold]
  by_cases hc : key ∈ columns <;> simp [hnew, hc]

/-- **Identifiers increase from row to row**, as long as no update assigns to the key. -/
theorem drawnKeys_increase (h : log.table? name = some t)
    (hk : t.constraints.key = .ok (some (.name key)))
    (ha : ∀ s ∈ log.since name, ¬ s.Assigns name key) :
    ∃ ns : List Int, log.drawnKeys name key t = ns.map .int ∧ ns.Pairwise (· < ·) ∧
      ∀ n ∈ ns, n < t.counter := by
  refine table_induction (P := fun log t => t.constraints.key = .ok (some (.name key)) →
    (∀ s ∈ log.since name, ¬ s.Assigns name key) →
      ∃ ns : List Int, log.drawnKeys name key t = ns.map .int ∧ ns.Pairwise (· < ·) ∧
        ∀ n ∈ ns, n < t.counter) ?_ ?_ h hk ha
  · exact fun log defs _ _ => ⟨[], rfl, List.Pairwise.nil, by simp⟩
  · intro log s t u ht ih hs hstep hk ha
    rw [hstep.constraints] at hk
    rw [since_concat hs, List.forall_mem_cons] at ha
    obtain ⟨ns, hkeys, hincrease, hlt⟩ := ih hk ha.2
    have hids : ∀ r ∈ t.records, r.id < log.length := fun r hr => id_lt ht hr
    have hold : drawnKeys (log ++ [s]) name key t = ns.map .int :=
      (drawnKeys_concat hids s name key).trans hkeys
    have hcounter := hstep.counter hk
    cases hstep with
    | other s hother => exact ⟨ns, hold, hincrease, hlt⟩
    | refuse columns values =>
      refine ⟨ns, ?_, hincrease, fun n hn => ?_⟩
      · rw [← hold, drawnKeys, Table.spend_records, drawnKeys]
      · have := hlt n hn
        split at hcounter <;> omega
    | @append found columns values row hkey hrow =>
      obtain rfl : some (.name key) = found := Except.ok.inj (hk.symm.trans hkey)
      change (t.spend columns).counter = _ at hcounter
      rw [drawnKeys_append hids, hkeys]
      by_cases hc : key ∈ columns
      · rw [show Statement.draws _ name key = false by simp [Statement.draws, hc],
          if_neg Bool.false_ne_true] at hcounter
        refine ⟨ns, by simp [hc], hincrease, fun n hn => ?_⟩
        have := hlt n hn
        change n < (t.spend columns).counter
        omega
      · -- the new key is the counter, which no key before has reached
        rw [show Statement.draws _ name key = true by simp [Statement.draws, hc],
          if_pos rfl] at hcounter
        have hcell := Table.at_drawn hc hrow
        refine ⟨ns ++ [t.counter], by simp [hc, hcell], ?_, fun n hn => ?_⟩
        · exact List.pairwise_append.2
            ⟨hincrease, List.pairwise_singleton _ _, by simpa using hlt⟩
        · change n < (t.spend columns).counter
          rcases List.mem_append.1 hn with hn | hn
          · have := hlt n hn
            omega
          · rw [List.mem_singleton.1 hn]
            omega
    | update assignments c =>
      refine ⟨ns, ?_, hincrease, hlt⟩
      rw [drawnKeys_update (fun a ham hak => ha.1 ⟨assignments, c, rfl, a, ham, hak⟩) c, hold]
    | @delete c kept hkept =>
      have hsub : (drawnKeys (log ++ [.delete name c]) name key
          { t with records := kept }).Sublist (ns.map .int) := by
        rw [← hold]
        exact (hkept.filter _).map _
      obtain ⟨ms, hms, hkeys⟩ := List.sublist_map_iff.1 hsub
      exact ⟨ms, hkeys, hincrease.sublist hms, fun n hn => hlt n (hms.subset hn)⟩

end Log

end Tabula
