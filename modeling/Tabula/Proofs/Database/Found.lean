import Tabula.Proofs.Database.Given
import Tabula.Proofs.Database.Matching
import Tabula.Proofs.Value.Equal

/-!
Rows that are found by their key.

Keys are kept apart as values of one kind, but they are looked up by loose equality. With whole
numbers the one implies the other: whatever a literal is, it is loosely equal to at most one of
them. So where a primary key is a column of whole numbers, and no update has assigned to it, a
literal finds at most one row, and the key of a row finds just that row.
-/

namespace Tabula

/-! ### What whole numbers are loosely equal to -/

namespace Number

lemma int_equal_iff {n : Int} {b : Number} : (int n).equal b = true ↔ b.place = (int n).place := by
  rw [equal, beq_iff_eq, Place.compare?_eq_some_eq, eq_comm]
  exact and_iff_left Place.noConfusion

lemma place_int_inj {m n : Int} (h : (int m).place = (int n).place) : m = n := by
  have hunits : (unitsPerOne : Int) ≠ 0 := by decide +kernel
  rw [place, place, Place.at.injEq] at h
  exact Int.eq_of_mul_eq_mul_right hunits h

/-- A number is equal to at most one whole number. -/
lemma exists_whole (b : Number) :
    ∃ whole : Option Int, ∀ n, (int n).equal b = decide (whole = some n) := by
  by_cases hb : ∃ m, (int m).equal b = true
  · obtain ⟨m, hm⟩ := hb
    refine ⟨some m, fun n => ?_⟩
    rw [Bool.eq_iff_iff, decide_eq_true_iff, int_equal_iff, int_equal_iff.1 hm, Option.some.injEq]
    exact ⟨place_int_inj, congrArg fun n => (int n).place⟩
  · refine ⟨none, fun n => ?_⟩
    simpa using fun hn => hb ⟨n, hn⟩

end Number

/-- **A literal is loosely equal to at most one whole number**, or it is text with too many digits,
which is compared with none. -/
theorem Value.looselyEqual_int (v : Value) :
    (∃ fault, ∀ n, (int n).looselyEqual v = .error fault) ∨
      ∃ whole : Option Int, ∀ n, (int n).looselyEqual v = .ok (decide (whole = some n)) := by
  have hnumber : ∀ {b : Number}, (∀ n, (int n).looselyEqual v = .ok ((Number.int n).equal b)) →
      ∃ whole : Option Int, ∀ n, (int n).looselyEqual v = .ok (decide (whole = some n)) := by
    intro b hb
    obtain ⟨whole, hwhole⟩ := b.exists_whole
    exact ⟨whole, fun n => by rw [hb, hwhole]⟩
  cases v with
  | null => exact .inr ⟨none, fun n => rfl⟩
  | bool _ | int _ | real _ => exact .inr (hnumber fun n => rfl)
  | text s =>
    -- the text is read in the same way, whatever number it is compared with
    have hread : ∀ n, (int n).looselyEqual (text s) =
        (Numeral.read? s.toList).map fun spelled => spelled.elim false (Number.int n).equal := by
      intro n
      rw [looselyEqual, if_neg (by simp)]
      simp only [pair, number?]
      cases Numeral.read? s.toList with
      | error fault => rfl
      | ok spelled => cases spelled <;> rfl
    cases hs : Numeral.read? s.toList with
    | error fault => exact .inl ⟨fault, fun n => by rw [hread, hs]; rfl⟩
    | ok spelled =>
      cases spelled with
      | none => exact .inr ⟨none, fun n => by rw [hread, hs]; rfl⟩
      | some b => exact .inr (hnumber fun n => by rw [hread, hs]; rfl)

/-! ### Keys that are whole numbers -/

/-- The rows have whole numbers for keys, no two the same. -/
structure KeysWhole (key : String) (rows : List Row) : Prop where
  whole : ∀ row ∈ rows, ∃ n, Row.cell row key = .int n
  distinct : rows.Pairwise fun a b => Row.cell a key ≠ Row.cell b key

namespace Condition

variable {key : String} {v : Value} {rows : List Row}

/-- The key is loosely equal to the value. -/
def keyIs (key : String) (v : Value) : Condition := ⟨⟨none, key⟩, .equal, v⟩

lemma holds_keyIs (key : String) (v : Value) (row : Row) :
    (keyIs key v).holds row = (Row.cell row key).looselyEqual v := rfl

/-- A literal is compared with all keys, or with none. -/
lemma decides_keyIs_or (h : KeysWhole key rows) (v : Value) :
    (keyIs key v).Decides rows ∨
      rows ≠ [] ∧ ∃ fault, ∀ row ∈ rows, (keyIs key v).holds row = .error fault := by
  rcases v.looselyEqual_int with ⟨fault, hfault⟩ | ⟨whole, hwhole⟩
  · have hall : ∀ row ∈ rows, (keyIs key v).holds row = .error fault := by
      intro row hrow
      obtain ⟨n, hn⟩ := h.whole row hrow
      rw [holds_keyIs, hn, hfault]
    by_cases hrows : rows = []
    · subst hrows
      exact .inl fun row hrow => absurd hrow List.not_mem_nil
    · exact .inr ⟨hrows, fault, hall⟩
  · refine .inl fun row hrow => ?_
    obtain ⟨n, hn⟩ := h.whole row hrow
    exact ⟨_, by rw [holds_keyIs, hn, hwhole]⟩

/-- Rows that a literal finds have the same key. -/
lemma cell_eq_of_keyIs (h : KeysWhole key rows) {a b : Row} (ha : a ∈ rows) (hb : b ∈ rows)
    (hak : (keyIs key v).holds a = .ok true) (hbk : (keyIs key v).holds b = .ok true) :
    Row.cell a key = Row.cell b key := by
  obtain ⟨m, hm⟩ := h.whole a ha
  obtain ⟨n, hn⟩ := h.whole b hb
  rw [holds_keyIs, hm] at hak
  rw [holds_keyIs, hn] at hbk
  rcases v.looselyEqual_int with ⟨fault, hfault⟩ | ⟨whole, hwhole⟩
  · rw [hfault] at hak
    cases hak
  · rw [hwhole, Except.ok.injEq, decide_eq_true_iff] at hak hbk
    rw [hm, hn, Option.some.inj (hak.symm.trans hbk)]

/-- **A literal finds at most one row.** -/
theorem length_chosen_keyIs (h : KeysWhole key rows) (v : Value) :
    ((keyIs key v).chosen rows).length ≤ 1 := by
  have hdistinct := h.distinct.sublist (List.filter_sublist (p := fun row =>
    decide ((keyIs key v).holds row = .ok true)))
  change ((keyIs key v).chosen rows).Pairwise _ at hdistinct
  have hmem : ∀ a ∈ (keyIs key v).chosen rows, a ∈ rows ∧ (keyIs key v).holds a = .ok true := by
    simp [chosen]
  rcases hfound : (keyIs key v).chosen rows with _ | ⟨a, _ | ⟨b, others⟩⟩
  · exact Nat.zero_le 1
  · exact le_rfl
  · rw [hfound] at hdistinct hmem
    obtain ⟨ha, hak⟩ := hmem a (by simp)
    obtain ⟨hb, hbk⟩ := hmem b (by simp)
    exact absurd (cell_eq_of_keyIs h ha hb hak hbk) (List.rel_of_pairwise_cons hdistinct (by simp))

/-- A row that a literal finds is the only one. -/
lemma chosen_keyIs_eq (h : KeysWhole key rows) {row : Row} (hrow : row ∈ rows)
    (hk : (keyIs key v).holds row = .ok true) : (keyIs key v).chosen rows = [row] := by
  have hmem : row ∈ (keyIs key v).chosen rows := by simpa [chosen] using ⟨hrow, hk⟩
  obtain ⟨a, ha⟩ := List.length_eq_one_iff.1
    (le_antisymm (length_chosen_keyIs h v) (List.length_pos_of_mem hmem))
  rw [ha, List.mem_singleton] at hmem
  rw [ha, hmem]

end Condition

/-! ### Logs -/

/-- Of the values of a column of whole numbers, NULL aside. -/
lemma Table.Types.whole {t : Table} {column : String} {v : Value} (h : t.Types column v)
    (hint : t.Declares column .integer) (hv : v ≠ .null) : ∃ n, v = .int n := by
  obtain ⟨c, hc, htype⟩ := hint
  rw [Types, hc] at h
  obtain ⟨type, htype', hadmits⟩ := h.resolve_left hv
  cases htype.symm.trans htype'
  exact hadmits

/-- A key in a column of whole numbers is a whole number, wherever it comes from. -/
lemma Table.KeyFrom.whole {t : Table} {key : String} {columns : List String} {values : List Value}
    {v : Value} (h : t.KeyFrom key columns values v) (hint : t.Declares key .integer)
    (hv : v ≠ .null) : ∃ n, v = .int n := by
  cases h with
  | drawn n => exact ⟨n, rfl⟩
  | given w _ notices _ hw => exact (types_cast hw).whole hint hv
  | missing => exact absurd rfl hv

namespace Log

variable {log : Log} {name key : String} {t : Table}

/-- The keys of the rows are all there and no two the same, as long as no update assigns to the
key. -/
theorem keysDistinct (h : log.table? name = some t)
    (hk : t.constraints.key = .ok (some (.name key)))
    (ha : ∀ s ∈ log.since name, ¬ s.Assigns name key) : KeysDistinct (.name key) t.rows := by
  refine table_induction (P := fun log t => t.constraints.key = .ok (some (.name key)) →
    (∀ s ∈ log.since name, ¬ s.Assigns name key) → KeysDistinct (.name key) t.rows) ?_ ?_ h hk ha
  · exact fun log defs _ _ => .nil
  · intro log s t u _ ih hs hstep hk ha
    rw [hstep.constraints] at hk
    rw [since_concat hs, List.forall_mem_cons] at ha
    have hold := ih hk ha.2
    cases hstep with
    | other s hother => exact hold
    | refuse columns values =>
      rw [Table.rows, Table.spend_records]
      exact hold
    | @append found columns values row hkey hrow hfault =>
      obtain rfl : some (.name key) = found := Except.ok.inj (hk.symm.trans hkey)
      have hmet : t.constraints.KeyMet t.rows := by
        intro l hl
        obtain rfl : Label.name key = l := Option.some.inj (Except.ok.inj (hk.symm.trans hl))
        exact hold
      rw [Table.fault?_eq, Option.or_eq_none_iff, Table.keyFault?_eq_none hk hmet] at hfault
      rw [Table.rows_concat]
      exact hfault.1 _ hk
    | update assignments c =>
      have hother : ∀ a ∈ assignments, a.1 ≠ key :=
        fun a ham hak => ha.1 ⟨assignments, c, rfl, a, ham, hak⟩
      refine hold.congr ?_
      simpa [Table.rows, Table.update, Function.comp_def] using
        Table.cells_updateRecords hother t.records
    | delete c hkept => exact hold.sublist (hkept.map _)

/-- In a column of whole numbers the keys are whole numbers, as long as no update assigns to the
key. -/
theorem keysWhole (h : log.table? name = some t)
    (hk : t.constraints.key = .ok (some (.name key))) (hint : t.Declares key .integer)
    (ha : ∀ s ∈ log.since name, ¬ s.Assigns name key) : KeysWhole key t.rows := by
  have hdistinct := keysDistinct h hk ha
  have hwhole : ∀ row ∈ t.rows, ∃ n, Row.cell row key = .int n := by
    intro row hrow
    obtain ⟨r, hr, rfl⟩ := List.mem_map.1 hrow
    obtain ⟨columns, values, -, hfrom⟩ := keyFrom h hk ha r hr
    exact hfrom.whole hint (hdistinct.present r.row hrow)
  refine ⟨hwhole, hdistinct.distinct.imp_of_mem fun {a b} ha _ hab => ?_⟩
  obtain ⟨n, hn⟩ := hwhole a ha
  rw [hn]
  rintro hb
  rw [← Row.cell, ← Row.cell, hn, ← hb, Value.same_int.2 rfl] at hab
  cases hab

end Log

/-! ### Statements by key -/

/-- A query, an update or a deletion of the rows of a table that satisfy a condition. -/
def Statement.Seeks (s : Statement) (name : String) (c : Condition) : Prop :=
  match s with
  | .select n _ none (some d) => n = name ∧ d = c
  | .update n _ d => n = name ∧ d = c
  | .delete n d => n = name ∧ d = c
  | _ => False

namespace Database

variable {db : Database} {name : String} {t : Table} {c : Condition} {s : Statement}

/-- Where a condition can be decided for no row, statements about it fail at the first one, before
they have changed anything. -/
lemma Coherent.execute_undecided (h : db.Coherent) (ht : db.table? name = some t)
    (hrows : t.rows ≠ []) {fault : NumberFault} (hc : ∀ row ∈ t.rows, c.holds row = .error fault)
    (hs : s.Seeks name c) : db.execute s = db.unchanged (.error (.number fault)) := by
  obtain ⟨r, rs, hrs⟩ : ∃ r rs, t.records = r :: rs :=
    List.exists_cons_of_ne_nil fun hnil => hrows (by rw [Table.rows, hnil]; rfl)
  have hr : c.holds r.row = .error fault := hc r.row (by simp [Table.rows, hrs])
  have hselect : t.select (some c) = .error fault := by
    rw [Table.select, Table.rows, hrs, List.map_cons, Condition.partition, id, hr]
    rfl
  have hupdate : ∀ assignments, t.update assignments c = (t, .error fault) := by
    intro assignments
    rw [Table.update, hrs, Table.updateRecords, hr]
    simp only [← hrs]
  have hdelete : t.delete c = .error fault := by
    rw [Table.delete, hrs, Condition.partition, hr]
    rfl
  cases s with
  | select n columns join d =>
    cases join with
    | some j => exact hs.elim
    | none =>
      cases d with
      | none => exact hs.elim
      | some d =>
        obtain ⟨rfl, rfl⟩ := hs
        rw [execute, select, table_eq_ok.2 ht]
        change db.unchanged ((t.select (some d)).mapError Failure.number >>= _) = _
        rw [hselect]
        rfl
  | update n assignments d =>
    obtain ⟨rfl, rfl⟩ := hs
    rw [execute, update, table_eq_ok.2 ht]
    dsimp only
    rw [hupdate, putTable_of_table? ht]
    dsimp only
    rw [h.refresh_eq ht]
    rfl
  | delete n d =>
    obtain ⟨rfl, rfl⟩ := hs
    rw [execute, delete, table_eq_ok.2 ht]
    dsimp only
    rw [hdelete]
  | createTable | insert | createIndex | showTables | describe => exact hs.elim

/-- At most one row of a table satisfies a condition. Where the condition can be decided, a query
answers with the row, an update assigns to it and a deletion takes it away; where it cannot, they
all fail and change nothing. -/
structure FindsOne (db : Database) (name : String) (t : Table) (c : Condition) : Prop where
  atMost : (c.chosen t.rows).length ≤ 1
  select (hc : c.Decides t.rows) : ∀ columns, db.execute (.select name columns none (some c)) =
    db.unchanged (.ok (.rows (project columns (c.chosen t.rows))))
  update (hc : c.Decides t.rows) : ∀ assignments, Keyed.Distinct (Keyed.keys assignments) →
    db.Updates name t assignments c (db.execute (.update name assignments c))
  delete (hc : c.Decides t.rows) : db.Deletes name t c (db.execute (.delete name c))
  undecided (hc : ¬ c.Decides t.rows) : ∃ fault, ∀ s : Statement, s.Seeks name c →
    db.execute s = db.unchanged (.error (.number fault))

/-- Every value finds at most one row by its key, and the key of a row finds just that row. -/
structure FindsByKey (db : Database) (name : String) (t : Table) (key : String) : Prop where
  one (v : Value) : db.FindsOne name t (.keyIs key v)
  own : ∀ row ∈ t.rows, ∃ n, Row.cell row key = .int n ∧
    (Condition.keyIs key (.int n)).holds row = .ok true
  exact (v : Value) : ∀ row ∈ t.rows, (Condition.keyIs key v).holds row = .ok true →
    (Condition.keyIs key v).Decides t.rows ∧ (Condition.keyIs key v).chosen t.rows = [row]

variable {P : Value → Prop} {key : String}

lemma Coherent.findsByKey (h : db.Coherent) (hf : db.Formed P) (ht : db.table? name = some t)
    (hkeys : KeysWhole key t.rows) : db.FindsByKey name t key := by
  have hdecides := Condition.decides_keyIs_or hkeys
  refine ⟨fun v => ⟨Condition.length_chosen_keyIs hkeys v, execute_select_columns ht,
    fun hc _ => execute_update ht (hf.table ht) hc, execute_delete ht, fun hc => ?_⟩,
    fun row hrow => ?_, fun v row hrow hk => ⟨?_, Condition.chosen_keyIs_eq hkeys hrow hk⟩⟩
  · obtain ⟨hrows, fault, hfault⟩ := (hdecides v).resolve_left hc
    exact ⟨fault, fun s hs => h.execute_undecided ht hrows hfault hs⟩
  · obtain ⟨n, hn⟩ := hkeys.whole row hrow
    refine ⟨n, hn, ?_⟩
    rw [Condition.holds_keyIs, hn]
    exact congrArg Except.ok (Number.int_equal_iff.2 rfl)
  · refine (hdecides v).resolve_right ?_
    rintro ⟨-, fault, hfault⟩
    cases (hfault row hrow).symm.trans hk

/-- **Keys find one row at most**, in every table whose primary key is a column of whole numbers
that no update has assigned to since the table was created. -/
theorem Follows.findsByKey {log : Log} (h : db.Follows log) (hcoherent : db.Coherent)
    (hf : db.Formed P) (ht : db.table? name = some t)
    (hk : t.constraints.key = .ok (some (.name key))) (hint : t.Declares key .integer)
    (ha : ∀ s ∈ log.since name, ¬ s.Assigns name key) : db.FindsByKey name t key := by
  obtain ⟨u, hu, halike⟩ := h name t ht
  refine hcoherent.findsByKey hf ht ?_
  rw [halike.rows]
  exact Log.keysWhole hu (halike.constraints ▸ hk) ((Table.declares_congr halike.columns).1 hint) ha

end Database

end Tabula
