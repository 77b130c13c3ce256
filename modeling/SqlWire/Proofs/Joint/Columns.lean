import SqlWire.Proofs.Client.Pulling
import SqlWire.Proofs.Server.Streaming

/-!
# Columns of one kind

The first row settles the type of a column that declares none. If the values of the column are of
one kind, a client reads them as they are stored, except where the first of them is null: then the
column is one of texts, and each integer or blob is read as the text that stands for it.
-/

namespace SqlWire

/-- The values are nulls, and otherwise all integers, all texts or all blobs. -/
def Uniform (values : List Value) : Prop :=
  (∀ v ∈ values, v = .null ∨ ∃ n, v = .integer n) ∨
    (∀ v ∈ values, v = .null ∨ ∃ text, v = .text text) ∨
    ∀ v ∈ values, v = .null ∨ ∃ bytes, v = .blob bytes

def columnAt (rows : List (List Value)) (i : Nat) : List Value :=
  rows.map (·.getD i .null)

/-- In a column that has the type of a null, what is no text is not read as it is stored. -/
theorem read_behind_null_iff (v : Value) :
    Value.ofResult (ColumnType.ofOid (TypeOid.ofStored .null))
        (v.toResult (TypeOid.ofStored .null)) = v ↔
      v = .null ∨ ∃ text, v = .text text := by
  have text : TypeOid.ofStored .null = TypeOid.text := rfl
  rw [text, Value.ofResult_text]
  cases v <;> simp [Value.wireText?]

namespace Uniform

variable {values : List Value} {first v : Value}

/-- The values that are not null have one type. -/
theorem ofStored_eq (h : Uniform values) (hf : first ∈ values) (hv : v ∈ values)
    (nf : first ≠ .null) (nv : v ≠ .null) :
    v.isReal = false ∧ TypeOid.ofStored first = TypeOid.ofStored v := by
  rcases h with integers | texts | blobs
  · obtain ⟨n, rfl⟩ := (integers first hf).resolve_left nf
    obtain ⟨k, rfl⟩ := (integers v hv).resolve_left nv
    exact ⟨rfl, rfl⟩
  · obtain ⟨t, rfl⟩ := (texts first hf).resolve_left nf
    obtain ⟨u, rfl⟩ := (texts v hv).resolve_left nv
    exact ⟨rfl, rfl⟩
  · obtain ⟨b, rfl⟩ := (blobs first hf).resolve_left nf
    obtain ⟨c, rfl⟩ := (blobs v hv).resolve_left nv
    exact ⟨rfl, rfl⟩

/-- A value of a uniform column is read as it is stored, unless it is a number or bytes and the
column has the type of a null. -/
theorem read_iff (h : Uniform values) (hf : first ∈ values) (hv : v ∈ values) :
    Value.ofResult (ColumnType.ofOid (TypeOid.ofStored first))
        (v.toResult (TypeOid.ofStored first)) = v ↔
      v = .null ∨ (∃ text, v = .text text) ∨ first ≠ .null := by
  by_cases nf : first = .null
  · subst nf
    rw [read_behind_null_iff]
    simp
  · refine ⟨fun _ => .inr (.inr nf), fun _ => ?_⟩
    by_cases nv : v = .null
    · subst nv
      rfl
    · obtain ⟨plain, same⟩ := h.ofStored_eq hf hv nf nv
      rw [same]
      exact Value.ofResult_toResult plain

end Uniform

namespace RowSource

variable {source : RowSource} {column : EngineColumn} {i : Nat}

/-- A column that declares no type has the one that its value in the first row gives it. -/
theorem oids_undeclared (hi : source.columns[i]? = some column)
    (hd : column.declared.bind TypeOid.ofDeclaration? = none) {first : List Value}
    (hf : source.row? source.firstReply = some first) {v : Value} (hv : first[i]? = some v) :
    source.oids[i]? = some (TypeOid.ofStored v) := by
  unfold oids Session.columnOids
  rw [List.getElem?_map, List.getElem?_zipIdx, hi, hf]
  simp [hd, hv]

/-- A client that knows the types reads each value with the type of its column. -/
theorem read_cell {fields : List FieldDescription} {oids : List TypeOid}
    (hf : fields.map FieldDescription.typeOid = oids) {values : List Value} {oid : TypeOid}
    {v : Value} (ho : oids[i]? = some oid) (hv : values[i]? = some v) :
    ∃ row, Row.ofMessage? (fields.map Column.ofField) (rowMessage oids values) = some row ∧
      row.values[i]? = some (Value.ofResult (ColumnType.ofOid oid) (v.toResult oid)) := by
  refine ⟨_, rfl, ?_⟩
  subst hf
  rw [List.getElem?_map] at ho
  obtain ⟨field, hfield, rfl⟩ := Option.map_eq_some_iff.1 ho
  simp [List.getElem?_zipWith, hfield, hv, Column.ofField, Column.ofOid]

/-- A result that has a row is started, and its first answer is no error. -/
theorem started_of_row {values : List Value} (h : values ∈ source.rows) :
    source.startError = none ∧ source.errorAt? source.firstReply = none := by
  unfold rows at h
  rcases source.allReplies_cases with
    ⟨_, _, all⟩ | ⟨_, _, he, all⟩ | ⟨hs, he, -⟩
  · simp [all] at h
  · have unread : source.row? source.firstReply = none := row?_of_errorAt (by rw [he]; rfl)
    simp [all, unread] at h
  · exact ⟨hs, he⟩

/-- Behind the description of a result there are its rows. -/
theorem messages_row (sql : String) {describing : Describing} (hd : describing ≠ .silent) {j : Nat}
    {values : List Value} (hv : source.rows[j]? = some values) :
    ∃ fields, (source.messages sql describing)[0]? = some (.rowDescription fields) ∧
      fields.map FieldDescription.typeOid = source.oids ∧
      (source.messages sql describing)[j + 1]? = some (rowMessage source.oids values) := by
  obtain ⟨hs, he⟩ := started_of_row (List.mem_of_getElem? hv)
  have described := source.describes describing
  unfold Describes at described
  rw [if_neg hd] at described
  obtain ⟨fields, known, -, -, types⟩ := described
  have told : source.messages sql describing = .rowDescription fields ::
      (source.rows.map (rowMessage source.oids) ++ source.completion sql) := by
    simp [messages, hs, he, known]
  refine ⟨fields, by rw [told]; rfl, types, ?_⟩
  obtain ⟨inside, -⟩ := List.getElem?_eq_some_iff.1 hv
  rw [told, List.getElem?_cons_succ, List.getElem?_append_left (by simpa using inside),
    List.getElem?_map, hv]
  rfl

/-- If the first answer is not the end, it is the first row. -/
theorem firstReply_row (hn : source.firstReply ≠ .done) (hs : source.startError = none)
    (he : source.errorAt? source.firstReply = none) :
    ∃ first, source.row? source.firstReply = some first ∧ source.rows[0]? = some first := by
  obtain ⟨first, hf⟩ := Option.isSome_iff_exists.1 ((row?_of_no_error he).resolve_right hn)
  refine ⟨first, hf, ?_⟩
  unfold rows
  rw [allReplies_started hs he, List.filterMap_cons_some hf]
  rfl

/-- Every row has a value in each column. -/
theorem columnAt_rows (hi : source.columns[i]? = some column) {j : Nat} {values : List Value}
    (hv : source.rows[j]? = some values) :
    ∃ v, values[i]? = some v ∧ (columnAt source.rows i)[j]? = some v := by
  obtain ⟨answer, -, ha⟩ := List.mem_filterMap.1 (List.mem_of_getElem? hv)
  obtain ⟨inside, -⟩ := List.getElem?_eq_some_iff.1 hi
  rw [← length_of_row? ha] at inside
  have some := List.getElem?_eq_getElem inside
  refine ⟨_, some, ?_⟩
  simp [columnAt, hv, some]

end RowSource

namespace Session

/-- In a result that is described, a client reads each value of a uniform column without a declared
type as it is stored, if and only if the value is null or a text, or the value of the first row is
not null. -/
theorem uniform_column_read_iff (sql : String) (params : List Value) {describing : Describing}
    (hd : describing ≠ .silent) {s : Session} {source : RowSource}
    (h : (s.engine.prepare sql).1 = .ok (.returning source))
    (hn : source.answers.headD .done ≠ .done) :
    ∃ (asked : List RowAnswer) (deeds : List Deed) (result : Except Diagnostic Unit),
      Takes s (streamStatement sql params describing) deeds result ∧
      Deed.calls deeds = .prepare sql :: .query params :: asked.map .next ∧
      (∀ i (hi : i < asked.length), asked[i] = source.answers.getD i .done) ∧
      ∀ (i : Nat) (column : EngineColumn), source.columns[i]? = some column →
        column.declared.bind TypeOid.ofDeclaration? = none →
        Uniform (columnAt (asked.filterMap source.row?) i) →
        ∀ j stored, (columnAt (asked.filterMap source.row?) i)[j]? = some stored →
          ∃ fields raws row read first,
            (Deed.messages deeds)[0]? = some (.rowDescription fields) ∧
            (Deed.messages deeds)[j + 1]? = some (.dataRow raws) ∧
            Row.ofMessage? (fields.map Column.ofField) (.dataRow raws) = some row ∧
            row.get? i = some read ∧
            (columnAt (asked.filterMap source.row?) i)[0]? = some first ∧
            (read = stored ↔ stored = .null ∨ (∃ text, stored = .text text) ∨ first ≠ .null) := by
  refine ⟨source.allReplies, _, _, streamStatement_takes params describing h,
    by rw [Deed.calls_asked, RowSource.course_calls],
    fun i hi => RowSource.allReplies_getElem hi, ?_⟩
  intro i column hi undeclared uniform j stored stored_at
  rw [Deed.messages_asked, RowSource.course_messages]
  change Uniform (columnAt source.rows i) at uniform
  change (columnAt source.rows i)[j]? = some stored at stored_at
  obtain ⟨values, hv⟩ : ∃ values, source.rows[j]? = some values := by
    simp only [columnAt, List.getElem?_map] at stored_at
    obtain ⟨values, hv, -⟩ := Option.map_eq_some_iff.1 stored_at
    exact ⟨values, hv⟩
  obtain ⟨hs, he⟩ := RowSource.started_of_row (List.mem_of_getElem? hv)
  obtain ⟨beginning, known, hb⟩ := RowSource.firstReply_row hn hs he
  obtain ⟨first, hf, first_at⟩ := RowSource.columnAt_rows hi hb
  obtain ⟨v, hvi, v_at⟩ := RowSource.columnAt_rows hi hv
  cases v_at.symm.trans stored_at
  obtain ⟨fields, described, types, told⟩ := RowSource.messages_row sql hd hv
  have oid := RowSource.oids_undeclared hi undeclared known hf
  obtain ⟨row, hrow, read⟩ := RowSource.read_cell types oid hvi
  exact ⟨fields, _, row, _, first, described, told, hrow, read, first_at,
    uniform.read_iff (List.mem_of_getElem? first_at) (List.mem_of_getElem? stored_at)⟩

theorem uniform_column_read_iff_integers :
    let source : RowSource := ⟨[⟨"n", none⟩], none,
      [.row [.value (.integer 1)], .row [.value .null], .row [.value (.integer 2)]]⟩
    let s := opened { databasePath := "" } 1 2 { answers := [.rows source] }
    Describing.simple ≠ .silent ∧ (s.engine.prepare "SELECT n").1 = .ok (.returning source) ∧
      source.answers.headD .done ≠ .done ∧
      ∃ (deeds : List Deed) (result : Except Diagnostic Unit),
        Takes s (streamStatement "SELECT n" [] .simple) deeds result ∧
        ∀ j stored, [Value.integer 1, .null, .integer 2][j]? = some stored →
          ∃ fields raws row, (Deed.messages deeds)[0]? = some (.rowDescription fields) ∧
            (Deed.messages deeds)[j + 1]? = some (.dataRow raws) ∧
            Row.ofMessage? (fields.map Column.ofField) (.dataRow raws) = some row ∧
            row.get? 0 = some stored := by
  intro source s
  have prepared : (s.engine.prepare "SELECT n").1 = .ok (.returning source) := rfl
  have begun : source.answers.headD .done ≠ .done := nofun
  have described : Describing.simple ≠ .silent := nofun
  obtain ⟨asked, deeds, result, takes, calls, -, reads⟩ :=
    uniform_column_read_iff "SELECT n" [] described prepared begun
  refine ⟨described, prepared, begun, deeds, result, takes, ?_⟩
  have run : (streamStatement "SELECT n" [] .simple s).1 = .ok (.ok ()) ∧
      (streamStatement "SELECT n" [] .simple s).2.engine.calls =
        (EngineCall.prepare "SELECT n" :: .query [] ::
          (source.answers ++ [RowAnswer.done]).map .next).reverse ++ s.engine.calls := by
    decide +kernel
  have all : asked = source.answers ++ [.done] := by
    have made := (takes.performed run.1).2.calls_eq run.2
    rw [calls] at made
    have next := (List.cons.inj (List.cons.inj made).2).2
    exact (List.map_inj_right fun _ _ => EngineCall.next.inj).1 next
  have column : columnAt (asked.filterMap source.row?) 0 = [.integer 1, .null, .integer 2] := by
    rw [all]
    rfl
  intro j stored at_j
  obtain ⟨fields, raws, row, read, first, described, told, hrow, hread, hfirst, same⟩ :=
    reads 0 ⟨"n", none⟩ rfl rfl (by rw [column]; exact .inl (by simp)) j stored
      (by rw [column]; exact at_j)
  rw [column] at hfirst
  cases hfirst
  have unchanged : read = stored := same.2 (.inr (.inr nofun))
  exact ⟨fields, raws, row, described, told, hrow, unchanged ▸ hread⟩

/-- A number behind a null is read as a text. -/
theorem number_behind_null_read_as_text :
    let source : RowSource := ⟨[⟨"n", none⟩], none,
      [.row [.value .null], .row [.value (.integer 1)]]⟩
    let s := opened { databasePath := "" } 1 2 { answers := [.rows source] }
    let fields := [FieldDescription.ofType "n" 1 TypeOid.text (-1)]
    let raws := [some (Bytes.ofText "1")]
    (s.engine.prepare "SELECT n").1 = .ok (.returning source) ∧
      source.answers.filterMap source.row? = [[.null], [.integer 1]] ∧
      Uniform (columnAt [[.null], [.integer 1]] 0) ∧
      (streamStatement "SELECT n" [] .simple s).2.sent = .message (.commandComplete "SELECT 2") ::
        .message (.dataRow raws) :: .message (.dataRow [none]) ::
        .message (.rowDescription fields) :: s.sent ∧
      Row.ofMessage? (fields.map Column.ofField) (.dataRow raws) =
        some ⟨fields.map Column.ofField, [.text "1"]⟩ ∧
      Value.text "1" ≠ .integer 1 := by
  intro source s fields raws
  refine ⟨rfl, rfl, .inl ?_, by decide +kernel, by decide +kernel, nofun⟩
  simp [columnAt]

end Session

end SqlWire
