import SqlWire.Proofs.Server.Acts
import SqlWire.Proofs.Value.Texts

/-!
# Values that come back

A client's value is bound as it is, whatever other values it is bound with, and a stored value is
read from a result as it is, if its column has the type that it gives the column itself. Reals are
left out: not every one of them has a text of its own.
-/

namespace SqlWire

theorem mapM_ok {ε α β : Type} {f : α → Except ε β} {g : α → β} {as : List α}
    (h : ∀ a ∈ as, f a = .ok (g a)) : as.mapM f = .ok (as.map g) := by
  induction as with
  | nil => rfl
  | cons a as ih =>
      obtain ⟨ha, hrest⟩ := List.forall_mem_cons.1 h
      rw [List.mapM_cons, ha, ih hrest]
      rfl

namespace Session

variable {s : Session} {values : List Value}

/-- Parameters are bound position by position, each with the type announced for it. -/
theorem bindParams_toParam (h : ∀ v ∈ values, v.isReal = false) :
    bindParams (values.map TypeOid.ofParam) (values.map Value.toParam) = .ok values := by
  have each : ∀ x ∈ (values.map Value.toParam).zipIdx,
      Value.ofParam ((values.map TypeOid.ofParam)[x.2]?.getD TypeOid.unspecified) x.1 =
        .ok (values[x.2]?.getD .null) := by
    rintro ⟨raw, i⟩ hx
    have hi : (values.map Value.toParam)[i]? = some raw := List.mem_zipIdx_iff_getElem?.1 hx
    rw [List.getElem?_map] at hi
    obtain ⟨v, hv, rfl⟩ := Option.map_eq_some_iff.1 hi
    simp only [List.getElem?_map, hv, Option.map_some, Option.getD_some]
    exact Value.ofParam_toParam (h v (List.mem_of_getElem? hv))
  have whole : (values.map Value.toParam).zipIdx.map (fun x => values[x.2]?.getD .null) =
      values := by
    refine List.ext_getElem (by simp) fun i hi _ => ?_
    simp at hi
    simp [hi]
  unfold bindParams
  rw [mapM_ok each, whole]

/-- Whatever the client has bound, the session holds, and it says so if it can. -/
theorem bind_values {sql : String} (hp : s.prepared = some ⟨sql, values.map TypeOid.ofParam⟩)
    (h : ∀ v ∈ values, v.isReal = false) :
    bind (values.map Value.toParam) s =
      send .bindComplete { s with portal := some ⟨sql, values, false⟩ } := by
  generalize ht : { s with portal := some ⟨sql, values, false⟩ } = t
  unfold bind
  rw [bind_apply, get_apply]
  dsimp only
  rw [hp]
  dsimp only
  rw [bindParams_toParam h, ← ht]
  rfl

/-- Values other than reals are stored as the values that the client binds, in their order; the
binding succeeds unless the session cannot say so. A stored value is read from a result as what it
is. Null is absent on the wire, in both directions, and nothing else is. -/
theorem values_come_back {sql : String}
    (hp : s.prepared = some ⟨sql, values.map TypeOid.ofParam⟩)
    (h : ∀ v ∈ values, v.isReal = false) :
    (bind (values.map Value.toParam) s).2.portal = some ⟨sql, values, false⟩ ∧
      (s.writesLeft ≠ some 0 → ∃ u, bind (values.map Value.toParam) s = (.ok (), u) ∧
        u.sent = .message .bindComplete :: s.sent) ∧
      (∀ v ∈ values, Value.ofResult (ColumnType.ofOid (TypeOid.ofStored v))
        (v.toResult (TypeOid.ofStored v)) = v) ∧
      ∀ v oid, (Value.toParam v = none ↔ v = .null) ∧ (v.toResult oid = none ↔ v = .null) := by
  rw [bind_values hp h]
  refine ⟨?_, fun hw => ?_, fun v hv => Value.ofResult_toResult (h v hv),
    fun v oid => ⟨Value.toParam_eq_none, Value.toResult_eq_none⟩⟩
  · have kept := send_acts (P := fun u : Session => u.portal = some ⟨sql, values, false⟩)
      (Q := fun u => u.portal = some ⟨sql, values, false⟩) .bindComplete (fun _ _ hu => hu)
      fun _ hu => hu
    exact kept.state rfl
  · have encoded : ∃ bytes, BackendMessage.bindComplete.encode = .ok bytes := ⟨_, rfl⟩
    obtain ⟨bytes, encoded⟩ := encoded
    exact ⟨_, send_writes (s := { s with portal := some ⟨sql, values, false⟩ }) encoded hw, rfl⟩

theorem values_come_back_extreme :
    let values : List Value :=
      [.null, .integer Int64.minValue, .text "\\x41", .text "", .blob [0, 255], .blob []]
    let s : Session := { opened { databasePath := "" } 1 2 { answers := [] } with
      prepared := some ⟨"SELECT $1", values.map TypeOid.ofParam⟩ }
    (∀ v ∈ values, v.isReal = false) ∧ s.writesLeft ≠ some 0 ∧
      (bind (values.map Value.toParam) s).2.portal = some ⟨"SELECT $1", values, false⟩ ∧
      values.map (fun v => Value.ofResult (ColumnType.ofOid (TypeOid.ofStored v))
        (v.toResult (TypeOid.ofStored v))) = values ∧
      values.map (fun v => v.toParam.isNone) = [true, false, false, false, false, false] := by
  intro values s
  have plain : ∀ v ∈ values, v.isReal = false := by decide
  have held : s.prepared = some ⟨"SELECT $1", values.map TypeOid.ofParam⟩ := rfl
  have back := values_come_back held plain
  refine ⟨plain, by decide, back.1, ?_, rfl⟩
  exact (List.map_congr_left back.2.2.1).trans (List.map_id values)

end Session

end SqlWire
