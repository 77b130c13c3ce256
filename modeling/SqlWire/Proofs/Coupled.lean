import SqlWire.Proofs.Triples

/-!
# Two computations side by side

`Coupled R x y Q E` says of two computations, each with a state of its own: begun in states that
`R` relates, both give the same result and end where `Q` holds, or both fail with the same error
and end where `E` holds. Either may instead fail because it was late; then nothing is said of the
other.
-/

namespace SqlWire

variable {ε S T α β : Type}

/-- Two computations ended alike, or one of them failed because it was late. -/
inductive Matched (late : S → Prop) (late' : T → Prop) (Q : α → S → T → Prop)
    (E : ε → S → T → Prop) : Except ε α × S → Except ε α × T → Prop
  | ok {a : α} {s : S} {t : T} (h : Q a s t) : Matched late late' Q E (.ok a, s) (.ok a, t)
  | error {e : ε} {s : S} {t : T} (h : E e s t) : Matched late late' Q E (.error e, s) (.error e, t)
  | first {e : ε} {s : S} {r : Except ε α × T} (h : late s) : Matched late late' Q E (.error e, s) r
  | second {r : Except ε α × S} {e : ε} {t : T} (h : late' t) :
      Matched late late' Q E r (.error e, t)

/-- Begun in `R`, the two computations end alike, unless one of them is late. -/
structure Coupled (late : S → Prop) (late' : T → Prop) (R : S → T → Prop)
    (x : ExceptT ε (StateM S) α) (y : ExceptT ε (StateM T) α) (Q : α → S → T → Prop)
    (E : ε → S → T → Prop) : Prop where
  run : ∀ s t, R s t → Matched late late' Q E (x s) (y t)

def Never (_ : S) : Prop := False

section

variable {late : S → Prop} {late' : T → Prop} {R R' : S → T → Prop} {Q Q' : α → S → T → Prop}
  {Q'' : β → S → T → Prop} {E E' : ε → S → T → Prop} {x : ExceptT ε (StateM S) α}
  {y : ExceptT ε (StateM T) α}

theorem Matched.mono {r : Except ε α × S} {r' : Except ε α × T} (h : Matched late late' Q E r r')
    (hQ : ∀ a s t, Q a s t → Q' a s t) (hE : ∀ e s t, E e s t → E' e s t) :
    Matched late late' Q' E' r r' := by
  cases h with
  | ok h => exact .ok (hQ _ _ _ h)
  | error h => exact .error (hE _ _ _ h)
  | first h => exact .first h
  | second h => exact .second h

/-- Where nothing is late, both give a result or both fail. -/
@[elab_as_elim] theorem Matched.punctual {P : Except ε α × S → Except ε α × T → Prop}
    {r : Except ε α × S} {r' : Except ε α × T} (h : Matched Never Never Q E r r')
    (ok : ∀ a s t, Q a s t → P (.ok a, s) (.ok a, t))
    (error : ∀ e s t, E e s t → P (.error e, s) (.error e, t)) : P r r' := by
  cases h with
  | ok h => exact ok _ _ _ h
  | error h => exact error _ _ _ h
  | first h => exact h.elim
  | second h => exact h.elim

theorem Matched.states {R : S → T → Prop} {r : Except ε α × S} {r' : Except ε α × T}
    (h : Matched Never Never (fun _ => R) (fun _ => R) r r') : R r.2 r'.2 :=
  h.punctual (fun _ _ _ h => h) fun _ _ _ h => h

namespace Coupled

theorem mono (h : Coupled late late' R x y Q E) (hR : ∀ s t, R' s t → R s t)
    (hQ : ∀ a s t, Q a s t → Q' a s t) (hE : ∀ e s t, E e s t → E' e s t) :
    Coupled late late' R' x y Q' E' :=
  ⟨fun s t hs => (h.run s t (hR s t hs)).mono hQ hE⟩

/-- What is late may be said to be something else. -/
theorem late_mono {slow : S → Prop} {slow' : T → Prop} (h : Coupled late late' R x y Q E)
    (hl : ∀ s, late s → slow s) (hl' : ∀ t, late' t → slow' t) :
    Coupled slow slow' R x y Q E := by
  constructor
  intro s t hs
  have hx := h.run s t hs
  generalize x s = r at hx ⊢
  generalize y t = r' at hx ⊢
  cases hx with
  | ok h => exact .ok h
  | error h => exact .error h
  | first h => exact .first (hl _ h)
  | second h => exact .second (hl' _ h)

theorem pure {a : α} (h : ∀ s t, R s t → Q a s t) :
    Coupled late late' R (Pure.pure a) (Pure.pure a) Q E :=
  ⟨fun s t hs => .ok (h s t hs)⟩

theorem throw {e : ε} (h : ∀ s t, R s t → E e s t) :
    Coupled late late' R (throw e : ExceptT ε (StateM S) α) (throw e) Q E :=
  ⟨fun s t hs => .error (h s t hs)⟩

theorem bind {f : α → ExceptT ε (StateM S) β} {g : α → ExceptT ε (StateM T) β}
    (hx : Coupled late late' R x y Q E)
    (hf : ∀ a, Coupled late late' (Q a) (f a) (g a) Q'' E) :
    Coupled late late' R (x >>= f) (y >>= g) Q'' E := by
  constructor
  intro s t hs
  have h := hx.run s t hs
  rw [bind_apply, bind_apply]
  generalize x s = r at h ⊢
  generalize y t = r' at h ⊢
  cases h with
  | ok h => exact (hf _).run _ _ h
  | error h => exact .error h
  | first h => exact .first h
  | second h => exact .second h

theorem modify {f : S → S} {g : T → T} {Q : Unit → S → T → Prop}
    (h : ∀ s t, R s t → Q () (f s) (g t)) :
    Coupled late late' R (modify f : ExceptT ε (StateM S) Unit) (modify g) Q E :=
  ⟨fun s t hs => .ok (h s t hs)⟩

/-- Each computation looks at the state that it is in. -/
theorem get_bind {f : S → ExceptT ε (StateM S) β} {g : T → ExceptT ε (StateM T) β}
    (h : ∀ s t, R s t → Coupled late late' (fun s' t' => s' = s ∧ t' = t) (f s) (g t) Q'' E) :
    Coupled late late' R (get >>= f) (get >>= g) Q'' E :=
  ⟨fun s t hs => (h s t hs).run s t ⟨rfl, rfl⟩⟩

/-- What is known of the states where the computations begin is known of the two where they do. -/
theorem of_eq {s : S} {t : T} (hs : R s t) (h : Coupled late late' R x y Q E) :
    Coupled late late' (fun s' t' => s' = s ∧ t' = t) x y Q E := by
  constructor
  intro s' t' he
  obtain ⟨rfl, rfl⟩ := he
  exact h.run _ _ hs

end Coupled

end

end SqlWire
