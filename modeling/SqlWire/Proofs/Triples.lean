/-!
# What a computation with a state ensures

`Ensures P x Q E` says of a computation that carries a state and may fail: begun where `P` holds,
it ends where `Q` holds of what it gives, or where `E` holds of what it fails with. The rules
take a computation apart as it was put together.
-/

namespace SqlWire

variable {ε S α β : Type}

theorem bind_apply (x : ExceptT ε (StateM S) α) (f : α → ExceptT ε (StateM S) β) (s : S) :
    (x >>= f) s = match x s with
      | (.ok a, s') => f a s'
      | (.error e, s') => (.error e, s') := by
  change (ExceptT.bind x f).run s = _
  simp only [ExceptT.bind, ExceptT.run, ExceptT.mk, bind, StateT.bind]
  change (match x s with
    | (r, s') => ExceptT.bindCont f r s') = _
  rcases x s with ⟨_ | _, _⟩ <;> rfl

theorem get_apply (s : S) : (get : ExceptT ε (StateM S) S) s = (.ok s, s) := rfl

theorem ok_of_toBool {r : Except ε Unit} (h : r.toBool = true) : r = .ok () := by
  cases r with
  | ok u => rfl
  | error e => cases h

def Ends (Q : α → S → Prop) (E : ε → S → Prop) : Except ε α × S → Prop
  | (.ok a, s) => Q a s
  | (.error e, s) => E e s

theorem Ends.mono {Q Q' : α → S → Prop} {E E' : ε → S → Prop} {r : Except ε α × S}
    (h : Ends Q E r) (hQ : ∀ a s, Q a s → Q' a s) (hE : ∀ e s, E e s → E' e s) :
    Ends Q' E' r := by
  obtain ⟨_ | a, s⟩ := r
  · exact hE _ _ h
  · exact hQ _ _ h

theorem Ends.ok {Q : α → S → Prop} {E : ε → S → Prop} {r : Except ε α × S} {a : α}
    (h : Ends Q E r) (hr : r.1 = .ok a) : Q a r.2 := by
  obtain ⟨_ | b, s⟩ := r
  · cases hr
  · cases hr
    exact h

theorem Ends.error {Q : α → S → Prop} {E : ε → S → Prop} {r : Except ε α × S} {e : ε}
    (h : Ends Q E r) (hr : r.1 = .error e) : E e r.2 := by
  obtain ⟨_ | b, s⟩ := r
  · cases hr
    exact h
  · cases hr

/-- What holds at the end in either case holds of the state that is left. -/
theorem Ends.state {R : S → Prop} {r : Except ε α × S}
    (h : Ends (fun _ => R) (fun _ => R) r) : R r.2 := by
  obtain ⟨_ | a, s⟩ := r
  · exact h
  · exact h

/-- Begun in `P`, the computation ends in `Q` with a result or in `E` with an error. -/
structure Ensures (P : S → Prop) (x : ExceptT ε (StateM S) α) (Q : α → S → Prop)
    (E : ε → S → Prop) : Prop where
  run : ∀ s, P s → Ends Q E (x s)

namespace Ensures

variable {P P' : S → Prop} {Q Q' : α → S → Prop} {R : β → S → Prop} {E E' : ε → S → Prop}
  {x : ExceptT ε (StateM S) α} {f : α → ExceptT ε (StateM S) β}

theorem ok (h : Ensures P x Q E) {s s' : S} {a : α} (hs : P s) (hx : x s = (.ok a, s')) :
    Q a s' := by
  have := h.run s hs
  rwa [hx] at this

theorem error (h : Ensures P x Q E) {s s' : S} {e : ε} (hs : P s) (hx : x s = (.error e, s')) :
    E e s' := by
  have := h.run s hs
  rwa [hx] at this

theorem state {R : S → Prop} (h : Ensures P x (fun _ => R) (fun _ => R)) {s : S} (hs : P s) :
    R (x s).2 :=
  (h.run s hs).state

/-- A computation that keeps what holds of the state, whatever it comes to. -/
theorem of_state {R : S → Prop} (h : ∀ s, R s → R (x s).2) :
    Ensures R x (fun _ => R) (fun _ => R) := by
  constructor
  intro s hs
  have hx := h s hs
  rcases hr : x s with ⟨_ | a, t⟩
  · rwa [hr] at hx
  · rwa [hr] at hx

theorem mono (h : Ensures P x Q E) (hP : ∀ s, P' s → P s) (hQ : ∀ a s, Q a s → Q' a s)
    (hE : ∀ e s, E e s → E' e s) : Ensures P' x Q' E' := by
  exact ⟨fun s hs => (h.run s (hP s hs)).mono hQ hE⟩

theorem pure {a : α} (h : ∀ s, P s → Q a s) : Ensures P (Pure.pure a) Q E := ⟨h⟩

theorem throw {e : ε} (h : ∀ s, P s → E e s) :
    Ensures P (throw e : ExceptT ε (StateM S) α) Q E := ⟨h⟩

theorem trivial (x : ExceptT ε (StateM S) α) :
    Ensures P x (fun _ _ => True) (fun _ _ => True) := by
  constructor
  intro s _
  rcases x s with ⟨_ | _, _⟩ <;> exact True.intro

theorem bind (hx : Ensures P x Q E) (hf : ∀ a, Ensures (Q a) (f a) R E) :
    Ensures P (x >>= f) R E := by
  constructor
  intro s hs
  have h := hx.run s hs
  rw [bind_apply]
  cases he : x s with
  | mk r s' =>
      rw [he] at h
      cases r with
      | ok a => exact (hf a).run s' h
      | error e => exact h

/-- The state that a computation looks at is the one it is in. -/
theorem get_bind {f : S → ExceptT ε (StateM S) β} (h : ∀ t, P t → Ensures (· = t) (f t) R E) :
    Ensures P (get >>= f) R E :=
  ⟨fun s hs => (h s hs).run s rfl⟩

theorem modify_bind {s : S} {g : S → S} {f : Unit → ExceptT ε (StateM S) β}
    (h : Ensures (· = g s) (f ()) R E) :
    Ensures (· = s) ((modify g : ExceptT ε (StateM S) Unit) >>= f) R E := by
  constructor
  intro s hs
  subst hs
  exact h.run (g s) rfl

theorem modify {g : S → S} {Q : Unit → S → Prop} (h : ∀ s, P s → Q () (g s)) :
    Ensures P (modify g : ExceptT ε (StateM S) Unit) Q E := ⟨h⟩

/-- It is enough to look at each state in which the computation may begin. -/
theorem of_each (h : ∀ s, P s → Ensures (· = s) x Q E) : Ensures P x Q E :=
  ⟨fun s hs => (h s hs).run s rfl⟩

theorem and {P' : S → Prop} {Q' : α → S → Prop} {E' : ε → S → Prop} (h : Ensures P x Q E)
    (h' : Ensures P' x Q' E') : Ensures (fun s => P s ∧ P' s) x (fun a s => Q a s ∧ Q' a s)
      (fun e s => E e s ∧ E' e s) := by
  constructor
  intro s hs
  obtain ⟨hs, hs'⟩ := hs
  have hx := h.run s hs
  have hx' := h'.run s hs'
  rcases hr : x s with ⟨_ | a, t⟩
  · rw [hr] at hx hx'
    exact ⟨hx, hx'⟩
  · rw [hr] at hx hx'
    exact ⟨hx, hx'⟩

/-- What is known of the states where it begins is known of the one where it begins. -/
theorem of_eq {s : S} (hs : P s) (h : Ensures P x Q E) : Ensures (· = s) x Q E := by
  refine h.mono ?_ (fun _ _ h => h) fun _ _ h => h
  intro t ht
  subst ht
  exact hs

end Ensures

end SqlWire
