/-!
# Loops by their rounds

A loop is given by one of its rounds, with nothing that bounds how many there are. If every round
that calls for another one uses something up, the loop comes to a result, and a recursion that goes
on for a bounded number of rounds finds it if the bound is not too low.
-/

namespace SqlWire

inductive Round (S R : Type) where
  | again (state : S)
  | leave (result : R)

def Round.result {S R : Type} (f : S → R) : Round S R → R
  | .again state => f state
  | .leave result => result

/-- From a state the loop comes to the result in this many rounds. -/
inductive Loops {S R : Type} (round : S → Round S R) : S → Nat → R → Prop
  | leave {s : S} {r : R} (h : round s = .leave r) : Loops round s 1 r
  | again {s s' : S} {n : Nat} {r : R} (h : round s = .again s') (hn : Loops round s' n r) :
      Loops round s (n + 1) r

namespace Loops

variable {S R : Type} {round : S → Round S R}

/-- A loop comes to one result. -/
theorem unique {s : S} {n m : Nat} {r r' : R} (h : Loops round s n r) (h' : Loops round s m r') :
    r = r' := by
  induction h generalizing m with
  | leave hs =>
      cases h' with
      | leave hs' => exact Round.leave.inj (hs.symm.trans hs')
      | again hs' _ => cases hs.symm.trans hs'
  | again hs _ ih =>
      cases h' with
      | leave hs' => cases hs.symm.trans hs'
      | again hs' hn =>
          cases hs.symm.trans hs'
          exact ih hn

section

variable (size : S → Nat) (lowers : ∀ {s s'}, round s = .again s' → size s' < size s)
include lowers

/-- A loop whose rounds use something up comes to what its equation says. -/
theorem of_lowers {f : S → R} (unrolled : ∀ s, f s = (round s).result f) (s : S) :
    ∃ n ≤ size s + 1, Loops round s n (f s) := by
  induction hn : size s using Nat.strongRecOn generalizing s with
  | ind k ih =>
      have hf := unrolled s
      cases hr : round s with
      | leave r =>
          rw [hr] at hf
          exact ⟨1, by omega, hf ▸ .leave hr⟩
      | again s' =>
          rw [hr] at hf
          have hlow := lowers hr
          obtain ⟨n, hle, hloops⟩ := ih (size s') (by omega) s' rfl
          exact ⟨n + 1, by omega, hf ▸ .again hr hloops⟩

variable {f : Nat → S → R} (unrolled : ∀ fuel s, f (fuel + 1) s = (round s).result (f fuel))
include unrolled

/-- A recursion that may go on for more rounds than there is to use up comes to the end of the
loop. -/
theorem of_fuel {fuel : Nat} {s : S} (h : size s < fuel) :
    ∃ n ≤ size s + 1, Loops round s n (f fuel s) := by
  induction fuel generalizing s with
  | zero => omega
  | succ fuel ih =>
      rw [unrolled]
      cases hr : round s with
      | leave r => exact ⟨1, by omega, .leave hr⟩
      | again s' =>
          have hlow := lowers hr
          obtain ⟨n, hle, hloops⟩ := ih (s := s') (by omega)
          exact ⟨n + 1, by omega, .again hr hloops⟩

/-- Bounds that are not too low are as good as one another. -/
theorem enough {fuel fuel' : Nat} {s : S} (h : size s < fuel) (h' : size s < fuel') :
    f fuel s = f fuel' s := by
  obtain ⟨n, -, hn⟩ := of_fuel size lowers unrolled h
  obtain ⟨m, -, hm⟩ := of_fuel size lowers unrolled h'
  exact hn.unique hm

end

end Loops

end SqlWire
