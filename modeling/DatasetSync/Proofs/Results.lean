/-
Steps that can fail, taken apart.

Most of what the library does is a chain of steps, each of which gives a value or
a reason.  A chain that came out well is one in which every step came out well,
and marking a failure with an activity turns no failure into a success.  These are
the only facts about results that the later proofs use.
-/
import DatasetSync.Failure

namespace DatasetSync

variable {ε ε' α β : Type}

@[simp] theorem ok_bind {a : α} {f : α → Except ε β} : (Except.ok a >>= f) = f a := rfl

@[simp] theorem error_bind {e : ε} {f : α → Except ε β} :
    ((Except.error e : Except ε α) >>= f) = .error e := rfl

@[simp] theorem pure_eq_ok {a : α} : (pure a : Except ε α) = .ok a := rfl

/-- A chain comes out well exactly if both its steps do. -/
theorem bind_eq_ok {x : Except ε α} {f : α → Except ε β} {b : β} :
    x >>= f = .ok b ↔ ∃ a, x = .ok a ∧ f a = .ok b := by
  cases x with
  | error e => simp
  | ok a => simp

/-- A chain fails exactly if one of its steps does. -/
theorem bind_eq_error {x : Except ε α} {f : α → Except ε β} {e : ε} :
    x >>= f = .error e ↔ x = .error e ∨ ∃ a, x = .ok a ∧ f a = .error e := by
  cases x with
  | error e => simp
  | ok a => simp

theorem map_eq_ok {x : Except ε α} {f : α → β} {b : β} :
    x.map f = .ok b ↔ ∃ a, x = .ok a ∧ f a = b := by
  cases x with
  | error e => simp [Except.map]
  | ok a => simp [Except.map]

theorem map_eq_error {x : Except ε α} {f : α → β} {e : ε} :
    x.map f = .error e ↔ x = .error e := by
  cases x with
  | error e => simp [Except.map]
  | ok a => simp [Except.map]

theorem toOption_eq_some_iff {x : Except ε α} {a : α} : x.toOption = some a ↔ x = .ok a := by
  cases x with
  | error e => simp [Except.toOption]
  | ok a => simp [Except.toOption]

theorem mapError_ok {a : α} {f : ε → ε'} : (Except.ok a).mapError f = .ok a := rfl

theorem mapError_error {e : ε} {f : ε → ε'} :
    (Except.error e : Except ε α).mapError f = .error (f e) := rfl

theorem mapError_eq_ok {x : Except ε α} {f : ε → ε'} {a : α} :
    x.mapError f = .ok a ↔ x = .ok a := by
  cases x with
  | error e => simp [mapError_error]
  | ok a => simp [mapError_ok]

theorem mapError_eq_error {x : Except ε α} {f : ε → ε'} {e : ε'} :
    x.mapError f = .error e ↔ ∃ inner, x = .error inner ∧ f inner = e := by
  cases x with
  | error e => simp [mapError_error]
  | ok a => simp [mapError_ok]

theorem during_eq_ok {activity : Activity} {x : Except Failure α} {a : α} :
    during activity x = .ok a ↔ x = .ok a :=
  mapError_eq_ok

/-- A step that comes out well for each item of a list comes out well for the list. -/
theorem mapM_eq_ok {f : α → Except ε β} {g : α → β} {items : List α}
    (h : ∀ a ∈ items, f a = .ok (g a)) : items.mapM f = .ok (items.map g) := by
  induction items with
  | nil => rfl
  | cons a rest ih =>
      rw [List.mapM_cons, h a (by simp), ih fun b hb => h b (by simp [hb])]
      rfl

/-! ### Messages -/

/-- Every cause has something to say. -/
theorem Cause.chain_ne_nil (cause : Cause) : cause.chain ≠ [] := by
  cases cause with
  | database fault =>
      show fault.chain ≠ []
      unfold Database.Fault.chain
      split <;> simp
  | network fault => cases fault <;> simp [chain, Network.Fault.chain]
  | _ => simp [chain]

/-- A further activity stands in front of the message. -/
theorem Failure.message_within (activity : Activity) (f : Failure) :
    (f.within activity).message = activity.message ++ ": " ++ f.message := by
  have hchain : f.chain ≠ [] := by simp [chain, f.cause.chain_ne_nil]
  exact String.intercalate_cons_of_ne_nil hchain

end DatasetSync
