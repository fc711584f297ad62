set_option autoImplicit false

namespace QueryWorkload.Outcome

variable {ε φ α β : Type}

@[simp] theorem ok_bind (a : α) (f : α → Except ε β) : (Except.ok a >>= f) = f a := rfl

@[simp] theorem error_bind (e : ε) (f : α → Except ε β) :
    (Except.error e >>= f) = Except.error e := rfl

theorem pure_eq_ok {a b : α} : (pure a : Except ε α) = .ok b ↔ a = b := by
  simp [pure, Except.pure]

theorem bind_eq_ok {m : Except ε α} {f : α → Except ε β} {b : β} :
    (m >>= f) = .ok b ↔ ∃ a, m = .ok a ∧ f a = .ok b := by
  cases m with
  | error e => simp
  | ok a => simp

theorem bind_eq_error {m : Except ε α} {f : α → Except ε β} {e : ε} :
    (m >>= f) = .error e ↔ m = .error e ∨ ∃ a, m = .ok a ∧ f a = .error e := by
  cases m with
  | error e => simp
  | ok a => simp

@[simp] theorem mapError_ok (a : α) (f : ε → φ) :
    (Except.ok a : Except ε α).mapError f = .ok a := rfl

@[simp] theorem mapError_error (e : ε) (f : ε → φ) :
    (Except.error e : Except ε α).mapError f = .error (f e) := rfl

theorem mapError_eq_ok {m : Except ε α} {f : ε → φ} {a : α} : m.mapError f = .ok a ↔ m = .ok a := by
  cases m with
  | error e => simp
  | ok b => simp

theorem mapError_eq_error {m : Except ε α} {f : ε → φ} {e : φ} :
    m.mapError f = .error e ↔ ∃ cause, m = .error cause ∧ f cause = e := by
  cases m with
  | error e => simp
  | ok a => simp

theorem map_eq_ok {m : Except ε α} {f : α → β} {b : β} :
    m.map f = .ok b ↔ ∃ a, m = .ok a ∧ f a = b := by
  cases m with
  | error e => simp [Except.map]
  | ok a => simp [Except.map]

theorem exists_of_isOk {m : Except ε α} (done : m.isOk = true) : ∃ a, m = .ok a := by
  cases m with
  | error e => cases done
  | ok a => exact ⟨a, rfl⟩

theorem isOk_eq_of_error_iff {m : Except ε α} {n : Except ε β}
    (same : ∀ e, m = .error e ↔ n = .error e) : m.isOk = n.isOk := by
  cases m with
  | error e => rw [(same e).1 rfl]; rfl
  | ok a =>
    cases n with
    | error e => exact absurd ((same e).2 rfl) nofun
    | ok b => rfl

theorem bind_unit_eq_ok {m : Except ε Unit} {f : Except ε β} {b : β} :
    (m >>= fun _ => f) = .ok b ↔ m = .ok () ∧ f = .ok b := by
  cases m with
  | error e => simp
  | ok a => simp

theorem bind_unit_eq_error {m : Except ε Unit} {f : Except ε β} {e : ε} :
    (m >>= fun _ => f) = .error e ↔ m = .error e ∨ m = .ok () ∧ f = .error e := by
  cases m with
  | error e => simp
  | ok a => simp

theorem discard_bind_eq_ok {m : Except ε α} {f : Except ε β} {b : β} :
    (discard m >>= fun _ => f) = .ok b ↔ (∃ a, m = .ok a) ∧ f = .ok b := by
  cases m with
  | error e =>
    have failed : (discard (.error e : Except ε α) >>= fun _ => f) = .error e := rfl
    simp [failed]
  | ok a =>
    have passed : (discard (.ok a : Except ε α) >>= fun _ => f) = f := rfl
    simp [passed]

theorem discard_bind_eq_error {m : Except ε α} {f : Except ε β} {e : ε} :
    (discard m >>= fun _ => f) = .error e ↔ m = .error e ∨ (∃ a, m = .ok a) ∧ f = .error e := by
  cases m with
  | error e =>
    have failed : (discard (.error e : Except ε α) >>= fun _ => f) = .error e := rfl
    simp [failed]
  | ok a =>
    have passed : (discard (.ok a : Except ε α) >>= fun _ => f) = f := rfl
    simp [passed]

theorem bind_of_eq_some {m : Option α} {a : α} {f : α → Option β} {b? : Option β}
    (found : m = some a) (later : f a = b?) : (m >>= f) = b? := by
  rw [found]
  exact later

def FailsOnly (P : ε → Prop) (m : Except ε α) : Prop :=
  ∀ e, m = .error e → P e

theorem failsOnly_ok (P : ε → Prop) (a : α) : FailsOnly P (.ok a) :=
  fun _ failed => by cases failed

theorem failsOnly_error {P : ε → Prop} {e : ε} (meets : P e) :
    FailsOnly P (.error e : Except ε α) := by
  rintro _ ⟨⟩
  exact meets

theorem FailsOnly.bind {P : ε → Prop} {m : Except ε α} {f : α → Except ε β}
    (first : FailsOnly P m) (later : ∀ a, FailsOnly P (f a)) : FailsOnly P (m >>= f) := by
  cases m with
  | error e => exact failsOnly_error (first e rfl)
  | ok a => exact later a

theorem failsOnly_mapError {P : φ → Prop} {m : Except ε α} {f : ε → φ} :
    FailsOnly P (m.mapError f) ↔ FailsOnly (fun e => P (f e)) m := by
  cases m with
  | error e =>
    constructor
    · intro meets
      exact failsOnly_error (meets _ rfl)
    · intro meets
      exact failsOnly_error (P := P) (meets _ rfl)
  | ok a => exact ⟨fun _ => failsOnly_ok _ a, fun _ => failsOnly_ok _ a⟩

end QueryWorkload.Outcome
