import Labbook.Error
import Mathlib.Data.List.Forall2

namespace Labbook

namespace Outcome
variable {α β : Type}

theorem bind_eq_ok {x : Outcome α} {f : α → Outcome β} {b : β} :
    (x >>= f) = .ok b ↔ ∃ a, x = .ok a ∧ f a = .ok b := by
  cases x with
  | error e => simp [bind, Except.bind]
  | ok a => simp [bind, Except.bind]

theorem map_eq_ok {x : Outcome α} {f : α → β} {b : β} :
    f <$> x = .ok b ↔ ∃ a, x = .ok a ∧ f a = b := by
  cases x with
  | error e => simp [Functor.map, Except.map]
  | ok a => simp [Functor.map, Except.map]

theorem map_eq_error {x : Outcome α} {f : α → β} {e : PlotError} :
    x.map f = .error e ↔ x = .error e := by
  cases x with
  | error other => simp [Except.map]
  | ok a => simp [Except.map]

theorem mapM_eq_ok {f : α → Outcome β} {xs : List α} {ys : List β} :
    xs.mapM f = .ok ys ↔ List.Forall₂ (fun x y => f x = .ok y) xs ys := by
  induction xs generalizing ys with
  | nil => cases ys <;> simp [pure, Except.pure]
  | cons x xs ih =>
    rw [List.mapM_cons, bind_eq_ok]
    constructor
    · rintro ⟨y, first, rest⟩
      obtain ⟨others, more, built⟩ := bind_eq_ok.mp rest
      cases built
      exact .cons first (ih.mp more)
    · intro all
      cases all with
      | cons first more => exact ⟨_, first, bind_eq_ok.mpr ⟨_, ih.mpr more, rfl⟩⟩

theorem mem_of_mapM {f : α → Outcome β} {xs : List α} {ys : List β} (done : xs.mapM f = .ok ys) :
    ∀ y ∈ ys, ∃ x ∈ xs, f x = .ok y := by
  intro y member
  induction mapM_eq_ok.mp done with
  | nil => cases member
  | cons first more ih =>
    rcases List.mem_cons.mp member with rfl | later
    · exact ⟨_, List.mem_cons_self, first⟩
    · obtain ⟨x, listed, step⟩ := ih (mapM_eq_ok.mpr more) later
      exact ⟨x, List.mem_cons_of_mem _ listed, step⟩

theorem getLast?_of_mapM {f : α → Outcome β} {xs : List α} {ys : List β} {x : α}
    (done : xs.mapM f = .ok ys) (last : xs.getLast? = some x) :
    ∃ y, ys.getLast? = some y ∧ f x = .ok y := by
  induction mapM_eq_ok.mp done with
  | nil => cases last
  | @cons a b others results first more ih =>
    cases more with
    | nil =>
      cases last
      exact ⟨b, rfl, first⟩
    | cons second rest =>
      rw [List.getLast?_cons_cons] at last ⊢
      exact ih (mapM_eq_ok.mpr (.cons second rest)) last

theorem exists_of_isOk {x : Outcome α} (succeeds : x.isOk = true) : ∃ a, x = .ok a := by
  cases x with
  | error e => cases succeeds
  | ok a => exact ⟨a, rfl⟩

-- Whatever goes wrong, goes wrong for a reason. Nothing is said of a step that succeeds.
def FailsOnly (x : Outcome α) (reason : PlotError → Prop) : Prop := ∀ e, x = .error e → reason e

variable {reason : PlotError → Prop}

theorem FailsOnly.ok (a : α) : FailsOnly (.ok a) reason := by
  intro e failed
  cases failed

theorem FailsOnly.error {e : PlotError} (holds : reason e) :
    FailsOnly (.error e : Outcome α) reason := by
  intro other failed
  cases failed
  exact holds

-- What the first step gave is known to the second.
theorem FailsOnly.bind {x : Outcome α} {f : α → Outcome β} (first : FailsOnly x reason)
    (next : ∀ a, x = .ok a → FailsOnly (f a) reason) : FailsOnly (x >>= f) reason := by
  cases step : x with
  | error e =>
    intro other failed
    cases failed
    exact first e step
  | ok a => exact next a step

theorem FailsOnly.mapM {f : α → Outcome β} {xs : List α}
    (each : ∀ x ∈ xs, FailsOnly (f x) reason) : FailsOnly (xs.mapM f) reason := by
  induction xs with
  | nil => exact .ok _
  | cons x xs ih =>
    rw [List.mapM_cons]
    refine .bind (each x List.mem_cons_self) fun _ _ => .bind (ih fun y later => ?_) fun _ _ => .ok _
    exact each y (List.mem_cons_of_mem _ later)

theorem FailsOnly.mono {x : Outcome α} {broader : PlotError → Prop} (fails : FailsOnly x reason)
    (wider : ∀ e, reason e → broader e) : FailsOnly x broader :=
  fun e failed => wider e (fails e failed)

end Outcome

end Labbook
