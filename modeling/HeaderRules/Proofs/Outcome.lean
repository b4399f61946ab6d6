import Mathlib.Data.List.Forall2
/-!
# Outcomes

How a computation that may fail comes apart: what its steps gave, once it is known what the whole
gave.
-/

namespace HeaderRules.Outcome

variable {ε ε' α β : Type}

@[simp] theorem ok_bind (a : α) (f : α → Except ε β) : (Except.ok a >>= f) = f a := rfl

@[simp] theorem error_bind (e : ε) (f : α → Except ε β) :
    ((Except.error e : Except ε α) >>= f) = .error e := rfl

@[simp] theorem pure_eq (a : α) : (pure a : Except ε α) = .ok a := rfl

@[simp] theorem throw_eq (e : ε) : (throw e : Except ε α) = .error e := rfl

@[simp] theorem map_ok (f : α → β) (a : α) : (Except.ok a : Except ε α).map f = .ok (f a) := rfl

@[simp] theorem map_error (f : α → β) (e : ε) :
    (Except.error e : Except ε α).map f = .error e := rfl

@[simp] theorem mapError_ok (f : ε → ε') (a : α) : (Except.ok a).mapError f = .ok a := rfl

@[simp] theorem mapError_error (f : ε → ε') (e : ε) :
    (Except.error e : Except ε α).mapError f = .error (f e) := rfl

theorem bind_eq_ok {x : Except ε α} {f : α → Except ε β} {b : β} :
    (x >>= f) = .ok b ↔ ∃ a, x = .ok a ∧ f a = .ok b := by
  cases x <;> simp

theorem of_ite_eq_ok {c : Prop} [Decidable c] {x y : Except ε α} {a : α} {p : Prop}
    (h : (if c then x else y) = .ok a) (hx : x = .ok a → p) (hy : y = .ok a → p) : p := by
  by_cases hc : c
  · rw [if_pos hc] at h
    exact hx h
  · rw [if_neg hc] at h
    exact hy h

theorem mapError_eq_ok {x : Except ε α} {f : ε → ε'} {a : α} :
    x.mapError f = .ok a ↔ x = .ok a := by
  cases x <;> simp

theorem forM_eq_ok {xs : List α} {f : α → Except ε Unit} :
    xs.forM f = .ok () ↔ ∀ x ∈ xs, f x = .ok () := by
  induction xs with
  | nil => simp [List.forM]
  | cons x rest ih =>
    rw [List.forM, bind_eq_ok]
    constructor
    · rintro ⟨⟨⟩, hx, hrest⟩
      simpa using ⟨hx, ih.1 hrest⟩
    · intro h
      exact ⟨(), h x (by simp), ih.2 fun y hy => h y (by simp [hy])⟩

theorem exists_of_forM_eq_error {xs : List α} {f : α → Except ε Unit} {e : ε}
    (h : xs.forM f = .error e) : ∃ x ∈ xs, f x = .error e := by
  induction xs with
  | nil => cases h
  | cons x rest ih =>
    rw [List.forM] at h
    cases hx : f x with
    | error other =>
      rw [hx, error_bind] at h
      exact ⟨x, by simp, by rw [hx, Except.error.inj h]⟩
    | ok a =>
      rw [hx, ok_bind] at h
      obtain ⟨y, hy, hfault⟩ := ih h
      exact ⟨y, by simp [hy], hfault⟩

theorem mapM_map_eq_ok {γ : Type} {f : β → Except ε γ} {g : α → β} {k : α → γ} {xs : List α}
    (h : ∀ x ∈ xs, f (g x) = .ok (k x)) : (xs.map g).mapM f = .ok (xs.map k) := by
  induction xs with
  | nil => rfl
  | cons x rest ih =>
    have hx : f (g x) = .ok (k x) := h x (by simp)
    have hrest : (rest.map g).mapM f = .ok (rest.map k) := ih fun y hy => h y (by simp [hy])
    rw [List.map_cons, List.mapM_cons, hx, ok_bind, hrest, ok_bind, pure_eq, List.map_cons]

theorem mapM_eq_ok_iff {f : α → Except ε β} {xs : List α} {ys : List β} :
    xs.mapM f = .ok ys ↔ List.Forall₂ (fun x y => f x = .ok y) xs ys := by
  induction xs generalizing ys with
  | nil => rw [List.forall₂_nil_left_iff, List.mapM_nil, pure_eq, Except.ok.injEq, eq_comm]
  | cons x rest ih =>
    rw [List.forall₂_cons_left_iff, List.mapM_cons, bind_eq_ok]
    constructor
    · rintro ⟨y, hy, h⟩
      obtain ⟨others, hothers, h⟩ := bind_eq_ok.1 h
      exact ⟨y, others, hy, ih.1 hothers, (Except.ok.inj h).symm⟩
    · rintro ⟨y, others, hy, hothers, rfl⟩
      exact ⟨y, hy, bind_eq_ok.2 ⟨others, ih.2 hothers, rfl⟩⟩

theorem exists_of_mapM_eq_ok {f : α → Except ε β} {xs : List α} {ys : List β}
    (h : xs.mapM f = .ok ys) {y : β} (hy : y ∈ ys) : ∃ x ∈ xs, f x = .ok y := by
  rw [mapM_eq_ok_iff] at h
  induction h with
  | nil => cases hy
  | cons hfirst _ ih =>
    rcases List.mem_cons.1 hy with rfl | hy
    · exact ⟨_, by simp, hfirst⟩
    · obtain ⟨source, hsource, heq⟩ := ih hy
      exact ⟨source, by simp [hsource], heq⟩

theorem exists_mapM_eq_ok_iff {f : α → Except ε β} {xs : List α} :
    (∃ ys, xs.mapM f = .ok ys) ↔ ∀ x ∈ xs, ∃ y, f x = .ok y := by
  induction xs with
  | nil => exact ⟨nofun, fun _ => ⟨[], rfl⟩⟩
  | cons x rest ih => simp [List.mapM_cons, bind_eq_ok, ← ih]

theorem map_eq_self_of_mapM_eq_ok {f : α → Except ε β} {k : β → β} {xs : List α} {ys : List β}
    (h : xs.mapM f = .ok ys) (hk : ∀ x y, f x = .ok y → k y = y) : ys.map k = ys := by
  have hsame : ys.map k = ys.map fun y => y := by
    refine List.map_congr_left fun y hy => ?_
    obtain ⟨x, -, hx⟩ := exists_of_mapM_eq_ok h hy
    exact hk x y hx
  rw [hsame, List.map_id']

/-- What is found among results is the result of what is found. -/
theorem find?_of_mapM_eq_ok {f : α → Except ε β} {p : β → Bool} {q : α → Bool} {xs : List α}
    {ys : List β} (h : xs.mapM f = .ok ys) (hpq : ∀ x y, f x = .ok y → p y = q x) :
    ys.find? p = (xs.find? q).bind fun x => (f x).toOption := by
  rw [mapM_eq_ok_iff] at h
  induction h with
  | nil => rfl
  | cons hfirst _ ih =>
    rw [List.find?_cons, List.find?_cons, hpq _ _ hfirst]
    split
    · rw [Option.bind_some, hfirst]
      rfl
    · exact ih

end HeaderRules.Outcome
