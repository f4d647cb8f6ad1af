import Mathlib.Data.List.Forall2
/-! Chains of results that may fail: what the success of a whole chain says about its parts. -/

namespace SchemaText.Export

variable {ε α β γ δ : Type}

theorem exists_of_bind {x : Except ε α} {f : α → Except ε β} {b : β} (h : (x >>= f) = .ok b) :
    ∃ a, x = .ok a ∧ f a = .ok b := by
  cases x with
  | error e => cases h
  | ok a => exact ⟨a, rfl, h⟩

theorem map_eq_ok_iff {x : Except ε α} {f : α → β} {b : β} :
    (do return f (← x)) = Except.ok b ↔ ∃ a, x = .ok a ∧ f a = b := by
  constructor
  · intro h
    obtain ⟨a, ha, h⟩ := exists_of_bind h
    exact ⟨a, ha, Except.ok.inj h⟩
  · rintro ⟨a, rfl, rfl⟩
    rfl

theorem eq_ok_of_mapError {ε' : Type} {x : Except ε α} {f : ε → ε'} {a : α}
    (h : x.mapError f = .ok a) : x = .ok a := by
  cases x with
  | error e => cases h
  | ok b => exact congrArg Except.ok (Except.ok.inj h)

theorem exists_cons_of_mapM {f : α → Except ε β} {x : α} {xs : List α} {ys : List β}
    (h : (x :: xs).mapM f = .ok ys) :
    ∃ y rest, f x = .ok y ∧ xs.mapM f = .ok rest ∧ ys = y :: rest := by
  rw [List.mapM_cons] at h
  obtain ⟨y, hy, h⟩ := exists_of_bind h
  obtain ⟨rest, hrest, h⟩ := exists_of_bind h
  exact ⟨y, rest, hy, hrest, (Except.ok.inj h).symm⟩

theorem exists_append_of_mapM {f : α → Except ε β} {xs xs' : List α} {ys : List β}
    (h : (xs ++ xs').mapM f = .ok ys) :
    ∃ front back, xs.mapM f = .ok front ∧ xs'.mapM f = .ok back ∧ ys = front ++ back := by
  rw [List.mapM_append] at h
  obtain ⟨front, hfront, h⟩ := exists_of_bind h
  obtain ⟨back, hback, h⟩ := exists_of_bind h
  exact ⟨front, back, hfront, hback, (Except.ok.inj h).symm⟩

theorem holds_of_foldlM_mem {f : β → α → Except ε β} {P : β → Prop} {xs : List α} {b c : β}
    (step : ∀ b, ∀ x ∈ xs, ∀ c, P b → f b x = .ok c → P c) (h : P b)
    (k : xs.foldlM f b = .ok c) : P c := by
  induction xs generalizing b with
  | nil =>
    obtain rfl := Except.ok.inj k
    exact h
  | cons x xs ih =>
    rw [List.foldlM_cons] at k
    obtain ⟨middle, hmiddle, k⟩ := exists_of_bind k
    exact ih (fun b x hx => step b x (List.mem_cons_of_mem _ hx))
      (step b x List.mem_cons_self middle h hmiddle) k

theorem holds_of_foldlM {f : β → α → Except ε β} {P : β → Prop} {xs : List α} {b c : β}
    (step : ∀ b x c, P b → f b x = .ok c → P c) (h : P b) (k : xs.foldlM f b = .ok c) : P c :=
  holds_of_foldlM_mem (fun b x _ => step b x) h k

theorem forall₂_of_mapM {f : α → Except ε β} {xs : List α} {ys : List β}
    (h : xs.mapM f = .ok ys) : List.Forall₂ (fun x y => f x = .ok y) xs ys := by
  induction xs generalizing ys with
  | nil =>
    obtain rfl : [] = ys := Except.ok.inj h
    exact .nil
  | cons x xs ih =>
    obtain ⟨y, rest, hy, hrest, rfl⟩ := exists_cons_of_mapM h
    exact .cons hy (ih hrest)

section Related

variable {R : α → β → Prop} {xs : List α} {ys : List β}

theorem map_eq_of_forall₂ {f : α → γ} {g : β → γ} (h : List.Forall₂ R xs ys)
    (k : ∀ x y, R x y → f x = g y) : xs.map f = ys.map g := by
  induction h with
  | nil => rfl
  | cons hxy _ ih => rw [List.map_cons, List.map_cons, k _ _ hxy, ih]

theorem exists_left_of_mem (h : List.Forall₂ R xs ys) {y : β} (hy : y ∈ ys) :
    ∃ x ∈ xs, R x y := by
  induction h with
  | nil => cases hy
  | @cons x _ _ _ hxy _ ih =>
    rcases List.mem_cons.1 hy with rfl | hy
    · exact ⟨x, List.mem_cons_self, hxy⟩
    · obtain ⟨other, ho, hr⟩ := ih hy
      exact ⟨other, List.mem_cons_of_mem _ ho, hr⟩

theorem find?_related {p : α → Bool} {q : β → Bool} (h : List.Forall₂ R xs ys)
    (k : ∀ x y, R x y → p x = q y) :
    xs.find? p = none ∧ ys.find? q = none ∨
      ∃ x y, xs.find? p = some x ∧ ys.find? q = some y ∧ R x y := by
  induction h with
  | nil => exact .inl ⟨rfl, rfl⟩
  | @cons x y xs ys hxy _ ih =>
    rw [List.find?_cons, List.find?_cons, k x y hxy]
    cases q y with
    | true => exact .inr ⟨x, y, rfl, rfl, hxy⟩
    | false => exact ih

end Related

theorem exists_written_of_forall₂ {R : α → String → Prop} {xs : List α} {ys : List String}
    (h : List.Forall₂ R xs ys) {chars : γ → List Char} {view : γ → δ} {seen : α → δ}
    (k : ∀ x ∈ xs, ∀ y, R x y → ∃ z, chars z = y.toList ∧ view z = seen x) :
    ∃ zs : List γ, zs.map chars = ys.map String.toList ∧ zs.map view = xs.map seen := by
  induction h with
  | nil => exact ⟨[], rfl, rfl⟩
  | @cons x y xs ys hxy _ ih =>
    obtain ⟨z, hz, hv⟩ := k x List.mem_cons_self y hxy
    obtain ⟨zs, hzs, hvs⟩ := ih fun x' hx => k x' (List.mem_cons_of_mem _ hx)
    refine ⟨z :: zs, ?_, ?_⟩
    · rw [List.map_cons, hz, hzs, List.map_cons]
    · rw [List.map_cons, hv, hvs, List.map_cons]

end SchemaText.Export
