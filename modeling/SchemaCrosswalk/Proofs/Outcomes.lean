/-!
# Outcomes — computations that fail or succeed, one after the other

* `bind_eq_ok_iff`: two computations in a row succeed if both do
* `mapM_eq_map_of_ok`: what is computed from every item of a list
* `exists_mapM_ok_iff`, `exists_foldlM_ok_iff`: computations for all items of a list succeed if the
  one for every single item does
* `foldlM_iff`: what is true after many steps, each of which makes it true or leaves it as it was
* `filterM_eq_ok_iff`, `filterM_eq_error_iff`: items that are accepted one after the other, and the
  first of them that cannot be decided on
-/

namespace SchemaCrosswalk

variable {ε α β σ ι : Type}

theorem eq_ok_of_toOption {e : Except ε α} {a : α} (h : e.toOption = some a) : e = .ok a := by
  cases e with
  | error problem => cases h
  | ok found => exact congrArg Except.ok (Option.some_inj.1 h)

theorem bind_eq_ok_iff {e : Except ε α} {k : α → Except ε β} {b : β} :
    (e >>= k) = .ok b ↔ ∃ a, e = .ok a ∧ k a = .ok b := by
  cases e with
  | error problem =>
      constructor
      · intro h
        cases h
      · rintro ⟨a, h, -⟩
        cases h
  | ok a =>
      constructor
      · intro h
        exact ⟨a, rfl, h⟩
      · rintro ⟨a', h, hk⟩
        cases h
        exact hk

theorem exists_bind_ok_iff {e : Except ε α} {k : α → Except ε β} :
    (∃ b, (e >>= k) = .ok b) ↔ ∃ a, e = .ok a ∧ ∃ b, k a = .ok b := by
  simp only [bind_eq_ok_iff]
  constructor
  · rintro ⟨b, a, ha, hb⟩
    exact ⟨a, ha, b, hb⟩
  · rintro ⟨a, ha, b, hb⟩
    exact ⟨b, a, ha, hb⟩

theorem mapM_eq_map_of_ok {f : α → Except ε β} {g : α → β} (hf : ∀ a b, f a = .ok b → b = g a)
    {items : List α} {results : List β} (h : items.mapM f = .ok results) :
    results = items.map g := by
  induction items generalizing results with
  | nil =>
      rw [List.mapM_nil] at h
      exact (Except.ok.inj h).symm
  | cons a items ih =>
      rw [List.mapM_cons] at h
      obtain ⟨b, hb, hrest⟩ := bind_eq_ok_iff.1 h
      obtain ⟨bs, hbs, hresults⟩ := bind_eq_ok_iff.1 hrest
      cases hresults
      rw [hf a b hb, ih hbs]
      rfl

/-- What has been computed from the items of a list was computed from one of them. -/
theorem exists_mem_of_mem_mapM {f : α → Except ε β} {items : List α} {results : List β} {b : β}
    (h : items.mapM f = .ok results) (hb : b ∈ results) : ∃ a ∈ items, f a = .ok b := by
  induction items generalizing results with
  | nil =>
      rw [List.mapM_nil] at h
      cases h
      cases hb
  | cons a items ih =>
      rw [List.mapM_cons] at h
      obtain ⟨first, hfirst, hrest⟩ := bind_eq_ok_iff.1 h
      obtain ⟨others, hothers, hresults⟩ := bind_eq_ok_iff.1 hrest
      cases hresults
      rcases List.mem_cons.1 hb with rfl | hb
      · exact ⟨a, List.mem_cons_self, hfirst⟩
      · rcases ih hothers hb with ⟨a', ha', hcomputed⟩
        exact ⟨a', List.mem_cons_of_mem a ha', hcomputed⟩

theorem mapError_eq_ok_iff {ε' : Type} {e : Except ε α} {f : ε → ε'} {a : α} :
    e.mapError f = .ok a ↔ e = .ok a := by
  cases e with
  | error problem => exact iff_of_false (fun h => by cases h) fun h => by cases h
  | ok found =>
      show Except.ok found = Except.ok a ↔ _
      rw [Except.ok.injEq, Except.ok.injEq]

/-- Something can be computed from the items of a list if it can be from every single one. -/
theorem exists_mapM_ok_iff {f : α → Except ε β} {items : List α} :
    (∃ results, items.mapM f = .ok results) ↔ ∀ a ∈ items, ∃ b, f a = .ok b := by
  induction items with
  | nil => simp [pure, Except.pure]
  | cons a items ih =>
      rw [List.mapM_cons, exists_bind_ok_iff, List.forall_mem_cons, ← ih]
      constructor
      · rintro ⟨b, hb, hmore⟩
        obtain ⟨bs, hbs, -⟩ := exists_bind_ok_iff.1 hmore
        exact ⟨⟨b, hb⟩, bs, hbs⟩
      · rintro ⟨⟨b, hb⟩, bs, hbs⟩
        exact ⟨b, hb, exists_bind_ok_iff.2 ⟨bs, hbs, b :: bs, rfl⟩⟩

/-- Something is true after steps for all items of a list if it was true before or one of the items
made it true, given that this is so for every single step. -/
theorem foldlM_iff (holds : σ → Prop) {step : σ → ι → Except ε σ} {makes : ι → Prop}
    (hstep : ∀ s i s', step s i = .ok s' → (holds s' ↔ holds s ∨ makes i)) {items : List ι}
    {s s' : σ} (h : items.foldlM step s = .ok s') : holds s' ↔ holds s ∨ ∃ i ∈ items, makes i := by
  induction items generalizing s with
  | nil =>
      rw [List.foldlM_nil] at h
      cases h
      simp
  | cons i items ih =>
      rw [List.foldlM_cons] at h
      obtain ⟨s₁, hfirst, hrest⟩ := bind_eq_ok_iff.1 h
      calc holds s'
          ↔ holds s₁ ∨ ∃ j ∈ items, makes j := ih hrest
        _ ↔ (holds s ∨ makes i) ∨ ∃ j ∈ items, makes j := by rw [hstep s i s₁ hfirst]
        _ ↔ holds s ∨ ∃ j ∈ i :: items, makes j := by simp [or_assoc]

/-- All steps succeed if every item of the list allows its step, whatever the state. -/
theorem exists_foldlM_ok_iff {step : σ → ι → Except ε σ} {allowed : ι → Prop}
    (hstep : ∀ s i, (∃ s', step s i = .ok s') ↔ allowed i) {items : List ι} {s : σ} :
    (∃ s', items.foldlM step s = .ok s') ↔ ∀ i ∈ items, allowed i := by
  induction items generalizing s with
  | nil => simp [pure, Except.pure]
  | cons i items ih =>
      rw [List.foldlM_cons, exists_bind_ok_iff, List.forall_mem_cons, ← hstep s i]
      simp only [ih, exists_and_right]

/-! ## Items that are accepted or refused one after the other -/

/-- Whether something is accepted; it is not if that cannot be decided. -/
def isAccepted (decided : Except ε Bool) : Bool := decided.toOption.getD false

theorem filterAuxM_cons {accepts : α → Except ε Bool} (a : α) (items kept : List α) :
    (a :: items).filterAuxM accepts kept =
      accepts a >>= fun accepted => items.filterAuxM accepts (cond accepted (a :: kept) kept) :=
  rfl

theorem filterAuxM_eq_ok_iff {accepts : α → Except ε Bool} {items kept result : List α} :
    items.filterAuxM accepts kept = .ok result ↔
      (∀ a ∈ items, ∃ accepted, accepts a = .ok accepted) ∧
        result = (items.filter fun a => isAccepted (accepts a)).reverse ++ kept := by
  induction items generalizing kept with
  | nil =>
      show Except.ok kept = .ok result ↔ _
      simp [eq_comm]
  | cons a items ih =>
      rw [filterAuxM_cons, List.forall_mem_cons]
      cases hfirst : accepts a with
      | error problem =>
          refine iff_of_false (fun h => ?_) fun h => ?_
          · cases h
          · obtain ⟨⟨accepted, hok⟩, -⟩ := h.1
            cases hok
      | ok accepted =>
          show items.filterAuxM accepts (cond accepted (a :: kept) kept) = .ok result ↔ _
          rw [ih]
          cases accepted with
          | false => simp [hfirst, isAccepted, Except.toOption]
          | true => simp [hfirst, isAccepted, Except.toOption]

/-- Items can be filtered if every one of them can be decided on. -/
theorem filterM_eq_ok_iff {accepts : α → Except ε Bool} {items result : List α} :
    items.filterM accepts = .ok result ↔
      (∀ a ∈ items, ∃ accepted, accepts a = .ok accepted) ∧
        result = items.filter fun a => isAccepted (accepts a) := by
  unfold List.filterM
  rw [bind_eq_ok_iff]
  constructor
  · rintro ⟨reversed, hreversed, hresult⟩
    obtain ⟨hall, rfl⟩ := filterAuxM_eq_ok_iff.1 hreversed
    cases hresult
    rw [List.append_nil, List.reverse_reverse]
    exact ⟨hall, rfl⟩
  · rintro ⟨hall, rfl⟩
    refine ⟨_, filterAuxM_eq_ok_iff.2 ⟨hall, rfl⟩, ?_⟩
    rw [List.append_nil, List.reverse_reverse]
    rfl

theorem filterAuxM_eq_error_iff {accepts : α → Except ε Bool} {items kept : List α} {problem : ε} :
    items.filterAuxM accepts kept = .error problem ↔
      ∃ before a after, items = before ++ a :: after ∧
        (∀ b ∈ before, ∃ accepted, accepts b = .ok accepted) ∧ accepts a = .error problem := by
  induction items generalizing kept with
  | nil =>
      refine iff_of_false (fun h => ?_) fun ⟨before, a, after, h, _⟩ => ?_
      · cases h
      · cases before <;> cases h
  | cons a items ih =>
      rw [filterAuxM_cons]
      simp only [List.cons_eq_append_iff]
      cases hfirst : accepts a with
      | error problem' =>
          show Except.error problem' = .error problem ↔ _
          rw [Except.error.injEq]
          constructor
          · rintro rfl
            exact ⟨[], a, items, Or.inl ⟨rfl, rfl⟩, fun b hb => absurd hb List.not_mem_nil, hfirst⟩
          · rintro ⟨before, x, after, ⟨rfl, h⟩ | ⟨rest, rfl, -⟩, hbefore, hx⟩
            · cases h
              rw [hfirst] at hx
              exact Except.error.inj hx
            · -- An item that cannot be decided on is not among those before the first one.
              obtain ⟨accepted, hok⟩ := hbefore a List.mem_cons_self
              rw [hfirst] at hok
              cases hok
      | ok accepted =>
          show items.filterAuxM accepts (cond accepted (a :: kept) kept) = .error problem ↔ _
          rw [ih]
          constructor
          · rintro ⟨before, x, after, rfl, hbefore, hx⟩
            exact ⟨a :: before, x, after, Or.inr ⟨before, rfl, rfl⟩,
              List.forall_mem_cons.2 ⟨⟨accepted, hfirst⟩, hbefore⟩, hx⟩
          · rintro ⟨before, x, after, ⟨rfl, h⟩ | ⟨rest, rfl, rfl⟩, hbefore, hx⟩
            · cases h
              rw [hfirst] at hx
              cases hx
            · exact ⟨rest, x, after, rfl, (List.forall_mem_cons.1 hbefore).2, hx⟩

/-- The first item that cannot be decided on keeps all of them from being filtered. -/
theorem filterM_eq_error_iff {accepts : α → Except ε Bool} {items : List α} {problem : ε} :
    items.filterM accepts = .error problem ↔
      ∃ before a after, items = before ++ a :: after ∧
        (∀ b ∈ before, ∃ accepted, accepts b = .ok accepted) ∧ accepts a = .error problem := by
  rw [← @filterAuxM_eq_error_iff ε α accepts items [] problem]
  unfold List.filterM
  cases items.filterAuxM accepts [] with
  | error problem' => rfl
  | ok reversed => exact iff_of_false (fun h => by cases h) fun h => by cases h

end SchemaCrosswalk
