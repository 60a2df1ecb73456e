/-!
# Results

A step that may fail comes before another one: the second is taken with what the first gives, and
the first failure is the failure of both.

## Main results

* `bind_eq_ok_iff` — two steps succeed one after the other
* `bind_eq_error_iff` — the first failure of two steps
* `exists_ok_of_mapM`, `exists_mem_of_mapM` — a step that succeeds for a whole list
-/

namespace Patternwright

variable {ε α β : Type} {step : Except ε α} {next : α → Except ε β}

@[simp] theorem ok_bind (a : α) : ((.ok a : Except ε α) >>= next) = next a := rfl

@[simp] theorem error_bind (e : ε) : ((.error e : Except ε α) >>= next) = .error e := rfl

theorem bind_eq_ok_iff {b : β} : step >>= next = .ok b ↔ ∃ a, step = .ok a ∧ next a = .ok b := by
  cases step <;> simp

theorem bind_eq_error_iff {e : ε} :
    step >>= next = .error e ↔ step = .error e ∨ ∃ a, step = .ok a ∧ next a = .error e := by
  cases step <;> simp

/-- A step that is taken for all items of a list has succeeded for each of them. -/
theorem exists_ok_of_mapM {each : α → Except ε β} (items : List α) : ∀ {results : List β},
    items.mapM each = .ok results → ∀ item ∈ items, ∃ result, each item = .ok result := by
  induction items with
  | nil => simp
  | cons item items ih =>
    intro results built
    rw [List.mapM_cons, bind_eq_ok_iff] at built
    obtain ⟨result, first, built⟩ := built
    obtain ⟨later, builtLater, -⟩ := bind_eq_ok_iff.mp built
    exact List.forall_mem_cons.mpr ⟨⟨result, first⟩, ih builtLater⟩

/-- A result of a step that is taken for all items of a list is the one of some item. -/
theorem exists_mem_of_mapM {each : α → Except ε β} (items : List α) :
    ∀ {results : List β}, items.mapM each = .ok results →
      ∀ result ∈ results, ∃ item ∈ items, each item = .ok result := by
  induction items with
  | nil =>
    intro results built result member
    obtain rfl : [] = results := Except.ok.inj built
    cases member
  | cons item items ih =>
    intro results built
    rw [List.mapM_cons, bind_eq_ok_iff] at built
    obtain ⟨first, here, built⟩ := built
    obtain ⟨later, builtLater, built⟩ := bind_eq_ok_iff.mp built
    obtain rfl : first :: later = results := Except.ok.inj built
    refine List.forall_mem_cons.mpr ⟨⟨item, List.mem_cons_self, here⟩, fun result member => ?_⟩
    obtain ⟨other, among, made⟩ := ih builtLater result member
    exact ⟨other, List.mem_cons_of_mem item among, made⟩

end Patternwright
