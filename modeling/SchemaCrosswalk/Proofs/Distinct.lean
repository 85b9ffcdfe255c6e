/-!
# Distinct — the items of a list, each once

* `foldl_addOnce_eraseDups`: names that are added one after the other, unless they are there
* `nodup_eraseDups`, `eraseDups_eq_self`: lists without repetitions
* `one_lt_length_eraseDups_iff`: lists with more than one item
-/

namespace SchemaCrosswalk

/-- Names that are added unless they are there are those of the list, each where it is mentioned
first. -/
theorem foldl_addOnce_eraseDups :
    ∀ (names seen : List String),
      names.foldl (fun seen name => if seen.contains name then seen else seen ++ [name])
          seen.eraseDups =
        (seen ++ names).eraseDups
  | [], seen => by simp
  | name :: names, seen => by
      have hstep : (if seen.eraseDups.contains name then seen.eraseDups
          else seen.eraseDups ++ [name]) = (seen ++ [name]).eraseDups := by
        by_cases hseen : name ∈ seen <;>
          simp [List.eraseDups_append, List.eraseDups_cons, List.removeAll, List.mem_eraseDups,
            hseen]
      -- The rest is collected after the first name.
      rw [List.foldl_cons, hstep, foldl_addOnce_eraseDups names, List.append_assoc,
        List.singleton_append]

/-- Names that are listed once each are distinct. -/
theorem nodup_eraseDups : ∀ names : List String, names.eraseDups.Nodup
  | [] => by simp
  | name :: names => by
      have hrest : (names.filter fun other => !other == name).eraseDups.Nodup :=
        nodup_eraseDups _
      have hnew : name ∉ (names.filter fun other => !other == name).eraseDups := by
        simp [List.mem_eraseDups]
      rw [List.eraseDups_cons]
      exact List.nodup_cons.2 ⟨hnew, hrest⟩
termination_by names => names.length
decreasing_by
  exact Nat.lt_succ_of_le (List.length_filter_le _ _)

/-- Distinct names are listed once each. -/
theorem eraseDups_eq_self {names : List String} (h : names.Nodup) : names.eraseDups = names := by
  induction names with
  | nil => rfl
  | cons name names ih =>
      obtain ⟨hnew, hrest⟩ := List.nodup_cons.1 h
      have hfilter : (names.filter fun other => !other == name) = names := by
        refine List.filter_eq_self.2 fun other hother => ?_
        have hne : other ≠ name := fun heq => hnew (heq ▸ hother)
        simp [hne]
      rw [List.eraseDups_cons, hfilter, ih hrest]

/-- There is more than one name if two members of a list differ. -/
theorem one_lt_length_eraseDups_iff {names : List String} :
    1 < names.eraseDups.length ↔ ∃ name ∈ names, ∃ other ∈ names, name ≠ other := by
  cases names with
  | nil => simp
  | cons first rest =>
      rw [List.eraseDups_cons, List.length_cons, Nat.lt_add_left_iff_pos,
        List.length_pos_iff_exists_mem]
      constructor
      · rintro ⟨other, hother⟩
        have hrest : other ∈ rest ∧ other ≠ first := by
          simpa [List.mem_eraseDups] using hother
        exact ⟨first, by simp, other, by simp [hrest.1], hrest.2.symm⟩
      · rintro ⟨name, hname, other, hother, hne⟩
        -- One of the two differs from the first name.
        by_cases hfirst : name = first
        · subst hfirst
          have hrest : other ∈ rest := (List.mem_cons.1 hother).resolve_left hne.symm
          exact ⟨other, by simp [List.mem_eraseDups, hrest, hne.symm]⟩
        · have hrest : name ∈ rest := (List.mem_cons.1 hname).resolve_left hfirst
          exact ⟨name, by simp [List.mem_eraseDups, hrest, hfirst]⟩

end SchemaCrosswalk
