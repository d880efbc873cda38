import Mathlib

/-! Sums over the values of an association list without duplicate keys, and how they
change when one entry does. -/
namespace StreamServer.Lib.Tally

variable {κ β : Type} [DecidableEq κ]

def total (f : β → Nat) (map : AList (fun _ : κ => β)) : Nat :=
  (map.entries.map (fun entry => f entry.2)).sum

variable {f g : β → Nat} {map : AList (fun _ : κ => β)} {key : κ} {old : β}

theorem total_erase (present : map.lookup key = some old) :
    total f (map.erase key) + f old = total f map := by
  have member : key ∈ map.entries.keys := by
    rw [← List.dlookup_isSome]
    exact Option.isSome_iff_exists.mpr ⟨old,present⟩
  obtain ⟨value,before,after,absent,whole,left⟩ := List.exists_of_kerase member
  have found : map.lookup key = some value := by
    rw [AList.lookup,whole,List.dlookup_append,List.dlookup_eq_none.mpr absent]
    simp
  have same : value = old := by
    rw [present] at found
    exact (Option.some.inj found).symm
  subst same
  have erased : (map.erase key).entries = before ++ after := left
  simp only [total,erased]
  rw [whole]
  simp only [List.map_append,List.map_cons,List.sum_append,List.sum_cons]
  omega

theorem total_insert_new (new : β) (absent : map.lookup key = none) :
    total f (map.insert key new) = total f map + f new := by
  have missing : key ∉ map.entries.keys := List.dlookup_eq_none.mp absent
  simp only [total,AList.entries_insert,List.kerase_of_notMem_keys missing,List.map_cons,
    List.sum_cons]
  omega

theorem total_insert_old (new : β) (present : map.lookup key = some old) :
    total f (map.insert key new) + f old = total f map + f new := by
  have erased := total_erase (f := f) present
  have same : total f (map.insert key new) = total f (map.erase key) + f new := by
    simp only [total,AList.entries_insert,AList.erase,List.map_cons,List.sum_cons]
    omega
  omega

theorem total_le (below : ∀ key value, map.lookup key = some value → f value ≤ g value) :
    total f map ≤ total g map := by
  apply List.sum_le_sum
  intro entry member
  exact below entry.1 entry.2 (AList.mem_lookup_iff.mpr member)

end StreamServer.Lib.Tally
