import StateHolders.Holder.Consistency
import StateHolders.Proofs.Holder.Distinct

/-! What is counted of saveable keys. The counts hold each key once, in the order of first appearance,
with the numbers of parameters and of properties that carry it. -/

namespace StateHolders

namespace KeyCount

variable {add : KeyCount → KeyCount} {f g : String → KeyCount} {keys xs : List String} {key : String}

def ofKeys (params properties : List String) (key : String) : KeyCount :=
  ⟨key, params.count key, properties.count key⟩

def table (params properties : List String) : List KeyCount :=
  (distinct (params ++ properties)).map (ofKeys params properties)

theorem tally_map_of_notMem (hf : ∀ k, (f k).key = k) (hkey : key ∉ keys) :
    tally add (keys.map f) key = keys.map f ++ [add ⟨key, 0, 0⟩] := by
  induction keys with
  | nil => rfl
  | cons k keys ih =>
    rw [List.mem_cons, not_or] at hkey
    rw [List.map_cons, tally, hf, if_neg (Ne.symm hkey.1), ih hkey.2, List.cons_append]

theorem tally_map_of_mem (hf : ∀ k, (f k).key = k) (hother : ∀ k, k ≠ key → g k = f k)
    (hadd : g key = add (f key)) (hkeys : keys.Nodup) (hkey : key ∈ keys) :
    tally add (keys.map f) key = keys.map g := by
  induction keys with
  | nil => cases hkey
  | cons k keys ih =>
    rw [List.nodup_cons] at hkeys
    rw [List.map_cons, tally, hf, List.map_cons]
    by_cases hk : k = key
    · subst hk
      have hrest : keys.map f = keys.map g :=
        List.map_congr_left fun k hk => (hother k (ne_of_mem_of_not_mem hk hkeys.1)).symm
      rw [if_pos rfl, hadd, hrest]
    · have hmem : key ∈ keys := (List.mem_cons.mp hkey).resolve_left (Ne.symm hk)
      rw [if_neg hk, ih hkeys.2 hmem, hother k hk]

theorem tally_distinct (hf : ∀ k, (f k).key = k) (hother : ∀ k, k ≠ key → g k = f k)
    (hadd : g key = add (f key)) (hnew : key ∉ xs → f key = ⟨key, 0, 0⟩) :
    tally add ((distinct xs).map f) key = (distinct (xs ++ [key])).map g := by
  rw [distinct_append_singleton]
  split
  -- a key that has been seen is counted in its place, a new one behind all others
  · next hmem => exact tally_map_of_mem hf hother hadd nodup_distinct (mem_distinct.mpr hmem)
  · next hmem =>
    have hold : (distinct xs).map f = (distinct xs).map g := by
      refine List.map_congr_left fun k hk => (hother k ?_).symm
      exact ne_of_mem_of_not_mem (mem_distinct.mp hk) hmem
    rw [tally_map_of_notMem hf (mt mem_distinct.mp hmem), List.map_append, hold, List.map_singleton,
      hadd, hnew hmem]

variable {params properties : List String}

theorem tally_addParam_table :
    tally addParam (table params []) key = table (params ++ [key]) [] := by
  rw [table, table, List.append_nil, List.append_nil]
  refine tally_distinct (fun _ => rfl) (fun k hk => ?_) ?_ fun hnew => ?_
  · simp [ofKeys, Ne.symm hk]
  · simp [ofKeys, addParam]
  · simp [ofKeys, List.count_eq_zero.mpr hnew]

theorem tally_addProperty_table :
    tally addProperty (table params properties) key = table params (properties ++ [key]) := by
  rw [table, table, ← List.append_assoc]
  refine tally_distinct (fun _ => rfl) (fun k hk => ?_) ?_ fun hnew => ?_
  · simp [ofKeys, Ne.symm hk]
  · simp [ofKeys, addProperty]
  · rw [List.mem_append, not_or] at hnew
    simp [ofKeys, List.count_eq_zero.mpr hnew.1, List.count_eq_zero.mpr hnew.2]

theorem foldl_tally_addParam (counted : List String) :
    params.foldl (tally addParam) (table counted []) = table (counted ++ params) [] := by
  induction params generalizing counted with
  | nil => rw [List.append_nil, List.foldl_nil]
  | cons key params ih =>
    rw [List.foldl_cons, tally_addParam_table, ih, List.append_assoc, List.singleton_append]

theorem foldl_tally_addProperty (counted : List String) :
    properties.foldl (tally addProperty) (table params counted) =
      table params (counted ++ properties) := by
  induction properties generalizing counted with
  | nil => rw [List.append_nil, List.foldl_nil]
  | cons key properties ih =>
    rw [List.foldl_cons, tally_addProperty_table, ih, List.append_assoc, List.singleton_append]

end KeyCount

namespace Holder

theorem keyCounts_eq (h : Holder) : h.keyCounts = KeyCount.table h.paramKeys h.propertyKeys := by
  have hparams : h.paramKeys.foldl (KeyCount.tally .addParam) [] = KeyCount.table h.paramKeys [] :=
    KeyCount.foldl_tally_addParam []
  rw [keyCounts, hparams, KeyCount.foldl_tally_addProperty, List.nil_append]

theorem unbalancedKeyProblem?_eq (h : Holder) :
    h.unbalancedKeyProblem? = (h.paramKeys ++ h.propertyKeys).findSome? fun key =>
      if h.paramKeys.count key = h.propertyKeys.count key then none
      else some (.saveableKeyMismatch h.qualifiedName key (h.paramKeys.count key)
        (h.propertyKeys.count key)) := by
  rw [unbalancedKeyProblem?, keyCounts_eq, KeyCount.table, List.findSome?_map, findSome?_distinct]
  rfl

end Holder
end StateHolders
