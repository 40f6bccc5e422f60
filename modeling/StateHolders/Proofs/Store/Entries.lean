import Mathlib.Data.List.Nodup
import StateHolders.Proofs.Path.Order
import StateHolders.Proofs.Store.Memory

/-! The entries of a store in memory. They stand in the order of their paths, and no two of them are under
one path, whatever is stored. -/

namespace StateHolders.Store.Memory

variable {m : Memory} {path p : Path} {text : String} {entries : List (Path × String)}
  {e e' : Path × String}

def InOrder (entries : List (Path × String)) : Prop :=
  entries.Pairwise fun e e' => e.1.rank < e'.1.rank

theorem mem_of_mem_insertEntry (h : e ∈ insertEntry path text entries) :
    e ∈ entries ∨ e.2 = text ∧ e.1.components = path.components ∧
      (e.1 = path ∨ ∃ old ∈ entries, old.1 = e.1) := by
  induction entries with
  | nil =>
    obtain rfl := List.mem_singleton.mp h
    exact .inr ⟨rfl, rfl, .inl rfl⟩
  | cons entry entries ih =>
    obtain ⟨p, old⟩ := entry
    rw [insertEntry] at h
    split at h
    · next hp =>
      rcases List.mem_cons.mp h with rfl | hmem
      · exact .inr ⟨rfl, hp, .inr ⟨(p, old), List.mem_cons_self, rfl⟩⟩
      · exact .inl (List.mem_cons_of_mem _ hmem)
    · split at h
      · rcases List.mem_cons.mp h with rfl | hmem
        · exact .inr ⟨rfl, rfl, .inl rfl⟩
        · exact .inl hmem
      · rcases List.mem_cons.mp h with rfl | hmem
        · exact .inl List.mem_cons_self
        · rcases ih hmem with hold | ⟨htext, hcomponents, rfl | ⟨e', he', hspelled⟩⟩
          · exact .inl (List.mem_cons_of_mem _ hold)
          · exact .inr ⟨htext, hcomponents, .inl rfl⟩
          · exact .inr ⟨htext, hcomponents, .inr ⟨e', List.mem_cons_of_mem _ he', hspelled⟩⟩

theorem fst_of_mem_insertEntry (h : e ∈ insertEntry path text entries) :
    e.1 = path ∨ ∃ old ∈ entries, old.1 = e.1 := by
  rcases mem_of_mem_insertEntry h with hold | ⟨-, -, hspelled⟩
  · exact .inr ⟨e, hold, rfl⟩
  · exact hspelled

theorem mem_insertEntry_of_ne (hne : e.1.components ≠ path.components) (h : e ∈ entries) :
    e ∈ insertEntry path text entries := by
  induction entries with
  | nil => cases h
  | cons entry entries ih =>
    obtain ⟨p, old⟩ := entry
    rw [insertEntry]
    split
    · next hp =>
      rcases List.mem_cons.mp h with rfl | hmem
      · exact absurd hp hne
      · exact List.mem_cons_of_mem _ hmem
    · split
      · exact List.mem_cons_of_mem _ h
      · rcases List.mem_cons.mp h with rfl | hmem
        · exact List.mem_cons_self
        · exact List.mem_cons_of_mem _ (ih hmem)

theorem exists_mem_insertEntry (path : Path) (text : String) (entries : List (Path × String)) :
    ∃ e ∈ insertEntry path text entries, e.1.components = path.components ∧ e.2 = text := by
  induction entries with
  | nil => exact ⟨(path, text), List.mem_cons_self, rfl, rfl⟩
  | cons entry entries ih =>
    obtain ⟨p, old⟩ := entry
    rw [insertEntry]
    split
    · next hp => exact ⟨(p, text), List.mem_cons_self, hp, rfl⟩
    · split
      · exact ⟨(path, text), List.mem_cons_self, rfl, rfl⟩
      · obtain ⟨e, he, hpath⟩ := ih
        exact ⟨e, List.mem_cons_of_mem _ he, hpath⟩

namespace InOrder

theorem insertEntry (h : InOrder entries) (path : Path) (text : String) :
    InOrder (Memory.insertEntry path text entries) := by
  induction entries with
  | nil => exact List.pairwise_singleton _ _
  | cons entry entries ih =>
    obtain ⟨p, old⟩ := entry
    obtain ⟨hfirst, hrest⟩ := List.pairwise_cons.mp h
    rw [Memory.insertEntry]
    split
    · exact List.pairwise_cons.mpr ⟨hfirst, hrest⟩
    · next hne =>
      have hrank : p.rank ≠ path.rank := fun heq => hne (Path.rank_eq_iff.mp heq)
      split
      · next hle =>
        have hlt : path.rank < p.rank := lt_of_le_of_ne (Path.le_iff.mp hle) hrank.symm
        refine List.pairwise_cons.mpr ⟨fun e he => ?_, h⟩
        rcases List.mem_cons.mp he with rfl | he
        · exact hlt
        · exact hlt.trans (hfirst e he)
      · next hle =>
        have hlt : p.rank < path.rank := not_le.mp fun hge => hle (Path.le_iff.mpr hge)
        refine List.pairwise_cons.mpr ⟨fun e he => ?_, ih hrest⟩
        -- what follows is an entry that followed already, or the one that is inserted
        rcases mem_of_mem_insertEntry he with hold | ⟨-, hcomponents, -⟩
        · exact hfirst e hold
        · rw [Path.rank_eq_iff.mpr hcomponents]
          exact hlt

theorem eq_of_components_eq (h : InOrder entries) (he : e ∈ entries) (he' : e' ∈ entries)
    (heq : e.1.components = e'.1.components) : e = e' := by
  have hnodup : (entries.map fun e => e.1.rank).Nodup :=
    List.pairwise_map.mpr (h.imp fun hlt => hlt.ne)
  exact List.inj_on_of_nodup_map hnodup he he' (Path.rank_eq_iff.mpr heq)

theorem snd_of_mem_insertEntry (h : InOrder entries) (he : e ∈ Memory.insertEntry path text entries)
    (hpath : e.1.components = path.components) : e.2 = text := by
  obtain ⟨e', he', hpath', htext⟩ := exists_mem_insertEntry path text entries
  obtain rfl := (h.insertEntry path text).eq_of_components_eq he he' (hpath.trans hpath'.symm)
  exact htext

end InOrder

theorem inOrder_empty : InOrder Memory.empty.entries := .nil

theorem get?_eq_some_iff (h : InOrder m.entries) :
    m.get? p = some text ↔ ∃ e ∈ m.entries, e.1.components = p.components ∧ e.2 = text := by
  rw [get?, Option.map_eq_some_iff]
  constructor
  · rintro ⟨e, he, htext⟩
    have hfound := List.find?_some he
    exact ⟨e, List.mem_of_find?_eq_some he, by simpa using hfound, htext⟩
  · rintro ⟨e, he, hcomponents, htext⟩
    cases hfound : m.entries.find? (·.1.components = p.components) with
    | none =>
      rw [List.find?_eq_none] at hfound
      exact absurd (decide_eq_true hcomponents) (hfound e he)
    | some e' =>
      have hcomponents' : e'.1.components = p.components := by
        simpa using List.find?_some hfound
      obtain rfl := h.eq_of_components_eq he (List.mem_of_find?_eq_some hfound)
        (hcomponents.trans hcomponents'.symm)
      exact ⟨e, rfl, htext⟩

end StateHolders.Store.Memory
