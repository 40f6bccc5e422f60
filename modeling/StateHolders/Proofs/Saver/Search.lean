import StateHolders.Holder.Basic
import StateHolders.Proofs.Saver.FreshName

/-! The search for a free name, trial by trial. It has no bound of its own. It ends because no name is tried
twice, so that of one trial more than names are taken one finds a free name. -/

namespace StateHolders.Saver

variable {taken : List String} {base : String}

structure Trial where
  name : String
  next : Nat
deriving DecidableEq, Repr

namespace Trial

def first (base : String) : Trial := ⟨base, 1⟩

def following (base : String) (t : Trial) : Trial := ⟨numbered base t.next, t.next + 1⟩

def after (base : String) (i : Nat) : Trial := ⟨candidate base i, i + 1⟩

theorem first_eq_after (base : String) : first base = after base 0 := rfl

theorem following_after (base : String) (i : Nat) : (after base i).following base = after base (i + 1) :=
  rfl

end Trial

/-- From a trial on, the search makes `count` trials, and `name` is what the last of them finds free. It goes on
for as long as the name on trial is taken. -/
inductive Finds (taken : List String) (base : String) : Trial → Nat → String → Prop
  | free {t : Trial} : t.name ∉ taken → Finds taken base t 1 t.name
  | taken {t : Trial} {count : Nat} {name : String} : t.name ∈ taken →
    Finds taken base (t.following base) count name → Finds taken base t (count + 1) name

theorem Finds.unique {t : Trial} {count count' : Nat} {name name' : String}
    (h : Finds taken base t count name) (h' : Finds taken base t count' name') :
    count' = count ∧ name' = name := by
  induction h generalizing count' name' with
  | free hfree =>
    cases h' with
    | free => exact ⟨rfl, rfl⟩
    | taken htaken => exact absurd htaken hfree
  | taken htaken _ ih =>
    cases h' with
    | free hfree => exact absurd htaken hfree
    | taken _ hrest =>
      obtain ⟨rfl, rfl⟩ := ih hrest
      exact ⟨rfl, rfl⟩

theorem IsFirstFree.finds {i n : Nat} (h : IsFirstFree taken base n) (hle : i ≤ n) :
    Finds taken base (.after base i) (n - i + 1) (candidate base n) := by
  induction hle using Nat.decreasingInduction with
  | self =>
    rw [Nat.sub_self]
    exact .free h.1
  | of_succ i hlt ih =>
    rw [← Trial.following_after] at ih
    have hcount : n - i = n - (i + 1) + 1 := by omega
    rw [hcount]
    exact .taken (h.mem_of_lt hlt) ih

theorem IsFirstFree.isLeast_number {n : Nat} (h : IsFirstFree taken base (n + 1)) :
    IsLeast {n | 1 ≤ n ∧ numbered base n ∉ taken} (n + 1) := by
  refine ⟨⟨Nat.succ_pos n, h.1⟩, ?_⟩
  rintro (_ | m) ⟨hpos, hfree⟩
  · omega
  · exact h.2 hfree

/-- For any parameters and any base name the search ends, after one trial more than there are parameters at
most and in one way only. No parameter has the name that it finds: the base name if that is free, and else the
base name with the least number from 1 on that makes it free. -/
theorem search_ends_at_least_number (base : String) (h : Holder) :
    (∃ count ≤ h.params.length + 1, ∀ count' name,
      Finds (h.params.map Param.name) base (.first base) count' name ↔
        count' = count ∧ name = freshName (h.params.map Param.name) base) ∧
    (∀ p ∈ h.params, p.name ≠ freshName (h.params.map Param.name) base) ∧
    (base ∉ h.params.map Param.name → freshName (h.params.map Param.name) base = base) ∧
    (base ∈ h.params.map Param.name → ∃ n ≤ h.params.length,
      IsLeast {n | 1 ≤ n ∧ base ++ toString n ∉ h.params.map Param.name} n ∧
      freshName (h.params.map Param.name) base = base ++ toString n) := by
  obtain ⟨i, hle, hfirst, hname⟩ := exists_freshName_eq (h.params.map Param.name) base
  rw [List.length_map] at hle
  have hfinds : Finds (h.params.map Param.name) base (.first base) (i + 1)
      (freshName (h.params.map Param.name) base) := by
    rw [hname, Trial.first_eq_after]
    exact hfirst.finds (Nat.zero_le i)
  refine ⟨⟨i + 1, Nat.succ_le_succ hle, fun count name => ⟨hfinds.unique, ?_⟩⟩, fun p hp heq => ?_,
    fun hfree => ?_, fun htaken => ?_⟩
  · rintro ⟨rfl, rfl⟩
    exact hfinds
  · refine freshName_notMem (h.params.map Param.name) base ?_
    rw [← heq]
    exact List.mem_map_of_mem hp
  · exact if_neg hfree
  · cases i with
    | zero => exact absurd htaken hfirst.1
    | succ n => exact ⟨n + 1, hle, hfirst.isLeast_number, hname⟩

def mapScreen : Holder where
  qualifiedName := "app.MapScreen"
  package := "app"
  params := ["zoom", "map", "map1", "instance"].map
    fun name => ⟨name, ⟨"State", [], false⟩, .required, false, none⟩
  savedProperties := []
  injector := none
  mode := .persistent
  injectionMode := none

theorem search_ends_at_least_number_mapScreen :
    mapScreen.params.map Param.name = ["zoom", "map", "map1", "instance"] ∧
    Finds ["zoom", "map", "map1", "instance"] "map" (.first "map") 3 "map2" ∧
    "map2" = freshName ["zoom", "map", "map1", "instance"] "map" ∧
    (∃ n ≤ 4, IsLeast {n | 1 ≤ n ∧ "map" ++ toString n ∉ ["zoom", "map", "map1", "instance"]} n ∧
      "map2" = "map" ++ toString n) ∧
    freshName ["zoom", "map", "map1", "instance"] "state" = "state" := by
  have hnames : mapScreen.params.map Param.name = ["zoom", "map", "map1", "instance"] := rfl
  have hfinds : Finds ["zoom", "map", "map1", "instance"] "map" (.first "map") 3 "map2" :=
    .taken (by decide) (.taken (by decide) (.free (by decide)))
  obtain ⟨⟨count, -, hall⟩, -, -, hnumber⟩ := search_ends_at_least_number "map" mapScreen
  obtain ⟨-, -, hfree, -⟩ := search_ends_at_least_number "state" mapScreen
  rw [hnames] at hall hnumber hfree
  have hname := ((hall 3 "map2").mp hfinds).2
  refine ⟨hnames, hfinds, hname, ?_, hfree (by decide)⟩
  rw [hname]
  exact hnumber (by decide)

end StateHolders.Saver
