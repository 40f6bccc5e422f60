import Mathlib.Logic.Function.Basic
import StateHolders.DefaultExpr
import StateHolders.Proofs.TypeExpr.Renaming
import StateHolders.Source.ImportTable

/-! The names that generated source prints. A text depends on how these names are printed and on nothing else
that its naming says, and it depends on each of them: a longer name makes a longer text. -/

namespace StateHolders

theorem length_lt_length_append (s : String) : s.length < (s ++ "x").length := by
  rw [String.length_append]
  exact Nat.lt_add_of_pos_right (by decide)

namespace TypeExpr

def ownNames (t : TypeExpr) : List String := t.names.filter (· ≠ "*")

def ownNamesOfArgs (ts : List TypeExpr) : List String := (namesOfArgs ts).filter (· ≠ "*")

theorem ownNames_mk (name : String) (args : List TypeExpr) (nullable : Bool) :
    ownNames ⟨name, args, nullable⟩ = [name].filter (· ≠ "*") ++ ownNamesOfArgs args := by
  rw [ownNames, names, List.filter_cons]
  split <;> simp_all [ownNamesOfArgs]

theorem ownNamesOfArgs_cons (t : TypeExpr) (ts : List TypeExpr) :
    ownNamesOfArgs (t :: ts) = t.ownNames ++ ownNamesOfArgs ts := by
  rw [ownNamesOfArgs, namesOfArgs, List.filter_append]
  rfl

mutual
theorem rename_congr {f g : String → String} : ∀ t : TypeExpr, (∀ n ∈ t.ownNames, f n = g n) →
    t.rename f = t.rename g
  | ⟨name, args, nullable⟩, h => by
    rw [ownNames_mk, List.forall_mem_append] at h
    have hname : (if name = "*" then name else f name) = if name = "*" then name else g name := by
      split
      · rfl
      · next hstar => exact h.1 name (by simp [hstar])
    rw [rename, rename, hname, renameArgs_congr args h.2]

theorem renameArgs_congr {f g : String → String} : ∀ ts : List TypeExpr,
    (∀ n ∈ ownNamesOfArgs ts, f n = g n) → renameArgs f ts = renameArgs g ts
  | [], _ => rfl
  | t :: ts, h => by
    rw [ownNamesOfArgs_cons, List.forall_mem_append] at h
    rw [renameArgs, renameArgs, rename_congr t h.1, renameArgs_congr ts h.2]
end

end TypeExpr

def totalLength (f : String → String) : List String → Nat
  | [] => 0
  | n :: ns => (f n).length + totalLength f ns

theorem totalLength_append (f : String → String) (ns ms : List String) :
    totalLength f (ns ++ ms) = totalLength f ns + totalLength f ms := by
  induction ns with
  | nil => rw [List.nil_append, totalLength, Nat.zero_add]
  | cons n ns ih => rw [List.cons_append, totalLength, totalLength, ih, Nat.add_assoc]

theorem totalLength_add_count_le {f : String → String} {n r : String} (hr : (f n).length < r.length)
    (ns : List String) : totalLength f ns + ns.count n ≤ totalLength (Function.update f n r) ns := by
  induction ns with
  | nil => exact Nat.le_refl _
  | cons m ns ih =>
    rw [totalLength, totalLength]
    by_cases hm : m = n
    · rw [hm, List.count_cons_self, Function.update_self]
      omega
    · rw [List.count_cons_of_ne hm, Function.update_of_ne hm]
      omega

namespace TypeExpr

mutual
theorem exists_length_print : ∀ t : TypeExpr, ∃ k, ∀ f : String → String,
    (t.rename f).print.length = totalLength f t.ownNames + k
  | ⟨name, args, nullable⟩ => by
    obtain ⟨k, hk⟩ := exists_length_printBracketed args
    obtain ⟨j, hj⟩ : ∃ j, ∀ f : String → String, (if name = "*" then name else f name).length =
        totalLength f ([name].filter (· ≠ "*")) + j := by
      by_cases hstar : name = "*"
      · exact ⟨name.length, fun f => by simp [hstar, totalLength]⟩
      · exact ⟨0, fun f => by simp [hstar, totalLength]⟩
    refine ⟨j + k + (if nullable then "?" else "").length, fun f => ?_⟩
    rw [ownNames_mk, totalLength_append, rename, print, String.length_append, String.length_append,
      hk, hj]
    omega

theorem exists_length_printBracketed : ∀ ts : List TypeExpr, ∃ k, ∀ f : String → String,
    (printBracketed (renameArgs f ts)).length = totalLength f (ownNamesOfArgs ts) + k
  | [] => ⟨0, fun _ => rfl⟩
  | t :: ts => by
    obtain ⟨j, hj⟩ := exists_length_print t
    obtain ⟨k, hk⟩ := exists_length_printRest ts
    refine ⟨"<".length + j + k, fun f => ?_⟩
    rw [ownNamesOfArgs_cons, totalLength_append, renameArgs, printBracketed, String.length_append,
      String.length_append, hj, hk]
    omega

theorem exists_length_printRest : ∀ ts : List TypeExpr, ∃ k, ∀ f : String → String,
    (printRest (renameArgs f ts)).length = totalLength f (ownNamesOfArgs ts) + k
  | [] => ⟨">".length, fun f => by simp [renameArgs, printRest, ownNamesOfArgs, namesOfArgs, totalLength]⟩
  | t :: ts => by
    obtain ⟨j, hj⟩ := exists_length_print t
    obtain ⟨k, hk⟩ := exists_length_printRest ts
    refine ⟨", ".length + j + k, fun f => ?_⟩
    rw [ownNamesOfArgs_cons, totalLength_append, renameArgs, printRest, String.length_append,
      String.length_append, hj, hk]
    omega
end

end TypeExpr

namespace Source

def Naming.ofNames (f : String → String) : Naming :=
  ⟨fun t => (t.rename f).print, fun s => f s.qualifiedName⟩

namespace Fragment

def names : Fragment → List String
  | .text _ => []
  | .type t => t.ownNames
  | .symbol s => [s.qualifiedName]

def namesOf (fs : List Fragment) : List String := fs.flatMap names

theorem render_congr {f g : String → String} {fragment : Fragment}
    (h : ∀ n ∈ fragment.names, f n = g n) :
    fragment.render (.ofNames f) = fragment.render (.ofNames g) := by
  cases fragment with
  | text s => rfl
  | type t => exact congrArg TypeExpr.print (t.rename_congr h)
  | symbol s => exact h _ (List.mem_singleton_self _)

theorem exists_length_render (fragment : Fragment) : ∃ k, ∀ f : String → String,
    (fragment.render (.ofNames f)).length = totalLength f fragment.names + k := by
  cases fragment with
  | text s => exact ⟨s.length, fun f => by simp [render, names, totalLength]⟩
  | type t => exact t.exists_length_print
  | symbol s => exact ⟨0, fun f => by simp [render, names, totalLength, Naming.ofNames]⟩

theorem renderAll_congr_of_render {n n' : Naming} {fs : List Fragment}
    (h : ∀ f ∈ fs, f.render n = f.render n') : renderAll n fs = renderAll n' fs := by
  induction fs with
  | nil => rfl
  | cons f fs ih =>
    rw [List.forall_mem_cons] at h
    rw [renderAll, renderAll, h.1, ih h.2]

theorem length_renderAll_le {n n' : Naming} {fs : List Fragment}
    (hle : ∀ f ∈ fs, (f.render n).length ≤ (f.render n').length) :
    (renderAll n fs).length ≤ (renderAll n' fs).length := by
  induction fs with
  | nil => exact Nat.le_refl _
  | cons f fs ih =>
    rw [List.forall_mem_cons] at hle
    rw [renderAll, renderAll, String.length_append, String.length_append]
    exact Nat.add_le_add hle.1 (ih hle.2)

/-- A text is longer under a naming that prints none of its fragments shorter and one of them longer. -/
theorem length_renderAll_lt {n n' : Naming} {fs : List Fragment}
    (hle : ∀ f ∈ fs, (f.render n).length ≤ (f.render n').length)
    (hlt : ∃ f ∈ fs, (f.render n).length < (f.render n').length) :
    (renderAll n fs).length < (renderAll n' fs).length := by
  induction fs with
  | nil =>
    obtain ⟨f, hf, -⟩ := hlt
    cases hf
  | cons f fs ih =>
    rw [List.forall_mem_cons] at hle
    rw [renderAll, renderAll, String.length_append, String.length_append]
    obtain ⟨g, hg, hlonger⟩ := hlt
    rcases List.mem_cons.mp hg with rfl | hg
    · exact Nat.add_lt_add_of_lt_of_le hlonger (length_renderAll_le hle.2)
    · exact Nat.add_lt_add_of_le_of_lt hle.1 (ih hle.2 ⟨g, hg, hlonger⟩)

theorem renderAll_ne_of_length_lt {n n' : Naming} {fs : List Fragment}
    (hle : ∀ f ∈ fs, (f.render n).length ≤ (f.render n').length)
    (hlt : ∃ f ∈ fs, (f.render n).length < (f.render n').length) : renderAll n' fs ≠ renderAll n fs := by
  intro heq
  have hlength := length_renderAll_lt hle hlt
  rw [heq] at hlength
  exact Nat.lt_irrefl _ hlength

end Fragment

namespace Line

def names (l : Line) : List String := Fragment.namesOf l.content

def namesOf (ls : List Line) : List String := ls.flatMap names

variable {ls ls' : List Line} {f g : String → String} {n : String}

theorem mem_namesOf : n ∈ namesOf ls ↔ ∃ l ∈ ls, n ∈ l.names := List.mem_flatMap

theorem mem_namesOf_append : n ∈ namesOf (ls ++ ls') ↔ n ∈ namesOf ls ∨ n ∈ namesOf ls' := by
  rw [namesOf, List.flatMap_append, List.mem_append]
  rfl

theorem mem_namesOf_cons {l : Line} : n ∈ namesOf (l :: ls) ↔ n ∈ l.names ∨ n ∈ namesOf ls := by
  rw [namesOf, List.flatMap_cons, List.mem_append]
  rfl

theorem mem_namesOf_map {α : Type} {row : α → Line} {xs : List α} :
    n ∈ namesOf (xs.map row) ↔ ∃ x ∈ xs, n ∈ (row x).names := by
  simp [mem_namesOf]

theorem notMem_namesOf_nil : n ∉ namesOf [] := nofun

theorem renderAll_congr (h : ∀ n ∈ namesOf ls, f n = g n) :
    renderAll (.ofNames f) ls = renderAll (.ofNames g) ls := by
  induction ls with
  | nil => rfl
  | cons l ls ih =>
    have hline : Fragment.renderAll (.ofNames f) l.content = Fragment.renderAll (.ofNames g) l.content :=
      Fragment.renderAll_congr_of_render fun fragment hfragment => Fragment.render_congr fun n hn =>
        h n (mem_namesOf_cons.mpr (.inl (List.mem_flatMap.mpr ⟨fragment, hfragment, hn⟩)))
    have hrest := ih fun n hn => h n (mem_namesOf_cons.mpr (.inr hn))
    rw [renderAll, renderAll, render, render, hline, hrest]

theorem exists_length_renderFragments (fs : List Fragment) : ∃ k, ∀ f : String → String,
    (Fragment.renderAll (.ofNames f) fs).length = totalLength f (Fragment.namesOf fs) + k := by
  induction fs with
  | nil => exact ⟨0, fun _ => rfl⟩
  | cons fragment fs ih =>
    obtain ⟨k, hk⟩ := ih
    obtain ⟨j, hj⟩ := fragment.exists_length_render
    have hnames : Fragment.namesOf (fragment :: fs) = fragment.names ++ Fragment.namesOf fs :=
      List.flatMap_cons
    refine ⟨j + k, fun f => ?_⟩
    rw [Fragment.renderAll, String.length_append, hj, hk, hnames, totalLength_append]
    omega

theorem exists_length_renderAll (ls : List Line) : ∃ k, ∀ f : String → String,
    (renderAll (.ofNames f) ls).length = totalLength f (namesOf ls) + k := by
  induction ls with
  | nil => exact ⟨0, fun _ => rfl⟩
  | cons l ls ih =>
    obtain ⟨k, hk⟩ := ih
    obtain ⟨j, hj⟩ := exists_length_renderFragments l.content
    refine ⟨(margin l.level).length + j + "\n".length + k, fun f => ?_⟩
    have hnames : namesOf (l :: ls) = l.names ++ namesOf ls := List.flatMap_cons
    rw [renderAll, render, String.length_append, String.length_append, String.length_append, hj, hk,
      hnames, totalLength_append, names]
    omega

theorem exists_renderAll_update_ne (f : String → String) (hn : n ∈ namesOf ls) :
    ∃ r, renderAll (.ofNames (Function.update f n r)) ls ≠ renderAll (.ofNames f) ls := by
  obtain ⟨k, hk⟩ := exists_length_renderAll ls
  -- a longer text for `n` alone makes all of it longer
  refine ⟨f n ++ "x", fun heq => ?_⟩
  have hlength := congrArg String.length heq
  rw [hk, hk] at hlength
  have hcount : 0 < (namesOf ls).count n := List.count_pos_iff.mpr hn
  have hle := totalLength_add_count_le (length_lt_length_append (f n)) (namesOf ls)
  omega

end Line
end Source

namespace DefaultExpr

open Source (Naming Fragment Symbol)

variable {e : DefaultExpr} {s : Symbol} {t : TypeExpr}

theorem symbol_mem_fragments : .symbol s ∈ e.fragments ↔ s ∈ e.symbols := by
  cases e with
  | frameworkCall args => cases args <;> simp [fragments, symbols]
  | _ => simp [fragments, symbols]

theorem type_mem_fragments : .type t ∈ e.fragments ↔ e.typeArg? = some t := by
  cases e with
  | frameworkCall args => cases args <;> simp [fragments, typeArg?]
  | injectorCall injector type args => simp [fragments, typeArg?, eq_comm]
  | _ => simp [fragments, typeArg?]

/-- An expression asks a naming for the symbols and the type that it lists: for nothing else, and for each of
them. -/
structure ListsWhatItAsks (e : DefaultExpr) : Prop where
  depends_only : ∀ n n' : Naming, (∀ s ∈ e.symbols, n.symbol s = n'.symbol s) →
    (∀ t ∈ e.typeArg?, n.type t = n'.type t) → e.render n = e.render n'
  asks_symbol : ∀ n : Naming, ∀ s ∈ e.symbols, ∃ r,
    e.render { n with symbol := Function.update n.symbol s r } ≠ e.render n
  asks_type : ∀ n : Naming, ∀ t ∈ e.typeArg?, ∃ r,
    e.render { n with type := Function.update n.type t r } ≠ e.render n

theorem listsWhatItAsks (e : DefaultExpr) : e.ListsWhatItAsks where
  depends_only n n' hsymbols htype := by
    refine Fragment.renderAll_congr_of_render fun f hf => ?_
    cases f with
    | text s => rfl
    | type t => exact htype t (type_mem_fragments.mp hf)
    | symbol s => exact hsymbols s (symbol_mem_fragments.mp hf)
  asks_symbol n s hs := by
    have hlonger := length_lt_length_append (n.symbol s)
    refine ⟨n.symbol s ++ "x", Fragment.renderAll_ne_of_length_lt (fun f _ => ?_)
      ⟨.symbol s, symbol_mem_fragments.mpr hs, by simpa [Fragment.render] using hlonger⟩⟩
    cases f with
    | text s' => exact Nat.le_refl _
    | type t => exact Nat.le_refl _
    | symbol s' => by_cases hs' : s' = s <;> simp [Fragment.render, hs']
  asks_type n t ht := by
    have hlonger := length_lt_length_append (n.type t)
    refine ⟨n.type t ++ "x", Fragment.renderAll_ne_of_length_lt (fun f _ => ?_)
      ⟨.type t, type_mem_fragments.mpr ht, by simpa [Fragment.render] using hlonger⟩⟩
    cases f with
    | text s => exact Nat.le_refl _
    | type t' => by_cases ht' : t' = t <;> simp [Fragment.render, ht']
    | symbol s => exact Nat.le_refl _

end DefaultExpr
end StateHolders
