import StateHolders.Factory
import StateHolders.Proofs.Source.Reader

/-! The constructor of a class in generated source. A factory's signature and the call that it makes are
lines between brackets, and what they say of the parameters is read back from them whole. -/

namespace StateHolders

open QualifiedName (IsIdentifier)
open Source

/-! Reading a signature. -/

structure ReadParam where
  name : String
  type : String
  default? : Option String
deriving DecidableEq, Repr

/-- A row is `name: type,` or `name: type = default,`. -/
def readParam? (row : List Char) : Option ReadParam :=
  (Text.cutFirst? ':' row).map fun (name, rest) =>
    match Text.cutFirst? '=' rest with
    | none => ⟨word name, inner rest, none⟩
    | some (type, default) => ⟨word name, inner type, some (inner default)⟩

theorem readParam?_required {name type : String} (hname : IsIdentifier name.toList)
    (htype : '=' ∉ type.toList) :
    readParam? ((identifier name).toList ++ ':' :: ' ' :: (type.toList ++ [','])) =
      some ⟨name, type, none⟩ := by
  have hcolon : ':' ∉ (identifier name).toList := notMem_identifier hname (by decide)
  have hequals : '=' ∉ ' ' :: (type.toList ++ [',']) := by simpa using htype
  simp only [readParam?, Text.cutFirst?_append hcolon, Option.map_some,
    Text.cutFirst?_of_notMem hequals, word_identifier hname, inner_cons_append, String.ofList_toList]

theorem readParam?_default {name type default : String} (hname : IsIdentifier name.toList)
    (htype : '=' ∉ type.toList) :
    readParam? ((identifier name).toList ++ ':' :: ' ' ::
      (type.toList ++ ' ' :: '=' :: ' ' :: (default.toList ++ [',']))) =
      some ⟨name, type, some default⟩ := by
  have hcolon : ':' ∉ (identifier name).toList := notMem_identifier hname (by decide)
  have hequals : '=' ∉ ' ' :: (type.toList ++ [' ']) := by simpa using htype
  have hrest : ' ' :: (type.toList ++ ' ' :: '=' :: ' ' :: (default.toList ++ [','])) =
      (' ' :: (type.toList ++ [' '])) ++ '=' :: ' ' :: (default.toList ++ [',']) := by simp
  simp only [readParam?, Text.cutFirst?_append hcolon, Option.map_some, hrest,
    Text.cutFirst?_append hequals, word_identifier hname, inner_cons_append, String.ofList_toList]

/-- A default for each parameter, names and types that the grammar has, identifiers for the parameters,
and no default that breaks its line. -/
structure ResolvedHolder.IsReadable (c : ResolvedHolder) (t : ImportTable) : Prop where
  aligned : c.defaults.length = c.holder.params.length
  isName : TypeExpr.IsName c.holder.qualifiedName.toList
  ne_star : c.holder.qualifiedName ≠ "*"
  grammatical : ∀ p ∈ c.holder.params, p.type.Grammatical
  isIdentifier : ∀ p ∈ c.holder.params, IsIdentifier p.name.toList
  unbroken : ∀ e, some e ∈ c.defaults → '\n' ∉ (e.render t.naming).toList

namespace ResolvedHolder

variable {c : ResolvedHolder} {n : Naming} {t : ImportTable}

theorem fst_mem_of_mem_params {p : Param × Option DefaultExpr} (hp : p ∈ c.params) :
    p.1 ∈ c.holder.params := (List.of_mem_zip hp).1

theorem map_fst_params (h : c.defaults.length = c.holder.params.length) :
    c.params.map Prod.fst = c.holder.params := List.map_fst_zip (Nat.le_of_eq h.symm)

theorem map_snd_params (h : c.defaults.length = c.holder.params.length) :
    c.params.map Prod.snd = c.defaults := List.map_snd_zip (Nat.le_of_eq h)

def signatureLines (c : ResolvedHolder) (name : String) (tail : List Fragment) : List Line :=
  ⟨0, ["@", .symbol .composable]⟩ ::
    bracketed 0 [.text s!"internal fun {name}("] (c.params.map signatureParam) tail

theorem map_printed_signature (h : c.defaults.length = c.holder.params.length) (name : String)
    (tail : List Fragment) : (c.signature name tail).map (Line.printed n) =
      (c.signatureLines name tail).map (Line.printed n) := by
  have hempty : (c.params.map signatureParam).isEmpty = c.holder.params.isEmpty := by
    rw [← map_fst_params h, List.isEmpty_map, List.isEmpty_map]
  unfold signature signatureLines bracketed
  rw [hempty]
  split
  · have hbrackets : s!"internal fun {name}()" = s!"internal fun {name}(" ++ ")" := by
      simp only [String.append_assoc]
      rfl
    simp [Line.printed, Fragment.renderAll, Fragment.render, hbrackets, String.append_assoc]
  · simp

theorem construction_eq : c.construction =
    forwardedCall [c.classType, "("] (c.holder.params.map Param.name) [] := by
  rw [construction, namedArgs_eq_bracketed, forwarded, List.map_map]
  rfl

def readParam (t : ImportTable) (p : Param × Option DefaultExpr) : ReadParam :=
  ⟨p.1.name, t.typeName p.1.type, p.2.map (·.render t.naming)⟩

namespace IsReadable

variable (hc : c.IsReadable t)

include hc

theorem isPrintChar_of_mem_className : ∀ ch ∈ (t.typeName (.named c.holder.qualifiedName)).toList,
    TypeExpr.isPrintChar ch = true :=
  t.isPrintChar_of_mem_typeName
    (TypeExpr.grammatical_mk.mpr ⟨hc.isName, TypeExpr.grammaticalArgs_nil⟩)

theorem isPrintChar_of_mem_simpleName :
    ∀ ch ∈ c.holder.simpleName.toList, TypeExpr.isPrintChar ch = true :=
  TypeExpr.isPrintChar_of_isName (TypeExpr.isName_simpleName hc.isName hc.ne_star).1

theorem notMem_affixed (before after : String) {ch : Char}
    (hbefore : before.toList.all TypeExpr.isPrintChar = true)
    (hafter : after.toList.all TypeExpr.isPrintChar = true) (hch : ch ∈ lineMarks) :
    ch ∉ (before ++ c.holder.simpleName ++ after).toList := by
  have hprint : ∀ ch ∈ (before ++ c.holder.simpleName ++ after).toList,
      TypeExpr.isPrintChar ch = true := by
    simp only [String.toList_append, List.forall_mem_append]
    exact ⟨⟨List.all_eq_true.mp hbefore, hc.isPrintChar_of_mem_simpleName⟩,
      List.all_eq_true.mp hafter⟩
  exact notMem_of_isPrintChar hprint hch

/-! No line of a signature or of a constructor call is broken. -/

theorem isWhole_classType : c.classType.IsWhole t.naming :=
  notMem_of_isPrintChar hc.isPrintChar_of_mem_className (by decide)

theorem isWhole_defaultClause {p : Param × Option DefaultExpr} (hp : p ∈ c.params) :
    ∀ f ∈ defaultClause p.2, f.IsWhole t.naming := by
  obtain ⟨p, d⟩ := p
  cases d with
  | none => simp [defaultClause]
  | some e =>
    have he := hc.unbroken e (List.of_mem_zip hp).2
    rw [DefaultExpr.render, Fragment.notMem_renderAll_iff] at he
    exact List.forall_mem_cons.mpr ⟨Fragment.isWhole_text (by decide), he⟩

theorem isWhole_signatureParam {p : Param × Option DefaultExpr} (hp : p ∈ c.params) :
    (signatureParam p).IsWhole t.naming := by
  have hparam := fst_mem_of_mem_params hp
  have hname := Fragment.isWhole_identifier (n := t.naming) (hc.isIdentifier _ hparam)
  have htype := Fragment.isWhole_type t (hc.grammatical _ hparam)
  simp only [Line.IsWhole, signatureParam, List.cons_append, List.forall_mem_cons,
    List.forall_mem_append]
  exact ⟨hname, Fragment.isWhole_text (by decide), htype, hc.isWhole_defaultClause hp,
    Fragment.isWhole_text (by decide), by simp⟩

theorem isWhole_signature {name : String} {tail : List Fragment} (hname : '\n' ∉ name.toList)
    (htail : ∀ f ∈ tail, f.IsWhole t.naming) :
    ∀ l ∈ c.signature name tail, l.IsWhole t.naming := by
  refine Line.isWhole_of_map_printed_eq (map_printed_signature hc.aligned name tail) ?_
  have hopening : '\n' ∉ ("internal fun " ++ name ++ "(").toList := by simp [hname]
  have hmarker : (Line.mk 0 ["@", .symbol .composable]).IsWhole t.naming :=
    List.forall_mem_cons.mpr ⟨Fragment.isWhole_text (by decide),
      List.forall_mem_singleton.mpr (Fragment.isWhole_symbol t .composable)⟩
  refine List.forall_mem_cons.mpr ⟨hmarker, isWhole_bracketed ?_ ?_ htail⟩
  · exact List.forall_mem_singleton.mpr hopening
  · exact List.forall_mem_map.mpr fun p hp => hc.isWhole_signatureParam hp

theorem isIdentifier_of_mem_names : ∀ name ∈ c.holder.params.map Param.name,
    IsIdentifier name.toList := List.forall_mem_map.mpr hc.isIdentifier

theorem isWhole_construction : ∀ l ∈ c.construction, l.IsWhole t.naming := by
  rw [construction_eq]
  refine isWhole_forwardedCall ?_ hc.isIdentifier_of_mem_names (by simp)
  exact List.forall_mem_cons.mpr ⟨hc.isWhole_classType,
    List.forall_mem_singleton.mpr (Fragment.isWhole_text (by decide))⟩

/-! What is read between the brackets. No line below the one that a signature begins in could be taken
for the beginning of a function. -/

theorem isRow_signatureParam {p : Param × Option DefaultExpr} (hp : p ∈ c.params) :
    IsRow readParam? ((signatureParam p).printed t.naming) (readParam t p) := by
  have hparam := fst_mem_of_mem_params hp
  have hname := hc.isIdentifier _ hparam
  have hequals : '=' ∉ (t.typeName p.1.type).toList :=
    notMem_of_isPrintChar (t.isPrintChar_of_mem_typeName (hc.grammatical _ hparam)) (by decide)
  obtain ⟨p, d⟩ := p
  cases d with
  | none =>
    refine isRow_of_identifier hname ?_ (readParam?_required hname hequals)
    simp [signatureParam, defaultClause, Fragment.renderAll, Fragment.render, ImportTable.naming]
  | some e =>
    refine isRow_of_identifier hname ?_ (readParam?_default hname hequals)
    simp [signatureParam, defaultClause, Fragment.renderAll, Fragment.render,
      Fragment.renderAll_append, ImportTable.naming, DefaultExpr.render]

theorem exists_signature_lines {name : String} (hname : '(' ∉ name.toList) (tail : List Fragment) :
    ∃ marker first others, (c.signature name tail).map (Line.printed t.naming) =
        marker :: first :: others ∧
      functionMark <+: first ∧ (∀ line ∈ others, line.head? ≠ some 'i') ∧
      ∀ below, readBrackets? readParam? first (others ++ below) =
        some ⟨c.params.map (readParam t), (Fragment.renderAll t.naming tail).toList, below⟩ := by
  have hlevel : ∀ l ∈ c.params.map signatureParam, 0 < l.level :=
    List.forall_mem_map.mpr fun p _ => Nat.one_pos
  obtain ⟨first, others, hlines, hfirst, hothers⟩ := exists_function_lines hname hlevel
    (forall₂_isRow_map fun p hp => hc.isRow_signatureParam hp) tail
  have hmark : functionMark <+: first := by
    rw [List.append_assoc] at hfirst
    exact (List.prefix_append _ _).trans hfirst
  rw [map_printed_signature hc.aligned, signatureLines, List.map_cons, hlines]
  exact ⟨_, _, _, rfl, hmark, hothers⟩

omit hc in
theorem toList_callOpening (level : Nat) :
    (margin level ++ Fragment.renderAll t.naming [c.classType, "("]).toList =
      ((margin level).toList ++ (t.typeName (.named c.holder.qualifiedName)).toList) ++ ['('] := by
  simp [Fragment.renderAll, Fragment.render, classType, ImportTable.naming]

theorem notMem_callOpening (level : Nat) :
    '(' ∉ (margin level).toList ++ (t.typeName (.named c.holder.qualifiedName)).toList := by
  have hclass := notMem_of_isPrintChar hc.isPrintChar_of_mem_className (c := '(') (by decide)
  simp [hclass, toList_margin]

theorem exists_construction_lines : ∃ first others,
    c.construction.map (Line.printed t.naming) = first :: others ∧
      (∀ line ∈ first :: others, line.head? ≠ some 'i') ∧
      ∀ below, readBrackets? readArg? first (others ++ below) =
        some ⟨c.holder.params.map fun p => (p.name, p.name), [], below⟩ := by
  obtain ⟨first, others, hlines, -, hheads, hread⟩ := exists_forwardedCall_lines
    (hc.notMem_callOpening 1) (toList_callOpening 1) hc.isIdentifier_of_mem_names []
  rw [construction_eq]
  refine ⟨first, others, hlines, hheads, fun below => ?_⟩
  rw [hread, List.map_map]
  rfl

end IsReadable
end ResolvedHolder
end StateHolders
