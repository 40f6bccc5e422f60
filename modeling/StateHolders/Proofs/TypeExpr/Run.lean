import StateHolders.TypeExpr.Reader

/-! How the readers of types go. A type is read in two ways and its arguments in two, and in five ways the
readers fail. -/

namespace StateHolders.TypeExpr

open Text (Rest skipBlanks)

mutual
/-- A type is taken off the first text, and the second one is left. -/
inductive ReadsType : List Char → TypeExpr → List Char → Prop
  | plain {s r₁ r : List Char} {name : String} {t : TypeExpr} {h₁ h}
      (hname : readName s = .ok (name, ⟨r₁, h₁⟩)) (hopen : accept '<' r₁ = none)
      (hmark : readNullable name [] r₁ = (t, ⟨r, h⟩)) : ReadsType s t r
  | applied {s r₁ r₂ r₃ r : List Char} {name : String} {args : List TypeExpr} {t : TypeExpr} {h₁ h₂ h}
      (hname : readName s = .ok (name, ⟨r₁, h₁⟩)) (hopen : accept '<' r₁ = some ⟨r₂, h₂⟩)
      (hargs : ReadsArgs r₂ args r₃) (hmark : readNullable name args r₃ = (t, ⟨r, h⟩)) : ReadsType s t r

inductive ReadsArgs : List Char → List TypeExpr → List Char → Prop
  | last {s r₁ r : List Char} {t : TypeExpr} {h} (htype : ReadsType s t r₁) (hcomma : accept ',' r₁ = none)
      (hclose : accept '>' r₁ = some ⟨r, h⟩) : ReadsArgs s [t] r
  | next {s r₁ r₂ r : List Char} {t : TypeExpr} {ts : List TypeExpr} {h₂} (htype : ReadsType s t r₁)
      (hcomma : accept ',' r₁ = some ⟨r₂, h₂⟩) (hargs : ReadsArgs r₂ ts r) : ReadsArgs s (t :: ts) r
end

mutual
/-- No type is taken off the text, because of the fault at which reading stops. -/
inductive FailsType : List Char → Stop → Prop
  | name {s : List Char} {stop : Stop} (hname : readName s = .error stop) : FailsType s stop
  | args {s r₁ r₂ : List Char} {name : String} {stop : Stop} {h₁ h₂}
      (hname : readName s = .ok (name, ⟨r₁, h₁⟩)) (hopen : accept '<' r₁ = some ⟨r₂, h₂⟩)
      (hargs : FailsArgs r₂ stop) : FailsType s stop

inductive FailsArgs : List Char → Stop → Prop
  | first {s : List Char} {stop : Stop} (htype : FailsType s stop) : FailsArgs s stop
  | later {s r₁ r₂ : List Char} {t : TypeExpr} {stop : Stop} {h₂} (htype : ReadsType s t r₁)
      (hcomma : accept ',' r₁ = some ⟨r₂, h₂⟩) (hargs : FailsArgs r₂ stop) : FailsArgs s stop
  | unclosed {s r : List Char} {t : TypeExpr} (htype : ReadsType s t r) (hcomma : accept ',' r = none)
      (hclose : accept '>' r = none) : FailsArgs s ⟨.unclosedArguments, skipBlanks r⟩
end

variable {s : List Char} {t : TypeExpr} {stop : Stop}

/-! The readers go in these ways alone. -/

def Ends {α : Type} (Reads : α → List Char → Prop) (Fails : Stop → Prop) :
    Except Stop (α × Rest s) → Prop
  | .ok (a, r) => Reads a r.1
  | .error stop => Fails stop

theorem ends_read :
    (∀ s, Ends (ReadsType s) (FailsType s) (readType s)) ∧
      ∀ s, Ends (ReadsArgs s) (FailsArgs s) (readArgs s) := by
  apply readType.mutual_induct (fun s => Ends (ReadsType s) (FailsType s) (readType s))
    (fun s => Ends (ReadsArgs s) (FailsArgs s) (readArgs s))
  -- cases 1 to 4 are those of the reader of types, and the rest those of the reader of arguments
  case case1 =>
    intro s stop hname
    rw [readType, hname]
    exact .name hname
  case case2 =>
    intro s name r₁ h₁ hname hopen t r h hmark
    simp only [readType, hname, hopen, hmark]
    exact .plain hname hopen hmark
  case case3 =>
    intro s name r₁ h₁ hname r₂ h₂ hopen stop hargs ih
    rw [hargs] at ih
    simp only [readType, hname, hopen, hargs]
    exact .args hname hopen ih
  case case4 =>
    intro s name r₁ h₁ hname r₂ h₂ hopen args r₃ h₃ hargs t r h hmark ih
    rw [hargs] at ih
    simp only [readType, hname, hopen, hargs, hmark]
    exact .applied hname hopen ih hmark
  case case5 =>
    intro s stop htype ih
    rw [htype] at ih
    rw [readArgs, htype]
    exact .first ih
  case case6 =>
    intro s t r₁ h₁ htype r₂ h₂ hcomma stop hargs iht ih
    rw [htype] at iht
    rw [hargs] at ih
    simp only [readArgs, htype, hcomma, hargs]
    exact .later iht hcomma ih
  case case7 =>
    intro s t r₁ h₁ htype r₂ h₂ hcomma ts r h hargs iht ih
    rw [htype] at iht
    rw [hargs] at ih
    simp only [readArgs, htype, hcomma, hargs]
    exact .next iht hcomma ih
  case case8 =>
    intro s t r₁ h₁ htype hcomma r h hclose iht
    rw [htype] at iht
    simp only [readArgs, htype, hcomma, hclose]
    exact .last iht hcomma hclose
  case case9 =>
    intro s t r₁ h₁ htype hcomma hclose iht
    rw [htype] at iht
    simp only [readArgs, htype, hcomma, hclose]
    exact .unclosed iht hcomma hclose

theorem readsType_of_eq {r : Rest s} (h : readType s = .ok (t, r)) : ReadsType s t r.1 := by
  have hends := ends_read.1 s
  rwa [h] at hends

theorem failsType_of_eq (h : readType s = .error stop) : FailsType s stop := by
  have hends := ends_read.1 s
  rwa [h] at hends

mutual
theorem ReadsType.eq_ok {s r : List Char} {t : TypeExpr} :
    ReadsType s t r → ∃ h, readType s = .ok (t, ⟨r, h⟩)
  | .plain hname hopen hmark => ⟨by omega, by simp only [readType, hname, hopen, hmark]⟩
  | .applied hname hopen hargs hmark => by
    obtain ⟨_, hargs⟩ := hargs.eq_ok
    exact ⟨by omega, by simp only [readType, hname, hopen, hargs, hmark]⟩

theorem ReadsArgs.eq_ok {s r : List Char} {ts : List TypeExpr} :
    ReadsArgs s ts r → ∃ h, readArgs s = .ok (ts, ⟨r, h⟩)
  | .last htype hcomma hclose => by
    obtain ⟨_, htype⟩ := htype.eq_ok
    exact ⟨by omega, by simp only [readArgs, htype, hcomma, hclose]⟩
  | .next htype hcomma hargs => by
    obtain ⟨_, htype⟩ := htype.eq_ok
    obtain ⟨_, hargs⟩ := hargs.eq_ok
    exact ⟨by omega, by simp only [readArgs, htype, hcomma, hargs]⟩
end

mutual
theorem FailsType.eq_error {s : List Char} {stop : Stop} : FailsType s stop → readType s = .error stop
  | .name hname => by rw [readType, hname]
  | .args hname hopen hargs => by simp only [readType, hname, hopen, hargs.eq_error]

theorem FailsArgs.eq_error {s : List Char} {stop : Stop} : FailsArgs s stop → readArgs s = .error stop
  | .first htype => by rw [readArgs, htype.eq_error]
  | .later htype hcomma hargs => by
    obtain ⟨_, htype⟩ := htype.eq_ok
    simp only [readArgs, htype, hcomma, hargs.eq_error]
  | .unclosed htype hcomma hclose => by
    obtain ⟨_, htype⟩ := htype.eq_ok
    simp only [readArgs, htype, hcomma, hclose]
end

end StateHolders.TypeExpr
