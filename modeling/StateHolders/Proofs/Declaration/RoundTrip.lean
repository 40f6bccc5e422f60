import StateHolders.Proofs.Except
import StateHolders.Proofs.TypeExpr.RoundTrip

/-! Declarations written as JSON and read again. Everything comes back but a parameter's type whose text
reads as another type or as none, so a declaration comes back just where its types do. -/

namespace StateHolders.Decode

open TypeExpr (Grammatical decode_encode_iff)

theorem list_map_eq_ok_iff {α : Type} {decode : Decoder α} {encode : α → Json} {as : List α} :
    list decode (.array (as.map encode)) = .ok as ↔ ∀ a ∈ as, decode (encode a) = .ok a := by
  rw [list, mapM_eq_ok_iff, List.forall₂_map_left_iff, List.forall₂_same]

theorem list_strings (values : List String) : list string (Encode.strings values) = .ok values :=
  list_map_eq_ok_iff.mpr fun _ _ => rfl

theorem int64_whole (value : Int64) : int64 (.number (.whole value.toInt)) = .ok value := by
  have hlow := value.le_toInt
  have hhigh := value.toInt_lt
  rw [int64, if_pos ⟨hlow, hhigh⟩, Int64.ofInt_toInt]

/-! Markers. An argument list is written even where it is empty. -/

section

variable {fields : List (String × Json)} {args : List String}

theorem single_fields {α : Type} {decode : Decoder α} {variant field : String} {v : Json} {a : α}
    (hfield : fields.lookup field = some v) (hv : decode v = .ok a) :
    single variant field decode (.fields fields) = .ok a := by
  rw [single, hfield, optional, hv]
  rfl

theorem arguments_fields (hfield : fields.lookup "args" = some (Encode.strings args)) :
    arguments (.fields fields) = .ok args := by
  rw [arguments, hfield, optional, list_strings]
  rfl

theorem provision_fields {provider : String} (hargs : fields.lookup "args" = some (Encode.strings args))
    (hprovider : fields.lookup "provider" = some (.string provider)) :
    provision (.fields fields) = .ok (provider, args) := by
  rw [provision, hargs, hprovider, optional, list_strings]
  rfl

end

theorem marker_encode (m : Marker) : marker (Encode.marker m) = .ok m := by
  cases m with
  | literalInt value =>
    have hvalue : single "Marker::LiteralInt" "value" int64
        (.fields [("value", .number (.whole value.toInt))]) = .ok value :=
      single_fields rfl (int64_whole value)
    change Marker.literalInt <$> single "Marker::LiteralInt" "value" int64
      (.fields [("value", .number (.whole value.toInt))]) = _
    rw [hvalue]
    rfl
  | frameworkInject args =>
    have hargs : arguments (.fields [("args", Encode.strings args)]) = .ok args := arguments_fields rfl
    change Marker.frameworkInject <$> arguments (.fields [("args", Encode.strings args)]) = _
    rw [hargs]
    rfl
  | namedInject args =>
    have hargs : arguments (.fields [("args", Encode.strings args)]) = .ok args := arguments_fields rfl
    change Marker.namedInject <$> arguments (.fields [("args", Encode.strings args)]) = _
    rw [hargs]
    rfl
  | customProvide provider args =>
    have hprovision : provision
        (.fields [("provider", .string provider), ("args", Encode.strings args)]) =
          .ok (provider, args) := provision_fields rfl rfl
    change (provision (.fields [("provider", .string provider), ("args", Encode.strings args)]) >>=
      fun p => pure (Marker.customProvide p.1 p.2)) = _
    rw [hprovision]
    rfl
  -- what the other markers carry is a text or a truth value, or nothing
  | _ => rfl

theorem classMarker_encode (m : ClassMarker) : classMarker (Encode.classMarker m) = .ok m := by
  cases m with
  | injectionMode mode => cases mode <;> rfl
  | _ => rfl

theorem markers_encode (ms : List Marker) : list marker (.array (ms.map Encode.marker)) = .ok ms :=
  list_map_eq_ok_iff.mpr fun m _ => marker_encode m

theorem classMarkers_encode (ms : List ClassMarker) :
    list classMarker (.array (ms.map Encode.classMarker)) = .ok ms :=
  list_map_eq_ok_iff.mpr fun m _ => classMarker_encode m

/-! Parameters and properties. -/

theorem param_encode (p : DeclaredParam) :
    param (Encode.param p) = (type (Encode.type p.type)).map fun t => { p with type := t } := by
  change (optional (list marker) (some (.array (p.markers.map Encode.marker))) >>= fun markers =>
    optional type (some (Encode.type p.type)) >>= fun t =>
    required "type" t >>= fun t => pure (DeclaredParam.mk p.name t (markers.getD []))) = _
  rw [optional, markers_encode, optional]
  cases type (Encode.type p.type) <;> rfl

theorem property_encode (p : DeclaredProperty) : property (Encode.property p) = .ok p := by
  change (optional (list marker) (some (.array (p.markers.map Encode.marker))) >>= fun markers =>
    pure (DeclaredProperty.mk p.name (markers.getD []))) = _
  rw [optional, markers_encode]
  rfl

theorem properties_encode (ps : List DeclaredProperty) :
    list property (.array (ps.map Encode.property)) = .ok ps :=
  list_map_eq_ok_iff.mpr fun p _ => property_encode p

theorem param_encode_eq_ok_iff {p : DeclaredParam} :
    param (Encode.param p) = .ok p ↔ p.type.Grammatical := by
  rw [param_encode, ← decode_encode_iff]
  cases type (Encode.type p.type) with
  | error e => simp [Except.map]
  | ok t =>
    obtain ⟨name, type, markers⟩ := p
    simp [Except.map]

theorem declaration_encode (d : Declaration) : declaration (Encode.declaration d) =
    (list param (.array (d.params.map Encode.param))).map fun params =>
      { d with params := params } := by
  obtain ⟨name, givenPackage, params, properties, markers⟩ := d
  -- whether or not a package is given, each field is found under its name
  have hfields : declaration (Encode.declaration ⟨name, givenPackage, params, properties, markers⟩) =
      (optional (list classMarker) (some (.array (markers.map Encode.classMarker))) >>= fun markers =>
        optional (list param) (some (.array (params.map Encode.param))) >>= fun params =>
        optional (list property) (some (.array (properties.map Encode.property))) >>= fun properties =>
        pure ⟨name, givenPackage, params.getD [], properties.getD [], markers.getD []⟩) := by
    cases givenPackage <;> rfl
  rw [hfields, optional, classMarkers_encode, optional, optional, properties_encode]
  cases list param (.array (params.map Encode.param)) <;> rfl

theorem declaration_encode_eq_ok_iff {d : Declaration} :
    declaration (Encode.declaration d) = .ok d ↔ ∀ p ∈ d.params, p.type.Grammatical := by
  have hparams : list param (.array (d.params.map Encode.param)) = .ok d.params ↔
      ∀ p ∈ d.params, p.type.Grammatical := by
    simp only [list_map_eq_ok_iff, param_encode_eq_ok_iff]
  rw [declaration_encode, ← hparams]
  cases list param (.array (d.params.map Encode.param)) with
  | error e => simp [Except.map]
  | ok params =>
    obtain ⟨name, givenPackage, params', properties, markers⟩ := d
    simp [Except.map]

/-- A declaration written as JSON is read back just where every name in its parameters' types is one that
the grammar has, alone and in lists; everything else in it always comes back. -/
theorem declaration_round_trip :
    (∀ d : Declaration,
      declaration (Encode.declaration d) = .ok d ↔ ∀ p ∈ d.params, p.type.Grammatical) ∧
    (∀ ds : List Declaration, declarations (Encode.declarations ds) = .ok ds ↔
      ∀ d ∈ ds, ∀ p ∈ d.params, p.type.Grammatical) ∧
    ∀ d : Declaration, declarations (Encode.declaration d) = .ok [d] ↔
      ∀ p ∈ d.params, p.type.Grammatical := by
  refine ⟨fun d => declaration_encode_eq_ok_iff, fun ds => ?_, fun d => ?_⟩
  · have hlist : declarations (Encode.declarations ds) =
        list declaration (.array (ds.map Encode.declaration)) := rfl
    simp only [hlist, list_map_eq_ok_iff, declaration_encode_eq_ok_iff]
  · have hone : declarations (Encode.declaration d) =
        (declaration (Encode.declaration d)).map ([·]) := rfl
    rw [hone, ← declaration_encode_eq_ok_iff]
    cases declaration (Encode.declaration d) <;> simp [Except.map]

end StateHolders.Decode
