import DocStore.Proofs.Operand.Literal

/-! # Conversion of literals

What a JSON value is converted to is a literal for it, and a literal is what its value is converted
to, as long as no key comes twice. An operand that is no literal has a field among its parts. The
entries of a map are all parts of it, also those whose key comes back later.
-/

namespace DocStore.Operand

/-- An operand is another one, or stands somewhere inside it. -/
inductive IsPartOf (part : Operand) : Operand → Prop where
  | whole : IsPartOf part part
  | item {item : Operand} {items : List Operand} (listed : item ∈ items)
      (inside : IsPartOf part item) : IsPartOf part (.array items)
  | entry {entry : String × Operand} {entries : List (String × Operand)}
      (listed : entry ∈ entries) (inside : IsPartOf part entry.2) : IsPartOf part (.map entries)

theorem itemsMentionField_iff {items : List Operand} :
    itemsMentionField items = true ↔ ∃ item ∈ items, item.mentionsField = true := by
  induction items with
  | nil => simp [itemsMentionField]
  | cons item rest ih => simp [itemsMentionField, ih]

theorem entriesMentionField_iff {entries : List (String × Operand)} :
    entriesMentionField entries = true ↔ ∃ entry ∈ entries, entry.2.mentionsField = true := by
  induction entries with
  | nil => simp [entriesMentionField]
  | cons entry rest ih => simp [entriesMentionField, ih]

/-- A part that mentions a field lets the whole mention one. -/
theorem IsPartOf.mentionsField {part operand : Operand} (inside : IsPartOf part operand)
    (mentioned : part.mentionsField = true) : operand.mentionsField = true := by
  induction inside with
  | whole => exact mentioned
  | item listed _ ih => exact itemsMentionField_iff.mpr ⟨_, listed, ih⟩
  | entry listed _ ih => exact entriesMentionField_iff.mpr ⟨_, listed, ih⟩

theorem exists_field_of_mentionsField (operand : Operand)
    (mentioned : operand.mentionsField = true) : ∃ path, IsPartOf (.field path) operand := by
  cases operand with
  | null | bool | number | string => cases mentioned
  | field path => exact ⟨path, .whole⟩
  | array items =>
      obtain ⟨item, listed, inItem⟩ := itemsMentionField_iff.mp mentioned
      have smaller : sizeOf item < sizeOf (array items) := by
        have := List.sizeOf_lt_of_mem listed
        simp only [array.sizeOf_spec]
        omega
      obtain ⟨path, inside⟩ := exists_field_of_mentionsField item inItem
      exact ⟨path, .item listed inside⟩
  | map entries =>
      obtain ⟨entry, listed, inEntry⟩ := entriesMentionField_iff.mp mentioned
      have smaller : sizeOf entry.2 < sizeOf (map entries) := by
        obtain ⟨key, operand⟩ := entry
        have := List.sizeOf_lt_of_mem listed
        simp only [Prod.mk.sizeOf_spec, map.sizeOf_spec] at this ⊢
        omega
      obtain ⟨path, inside⟩ := exists_field_of_mentionsField entry.2 inEntry
      exact ⟨path, .entry listed inside⟩
termination_by sizeOf operand
decreasing_by
  all_goals subst_vars
  all_goals exact smaller

theorem mentionsField_iff {operand : Operand} :
    operand.mentionsField = true ↔ ∃ path, IsPartOf (.field path) operand := by
  constructor
  · exact exists_field_of_mentionsField operand
  · rintro ⟨path, inside⟩
    exact inside.mentionsField rfl

theorem requireLiteral_eq_error_iff {operand : Operand} {field operator : String} {error : Error} :
    operand.requireLiteral field operator = .error error ↔
      (∃ path, IsPartOf (.field path) operand) ∧
        error = .invalidOperand field operator .literalValue (.operand .field) := by
  rw [← mentionsField_iff, ← literal?_eq_none_iff, requireLiteral]
  cases operand.literal? with
  | none => simp [eq_comm]
  | some value => simp

theorem ofItems_eq_map (items : List Json) : ofItems items = items.map ofJson := by
  induction items with
  | nil => rfl
  | cons item rest ih => rw [ofItems, ih, List.map_cons]

theorem ofMembers_eq_map (members : Members) :
    ofMembers members = members.map fun member => (member.1, ofJson member.2) := by
  induction members with
  | nil => rfl
  | cons member rest ih => rw [ofMembers, ih, List.map_cons]

/-- Conversion makes of every object a map with the same keys. -/
theorem hasDistinctKeys_ofJson {value : Json} (distinct : value.HasDistinctKeys) :
    (ofJson value).HasDistinctKeys := by
  induction distinct with
  | null | bool | number | string => constructor
  | @array items _ ih =>
      rw [ofJson, ofItems_eq_map]
      exact .array (List.forall_mem_map.mpr ih)
  | @object members distinct _ ih =>
      rw [ofJson, ofMembers_eq_map]
      refine .map ?_ (List.forall_mem_map.mpr ih)
      rw [List.map_map]
      exact distinct

variable (field operator : String)

/-- Literals survive conversion in both directions, each exactly as far as no key comes twice, and
    the order of keys with them. What is no literal mentions a field, be it in an entry that a later
    one overwrites, and is refused for the field and the operator of the query. -/
theorem conversion_keeps_literals :
    (∀ value, (ofJson value).requireLiteral field operator = .ok value ↔ value.HasDistinctKeys) ∧
    (∀ operand error, requireLiteral operand field operator = .error error ↔
      (∃ path, IsPartOf (.field path) operand) ∧
        error = .invalidOperand field operator .literalValue (.operand .field)) ∧
    ∀ operand value, requireLiteral operand field operator = .ok value →
      (ofJson value = operand ↔ operand.HasDistinctKeys) := by
  refine ⟨fun value => ?_, fun operand error => requireLiteral_eq_error_iff,
    fun operand value accepted => ?_⟩
  · rw [requireLiteral_eq_ok_iff]
    constructor
    · exact hasDistinctKeys_of_literal? (ofJson value) value
    · exact literal?_ofJson value
  · rw [requireLiteral_eq_ok_iff] at accepted
    constructor
    · rintro rfl
      exact hasDistinctKeys_ofJson (hasDistinctKeys_of_literal? _ value accepted)
    · intro distinct
      exact ofJson_of_literal? operand distinct value accepted

/-- A map whose keys are in no order, with a map inside, and one whose field is overwritten. -/
theorem conversion_keeps_literals_unsorted :
    let inner := Operand.map [("z", .null), ("a", .bool true)]
    let operand := Operand.map [("b", .array [.string "$x", inner]), ("a", inner)]
    let value := Json.object [("z", .null), ("a", .bool true)]
    let whole := Json.object [("b", .array [.string "$x", value]), ("a", value)]
    operand.requireLiteral "f" "$eq" = .ok whole ∧ operand.HasDistinctKeys ∧
      ofJson whole = operand ∧
      (Operand.map [("a", .field "price"), ("a", .null)]).requireLiteral "f" "$in" =
        .error (.invalidOperand "f" "$in" .literalValue (.operand .field)) := by
  intro inner operand value whole
  have accepted : operand.requireLiteral "f" "$eq" = .ok whole := rfl
  have innerDistinct : inner.HasDistinctKeys :=
    .map (by decide) (List.forall_mem_cons.mpr ⟨.null, List.forall_mem_singleton.mpr (.bool _)⟩)
  have listed : (Operand.array [.string "$x", inner]).HasDistinctKeys :=
    .array (List.forall_mem_cons.mpr ⟨.string _, List.forall_mem_singleton.mpr innerDistinct⟩)
  have distinct : operand.HasDistinctKeys :=
    .map (by decide)
      (List.forall_mem_cons.mpr ⟨listed, List.forall_mem_singleton.mpr innerDistinct⟩)
  have overwritten : IsPartOf (.field "price") (.map [("a", .field "price"), ("a", .null)]) :=
    .entry List.mem_cons_self .whole
  refine ⟨accepted, distinct, ?_, ?_⟩
  · exact ((conversion_keeps_literals "f" "$eq").2.2 operand whole accepted).mpr distinct
  · exact ((conversion_keeps_literals "f" "$in").2.1 _ _).mpr ⟨⟨"price", overwritten⟩, rfl⟩

end DocStore.Operand
