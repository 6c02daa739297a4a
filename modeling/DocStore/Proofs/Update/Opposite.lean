import DocStore.Proofs.Number.Exact
import DocStore.Proofs.Update.Partition

/-! # Subtraction as addition

What is subtracted is sent as the addition of its opposite. The opposite of an integer is exact, and
an integer again if both are signed words. The least signed word and the integer one above the
greatest have their opposites in the exchange range too, but as doubles.
-/

namespace DocStore

theorem Binary64.signedUnits_neg (x : Binary64) : x.neg.signedUnits = -x.signedUnits := by
  have magnitude : x.neg.units = x.units := rfl
  unfold signedUnits
  rw [magnitude, neg]
  cases x.negative <;> simp

namespace JsonNumber

/-- An integer whose opposite is in the exchange range as well. -/
inductive IsOpposable : JsonNumber → Prop
  | integer {value : Int} {lower : -9223372036854775808 ≤ value}
      {upper : value < 18446744073709551616} (lowerOpposite : -9223372036854775808 ≤ -value)
      (upperOpposite : -value < 18446744073709551616) : IsOpposable (.integer value lower upper)

/-- An integer and what stands for its opposite, which is the integer itself if both are signed
    words, and else the double of the same value. -/
inductive IsOpposite : JsonNumber → JsonNumber → Prop
  | integer {value : Int} {lower : -9223372036854775808 ≤ value}
      {upper : value < 18446744073709551616} {lowerOpposite : -9223372036854775808 ≤ -value}
      {upperOpposite : -value < 18446744073709551616} (least : value ≠ -9223372036854775808)
      (greatest : value ≠ 9223372036854775808) :
      IsOpposite (.integer value lower upper) (.integer (-value) lowerOpposite upperOpposite)
  | double {value : Int} {lower : -9223372036854775808 ≤ value}
      {upper : value < 18446744073709551616} {opposite : Binary64}
      (atEnd : value = -9223372036854775808 ∨ value = 9223372036854775808)
      (exact : opposite.signedUnits = -value * 2 ^ 1074) :
      IsOpposite (.integer value lower upper) (.double opposite)

end JsonNumber

/-- The doubles nearest to the ends are the ends. -/
theorem Binary64.exists_ofInt?_end {value : Int}
    (atEnd : value = -9223372036854775808 ∨ value = 9223372036854775808) :
    ∃ x, ofInt? value = some x ∧ x.signedUnits = value * 2 ^ 1074 := by
  have exact : (ofInt? value).map signedUnits = some (value * 2 ^ 1074) := by
    obtain rfl | rfl := atEnd <;> decide +kernel
  exact Option.map_eq_some_iff.mp exact

namespace FieldOperation

variable {value : Int} {lower : -9223372036854775808 ≤ value}
  {upper : value < 18446744073709551616}

theorem negate?_within (least : -9223372036854775808 < value)
    (greatest : value < 9223372036854775808) :
    negate? (.integer value lower upper) =
      some (.integer (-value) (by omega) (by omega)) := by
  have inRange : JsonNumber.ofInt? (-value) = some (.integer (-value) (by omega) (by omega)) :=
    dif_pos ⟨by omega, by omega⟩
  simp only [negate?, JsonNumber.toSigned?, if_pos greatest, Option.bind_some,
    if_neg (Int.ne_of_gt least), inRange]

theorem negate?_end (atEnd : value = -9223372036854775808 ∨ value = 9223372036854775808) :
    negate? (.integer value lower upper) =
      (Binary64.ofInt? value).map fun x => .double x.neg := by
  obtain rfl | rfl := atEnd <;> rfl

/-- Every integer whose opposite can be sent has it sent exactly. -/
theorem exists_negate?_of_isOpposable {n : JsonNumber} (opposable : n.IsOpposable) :
    ∃ m, negate? n = some m ∧ n.IsOpposite m := by
  cases opposable with
  | @integer value _ _ lowerOpposite upperOpposite =>
      by_cases atEnd : value = -9223372036854775808 ∨ value = 9223372036854775808
      · obtain ⟨x, nearest, exact⟩ := Binary64.exists_ofInt?_end atEnd
        refine ⟨.double x.neg, ?_, .double atEnd ?_⟩
        · rw [negate?_end atEnd, nearest, Option.map_some]
        · rw [Binary64.signedUnits_neg, exact, Int.neg_mul]
      · obtain ⟨least, greatest⟩ := not_or.mp atEnd
        exact ⟨_, negate?_within (by omega) (by omega), .integer least greatest⟩

theorem compile_increment (n : JsonNumber) (field : String) :
    (increment (.number n)).compile field = .ok (.number n) := rfl

theorem compile_decrement {n m : JsonNumber} (negated : negate? n = some m) (field : String) :
    (decrement (.number n)).compile field = .ok (.number m) := by
  simp only [compile, requireNumber, bind, Except.bind, negated, pure, Except.pure]

end FieldOperation

namespace Update

/-- An amount for each of some fields. -/
abbrev Amounts := List (String × JsonNumber)

/-- The update that adds amounts to fields. -/
def increments (amounts : Amounts) : Update :=
  ofAssignments (amounts.map fun amount => (amount.1, .increment (.number amount.2)))

/-- The update that subtracts amounts from fields. -/
def decrements (amounts : Amounts) : Update :=
  ofAssignments (amounts.map fun amount => (amount.1, .decrement (.number amount.2)))

/-- The wire form of amounts that are added to fields: an object of the amounts under `$inc`, and
    nothing if there are none. -/
def additionWire (amounts : Amounts) : Json :=
  if amounts = [] then .object []
  else .single "$inc" (.object (amounts.map fun amount => (amount.1, .number amount.2)))

section

variable {amounts sent : Amounts} {op : Operand → FieldOperation}

theorem exists_entries
    (compiled : List.Forall₂ (fun amount added => added.1 = amount.1 ∧
      (op (.number amount.2)).compile amount.1 = .ok (.number added.2)) amounts sent) :
    ∃ entries : List Entry,
      entries.map Entry.assignment = amounts.map (fun amount => (amount.1, op (.number amount.2))) ∧
        (entries.map fun entry => (entry.field, entry.value)) =
          sent.map fun added => (added.1, .number added.2) := by
  induction compiled with
  | nil => exact ⟨[], rfl, rfl⟩
  | @cons amount added _ _ first _ ih =>
      obtain ⟨sameField, ofFirst⟩ := first
      obtain ⟨entries, assigned, valued⟩ := ih
      refine ⟨⟨amount.1, op (.number amount.2), .number added.2, ofFirst⟩ :: entries, ?_, ?_⟩
      · rw [List.map_cons, assigned]
        rfl
      · rw [List.map_cons, valued, List.map_cons, sameField]

/-- Operations that are all sent as additions are sent as the addition of what each compiles to. -/
theorem compile_additions (adds : ∀ operand, (op operand).token = "$inc")
    (distinct : (amounts.map Prod.fst).Nodup)
    (compiled : List.Forall₂ (fun amount added => added.1 = amount.1 ∧
      (op (.number amount.2)).compile amount.1 = .ok (.number added.2)) amounts sent) :
    (ofAssignments (amounts.map fun amount => (amount.1, op (.number amount.2)))).compile =
      .ok (additionWire sent) := by
  obtain ⟨entries, assigned, valued⟩ := exists_entries compiled
  rw [← assigned, additionWire]
  split
  next none =>
      subst none
      cases compiled
      rw [assigned]
      rfl
  next some =>
      have filled : entries ≠ [] := by
        rintro rfl
        exact some (List.map_eq_nil_iff.mp valued.symm)
      have fields : entries.map Entry.field = amounts.map Prod.fst := by
        have sameFields := congrArg (List.map Prod.fst) assigned
        rw [List.map_map, List.map_map] at sameFields
        exact sameFields
      have alike : ∀ entry ∈ entries, entry.token = "$inc" := by
        intro entry listed
        have inside : entry.assignment ∈ entries.map Entry.assignment := List.mem_map_of_mem listed
        rw [assigned] at inside
        obtain ⟨amount, -, same⟩ := List.mem_map.mp inside
        exact (congrArg (fun assignment => assignment.2.token) same).symm.trans (adds _)
      rw [compile_of_token filled (fields ▸ distinct) alike, group, if_neg (by decide), valued]

end

/-- To subtract integers from different fields is to add to them what they are the opposites of: the
    wire forms of both updates differ only in the amounts, and each amount is exact. It is an
    integer again except at the two ends of the range, where it is the double of the value. -/
theorem decrements_add_opposites {amounts : Amounts} (distinct : (amounts.map Prod.fst).Nodup)
    (opposable : ∀ amount ∈ amounts, amount.2.IsOpposable) :
    (increments amounts).compile = .ok (additionWire amounts) ∧
      ∃ opposites : Amounts,
        List.Forall₂ (fun amount opposite => opposite.1 = amount.1 ∧
          amount.2.IsOpposite opposite.2) amounts opposites ∧
        (decrements amounts).compile = .ok (additionWire opposites) := by
  constructor
  · exact compile_additions (fun _ => rfl) distinct
      (List.forall₂_same.mpr fun amount _ => ⟨rfl, FieldOperation.compile_increment _ _⟩)
  · have each : ∀ amount ∈ amounts, ∃ opposite : String × JsonNumber,
        (opposite.1 = amount.1 ∧ amount.2.IsOpposite opposite.2) ∧
          (FieldOperation.decrement (.number amount.2)).compile amount.1 =
            .ok (.number opposite.2) := by
      intro amount listed
      obtain ⟨m, negated, isOpposite⟩ :=
        FieldOperation.exists_negate?_of_isOpposable (opposable amount listed)
      exact ⟨(amount.1, m), ⟨rfl, isOpposite⟩, FieldOperation.compile_decrement negated _⟩
    obtain ⟨opposites, related⟩ := exists_forall₂_iff.mpr each
    refine ⟨opposites, related.imp fun _ _ both => both.1, ?_⟩
    exact compile_additions (fun _ => rfl) distinct
      (related.imp fun _ _ both => ⟨both.1.1, both.2⟩)

/-- An amount between the ends, and the least of all. -/
theorem decrements_add_opposites_least :
    let three := JsonNumber.integer 3 (by decide) (by decide)
    let minusThree := JsonNumber.integer (-3) (by decide) (by decide)
    let least := JsonNumber.integer (-9223372036854775808) (by decide) (by decide)
    (increments [("stock", three), ("debt", least)]).compile =
        .ok (additionWire [("stock", three), ("debt", least)]) ∧
      ∃ x : Binary64, x.signedUnits = 9223372036854775808 * 2 ^ 1074 ∧
        (decrements [("stock", three), ("debt", least)]).compile =
          .ok (additionWire [("stock", minusThree), ("debt", .double x)]) := by
  intro three minusThree least
  have opposable : ∀ amount ∈ [("stock", three), ("debt", least)], amount.2.IsOpposable :=
    List.forall_mem_cons.mpr ⟨.integer (by decide) (by decide),
      List.forall_mem_singleton.mpr (.integer (by decide) (by decide))⟩
  obtain ⟨added, _, related, subtracted⟩ :=
    decrements_add_opposites (by decide) opposable
  refine ⟨added, ?_⟩
  cases related with
  | @cons _ stock _ _ first later =>
      cases later with
      | @cons _ debt _ _ second none =>
          cases none
          obtain ⟨_, n⟩ := stock
          obtain ⟨_, m⟩ := debt
          obtain ⟨rfl, ofThree⟩ := first
          obtain ⟨rfl, ofLeast⟩ := second
          cases ofThree with
          | double atEnd => exact absurd atEnd (by decide)
          | integer =>
              cases ofLeast with
              | integer notLeast => exact absurd rfl notLeast
              | double _ exact => exact ⟨_, exact, subtracted⟩

/-- At both ends the opposite is an integer of the exchange range, but what is sent is not. -/
theorem decrement_of_end_not_integer :
    let least := JsonNumber.integer (-9223372036854775808) (by decide) (by decide)
    let beyond := JsonNumber.integer 9223372036854775808 (by decide) (by decide)
    (decrements [("stock", least)]).compile ≠ .ok (additionWire [("stock", beyond)]) ∧
      (decrements [("stock", beyond)]).compile ≠ .ok (additionWire [("stock", least)]) := by
  decide +kernel

end Update

end DocStore
