import MonitorFeed.Proofs.Json.Layouts
import MonitorFeed.Proofs.Schema.Finite
import MonitorFeed.Proofs.Schema.RoundTrip

/-!
What is printed of a value. The text over several lines is the text on one line with white space
between its tokens, so the two are read alike, also with white space behind them.
-/

namespace MonitorFeed

open Json

variable {α : Type} {schema : Schema α} {value : α} {line lines after : String}

/-- The two texts of a value for one order of the entries of its tables, on one line and over
several. -/
def Schema.Prints (schema : Schema α) (value : α) (line lines : String) : Prop :=
  ∃ document, schema.Written value document ∧ line = String.ofList document.compact ∧
    lines = String.ofList (document.pretty 0)

theorem Schema.prints_write (schema : Schema α) (value : α) :
    schema.Prints value (schema.write value) (schema.writePretty value) :=
  ⟨_, schema.written_toJson value, rfl, rfl⟩

namespace Schema.Prints

/-- The lines are the line but for white space outside strings. -/
theorem despace (prints : schema.Prints value line lines) :
    Json.despace .outside lines.toList = line.toList := by
  obtain ⟨document, -, rfl, rfl⟩ := prints
  rw [String.toList_ofList, String.toList_ofList, despace_pretty]

/-- The lines are read as the line is. -/
theorem toOption_read (prints : schema.Prints value line lines) (blank : Blank after.toList) :
    (schema.read (lines ++ after)).toOption = (schema.read line).toOption := by
  obtain ⟨document, -, rfl, rfl⟩ := prints
  obtain ⟨node, one, several⟩ := exists_isDocument_layouts document
  have spelled := several 0 after.toList blank
  rw [String.ofList_append, String.ofList_toList] at spelled
  rw [schema.toOption_read_eq_verdict one, schema.toOption_read_eq_verdict spelled]

/-- The lines are read as the settled value. -/
theorem read (prints : schema.Prints value line lines) (regular : schema.isRegular = true)
    (blank : Blank after.toList)
    (back : ∀ x ∈ schema.doubles value, Decimal.isFinite x = true → ReadsBack x) :
    schema.read (lines ++ after) = .ok (schema.settle value) := by
  rw [← toOption_eq_some_iff, prints.toOption_read blank]
  obtain ⟨document, written, rfl, -⟩ := prints
  rw [Schema.read_written regular written back, toOption_ok]

/-- A value that was read, and is printed, is read again. -/
theorem read_of_read (prints : schema.Prints value line lines) (regular : schema.isRegular = true)
    (sound : schema.hasFiniteFallbacks = true) (blank : Blank after.toList)
    (back : ∀ x ∈ schema.doubles value, Decimal.isFinite x = true → ReadsBack x) {text : String}
    (given : schema.read text = .ok value) : schema.read (lines ++ after) = .ok value := by
  rw [prints.read regular blank back,
    schema.settle_of_finite value (Schema.finite_of_read sound given)]

section Lists

variable {values : List α}

/-- The lines of a list are those of an optional one that is there. -/
theorem optional (prints : (Schema.list schema).Prints values line lines) :
    (Schema.optional (.list schema)).Prints (some values) line lines := prints

theorem toOption_readMany (prints : (Schema.list schema).Prints values line lines)
    (blank : Blank after.toList) :
    (schema.readMany (lines ++ after)).toOption = (schema.readMany line).toOption := by
  rw [Schema.readMany, Schema.readMany, toOption_map, toOption_map, prints.optional.toOption_read blank]

/-- The lines of a list are read as the settled values. -/
theorem readMany (prints : (Schema.list schema).Prints values line lines)
    (regular : schema.isRegular = true) (blank : Blank after.toList)
    (back : ∀ x ∈ (Schema.list schema).doubles values, Decimal.isFinite x = true → ReadsBack x) :
    schema.readMany (lines ++ after) = .ok ((Schema.list schema).settle values) := by
  have same : (Schema.optional (.list schema)).doubles (some values) =
      (Schema.list schema).doubles values :=
    List.flatMap_singleton _ values
  have read := prints.optional.read (Schema.isRegular_optional.mpr (.inr ⟨regular, rfl⟩)) blank
    (same.symm ▸ back)
  rw [Schema.readMany, read]
  rfl

/-- A list of values that was read, and is printed, is read again. -/
theorem readMany_of_readMany (prints : (Schema.list schema).Prints values line lines)
    (regular : schema.isRegular = true) (sound : schema.hasFiniteFallbacks = true)
    (blank : Blank after.toList)
    (back : ∀ x ∈ (Schema.list schema).doubles values, Decimal.isFinite x = true → ReadsBack x)
    {text : String} (given : schema.readMany text = .ok values) :
    schema.readMany (lines ++ after) = .ok values := by
  rw [prints.readMany regular blank back,
    (Schema.list schema).settle_of_finite values (Schema.finite_of_readMany sound given)]

end Lists

end Schema.Prints

end MonitorFeed
