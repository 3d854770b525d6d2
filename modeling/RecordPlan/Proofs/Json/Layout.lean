import RecordPlan.Json.Value
import RecordPlan.Proofs.Text.Part

/-!
# Arrays and objects over several lines

A value with one member a line is written by functions that call one another. What
they come to is said in one piece here: the items of an array stand between brackets,
and the members of an object between braces, each on a line of its own, with commas
behind all but the last (`Json.pretty_array`, `Json.pretty_object`).
-/

namespace RecordPlan.Json

/-- A value without parts is written on one line. -/
theorem pretty_text (level : Nat) (value : String) : pretty level (.text value) = quoted value := by
  simp [pretty, scalar]

theorem pretty_bool (level : Nat) (value : Bool) :
    pretty level (.bool value) = scalar (.bool value) := by
  simp [pretty]

theorem pretty_array_nil (level : Nat) : pretty level (.array []) = ['[', ']'] := by
  simp [pretty, scalar]

/-- **The items of an array** stand between brackets. -/
theorem pretty_array (level : Nat) (item : Value) (items : List Value) :
    pretty level (.array (item :: items)) =
      '[' :: newLine (level + 1) ++
        ((',' :: newLine (level + 1)).intercalate ((item :: items).map (pretty (level + 1))) ++
          (newLine level ++ [']'])) := by
  have later : prettyItems level items =
      (items.map (pretty (level + 1))).flatMap ((',' :: newLine (level + 1)) ++ ·) ++
        (newLine level ++ [']']) := by
    induction items with
    | nil => rw [prettyItems, List.map_nil, List.flatMap_nil, List.nil_append]
    | cons next items ih =>
      rw [prettyItems, ih, List.map_cons, List.flatMap_cons, List.append_assoc (_ ++ _)]
  rw [pretty, later, List.map_cons, Text.intercalate_cons, List.append_assoc, List.append_assoc]

/-- A member of an object, at a level. -/
def prettyMember (level : Nat) (m : String × Value) : List Char :=
  quoted m.1 ++ ':' :: ' ' :: pretty level m.2

/-- **The members of an object** stand between braces. -/
theorem pretty_object (level : Nat) (m : String × Value) (ms : List (String × Value)) :
    pretty level (.object (m :: ms)) =
      '\x7b' :: newLine (level + 1) ++
        ((',' :: newLine (level + 1)).intercalate ((m :: ms).map (prettyMember (level + 1))) ++
          (newLine level ++ ['\x7d'])) := by
  have later : prettyMembers level ms =
      (ms.map (prettyMember (level + 1))).flatMap ((',' :: newLine (level + 1)) ++ ·) ++
        (newLine level ++ ['\x7d']) := by
    induction ms with
    | nil => rw [prettyMembers, List.map_nil, List.flatMap_nil, List.nil_append]
    | cons next ms ih =>
      rw [prettyMembers, ih, List.map_cons, List.flatMap_cons]
      simp [prettyMember]
  rw [pretty, later, List.map_cons, Text.intercalate_cons]
  simp [prettyMember]

end RecordPlan.Json
