import QueryLint.Proofs.Json.Decoding
import QueryLint.Proofs.Numerals
import QueryLint.Report.Render

/-!
Reports as JSON. The JSON text of a document denotes the document, at any indent. That of a report
is read back as an object with all that the report says, so that no two reports have the same text.
-/

namespace QueryLint

open Text

/-! ## Characters and numbers -/

namespace Json

theorem hexValue?_lowerHex : ∀ digit < 16, hexValue? (Document.lowerHex digit) = some digit := by
  decide

theorem unitOf?_lowerHex {code : Nat} (h : code < 32) :
    unitOf? ['0', '0', Document.lowerHex (code / 16), Document.lowerHex (code % 16)] =
      some code := by
  have hzero : hexValue? '0' = some 0 := rfl
  have hhigh := hexValue?_lowerHex (code / 16) (by omega)
  have hlow := hexValue?_lowerHex (code % 16) (by omega)
  simp only [unitOf?, hzero, hhigh, hlow, bind, Option.bind, pure, Option.some.injEq]
  omega

theorem writtenChar_jsonChar (c : Char) : WrittenChar (Document.jsonChar c) c := by
  unfold Document.jsonChar
  split_ifs with hquote hslash hback hfeed hline hreturn htab hcontrol
  · exact .escaped (congrArg some hquote.symm)
  · exact .escaped (congrArg some hslash.symm)
  · exact .escaped (congrArg some hback.symm)
  · exact .escaped (congrArg some hfeed.symm)
  · exact .escaped (congrArg some hline.symm)
  · exact .escaped (congrArg some hreturn.symm)
  · exact .escaped (congrArg some htab.symm)
  · have hhalves : isHighHalf c.toNat = false ∧ isLowHalf c.toNat = false := by
      simp only [isHighHalf, isLowHalf]
      constructor <;> simp <;> omega
    have hunit := WrittenChar.unit (unitOf?_lowerHex hcontrol) hhalves.1 hhalves.2
    rwa [Char.ofNat_toNat] at hunit
  · apply WrittenChar.unescaped
    simp [isUnescaped, hquote, hslash]
    omega

theorem writtenText_jsonChar (text : Text) : WrittenText (text.flatMap Document.jsonChar) text := by
  induction text with
  | nil => exact .nil
  | cons c text ih => exact .cons (writtenChar_jsonChar c) ih

theorem hasWholePart_ofNat (n : Nat) : hasWholePart (ofNat n) := by
  have hzero : (ofNat n).head? = some '0' → ofNat n = ['0'] := by
    intro h
    rw [eq_zero_of_head?_ofNat h]
    rfl
  have hfirst : (ofNat n).head? ≠ some '0' ∨ ofNat n = ['0'] := or_iff_not_imp_left.mpr fun h =>
    hzero (not_not.mp h)
  simp [hasWholePart, takeWhile_isDigit_ofNat, dropWhile_isDigit_ofNat, ofNat_ne_nil, hfirst]

theorem numberOf?_ofNat (n : Nat) : numberOf? (ofNat n) = some (false, ⟨n, 0⟩) := by
  have hchars : (ofNat n).all isNumberChar := by
    rw [List.all_eq_true]
    intro c hc
    simp [isNumberChar, isDigit_of_mem_ofNat hc]
  have hsign : (ofNat n).head? ≠ some '-' := head?_ofNat_ne (by decide)
  simp [numberOf?, dropMinus, hchars, hsign, hasWholePart_ofNat, readDecimal?_ofNat]

theorem spaces_nil : Spaces [] := by
  simp [Spaces]

theorem spaces_pad (indent : Nat) : Spaces ('\n' :: Document.pad indent) := by
  intro c hc
  rcases List.mem_cons.mp hc with rfl | hpad
  · rfl
  · rw [List.eq_of_mem_replicate hpad]
    rfl

end Json

/-! ## Documents -/

namespace Document

open Json

mutual

def value : Document → Value
  | .flag value => .flag value
  | .number value => .number false ⟨value, 0⟩
  | .text value => .string value
  | .list items => .array (values items)
  | .record fields => .object (members fields)

def values : List Document → List Value
  | [] => []
  | item :: items => item.value :: values items

def members : List (Text × Document) → List (Text × Value)
  | [] => []
  | (key, value) :: fields => (key, value.value) :: members fields

end

theorem values_eq_map (items : List Document) : values items = items.map value := by
  induction items with
  | nil => rfl
  | cons item items ih => rw [values, ih, List.map_cons]

theorem members_eq_map (fields : List (Text × Document)) :
    members fields = fields.map fun field => (field.1, field.2.value) := by
  induction fields with
  | nil => rfl
  | cons field fields ih => rw [members, ih, List.map_cons]

/-- The text of an item of a list, on a line of its own. -/
def itemLine (indent : Nat) (item : Document) : Text := '\n' :: (pad indent ++ item.json indent)

/-- A field of a record as a member of a JSON object, on a line of its own. -/
def fieldLine (indent : Nat) (field : Text × Document) : Member where
  keyText := '\n' :: (pad indent ++ jsonText field.1)
  key := field.1
  valueText := ' ' :: field.2.json indent
  value := field.2.value

theorem jsonItems_eq_join (indent : Nat) (items : List Document) :
    jsonItems indent items = join [','] (items.map (itemLine indent)) := by
  induction items with
  | nil => rfl
  | cons item items ih =>
    cases items with
    | nil => rfl
    | cons next items =>
      rw [List.map_cons] at ih
      rw [jsonItems, ih, List.map_cons, List.map_cons, join_cons_cons]
      · simp [itemLine]
      · simp

theorem jsonFields_eq_join (indent : Nat) (fields : List (Text × Document)) :
    jsonFields indent fields =
      join [','] (fields.map fun field => (fieldLine indent field).text) := by
  induction fields with
  | nil => rfl
  | cons field fields ih =>
    cases fields with
    | nil => simp [jsonFields, join, fieldLine, Member.text]
    | cons next fields =>
      rw [List.map_cons] at ih
      rw [jsonFields, ih, List.map_cons, List.map_cons, join_cons_cons]
      · simp [fieldLine, Member.text]
      · simp

theorem denotes_itemLine {item : Document} {indent : Nat}
    (h : Denotes (item.json indent) item.value) : Denotes (itemLine indent item) item.value := by
  have hspaced := h.spaced (spaces_pad indent) spaces_nil
  rwa [List.append_nil] at hspaced

theorem denotes_fieldLine {field : Text × Document} {indent : Nat}
    (h : Denotes (field.2.json indent) field.2.value) :
    Denotes (fieldLine indent field).valueText (fieldLine indent field).value := by
  have hspace : Spaces [' '] := by simp [Spaces, isSpace]
  have hspaced := h.spaced hspace spaces_nil
  rwa [List.append_nil] at hspaced

theorem writtenKey_fieldLine (indent : Nat) (field : Text × Document) :
    WrittenKey (fieldLine indent field).keyText (fieldLine indent field).key :=
  ⟨'\n' :: pad indent, _, [], spaces_pad indent, spaces_nil, writtenText_jsonChar field.1, rfl⟩

theorem denotes_list {items : List Document} {indent : Nat}
    (each : ∀ item ∈ items, Denotes (item.json (indent + 2)) item.value) :
    Denotes ((list items).json indent) (list items).value := by
  cases items with
  | nil => exact @Denotes.array [] [] spaces_nil (by simp)
  | cons item items =>
    have hlines : ∀ line ∈ (item :: items).map fun item =>
        (itemLine (indent + 2) item, item.value), Denotes line.1 line.2 := by
      intro line hline
      obtain ⟨item, hitem, rfl⟩ := List.mem_map.mp hline
      exact denotes_itemLine (each item hitem)
    have harray := Denotes.array (spaces_pad indent) hlines
    rw [List.map_map, List.map_map] at harray
    rw [json, jsonItems_eq_join, value, values_eq_map]
    exact harray

theorem denotes_record {fields : List (Text × Document)} {indent : Nat}
    (each : ∀ field ∈ fields, Denotes (field.2.json (indent + 2)) field.2.value) :
    Denotes ((record fields).json indent) (record fields).value := by
  cases fields with
  | nil => exact @Denotes.object [] [] spaces_nil (by simp) (by simp)
  | cons field fields =>
    have hkeys : ∀ member ∈ (field :: fields).map (fieldLine (indent + 2)),
        WrittenKey member.keyText member.key := by
      intro member hmember
      obtain ⟨field, -, rfl⟩ := List.mem_map.mp hmember
      exact writtenKey_fieldLine (indent + 2) field
    have hvalues : ∀ member ∈ (field :: fields).map (fieldLine (indent + 2)),
        Denotes member.valueText member.value := by
      intro member hmember
      obtain ⟨field, hfield, rfl⟩ := List.mem_map.mp hmember
      exact denotes_fieldLine (each field hfield)
    have hobject := Denotes.object (spaces_pad indent) hkeys hvalues
    rw [List.map_map, List.map_map] at hobject
    rw [json, jsonFields_eq_join, value, members_eq_map]
    exact hobject

/-- The JSON text of a document denotes the document, at any indent. -/
theorem denotes_json (document : Document) (indent : Nat) :
    Denotes (document.json indent) document.value :=
  match document with
  | .flag value => .flag value
  | .number value => .number (numberOf?_ofNat value)
  | .text value => .string (writtenText_jsonChar value)
  | .list items => denotes_list fun item _ => item.denotes_json (indent + 2)
  | .record fields => denotes_record fun field _ => field.2.denotes_json (indent + 2)
  termination_by sizeOf document
  decreasing_by
  · rename_i hitem
    have hlt := List.sizeOf_lt_of_mem hitem
    simp only [list.sizeOf_spec]
    omega
  · rename_i hfield
    have hlt := List.sizeOf_lt_of_mem hfield
    simp only [record.sizeOf_spec]
    have hpair : sizeOf field = 1 + sizeOf field.1 + sizeOf field.2 := by
      rfl
    omega

example : (record [("\"", .list [.number 10, .text "\x01😀"])]).json 0 =
    "\x7b\n  \"\\\"\": [\n    10,\n    \"\\u0001😀\"\n  ]\n\x7d" := by
  cbv

end Document

/-! ## Reports -/

def Json.Value.ofMessage (message : Text) : Json.Value := .object [("message", .string message)]

def StatementReport.jsonValue (statement : StatementReport) : Json.Value :=
  .object [
    ("index", .number false ⟨statement.index, 0⟩),
    ("line", .number false ⟨statement.line, 0⟩),
    ("sql", .string statement.sql),
    ("is_valid", .flag statement.result.isValid),
    ("outcome", .string statement.result.outcome.key),
    ("errors", .array (statement.result.errors.map Json.Value.ofMessage)),
    ("suggestions", .array (statement.result.suggestions.map Json.Value.ofMessage))]

def Report.jsonValue (report : Report) : Json.Value :=
  .object [("statements", .array (report.statements.map StatementReport.jsonValue))]

theorem Json.Value.ofMessage_injective : Function.Injective Json.Value.ofMessage := by
  intro message other h
  simpa [Json.Value.ofMessage] using h

theorem Json.Value.uniqueKeys_messages (messages : List Text) :
    (Json.Value.array (messages.map Json.Value.ofMessage)).UniqueKeys := by
  apply Json.Value.UniqueKeys.array
  intro item hitem
  obtain ⟨message, -, rfl⟩ := List.mem_map.mp hitem
  exact .object (by simp) (by simpa using .string message)

theorem Outcome.mem_all (outcome : Outcome) : outcome ∈ all := by
  cases outcome <;> decide

theorem Outcome.key_injective : Function.Injective Outcome.key := by
  have hall : ∀ outcome ∈ all, ∀ other ∈ all, outcome.key = other.key → outcome = other := by
    decide
  exact fun outcome other => hall outcome outcome.mem_all other other.mem_all

namespace StatementReport

theorem value_document (statement : StatementReport) :
    statement.document.value = statement.jsonValue := by
  simp [document, Document.value, Document.members, Document.values_eq_map, jsonValue,
    Document.ofMessage, Json.Value.ofMessage, Function.comp_def]

theorem jsonValue_injective : Function.Injective jsonValue := by
  intro ⟨index, line, sql, isValid, outcome, errors, suggestions⟩
    ⟨index', line', sql', isValid', outcome', errors', suggestions'⟩ h
  simp only [jsonValue, Json.Value.object.injEq, List.cons.injEq, Prod.mk.injEq,
    Json.Value.number.injEq, Json.Value.string.injEq, Json.Value.flag.injEq,
    Json.Value.array.injEq, Decimal.mk.injEq, true_and, and_true] at h
  obtain ⟨rfl, rfl, rfl, rfl, hkey, herrors, hsuggestions⟩ := h
  rw [Outcome.key_injective hkey,
    List.map_injective_iff.mpr Json.Value.ofMessage_injective herrors,
    List.map_injective_iff.mpr Json.Value.ofMessage_injective hsuggestions]

theorem uniqueKeys_jsonValue (statement : StatementReport) : statement.jsonValue.UniqueKeys := by
  apply Json.Value.UniqueKeys.object
  · simp only [List.map_cons, List.map_nil]
    decide
  · simp only [List.forall_mem_cons]
    exact ⟨.number _ _, .number _ _, .string _, .flag _, .string _,
      Json.Value.uniqueKeys_messages _, Json.Value.uniqueKeys_messages _, List.forall_mem_nil _⟩

end StatementReport

namespace Report

theorem value_document (report : Report) : report.document.value = report.jsonValue := by
  simp [document, Document.value, Document.members, Document.values_eq_map, jsonValue,
    StatementReport.value_document, Function.comp_def]

theorem jsonValue_injective : Function.Injective jsonValue := by
  intro ⟨statements⟩ ⟨others⟩ h
  have hmap : statements.map StatementReport.jsonValue = others.map StatementReport.jsonValue := by
    simpa [jsonValue] using h
  rw [List.map_injective_iff.mpr StatementReport.jsonValue_injective hmap]

theorem uniqueKeys_jsonValue (report : Report) : report.jsonValue.UniqueKeys := by
  apply Json.Value.UniqueKeys.object
  · simp
  · rw [List.forall_mem_singleton]
    apply Json.Value.UniqueKeys.array
    intro item hitem
    obtain ⟨statement, -, rfl⟩ := List.mem_map.mp hitem
    exact statement.uniqueKeys_jsonValue

theorem denotes_render_json (report : Report) (coloured : Bool) :
    Json.Denotes (report.render .json coloured) report.jsonValue := by
  rw [← value_document]
  exact report.document.denotes_json 0

/-- A report as JSON is JSON text, which is read back as an object with all that the report says,
each key once. Reports have the same text only if they are the same. -/
theorem render_json (report : Report) (coloured : Bool) :
    Json.Denotes (report.render .json coloured) report.jsonValue ∧
      Json.decode (report.render .json coloured) = some report.jsonValue ∧
      report.jsonValue.UniqueKeys ∧
      ∀ (other : Report) (colouredToo : Bool),
        other.render .json colouredToo = report.render .json coloured ↔ other = report := by
  have hdenotes := report.denotes_render_json coloured
  refine ⟨hdenotes, Json.decode_of_denotes hdenotes, report.uniqueKeys_jsonValue, ?_⟩
  intro other colouredToo
  constructor
  · intro h
    have hother := other.denotes_render_json colouredToo
    rw [h] at hother
    exact jsonValue_injective (hother.unique hdenotes)
  · rintro rfl
    rfl

end Report

end QueryLint
