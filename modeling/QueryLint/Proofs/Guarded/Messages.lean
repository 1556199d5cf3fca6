import Mathlib.Data.List.Basic
import QueryLint.Check.Checker

/-!
The wording of a rejection with every index and every subtraction guarded. A window of characters
is taken only in order and in range, a row of the table of distances is overwritten in place, and a
smaller number is subtracted from a greater one; `none` stands for a guard that failed.
-/

namespace QueryLint.Guarded

open Text

/-- The characters from `start` to `stop`, which have to be in order and in range. -/
def window? (text : Text) (start stop : Nat) : Option Text :=
  if start ≤ stop ∧ stop ≤ text.length then some ((Span.mk start stop).slice text) else none

theorem window?_eq (text : Text) {start stop : Nat} (h : start ≤ stop)
    (hstop : stop ≤ text.length) :
    window? text start stop = some ((Span.mk start stop).slice text) := if_pos ⟨h, hstop⟩

def snippet? (text : Text) (position : Nat) : Option (Option Text) :=
  if text.length ≤ position then some none
  else do
    let start := position - snippetRadius
    let stop := min (position + snippetRadius) text.length
    let window ← window? text start stop
    let indent ← minus? position start
    let shown := window.map fun c => if c = '\n' || c = '\r' || c = '\t' then ' ' else c
    return some (shown ++ '\n' :: (List.replicate indent ' ' ++ ['^']))

theorem snippet?_eq (text : Text) (position : Nat) :
    snippet? text position = some (QueryLint.snippet? text position) := by
  by_cases hposition : text.length ≤ position
  · simp [snippet?, QueryLint.snippet?, hposition]
  · have hwindow := window?_eq text
      (by omega : position - snippetRadius ≤ min (position + snippetRadius) text.length)
      (Nat.min_le_right _ _)
    have hindent := minus?_eq (Nat.sub_le position snippetRadius)
    simp [snippet?, QueryLint.snippet?, hposition, hwindow, hindent]

/-- A row of the table of distances when the longer prefix grows by `c`, overwritten in place from
the cell after the one numbered `i` on. `diagonal` is what that cell held before. -/
def fillRow? (c : Char) (diagonal i : Nat) (row : List Nat) : Text → Option (List Nat)
  | [] => some row
  | d :: short => do
    let left ← row[i]?
    let above ← row[i + 1]?
    let cell := min (min (diagonal + if c = d then 0 else 1) (left + 1)) (above + 1)
    fillRow? c above (i + 1) (row.set (i + 1) cell) short

/-- The last row of the table of distances, when `row` is the one numbered `i`. -/
def fillRows? (short : Text) (i : Nat) (row : List Nat) : Text → Option (List Nat)
  | [] => some row
  | c :: long => do
    let first ← row[0]?
    let next ← fillRow? c first 0 (row.set 0 (i + 1)) short
    fillRows? short (i + 1) next long

/-- The edit distance of two texts, of which the second is not the longer. -/
def distanceFrom? (long short : Text) : Option Nat :=
  if short.isEmpty then some long.length
  else do
    let row ← fillRows? short 0 (List.range (short.length + 1)) long
    row[short.length]?

def editDistance? (a b : Text) : Option Nat :=
  if b.length ≤ a.length then distanceFrom? a b else distanceFrom? b a

theorem length_rowAfter (c : Char) (diagonal left : Nat) (short : Text) (row : List Nat)
    (h : row.length = short.length) :
    (EditDistance.rowAfter c diagonal left short row).length = short.length := by
  induction short generalizing diagonal left row with
  | nil => simp [EditDistance.rowAfter]
  | cons d short ih =>
    cases row with
    | nil => cases h
    | cons above row =>
      rw [List.length_cons, List.length_cons, Nat.succ_inj] at h
      simp [EditDistance.rowAfter, ih _ _ _ h]

/-- The cells before the one numbered `done.length` are those of the new row, the others those of
the old one. -/
theorem fillRow?_eq (c : Char) (diagonal left : Nat) (done row : List Nat) {short : Text}
    (h : row.length = short.length) :
    fillRow? c diagonal done.length (done ++ left :: row) short =
      some (done ++ left :: EditDistance.rowAfter c diagonal left short row) := by
  induction short generalizing diagonal left done row with
  | nil =>
    obtain rfl := List.eq_nil_of_length_eq_zero h
    rfl
  | cons d short ih =>
    cases row with
    | nil => cases h
    | cons above row =>
      rw [List.length_cons, List.length_cons, Nat.succ_inj] at h
      have hleft : (done ++ left :: above :: row)[done.length]? = some left := by simp
      have habove : (done ++ left :: above :: row)[done.length + 1]? = some above := by simp
      -- the new cell joins the cells done, and is the left neighbour of the next
      have hset (cell : Nat) : (done ++ left :: above :: row).set (done.length + 1) cell =
          done ++ left :: cell :: row := by
        simp [List.set_append_right]
      have hrest (cell : Nat) := ih above cell (done ++ [left]) row h
      simp only [List.length_append, List.length_singleton, List.append_assoc,
        List.singleton_append] at hrest
      simp only [fillRow?, hleft, habove, hset, hrest, Option.bind_eq_bind, Option.bind_some,
        EditDistance.rowAfter]

/-- The first cell of the row numbered `i` holds `i`, and every row has the same length. -/
theorem fillRows?_eq {short : Text} (i : Nat) (row : List Nat) (long : Text)
    (h : row.length = short.length) :
    fillRows? short i (i :: row) long =
        some (long.foldl (EditDistance.nextRow short) (i :: row)) ∧
      ∃ last, long.foldl (EditDistance.nextRow short) (i :: row) = (i + long.length) :: last ∧
        last.length = short.length := by
  induction long generalizing i row with
  | nil => exact ⟨rfl, row, rfl, h⟩
  | cons c long ih =>
    have hfill := fillRow?_eq c i (i + 1) [] row h
    obtain ⟨hrest, last, hlast, hlength⟩ :=
      ih (i + 1) _ (length_rowAfter c i (i + 1) short row h)
    refine ⟨?_, last, ?_, hlength⟩
    · rw [fillRows?]
      simp only [List.length_nil, List.nil_append] at hfill
      simp only [List.getElem?_cons_zero, List.set_cons_zero, Option.bind_eq_bind,
        Option.bind_some, hfill]
      exact hrest
    · rw [List.length_cons, Nat.add_comm long.length 1, ← Nat.add_assoc]
      exact hlast

theorem distanceFrom?_eq (long short : Text) :
    distanceFrom? long short = some ((EditDistance.lastRow long short).getLastD 0) := by
  have hcells : ((List.range short.length).map (· + 1)).length = short.length := by simp
  obtain ⟨hrows, last, hlast, hlength⟩ := fillRows?_eq 0 _ long hcells
  rw [← List.range_succ_eq_map] at hrows hlast
  rw [EditDistance.lastRow, hlast, Nat.zero_add, distanceFrom?]
  cases short with
  | nil =>
    obtain rfl := List.eq_nil_of_length_eq_zero hlength
    rfl
  | cons d short =>
    have hget : (long.length :: last)[last.length]? = (long.length :: last).getLast? := by
      rw [List.getLast?_eq_getElem?]
      rfl
    rw [List.isEmpty_cons, if_neg Bool.false_ne_true, hrows, hlast, Nat.zero_add, ← hlength]
    simp only [Option.bind_eq_bind, Option.bind_some, hget]
    simp [List.getLast?_cons]

theorem editDistance?_eq (a b : Text) : editDistance? a b = some (editDistance a b) := by
  rw [editDistance?, editDistance, distanceFrom?_eq, distanceFrom?_eq]
  split <;> rfl

def isMisspelling? (word keyword : Text) : Option Bool :=
  if word = keyword then some false
  else do
    let edits ← editDistance? word keyword
    return edits ≤ editLimit word.length keyword.length

def misspelled? (word : Text) : Option (Option Misspelling) := do
  let keyword ← vocabulary.findM? fun keyword => isMisspelling? word (Misspelling.compact keyword)
  return keyword.map fun keyword => ⟨word, keyword⟩

def findMisspelling? (text : Text) : Option (Option Misspelling) :=
  ((Misspelling.words text).filter Misspelling.isCandidate).findSomeM? misspelled?

theorem isMisspelling?_eq (word keyword : Text) :
    isMisspelling? word keyword = some (isMisspelling word keyword) := by
  rw [isMisspelling?, editDistance?_eq, isMisspelling]
  by_cases h : word = keyword
  · simp [h]
  · simp [h]

theorem misspelled?_eq (word : Text) : misspelled? word = some (Misspelling.ofWord? word) := by
  have hfound : vocabulary.findM? (fun keyword =>
      some (isMisspelling word (Misspelling.compact keyword))) =
        some (vocabulary.find? fun keyword => isMisspelling word (Misspelling.compact keyword)) :=
    List.findM?_pure _ vocabulary
  simp only [misspelled?, isMisspelling?_eq, hfound]
  rfl

theorem findMisspelling?_eq (text : Text) :
    findMisspelling? text = some (Misspelling.find? text) := by
  have hfound : misspelled? = fun word => pure (Misspelling.ofWord? word) :=
    funext misspelled?_eq
  rw [findMisspelling?, hfound]
  exact List.findSomeM?_pure

def unbalancedParentheses? (rejection : Rejection) (text : Text) : Option (Option Text) :=
  let opened := text.count '('
  let closed := text.count ')'
  if !Complaint.mentionsBrackets rejection.message || opened = closed then some none
  else if closed < opened then do
    let missing ← minus? opened closed
    return some ("SQL statement is missing " ++ ofNat missing ++ " closing "
      ++ Remedy.parentheses missing ++ " ')'")
  else do
    let extra ← minus? closed opened
    return some ("SQL statement has " ++ ofNat extra ++ " extra closing "
      ++ Remedy.parentheses extra ++ " ')'")

theorem unbalancedParentheses?_eq (rejection : Rejection) (text : Text) :
    unbalancedParentheses? rejection text =
      some (Remedy.unbalancedParentheses rejection text) := by
  simp only [unbalancedParentheses?, Remedy.unbalancedParentheses]
  split
  · rfl
  · split
    · rename_i h
      rw [minus?_eq (Nat.le_of_lt h)]
      rfl
    · rename_i h
      rw [minus?_eq (Nat.le_of_not_lt h)]
      rfl

def misspelledKeyword? (_ : Rejection) (text : Text) : Option (Option Text) := do
  let found ← findMisspelling? text
  return found.map fun found =>
    "'" ++ found.word ++ "' may be a misspelling of '" ++ found.keyword ++ "'"

/-- The rules for suggestions; those that neither compare words nor count cannot fail. -/
def remedies : List (Rejection → Text → Option (Option Text)) :=
  [fun rejection text => some (Remedy.missingFrom rejection text), misspelledKeyword?,
    unbalancedParentheses?, fun rejection text => some (Remedy.expectedKeyword rejection text),
    fun rejection text => some (Remedy.unknownColumn rejection text),
    fun rejection text => some (Remedy.unknownTable rejection text),
    fun rejection text => some (Remedy.generic rejection text)]

def remedy? (rejection : Rejection) (text : Text) : Option (Option Text) :=
  remedies.findSomeM? fun rule => rule rejection text

theorem misspelledKeyword?_eq (rejection : Rejection) (text : Text) :
    misspelledKeyword? rejection text = some (Remedy.misspelledKeyword rejection text) := by
  rw [misspelledKeyword?, findMisspelling?_eq]
  rfl

theorem remedies_eq :
    remedies = Remedy.rules.map fun rule rejection text => some (rule rejection text) := by
  have hmisspelled : misspelledKeyword? =
      fun rejection text => some (Remedy.misspelledKeyword rejection text) :=
    funext₂ misspelledKeyword?_eq
  have hunbalanced : unbalancedParentheses? =
      fun rejection text => some (Remedy.unbalancedParentheses rejection text) :=
    funext₂ unbalancedParentheses?_eq
  rw [remedies, hmisspelled, hunbalanced]
  rfl

theorem remedy?_eq (rejection : Rejection) (text : Text) :
    remedy? rejection text = some (rejection.remedy? text) := by
  have hrules (rules : List (Rejection → Text → Option Text)) :
      (rules.map fun rule rejection text => some (rule rejection text)).findSomeM?
          (fun rule => rule rejection text) =
        some (rules.findSome? fun rule => rule rejection text) := by
    induction rules with
    | nil => rfl
    | cons rule rules ih =>
      simp only [List.map_cons, List.findSomeM?_cons, List.findSome?_cons, Option.bind_eq_bind,
        Option.bind_some]
      cases rule rejection text with
      | none => exact ih
      | some remedy => rfl
  rw [remedy?, remedies_eq, hrules]
  rfl

def friendlyWording? (rejection : Rejection) (text : Text) : Option Text :=
  match rejection.familyWording?, rejection.position with
  | some wording, _ => some wording
  | none, none => some rejection.rawWording
  | none, some position => do
    match ← snippet? text position with
    | some snippet => return "Syntax error near:\n" ++ snippet
    | none => return rejection.rawWording

theorem friendlyWording?_eq (rejection : Rejection) (text : Text) :
    friendlyWording? rejection text = some (rejection.friendlyWording text) := by
  rw [friendlyWording?, Rejection.friendlyWording]
  cases rejection.familyWording? with
  | some wording => rfl
  | none =>
    cases rejection.position with
    | none => rfl
    | some position =>
      simp only [snippet?_eq, Option.bind_eq_bind, Option.bind_some]
      cases QueryLint.snippet? text position with
      | none => rfl
      | some snippet => rfl

end QueryLint.Guarded
