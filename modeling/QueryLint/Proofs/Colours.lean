import Mathlib.Data.List.Basic
import QueryLint.Proofs.Numerals
import QueryLint.Report.Render

/-!
Reports with colours and without. A coloured report is the plain one with terminal sequences put
in, so that taking the sequences away gives the plain one back. Only the text for people has
colours.
-/

namespace QueryLint

namespace Terminal

def escape : Char := '\x1b'

def isParameter (c : Char) : Bool := c.isDigit || c = ';'

/-- What follows the terminal sequence that a text begins with: the escape character, a bracket,
digits and semicolons, and the letter m. -/
def behindSequence? : Text → Option Text
  | c :: '[' :: rest =>
    if c = escape then
      match rest.dropWhile isParameter with
      | 'm' :: behind => some behind
      | _ => none
    else none
  | _ => none

theorem length_behindSequence? {text behind : Text} (h : behindSequence? text = some behind) :
    behind.length < text.length := by
  unfold behindSequence? at h
  split at h
  · rename_i c rest
    split at h
    · split at h
      · rename_i later hlater
        obtain rfl : later = behind := Option.some.inj h
        have hle := (List.dropWhile_suffix isParameter (l := rest)).length_le
        rw [hlater] at hle
        simp only [List.length_cons] at hle ⊢
        omega
      · cases h
    · cases h
  · cases h

def withoutSequences : Text → Text
  | [] => []
  | c :: rest =>
    match _h : behindSequence? (c :: rest) with
    | some behind => withoutSequences behind
    | none => c :: withoutSequences rest
termination_by text => text.length
decreasing_by
  · exact length_behindSequence? ‹_›
  · exact Nat.lt_add_one rest.length

theorem withoutSequences_of_behind {text behind : Text} (h : behindSequence? text = some behind) :
    withoutSequences text = withoutSequences behind := by
  cases text with
  | nil => cases h
  | cons c rest =>
    rw [withoutSequences]
    split
    · rename_i later hlater
      rw [h] at hlater
      rw [Option.some.inj hlater]
    · rename_i hnone
      rw [h] at hnone
      cases hnone

theorem withoutSequences_cons {c : Char} (hc : c ≠ escape) (rest : Text) :
    withoutSequences (c :: rest) = c :: withoutSequences rest := by
  have hnone : behindSequence? (c :: rest) = none := by
    unfold behindSequence?
    split
    · rename_i first later heq
      obtain ⟨rfl, -⟩ := List.cons.inj heq
      rw [if_neg hc]
    · rfl
  rw [withoutSequences]
  split
  · rename_i behind hsome
    rw [hnone] at hsome
    cases hsome
  · rfl

example : withoutSequences "\x1b[1;31ma\x1b[mb\x1b[0;c\x1b[" = "ab\x1b[0;c\x1b[".toList := by cbv

/-- A text that is `plain` with terminal sequences put in, whatever text follows. -/
def Decorates (coloured plain : Text) : Prop :=
  ∀ rest, withoutSequences (coloured ++ rest) = plain ++ withoutSequences rest

namespace Decorates

theorem withoutSequences {coloured plain : Text} (h : Decorates coloured plain) :
    withoutSequences coloured = plain := by
  have hnil := h []
  rwa [List.append_nil, Terminal.withoutSequences, List.append_nil] at hnil

theorem refl {text : Text} (h : escape ∉ text) : Decorates text text := by
  intro rest
  induction text with
  | nil => rfl
  | cons c text ih =>
    obtain ⟨hc, htext⟩ := not_or.mp (mt List.mem_cons.mpr h)
    rw [List.cons_append, withoutSequences_cons (Ne.symm hc), ih htext, List.cons_append]

theorem cons {coloured plain : Text} {c : Char} (hc : c ≠ escape) (h : Decorates coloured plain) :
    Decorates (c :: coloured) (c :: plain) := by
  intro rest
  rw [List.cons_append, withoutSequences_cons hc, h, List.cons_append]

theorem append {front front' back back' : Text} (hfront : Decorates front front')
    (hback : Decorates back back') : Decorates (front ++ back) (front' ++ back') := by
  intro rest
  rw [List.append_assoc, hfront, hback, List.append_assoc]

theorem flatMap {α : Type} {f g : α → Text} {items : List α}
    (h : ∀ item ∈ items, Decorates (f item) (g item)) :
    Decorates (items.flatMap f) (items.flatMap g) := by
  induction items with
  | nil => exact refl (by simp)
  | cons item items ih =>
    obtain ⟨hitem, hitems⟩ := List.forall_mem_cons.mp h
    rw [List.flatMap_cons, List.flatMap_cons]
    exact hitem.append (ih hitems)

theorem sequence {parameters : Text} (h : parameters.all isParameter) :
    Decorates (escape :: '[' :: (parameters ++ ['m'])) [] := by
  intro rest
  have hbehind : behindSequence? (escape :: '[' :: (parameters ++ ['m']) ++ rest) = some rest := by
    have hdrop : (parameters ++ ['m'] ++ rest).dropWhile isParameter = 'm' :: rest := by
      rw [List.append_assoc, List.dropWhile_append_of_pos (List.all_eq_true.mp h)]
      rfl
    simp only [List.cons_append, behindSequence?, if_true, hdrop]
  rw [withoutSequences_of_behind hbehind, List.nil_append]

end Decorates

end Terminal

open Text Terminal

namespace Text

theorem mem_of_mem_splitLines {text line : Text} {c : Char} (hline : line ∈ splitLines text)
    (hc : c ∈ line) : c ∈ text := by
  induction text generalizing line with
  | nil =>
    rw [splitLines, List.mem_singleton] at hline
    rwa [hline] at hc
  | cons d text ih =>
    obtain ⟨first, more, hmore⟩ := List.exists_cons_of_ne_nil (splitLines_ne_nil text)
    rw [splitLines, hmore] at hline
    rw [hmore] at ih
    have hlater {line : Text} (hline : line ∈ first :: more) (hc : c ∈ line) : c ∈ d :: text :=
      List.mem_cons_of_mem _ (ih hline hc)
    split at hline
    · rcases List.mem_cons.mp hline with rfl | hline
      · cases hc
      · exact hlater hline hc
    · rcases List.mem_cons.mp hline with rfl | hline
      · rcases List.mem_cons.mp hc with rfl | hc
        · exact List.mem_cons_self
        · exact hlater List.mem_cons_self hc
      · exact hlater (List.mem_cons_of_mem _ hline) hc

theorem mem_of_mem_lines {text line : Text} {c : Char} (hline : line ∈ lines text)
    (hc : c ∈ line) : c ∈ text := by
  rw [lines, List.mem_append] at hline
  rcases hline with hline | hline
  · obtain ⟨piece, hpiece, rfl⟩ := List.mem_map.mp hline
    apply mem_of_mem_splitLines (List.dropLast_subset _ hpiece)
    rw [dropReturn] at hc
    split at hc
    · exact List.dropLast_subset _ hc
    · exact hc
  · split at hline
    · rename_i last hlast
      split at hline
      · cases hline
      · obtain rfl := List.mem_singleton.mp hline
        exact mem_of_mem_splitLines (List.mem_of_getLast? hlast) hc
    · cases hline

theorem escape_not_mem_ofNat (n : Nat) : escape ∉ ofNat n := by
  intro h
  exact absurd (isDigit_of_mem_ofNat h) (by decide)

end Text

namespace Colour

theorem decorates_paint (colour : Colour) {text : Text} (h : escape ∉ text) :
    Decorates (colour.paint true text) (colour.paint false text) := by
  have hon : Decorates (escape :: '[' :: (colour.code ++ ['m'])) [] :=
    .sequence (by cases colour <;> decide)
  have hoff : Decorates (escape :: '[' :: (['0'] ++ ['m'])) [] := .sequence (by decide)
  have hpainted := (hon.append (Decorates.refl h)).append hoff
  rw [List.nil_append, List.append_nil] at hpainted
  simpa [paint, escape] using hpainted

end Colour

namespace StatementReport

/-- No escape character in the statement, or in what is said about it. -/
structure EscapeFree (statement : StatementReport) : Prop where
  sql : escape ∉ statement.sql
  errors : ∀ error ∈ statement.result.errors, escape ∉ error
  suggestions : ∀ suggestion ∈ statement.result.suggestions, escape ∉ suggestion

instance (statement : StatementReport) : Decidable statement.EscapeFree :=
  decidable_of_iff
    (escape ∉ statement.sql ∧ (∀ error ∈ statement.result.errors, escape ∉ error) ∧
      ∀ suggestion ∈ statement.result.suggestions, escape ∉ suggestion)
    ⟨fun h => ⟨h.1, h.2.1, h.2.2⟩, fun h => ⟨h.sql, h.errors, h.suggestions⟩⟩

end StatementReport

namespace Report

theorem escape_not_mem_indented {text : Text} (h : escape ∉ text) (indent : Nat) :
    escape ∉ indented indent text := by
  intro hmem
  obtain ⟨line, hline, hmem⟩ := List.mem_flatMap.mp hmem
  simp only [List.mem_append, List.mem_singleton] at hmem
  rcases hmem with (hpad | hline') | hbreak
  · exact absurd (List.eq_of_mem_replicate hpad) (by decide)
  · exact h (mem_of_mem_lines hline hline')
  · exact absurd hbreak (by decide)

theorem escape_not_mem_bullet {message : Text} (h : escape ∉ message) :
    escape ∉ bullet message := by
  have hline : ∀ line ∈ lines message, escape ∉ line := fun line hline hmem =>
    h (mem_of_mem_lines hline hmem)
  rw [bullet]
  split
  · simp
  · rename_i first more hlines
    rw [hlines] at hline
    obtain ⟨hfirst, hmore⟩ := List.forall_mem_cons.mp hline
    simpa [List.mem_flatMap, escape] using And.intro hfirst hmore

theorem decorates_bullets {messages : List Text} (h : ∀ message ∈ messages, escape ∉ message)
    (colour : Colour) {label : Text} (hlabel : escape ∉ label) :
    Decorates (bullets colour true label messages) (bullets colour false label messages) := by
  have hmessages : Decorates (messages.flatMap bullet) (messages.flatMap bullet) :=
    .flatMap fun message hmessage => .refl (escape_not_mem_bullet (h message hmessage))
  rw [bullets, bullets]
  apply Decorates.append
  · exact .append (.refl (by decide)) (colour.decorates_paint hlabel)
  · exact hmessages.cons (by decide)

theorem decorates_renderResult {statement : StatementReport} (h : statement.EscapeFree) :
    Decorates (renderResult true statement.result) (renderResult false statement.result) := by
  have herrors : Decorates (bullets .redBold true "Errors:" statement.result.errors)
      (bullets .redBold false "Errors:" statement.result.errors) :=
    decorates_bullets h.errors _ (by decide)
  have hsuggestions :
      Decorates (bullets .yellowBold true "Suggestions:" statement.result.suggestions)
        (bullets .yellowBold false "Suggestions:" statement.result.suggestions) :=
    decorates_bullets h.suggestions _ (by decide)
  rw [renderResult, renderResult]
  split
  · apply Decorates.append
    · exact .append (.refl (by decide)) (Colour.green.decorates_paint (by decide))
    · exact .refl (by decide)
  · apply herrors.append
    split
    · exact .refl (by simp)
    · exact hsuggestions

theorem decorates_renderStatement {statement : StatementReport} (h : statement.EscapeFree) :
    Decorates (renderStatement true statement) (renderStatement false statement) := by
  have hheader : escape ∉ "Statement #" ++ ofNat statement.index ++ " (line "
      ++ ofNat statement.line ++ "):" := by
    simp only [List.mem_append, escape_not_mem_ofNat, not_or]
    decide
  have hsql : Decorates (indented 2 statement.sql) (indented 2 statement.sql) :=
    .refl (escape_not_mem_indented h.sql 2)
  simp only [renderStatement]
  apply Decorates.append
  · apply Decorates.append
    · exact (Colour.cyanBold.decorates_paint hheader).append (hsql.cons (by decide))
    · exact decorates_renderResult h
  · exact .refl (by decide)

theorem escape_not_mem_summary (report : Report) : escape ∉ report.summary := by
  unfold summary
  simp only [List.mem_append, escape_not_mem_ofNat, not_or]
  decide

theorem decorates_renderText {report : Report}
    (h : ∀ statement ∈ report.statements, statement.EscapeFree) :
    Decorates (report.renderText true) (report.renderText false) := by
  have hstatements : Decorates (report.statements.flatMap (renderStatement true))
      (report.statements.flatMap (renderStatement false)) :=
    .flatMap fun statement hstatement => decorates_renderStatement (h statement hstatement)
  simp only [renderText]
  exact hstatements.append (Colour.decorates_paint _ report.escape_not_mem_summary)

/-- Colours only decorate. When no escape character stands in the statements and in what is said
about them, the coloured text of a report without its terminal sequences is the text without
colours; JSON and YAML have no colours. -/
theorem render_coloured (report : Report) :
    ((∀ statement ∈ report.statements, statement.EscapeFree) →
      withoutSequences (report.render .text true) = report.render .text false) ∧
    ∀ format, format ≠ .text → report.render format true = report.render format false := by
  constructor
  · intro h
    exact (decorates_renderText h).withoutSequences
  · intro format hformat
    cases format with
    | text => exact absurd rfl hformat
    | json => rfl
    | yaml => rfl

theorem render_coloured_two_statements :
    let report : Report := ⟨[⟨1, 1, "SELECT 1", .clean⟩,
      ⟨2, 2, "SELECT *\nFROM a, b",
        .invalid .structuralMistake ["implicit\njoin"] ["prefer JOIN"]⟩]⟩
    (∀ statement ∈ report.statements, statement.EscapeFree) ∧
      withoutSequences (report.render .text true) = report.render .text false ∧
      report.render .text true ≠ report.render .text false := by
  intro report
  have hplain : ∀ statement ∈ report.statements, statement.EscapeFree := by decide
  exact ⟨hplain, report.render_coloured.1 hplain, by decide⟩

end Report

end QueryLint
