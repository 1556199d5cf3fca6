import Mathlib.Data.List.Chain
import Mathlib.Data.List.Sublists
import QueryLint.Proofs.ClauseBodies
import QueryLint.Proofs.KeywordWords

/-!
A SELECT statement put together from the texts of its clauses, and these texts found in it again.
A text can stand between the keywords when it holds no word of any keyword and ends in the code;
then no word and no comment goes on across a seam, and the keywords are where they were written.
-/

namespace QueryLint

open Keyword Scan

namespace Clause

def all : List Clause := [selection, source, condition, grouping, ordering]

theorem mem_all (clause : Clause) : clause ∈ all := by
  cases clause <;> decide

def words : List Text :=
  all.flatMap fun clause => (clause.opening :: clause.boundaries).flatMap Text.fields

theorem mem_words {clause : Clause} {keyword part : Text}
    (hkeyword : keyword ∈ clause.opening :: clause.boundaries)
    (hpart : part ∈ Text.fields keyword) : part ∈ words :=
  List.mem_flatMap.mpr ⟨clause, mem_all clause, List.mem_flatMap.mpr ⟨keyword, hkeyword, hpart⟩⟩

theorem isLetters_of_mem_words {part : Text} (h : part ∈ words) : isLetters part := by
  have hall : ∀ part ∈ words, isLetters part := by decide +kernel
  exact hall part h

theorem opening_apart {clause other : Clause} (hne : clause ≠ other) {first part : Text}
    (hfirst : first ∈ (Text.fields clause.opening).head?)
    (hpart : part ∈ Text.fields other.opening) : Text.sameLetters part first = false := by
  have hall : ∀ clause ∈ all, ∀ other ∈ all, clause ≠ other →
      ∀ first ∈ (Text.fields clause.opening).head?, ∀ part ∈ Text.fields other.opening,
        Text.sameLetters part first = false := by
    decide +kernel
  exact hall clause (mem_all clause) other (mem_all other) hne first hfirst part hpart

end Clause

/-- A clause body that can stand between keywords: it begins and ends with a visible character,
does not end in a semicolon, ends in the code and has none of the words that keywords consist
of. -/
structure PlainBody (body : Text) : Prop where
  first : ∃ mark ∈ (scan body).head?, mark.isVisible
  last : ∃ mark ∈ (scan body).getLast?, mark.isVisible ∧ mark.1 ≠ ';'
  closed : endMode .code body = .code
  words : ∀ word ∈ wordSpans body, ∀ part ∈ Clause.words,
    Text.sameLetters (word.slice body) part = false

instance (body : Text) : Decidable (PlainBody body) :=
  decidable_of_iff
    ((∃ mark ∈ (scan body).head?, mark.isVisible) ∧
      (∃ mark ∈ (scan body).getLast?, mark.isVisible ∧ mark.1 ≠ ';') ∧
      endMode .code body = .code ∧
      ∀ word ∈ wordSpans body, ∀ part ∈ Clause.words,
        Text.sameLetters (word.slice body) part = false)
    ⟨fun h => ⟨h.1, h.2.1, h.2.2.1, h.2.2.2⟩, fun h => ⟨h.first, h.last, h.closed, h.words⟩⟩

abbrev Gap := { space : Text // space ≠ [] ∧ Text.allBlank space }

theorem gap_space : (" " : Text) ≠ [] ∧ Text.allBlank " " := by decide

/-- The text of a clause: its opening keyword in any spelling, white space, and a body. -/
structure WrittenClause (clause : Clause) where
  keyword : { text : Text // Spelling (Text.fields clause.opening) text }
  gap : Gap
  body : { text : Text // PlainBody text }

/-- A clause that follows another one, after white space. -/
structure LaterClause where
  space : Gap
  clause : Clause
  written : WrittenClause clause

/-- A SELECT statement as the texts of its clauses. -/
structure SelectText where
  selection : WrittenClause .selection
  source : Gap × WrittenClause .source
  condition : Option (Gap × WrittenClause .condition)
  grouping : Option (Gap × WrittenClause .grouping)
  ordering : Option (Gap × WrittenClause .ordering)

namespace WrittenClause

variable {clause : Clause}

def text (written : WrittenClause clause) : Text :=
  written.keyword.1 ++ (written.gap.1 ++ written.body.1)

def marks (written : WrittenClause clause) : List Marked :=
  asCode written.keyword.1 ++ (asCode written.gap.1 ++ scan written.body.1)

end WrittenClause

namespace LaterClause

def text (later : LaterClause) : Text := later.space.1 ++ later.written.text

def marks (later : LaterClause) : List Marked := asCode later.space.1 ++ later.written.marks

end LaterClause

theorem Gap.scan_append (space : Gap) (back : Text) :
    scan (space.1 ++ back) = asCode space.1 ++ scan back :=
  scan_append_of_plain back fun c hc =>
    isPlain_of_isBlank (List.all_eq_true.mp space.2.2 c hc)

theorem Gap.asCode_ne_nil (space : Gap) : asCode space.1 ≠ [] := by
  simpa [asCode] using space.2.1

theorem Gap.isBlank (space : Gap) : ∀ mark ∈ asCode space.1, mark.isBlank := by
  intro mark hmark
  obtain ⟨c, hc, rfl⟩ := List.mem_map.mp hmark
  exact List.all_eq_true.mp space.2.2 c hc

theorem Gap.isWord (space : Gap) : ∀ mark ∈ asCode space.1, mark.isWord = false :=
  fun mark hmark => Marked.isWord_of_isBlank (space.isBlank mark hmark)

theorem Gap.isWord_head (space : Gap) (back : List Marked) :
    ∀ mark ∈ (asCode space.1 ++ back).head?, mark.isWord = false :=
  separates_isBlank.head space.asCode_ne_nil space.isBlank

theorem Gap.isWord_getLast (space : Gap) (front : List Marked) :
    ∀ mark ∈ (front ++ asCode space.1).getLast?, mark.isWord = false := by
  rw [List.getLast?_append_of_ne_nil _ space.asCode_ne_nil]
  exact fun mark hmark => space.isWord mark (List.mem_of_getLast? hmark)

theorem Gap.isBlank_head (space : Gap) (back : Text) :
    ∀ c ∈ (space.1 ++ back).head?, Text.isBlank c := by
  rw [List.head?_append_of_ne_nil _ space.2.1]
  exact fun c hc => List.all_eq_true.mp space.2.2 c (List.mem_of_mem_head? hc)

theorem WrittenClause.spells {clause : Clause} (written : WrittenClause clause) :
    Spells Marked.isBlank (Text.fields clause.opening) (asCode written.keyword.1) ∧
      ∀ c ∈ written.keyword.1, isPlain c :=
  written.keyword.2.spells fun _ hpart =>
    Clause.isLetters_of_mem_words (Clause.mem_words List.mem_cons_self hpart)

theorem scan_written {clause : Clause} (written : WrittenClause clause)
    (later : List LaterClause) :
    scan (written.text ++ later.flatMap LaterClause.text) =
      written.marks ++ later.flatMap LaterClause.marks := by
  induction later generalizing clause with
  | nil =>
    rw [List.flatMap_nil, List.append_nil, WrittenClause.text,
      scan_append_of_plain _ written.spells.2, written.gap.scan_append]
    simp [WrittenClause.marks]
  | cons next later ih =>
    set rest := (next :: later).flatMap LaterClause.text with hrest
    have hhead : ∀ c ∈ rest.head?, Text.isBlank c := by
      rw [hrest, List.flatMap_cons, LaterClause.text, List.append_assoc]
      exact next.space.isBlank_head _
    have hscanRest : scan rest = (next :: later).flatMap LaterClause.marks := by
      rw [hrest, List.flatMap_cons, LaterClause.text, List.append_assoc, next.space.scan_append,
        ih next.written]
      simp [LaterClause.marks]
    rw [WrittenClause.text, List.append_assoc, List.append_assoc,
      scan_append_of_plain _ written.spells.2, written.gap.scan_append,
      scan_append_of_blank written.body.2.closed hhead, hscanRest]
    simp [WrittenClause.marks]

theorem WrittenClause.noWord_body {clause : Clause} (written : WrittenClause clause) {part : Text}
    (hpart : part ∈ Clause.words) : NoWord part (asCode written.gap.1 ++ scan written.body.1) := by
  have hgap : NoWord part (asCode written.gap.1) := noWord_of_not_word written.gap.isWord
  have hbody : NoWord part (scan written.body.1) :=
    noWord_scan fun word hword => written.body.2.words word hword part hpart
  exact hgap.append hbody (.inl (written.gap.isWord_getLast []))

theorem WrittenClause.noWord {clause : Clause} (written : WrittenClause clause) {part : Text}
    (hpart : part ∈ Clause.words)
    (hother : ∀ other ∈ Text.fields clause.opening, Text.sameLetters other part = false) :
    NoWord part written.marks := by
  refine (noWord_of_spells written.spells.1 hother).append (written.noWord_body hpart) (.inr ?_)
  exact written.gap.isWord_head _

theorem WrittenClause.visibleWithin {clause : Clause} (written : WrittenClause clause)
    {space : List Marked} (hspace : ∀ mark ∈ space, mark.isBlank) :
    VisibleWithin (asCode written.gap.1) (scan written.body.1) space := by
  obtain ⟨first, hfirst, hfirstVisible⟩ := written.body.2.first
  obtain ⟨last, hlast, hlastVisible, -⟩ := written.body.2.last
  refine ⟨?_, ?_, ?_, ?_⟩
  · intro mark hmark
    exact Marked.isVisible_of_isBlank (written.gap.isBlank mark hmark)
  · intro mark hmark
    rwa [Option.mem_unique hmark hfirst]
  · intro mark hmark
    rwa [Option.mem_unique hmark hlast]
  · intro mark hmark
    exact Marked.isVisible_of_isBlank (hspace mark hmark)

/-- The marks of the clauses after a written one: white space, and then the keyword of the next
clause, if there is one. -/
theorem exists_next {boundaries : List Text} (later : List LaterClause)
    (hnext : ∀ next ∈ later.head?, next.clause.opening ∈ boundaries) :
    ∃ space rest, later.flatMap LaterClause.marks = space ++ rest ∧
      (∀ mark ∈ space, mark.isBlank) ∧
      (rest = [] ∨ space ≠ [] ∧ ∃ boundary ∈ boundaries, ∃ found after, rest = found ++ after ∧
        Spells Marked.isBlank (Text.fields boundary) found ∧
          ∀ mark ∈ after.head?, mark.isWord = false) := by
  cases later with
  | nil => exact ⟨[], [], rfl, by simp, .inl rfl⟩
  | cons next later =>
    refine ⟨asCode next.space.1, next.written.marks ++ later.flatMap LaterClause.marks, ?_,
      next.space.isBlank, .inr ⟨next.space.asCode_ne_nil, next.clause.opening, hnext next rfl,
        asCode next.written.keyword.1, asCode next.written.gap.1 ++
          (scan next.written.body.1 ++ later.flatMap LaterClause.marks), ?_,
        next.written.spells.1, ?_⟩⟩
    · simp [LaterClause.marks]
    · simp [WrittenClause.marks]
    · exact next.written.gap.isWord_head _

/-- A written clause is found with its body where no word before it begins its keyword and the
next clause ends it. -/
theorem WrittenClause.clause_eq {clause : Clause} (written : WrittenClause clause)
    (later : List LaterClause) {text : Text} (front : List Marked)
    (hscan : scan text = front ++ (written.marks ++ later.flatMap LaterClause.marks))
    (hfront : ∀ part ∈ (Text.fields clause.opening).head?, NoWord part front)
    (hlast : ∀ mark ∈ front.getLast?, mark.isWord = false)
    (hnext : ∀ next ∈ later.head?, next.clause.opening ∈ clause.boundaries) :
    ClauseReader.lexical.clause text clause = some written.body.1 := by
  obtain ⟨space, rest, hlater, hspace, hstop⟩ := exists_next later hnext
  set body := asCode written.gap.1 ++ (scan written.body.1 ++ space) with hbody
  have hsplit : scan text = front ++ (asCode written.keyword.1 ++ (body ++ rest)) := by
    rw [hscan, hlater, hbody, WrittenClause.marks]
    simp
  have hspaceWord : ∀ mark ∈ space, mark.isWord = false := fun mark hmark =>
    Marked.isWord_of_isBlank (hspace mark hmark)
  have hbodyLast : space ≠ [] → ∀ mark ∈ body.getLast?, mark.isWord = false := by
    intro hne mark hmark
    rw [hbody, ← List.append_assoc, List.getLast?_append_of_ne_nil _ hne] at hmark
    exact hspaceWord mark (List.mem_of_getLast? hmark)
  have hbodyWords : ∀ part ∈ Clause.words, NoWord part body := by
    intro part hpart
    rw [hbody, ← List.append_assoc]
    refine (written.noWord_body hpart).append (noWord_of_not_word hspaceWord) (.inr ?_)
    exact fun mark hmark => hspaceWord mark (List.mem_of_mem_head? hmark)
  have hclause : ClauseAt clause.opening clause.boundaries front (asCode written.keyword.1) body
      rest := by
    refine ⟨⟨⟨written.spells.1, hlast, ?_⟩, noneBegins_of_noWord hfront (.inl hlast)⟩, ?_, ?_⟩
    · rw [hbody, List.append_assoc]
      exact written.gap.isWord_head _
    · intro boundary hboundary
      refine noneBegins_of_noWord (fun part hpart => hbodyWords part ?_) ?_
      · exact Clause.mem_words (List.mem_cons_of_mem _ hboundary) (List.mem_of_mem_head? hpart)
      · rcases hstop with rfl | ⟨hne, -⟩
        · exact .inr (by simp)
        · exact .inl (hbodyLast hne)
    · rcases hstop with hnil | ⟨hne, boundary, hboundary, found, after, hrest, hspells, hends⟩
      · exact .inl hnil
      · exact .inr ⟨boundary, hboundary, found, after, hrest, hspells, hbodyLast hne, hends⟩
  have hscanBody : Scanned body := hclause.scanned_body (hsplit ▸ scanned_scan text)
  obtain ⟨last, hlastBody, -, hsemicolon⟩ := written.body.2.last
  have htrim := trimClause_eq (hscanBody.trans hbody) (written.visibleWithin hspace)
    fun mark hmark => by rwa [Option.mem_unique hmark hlastBody]
  rw [Scan.map_fst_scan] at htrim
  have hextract := extractClause_eq_some hsplit hclause
  rw [htrim] at hextract
  exact hextract

/-- The marks of several written clauses in a row have no word of a keyword of any other clause,
and end without a word where more white space follows. -/
theorem noWord_written {first clause : Clause} (written : WrittenClause first)
    (later : List LaterClause) (hclause : clause ∉ first :: later.map LaterClause.clause)
    {part : Text} (hpart : part ∈ (Text.fields clause.opening).head?) :
    NoWord part (written.marks ++ later.flatMap LaterClause.marks) := by
  have hword : part ∈ Clause.words :=
    Clause.mem_words List.mem_cons_self (List.mem_of_mem_head? hpart)
  induction later generalizing first with
  | nil =>
    have hne : clause ≠ first := by simpa using hclause
    rw [List.flatMap_nil, List.append_nil]
    exact written.noWord hword fun other hother => Clause.opening_apart hne hpart hother
  | cons next later ih =>
    obtain ⟨hne, hlater⟩ := not_or.mp (mt List.mem_cons.mpr hclause)
    have hfirst := written.noWord hword fun other hother => Clause.opening_apart hne hpart hother
    have hspace : NoWord part (asCode next.space.1) := noWord_of_not_word next.space.isWord
    have hrest := ih next.written hlater
    rw [List.flatMap_cons, LaterClause.marks, List.append_assoc]
    refine hfirst.append (hspace.append hrest ?_) (.inr ?_)
    · exact .inl (next.space.isWord_getLast [])
    · exact next.space.isWord_head _

theorem clause_written {first : Clause} (written : WrittenClause first) (later : List LaterClause)
    (hchain : (first :: later.map LaterClause.clause).IsChain fun clause next =>
      next.opening ∈ clause.boundaries)
    (hnodup : (first :: later.map LaterClause.clause).Nodup) :
    ClauseReader.lexical.clause (written.text ++ later.flatMap LaterClause.text) first =
        some written.body.1 ∧
      (∀ next ∈ later, ClauseReader.lexical.clause
        (written.text ++ later.flatMap LaterClause.text) next.clause = some next.written.body.1) ∧
      ∀ clause, clause ∉ first :: later.map LaterClause.clause →
        ClauseReader.lexical.clause (written.text ++ later.flatMap LaterClause.text) clause =
          none := by
  have hscan := scan_written written later
  refine ⟨?_, ?_, ?_⟩
  · refine written.clause_eq later [] (hscan.trans (List.nil_append _).symm) ?_ (by simp) ?_
    · intro part _
      exact noWord_of_not_word (by simp)
    · intro next hnext
      obtain ⟨rest, rfl⟩ := List.head?_eq_some_iff.mp hnext
      exact (List.isChain_cons_cons.mp hchain).1
  · intro next hnext
    obtain ⟨earlier, rest, rfl⟩ := List.append_of_mem hnext
    rw [List.map_append, List.map_cons, ← List.cons_append] at hchain hnodup
    have hother : next.clause ∉ first :: earlier.map LaterClause.clause := fun hmem =>
      (List.nodup_append.mp hnodup).2.2 _ hmem _ List.mem_cons_self rfl
    refine next.written.clause_eq rest
      (written.marks ++ earlier.flatMap LaterClause.marks ++ asCode next.space.1) ?_ ?_ ?_ ?_
    · rw [hscan]
      simp [LaterClause.marks]
    · intro part hpart
      refine (noWord_written written earlier hother hpart).append
        (noWord_of_not_word next.space.isWord) (.inr fun mark hmark => ?_)
      exact next.space.isWord mark (List.mem_of_mem_head? hmark)
    · exact next.space.isWord_getLast _
    · intro following hfollowing
      obtain ⟨more, rfl⟩ := List.head?_eq_some_iff.mp hfollowing
      exact (List.isChain_cons_cons.mp hchain.right_of_append).1
  · intro clause hclause
    refine extractClause_eq_none_iff.mpr (absent_of_noWord fun part hpart => ?_)
    rw [hscan]
    exact noWord_written written later hclause hpart

namespace SelectText

def later (statement : SelectText) : List LaterClause :=
  ⟨statement.source.1, .source, statement.source.2⟩ ::
    ((statement.condition.map fun written => ⟨written.1, .condition, written.2⟩).toList ++
      ((statement.grouping.map fun written => ⟨written.1, .grouping, written.2⟩).toList ++
        (statement.ordering.map fun written => ⟨written.1, .ordering, written.2⟩).toList))

def text (statement : SelectText) : Text :=
  statement.selection.text ++ statement.later.flatMap LaterClause.text

/-- The text that was written for a clause. -/
def body (statement : SelectText) : Clause → Option Text
  | .selection => some statement.selection.body.1
  | .source => some statement.source.2.body.1
  | .condition => statement.condition.map fun written => written.2.body.1
  | .grouping => statement.grouping.map fun written => written.2.body.1
  | .ordering => statement.ordering.map fun written => written.2.body.1

variable (statement : SelectText)

/-- The clauses after the first one keep the order of the grammar, so each ends the one before. -/
theorem clauses_later :
    ∃ clauses, statement.later.map LaterClause.clause = .source :: clauses ∧
      clauses.Sublist [.condition, .grouping, .ordering] := by
  have hone : ∀ {α : Type} (written : Option α) (later : α → LaterClause) (clause : Clause),
      (∀ a, (later a).clause = clause) →
        ((written.map later).toList.map LaterClause.clause).Sublist [clause] := by
    intro α written later clause hclause
    cases written with
    | none => exact List.nil_sublist _
    | some a => simp [hclause a]
  refine ⟨_, List.map_cons, ?_⟩
  rw [List.map_append, List.map_append]
  exact (hone _ _ .condition fun _ => rfl).append
    ((hone _ _ .grouping fun _ => rfl).append (hone _ _ .ordering fun _ => rfl))

theorem clause_found :
    ClauseReader.lexical.clause statement.text .selection = some statement.selection.body.1 ∧
      (∀ next ∈ statement.later,
        ClauseReader.lexical.clause statement.text next.clause = some next.written.body.1) ∧
      ∀ clause, clause ∉ .selection :: statement.later.map LaterClause.clause →
        ClauseReader.lexical.clause statement.text clause = none := by
  obtain ⟨clauses, hclauses, hsublist⟩ := statement.clauses_later
  have hall : ∀ clauses ∈ [Clause.condition, .grouping, .ordering].sublists,
      (Clause.selection :: .source :: clauses).IsChain
          (fun clause next => next.opening ∈ clause.boundaries) ∧
        (Clause.selection :: .source :: clauses).Nodup := by
    decide +kernel
  obtain ⟨hchain, hnodup⟩ := hall clauses (List.mem_sublists.mpr hsublist)
  rw [← hclauses] at hchain hnodup
  exact clause_written statement.selection statement.later hchain hnodup

variable {statement} {clause : Clause} {body : Text}

theorem clause_eq_some (h : statement.body clause = some body) :
    ClauseReader.lexical.clause statement.text clause = some body := by
  obtain ⟨hfirst, hlater, -⟩ := statement.clause_found
  have hnext : ∀ next ∈ statement.later, next.clause = clause → next.written.body.1 = body →
      ClauseReader.lexical.clause statement.text clause = some body := by
    rintro next hnext rfl rfl
    exact hlater next hnext
  cases clause with
  | selection => exact hfirst.trans h
  | source =>
    exact hnext ⟨statement.source.1, .source, statement.source.2⟩ List.mem_cons_self rfl
      (Option.some.inj h)
  | condition =>
    obtain ⟨written, hwritten, hbody⟩ := Option.map_eq_some_iff.mp h
    exact hnext ⟨written.1, .condition, written.2⟩ (by simp [later, hwritten]) rfl hbody
  | grouping =>
    obtain ⟨written, hwritten, hbody⟩ := Option.map_eq_some_iff.mp h
    exact hnext ⟨written.1, .grouping, written.2⟩ (by simp [later, hwritten]) rfl hbody
  | ordering =>
    obtain ⟨written, hwritten, hbody⟩ := Option.map_eq_some_iff.mp h
    exact hnext ⟨written.1, .ordering, written.2⟩ (by simp [later, hwritten]) rfl hbody

theorem clause_eq_none (h : statement.body clause = none) :
    ClauseReader.lexical.clause statement.text clause = none := by
  obtain ⟨-, -, habsent⟩ := statement.clause_found
  apply habsent
  cases clause with
  | selection => cases h
  | source => cases h
  | condition => simp [later, Option.map_eq_none_iff.mp h]
  | grouping => simp [later, Option.map_eq_none_iff.mp h]
  | ordering => simp [later, Option.map_eq_none_iff.mp h]

variable (statement) (clause)

/-- Every clause of a statement is found with the text that was written for it, and no other
clause is found. -/
theorem clause_text :
    ClauseReader.lexical.clause statement.text clause = statement.body clause := by
  cases hbody : statement.body clause with
  | none => exact clause_eq_none hbody
  | some body => exact clause_eq_some hbody

/-- A statement whose bodies hold keywords in a literal and in a comment. -/
def sample : SelectText where
  selection := ⟨⟨"select", .last (by decide)⟩, ⟨" ", by decide⟩,
    ⟨"a, 'from'", by decide +kernel⟩⟩
  source := (⟨" ", by decide⟩, ⟨⟨"From", .last (by decide)⟩, ⟨"\n\t", by decide⟩,
    ⟨"t /* where */ x", by decide +kernel⟩⟩)
  condition := none
  grouping := some (⟨"\n", by decide⟩,
    ⟨⟨"Group".toList ++ ("  ".toList ++ "by".toList),
      .next (by decide) (by decide) (by decide) (.last (by decide))⟩, ⟨" ", by decide⟩,
      ⟨"(a)", by decide +kernel⟩⟩)
  ordering := none

theorem clause_text_sample :
    sample.text = "select a, 'from' From\n\tt /* where */ x\nGroup  by (a)".toList ∧
      ∀ clause, ClauseReader.lexical.clause sample.text clause = sample.body clause :=
  ⟨by decide +kernel, sample.clause_text⟩

end SelectText

end QueryLint
