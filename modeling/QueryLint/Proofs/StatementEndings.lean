import QueryLint.Proofs.AppendedMarks
import QueryLint.Proofs.HiddenText
import QueryLint.Proofs.SettledMarks

/-!
What may follow a statement: white space, semicolons and closed comments. They change no clause
that ends at a keyword. The clauses that run to the end of the statement are the same when the
trimmed statement is, which they are behind one run of semicolons; a second run, or a comment in
front of one, is left in the clause.
-/

namespace QueryLint

open Keyword Scan

/-- A text of closed comments and of characters of one class. -/
inductive Ending (single : Char → Bool) : Text → Prop
  | nil : Ending single []
  | single {c : Char} {rest : Text} (hc : single c) (hrest : Ending single rest) :
      Ending single (c :: rest)
  | comment (enclosure : Enclosure) {inner rest : Text} (hcomment : enclosure.region = .comment)
      (hinner : ¬enclosure.closer <:+: inner) (hrest : Ending single rest) :
      Ending single (enclosure.opener ++ (inner ++ (enclosure.closer ++ rest)))

def isTrailing (c : Char) : Bool := Text.isBlank c || c = ';'

variable {single : Char → Bool} {text text' ending opening : Text} {boundaries : List Text}
  {before keyword body rest tail : List Marked}

theorem Enclosure.isVisible_of_comment {enclosure : Enclosure} (h : enclosure.region = .comment)
    (inner : Text) : ∀ mark ∈ enclosure.marks inner, mark.isVisible = false := by
  intro mark hmark
  rcases List.mem_append.mp hmark with hinner | hcloser
  · obtain ⟨c, -, rfl⟩ := List.mem_map.mp hinner
    simp [Marked.isVisible, h]
  · have hall : ∀ mark ∈ enclosure.closerMarks, mark.isVisible = false := by
      cases enclosure with
      | literal mark hquote => cases h
      | lineComment => decide
      | blockComment => decide
    exact hall mark hcloser

theorem Ending.scan_marks (h : Ending single ending) (hplain : ∀ c, single c → isPlain c) :
    ∀ mark ∈ scan ending, mark.isVisible = false ∨ single mark.1 := by
  induction h with
  | nil => simp [scan_nil]
  | @single c rest hc hrest ih =>
    have hfirst : ∀ d ∈ [c], isPlain d := by simpa using hplain c hc
    rw [← List.singleton_append, scan_append_of_plain rest hfirst]
    exact List.forall_mem_cons.mpr ⟨.inr hc, ih⟩
  | comment enclosure hcomment hinner hrest ih =>
    rw [scan_enclosure enclosure hinner]
    intro mark hmark
    rcases List.mem_append.mp hmark with hcommentMark | hrestMark
    · exact .inl (enclosure.isVisible_of_comment hcomment _ mark hcommentMark)
    · exact ih mark hrestMark

theorem Ending.isVisible (h : Ending Text.isBlank ending) :
    ∀ mark ∈ scan ending, mark.isVisible = false := by
  intro mark hmark
  rcases h.scan_marks (fun c => isPlain_of_isBlank) mark hmark with hhidden | hblank
  · exact hhidden
  · exact Marked.isVisible_of_isBlank hblank

theorem Ending.isFirm (h : Ending isTrailing ending) :
    ∀ mark ∈ scan ending, mark.isFirm = false := by
  intro mark hmark
  rcases h.scan_marks (fun c => isPlain_of (by decide)) mark hmark with hhidden | htrailing
  · simp [Marked.isFirm, hhidden]
  · by_contra hfirm
    obtain ⟨hvisible, hsemicolon⟩ := Marked.isFirm_iff.mp (by simpa using hfirm)
    have hblank : Text.isBlank mark.1 := by simpa [isTrailing, hsemicolon] using htrailing
    simp [Marked.isVisible_of_isBlank hblank] at hvisible

theorem Ending.isWord (h : Ending isTrailing ending) :
    ∀ mark ∈ scan ending, mark.isWord = false := by
  intro mark hmark
  by_contra hword
  have hfirm := Marked.isFirm_of_isWord (by simpa using hword)
  simp [h.isFirm mark hmark] at hfirm

/-- The rules read a statement only through its clauses and keywords. -/
theorem Rule.detect_eq {reader : ClauseReader}
    (hclause : ∀ clause, reader.clause text' clause = reader.clause text clause)
    (hkeyword : ∀ keyword, reader.hasKeyword text' keyword = reader.hasKeyword text keyword)
    (rules : List Rule) : detect rules reader text' = detect rules reader text := by
  have hcheck (rule : Rule) : rule.check reader text' = rule.check reader text := by
    cases rule with
    | commaInWhere => simp only [check, checkConditions, hclause]
    | implicitJoin => simp only [check, checkTables, hclause, hkeyword]
    | ungroupedColumn => simp only [check, checkGrouping, ClauseReader.projection, hclause]
    | danglingOrderBy => simp only [check, checkOrdering, ClauseReader.projection, hclause]
  simp only [detect, hcheck]

section Append

variable (hscan : scan text' = scan text ++ tail) (htail : ∀ mark ∈ tail, mark.isWord = false)
include hscan htail

theorem hasKeyword_append (name : Text) :
    ClauseReader.lexical.hasKeyword text' name = ClauseReader.lexical.hasKeyword text name := by
  rw [Bool.eq_iff_iff, ← not_iff_not, Bool.not_eq_true, Bool.not_eq_true, hasKeyword_eq_false_iff,
    hasKeyword_eq_false_iff, hscan, absent_append_iff htail]

theorem extractClause_append_of_closed (hrest : rest ≠ [])
    (hsplit : scan text = before ++ (keyword ++ (body ++ rest)))
    (hclause : ClauseAt opening boundaries before keyword body rest) :
    extractClause text' opening boundaries = extractClause text opening boundaries := by
  have hsplit' : scan text' = before ++ (keyword ++ (body ++ (rest ++ tail))) := by
    rw [hscan, hsplit]
    simp
  rw [extractClause_eq_some hsplit hclause,
    extractClause_eq_some hsplit' (hclause.append_rest hrest htail)]

section Open

variable (hsplit : scan text = before ++ (keyword ++ (body ++ [])))
  (hclause : ClauseAt opening boundaries before keyword body [])
include hsplit hclause

theorem extractClause_append_of_open :
    scan ((body ++ tail).map Prod.fst) = body ++ tail ∧
      extractClause text' opening boundaries = some (trimClause ((body ++ tail).map Prod.fst)) := by
  have hsplit' : scan text' = before ++ (keyword ++ ((body ++ tail) ++ [])) := by
    rw [hscan, hsplit]
    simp
  have hclause' := hclause.append_body htail
  have hbody' := hclause'.scanned_body (hsplit' ▸ scanned_scan text')
  exact ⟨hbody', extractClause_eq_some hsplit' hclause'⟩

theorem extractClause_append_of_open_of_trimClause (h : trimClause text' = trimClause text) :
    extractClause text' opening boundaries = extractClause text opening boundaries := by
  obtain ⟨hbody', hsome'⟩ := extractClause_append_of_open hscan htail hsplit hclause
  have hbody : scan (body.map Prod.fst) = body := hclause.scanned_body (hsplit ▸ scanned_scan text)
  obtain ⟨init, last, rfl, hlast⟩ := hclause.first.occurs.spells.exists_concat
  have hfirm : ∃ mark ∈ (before ++ (init ++ [last])).getLast?, mark.isFirm :=
    ⟨last, by simp, Marked.isFirm_of_isWord hlast⟩
  have hsettle : settle (body ++ tail) = settle body := by
    refine (trimClause_eq_iff _ hfirm ?_ ?_).mp h
    · simp [hsplit]
    · simp [hscan, hsplit]
  rw [hsome', extractClause_eq_some hsplit hclause, trimClause_eq_settle, hbody', hsettle,
    trimClause_eq_settle, hbody]

/-- The trimmed statement is the same when a clause is that has more than white space, comments and
semicolons. -/
theorem trimClause_append_of_extractClause (hfirm : ∃ mark ∈ body, mark.isFirm)
    (h : extractClause text' opening boundaries = extractClause text opening boundaries) :
    trimClause text' = trimClause text := by
  obtain ⟨hbody', hsome'⟩ := extractClause_append_of_open hscan htail hsplit hclause
  have hbody : scan (body.map Prod.fst) = body := hclause.scanned_body (hsplit ▸ scanned_scan text)
  obtain ⟨mark, hmark, hfirm⟩ := hfirm
  obtain ⟨front, back, rfl⟩ := List.append_of_mem hmark
  have hsettle : settle (back ++ tail) = settle back := by
    rw [hsome', extractClause_eq_some hsplit hclause] at h
    refine (trimClause_eq_iff (front ++ [mark]) ⟨mark, by simp, hfirm⟩ ?_ ?_).mp
      (Option.some.inj h)
    · rw [hbody]
      simp
    · rw [hbody']
      simp
  refine (trimClause_eq_iff (before ++ (keyword ++ (front ++ [mark])))
    ⟨mark, by simp, hfirm⟩ ?_ ?_).mpr hsettle
  · simp [hsplit]
  · simp [hscan, hsplit]

end Open

theorem extractClause_append (opening : Text) (boundaries : List Text)
    (h : trimClause text' = trimClause text) :
    extractClause text' opening boundaries = extractClause text opening boundaries := by
  rcases extractClause_cases text opening boundaries with
    ⟨hnone, habsent⟩ | ⟨before, keyword, body, rest, hsplit, hclause, -⟩
  · rw [hnone, extractClause_eq_none_iff, hscan, absent_append_iff htail]
    exact habsent
  · cases rest with
    | nil => exact extractClause_append_of_open_of_trimClause hscan htail hsplit hclause h
    | cons mark rest => exact extractClause_append_of_closed hscan htail (by simp) hsplit hclause

end Append

theorem exists_clauseAt {span : Span} (h : clauseSpan? text opening boundaries = some span) :
    ∃ before keyword body rest, scan text = before ++ (keyword ++ (body ++ rest)) ∧
      ClauseAt opening boundaries before keyword body rest ∧
      span.slice text = body.map Prod.fst ∧ (span.stop < text.length ↔ rest ≠ []) := by
  rcases clauseSpan?_cases text opening boundaries with
    ⟨hnone, -⟩ | ⟨before, keyword, body, rest, hsplit, hclause, hsome⟩
  · cases hnone.symm.trans h
  obtain rfl := Option.some.inj (hsome.symm.trans h)
  refine ⟨before, keyword, body, rest, hsplit, hclause, ?_, ?_⟩
  · rw [← List.append_assoc] at hsplit
    exact slice_of_drop_eq (drop_of_scan_eq hsplit)
  · have hlength := congrArg List.length hsplit
    simp only [length_scan, List.length_append] at hlength ⊢
    rw [← List.length_pos_iff]
    omega

/-- What follows a statement, as keywords and clauses see it. The keywords stay the same. Every
clause, and all that the rules find, is the same if the trimmed statement is, which it is behind
white space and comments, and where the whole ends in one run of semicolons. No clause ends in white
space. A clause with a character that is no white space, comment or semicolon is the same only if a
keyword ends it or the trimmed statement is the same; it ends in a semicolon or a comment exactly
when more stands at its end than one run of semicolons between white space and comments. -/
theorem clause_append_ending (hmode : endMode .code text = .code)
    (hseam : ∀ c ∈ text.getLast?, opensComment c ending.head? = false)
    (hending : Ending isTrailing ending) :
    (∀ keyword, ClauseReader.lexical.hasKeyword (text ++ ending) keyword =
        ClauseReader.lexical.hasKeyword text keyword) ∧
      (trimClause (text ++ ending) = trimClause text →
        (∀ clause, ClauseReader.lexical.clause (text ++ ending) clause =
          ClauseReader.lexical.clause text clause) ∧
        ∀ rules, Rule.detect rules .lexical (text ++ ending) = Rule.detect rules .lexical text) ∧
      (Ending Text.isBlank ending ∨ EndsOnce (scan (text ++ ending)) →
        trimClause (text ++ ending) = trimClause text) ∧
      ∀ clause span, clauseSpan? text clause.opening clause.boundaries = some span →
        ∃ body, ClauseReader.lexical.clause text clause = some body ∧
          (∀ c ∈ body.getLast?, Text.isBlank c = false) ∧
          ((∃ mark ∈ scan (span.slice text), mark.isFirm) →
            (ClauseReader.lexical.clause (text ++ ending) clause = some body ↔
              span.stop < text.length ∨ trimClause (text ++ ending) = trimClause text) ∧
            ((∀ mark ∈ (scan body).getLast?, mark.isFirm) ↔
              EndsOnce (scan (span.slice text)))) := by
  have hscan : scan (text ++ ending) = scan text ++ scan ending := scan_append hmode hseam
  have hkeyword := hasKeyword_append hscan hending.isWord
  refine ⟨hkeyword, fun htrim => ?_, fun hends => ?_, fun clause span hspan => ?_⟩
  · have hclause (clause : Clause) : ClauseReader.lexical.clause (text ++ ending) clause =
        ClauseReader.lexical.clause text clause :=
      extractClause_append hscan hending.isWord clause.opening clause.boundaries htrim
    exact ⟨hclause, Rule.detect_eq hclause hkeyword⟩
  · have hsettle : settle (scan (text ++ ending)) = settle (scan text) := by
      rw [hscan] at hends ⊢
      rcases hends with hfiller | honce
      · exact settle_append_of_hidden hfiller.isVisible
      · exact settle_eq_of_endsOnce hending.isFirm honce
    rw [trimClause_eq_settle, trimClause_eq_settle, hsettle]
  · obtain ⟨before, keyword, body, rest, hsplit, hclause, hslice, hstop⟩ := exists_clauseAt hspan
    have hsome := extractClause_eq_some hsplit hclause
    have hbody : Scanned body := hclause.scanned_body (hsplit ▸ scanned_scan text)
    rw [hslice]
    refine ⟨_, hsome, fun c => Text.getLast_trimEnd, fun hfirm => ⟨?_, ?_⟩⟩
    · rw [hbody] at hfirm
      rw [hstop, ← hsome]
      constructor
      · intro hsame
        by_cases hrest : rest = []
        · subst hrest
          right
          exact trimClause_append_of_extractClause hscan hending.isWord hsplit hclause hfirm hsame
        · exact .inl hrest
      · rintro (hrest | htrim)
        · exact extractClause_append_of_closed hscan hending.isWord hrest hsplit hclause
        · exact extractClause_append hscan hending.isWord _ _ htrim
    · exact (endsOnce_iff_trimClause hfirm).symm

theorem clause_append_ending_semicolon :
    let text : Text := "SELECT a FROM t ORDER BY 1 "
    let ending : Text := ";\n-- done\n"
    endMode .code text = .code ∧ (∀ c ∈ text.getLast?, opensComment c ending.head? = false) ∧
      Ending isTrailing ending ∧
      (∀ clause, ClauseReader.lexical.clause (text ++ ending) clause =
        ClauseReader.lexical.clause text clause) ∧
      ∀ rules, Rule.detect rules .lexical (text ++ ending) = Rule.detect rules .lexical text := by
  intro text ending
  have hmode : endMode .code text = .code := by decide
  have hseam : ∀ c ∈ text.getLast?, opensComment c ending.head? = false := by
    intro c hc
    obtain rfl : ' ' = c := Option.some.inj hc
    decide
  have hending : Ending isTrailing ending := by
    have hinner : ¬Enclosure.lineComment.closer <:+: " done".toList := by decide
    exact .single (by decide) (.single (by decide) (.comment .lineComment rfl hinner .nil))
  have hends : EndsOnce (scan (text ++ ending)) := endsOnce_iff.mpr (by decide +kernel)
  obtain ⟨-, hsame, htrim, -⟩ := clause_append_ending hmode hseam hending
  exact ⟨hmode, hseam, hending, hsame (htrim (.inr hends))⟩

/-- Behind two runs of semicolons a clause is not the same, a rule finds more, and a semicolon ends
the clause. -/
theorem not_forall_clause_append_ending :
    (¬∀ text ending, endMode .code text = .code →
        (∀ c ∈ text.getLast?, opensComment c ending.head? = false) → Ending isTrailing ending →
        ∀ clause, ClauseReader.lexical.clause (text ++ ending) clause =
          ClauseReader.lexical.clause text clause) ∧
      (¬∀ text ending, endMode .code text = .code →
        (∀ c ∈ text.getLast?, opensComment c ending.head? = false) → Ending isTrailing ending →
        Rule.detect Rule.all .lexical (text ++ ending) = Rule.detect Rule.all .lexical text) ∧
      ¬∀ text clause body, ClauseReader.lexical.clause text clause = some body →
        ∀ mark ∈ (scan body).getLast?, mark.isFirm := by
  let text : Text := "SELECT a FROM t ORDER BY 1"
  let ending : Text := " ; ;"
  have hmode : endMode .code text = .code := by decide
  have hseam : ∀ c ∈ text.getLast?, opensComment c ending.head? = false := by
    intro c hc
    obtain rfl : '1' = c := Option.some.inj hc
    decide
  have hending : Ending isTrailing ending :=
    .single (by decide) (.single (by decide) (.single (by decide) (.single (by decide) .nil)))
  have hordering : ClauseReader.lexical.clause (text ++ ending) .ordering =
      some ("1 ;" : Text) := by
    decide +kernel
  refine ⟨fun h => ?_, fun h => ?_, fun h => ?_⟩
  · have hsame := h text ending hmode hseam hending .ordering
    rw [hordering] at hsame
    revert hsame
    decide +kernel
  · have hsame := h text ending hmode hseam hending
    revert hsame
    decide +kernel
  · have hfirm := h (text ++ ending) .ordering _ hordering
    revert hfirm
    decide +kernel

end QueryLint
