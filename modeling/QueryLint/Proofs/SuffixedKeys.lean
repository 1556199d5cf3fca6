import QueryLint.Proofs.InsertedMarks
import QueryLint.Proofs.SortKeys

/-!
Sort suffixes behind sort keys. A suffix that is put behind a key reads as code, or as more of the
literal in which the key ends, and everything else in the statement reads as before. So the SELECT
list stays, the ORDER BY body gets one item with a suffix, and the column of that item is the key.
-/

namespace QueryLint

open Text Scan Keyword

namespace Scan

theorem Mode.exists_region {mode : Mode}
    (hmode : mode = .code ∨ ∃ mark, isQuote mark ∧ mode = .quoted mark) :
    ∃ region, region ≠ .comment ∧ ∀ c, isPlain c → ∀ next,
      mode.region c next = region ∧ mode.step c next = mode := by
  rcases hmode with rfl | ⟨mark, hmark, rfl⟩
  · refine ⟨.code, by decide, fun c hc next => ?_⟩
    obtain ⟨⟨hquote, hdash⟩, hslash⟩ : (isQuote c = false ∧ c ≠ '-') ∧ c ≠ '/' := by
      simpa [isPlain] using hc
    simp [Mode.region, Mode.step, opensLineComment, opensBlockComment, hquote, hdash, hslash]
  · refine ⟨.quoted, by decide, fun c hc next => ⟨rfl, if_neg ?_⟩⟩
    rintro rfl
    simp [isPlain, hmark] at hc

theorem marksBefore_of_region {mode : Mode} {region : Region} {text : Text}
    (hregion : ∀ c ∈ text, ∀ next, mode.region c next = region ∧ mode.step c next = mode)
    (next : Option Char) : marksBefore next mode text = text.map (·, region) ∧
      modeBefore next mode text = mode := by
  induction text with
  | nil => exact ⟨rfl, rfl⟩
  | cons c text ih =>
    obtain ⟨hc, htext⟩ := List.forall_mem_cons.mp hregion
    obtain ⟨hmarks, hmode⟩ := ih htext
    obtain ⟨hfirst, hstep⟩ := hc (text.head?.or next)
    constructor
    · rw [marksBefore, hfirst, hstep, hmarks, List.map_cons]
    · rw [modeBefore, hstep, hmode]

/-- A visible mark is read in the same way in front of white space as where it stands, and leaves
the scan in the code or in a literal. -/
theorem before_of_isVisible {front back : List Marked} {next : Option Char}
    (h : Scanned (front ++ back)) (hlast : ∃ mark ∈ front.getLast?, mark.isVisible)
    (hnext : ∀ c ∈ next, isBlank c) :
    marksBefore next .code (front.map Prod.fst) = front ∧
      modeBefore next .code (front.map Prod.fst) =
        modeBefore (back.head?.map Prod.fst) .code (front.map Prod.fst) ∧
      (modeBefore next .code (front.map Prod.fst) = .code ∨
        ∃ mark, isQuote mark ∧ modeBefore next .code (front.map Prod.fst) = .quoted mark) := by
  obtain ⟨last, hlast, hvisible⟩ := hlast
  obtain ⟨init, rfl⟩ := List.getLast?_eq_some_iff.mp hlast
  obtain ⟨hregion, hmode⟩ := h.last_eq rfl
  have hnot := Marked.ne_comment_of_isVisible hvisible
  have halone : Scanned (init ++ [last]) := h.left_of_last (by simpa using hnot)
  have hblank := before_eq_of_last next .code ((init ++ [last]).map Prod.fst) fun _ _ _ =>
    .inl (opensComment_of_isBlank hnext)
  have hstep := Mode.ahead_eq (.inr (.inl (hregion ▸ hnot)))
  have hsame : modeBefore next .code ((init ++ [last]).map Prod.fst) =
      modeBefore (back.head?.map Prod.fst) .code ((init ++ [last]).map Prod.fst) := by
    rw [hblank.2, hmode, hstep.2, List.map_append, modeBefore_append]
    simp [modeBefore]
  refine ⟨?_, hsame, ?_⟩
  · rw [hblank.1, ← scan_eq_marksBefore]
    exact halone
  · rw [hsame, hmode]
    rcases Mode.step_of_isVisible (by rwa [← hregion]) with hcode | ⟨mark, hmark⟩
    · exact .inl hcode
    · refine .inr ⟨mark, ?_, hmark⟩
      rw [← hmode] at hmark
      exact isQuote_of_modeBefore (by simp) mark hmark

/-- Plain characters that are put behind a visible mark get one region, and all others keep
theirs. -/
theorem scan_insert {front back : List Marked} {text : Text} (h : Scanned (front ++ back))
    (hlast : ∃ mark ∈ front.getLast?, mark.isVisible) (hne : text ≠ [])
    (hblank : ∀ c ∈ text.head?, isBlank c) (hplain : ∀ c ∈ text, isPlain c) :
    ∃ region, region ≠ .comment ∧
      scan (front.map Prod.fst ++ (text ++ back.map Prod.fst)) =
        front ++ (text.map (·, region) ++ back) := by
  obtain ⟨hfront, hsame, hmode⟩ := before_of_isVisible h hlast hblank
  obtain ⟨region, hregion, hreads⟩ := Mode.exists_region hmode
  obtain ⟨hmarks, hkeeps⟩ :=
    marksBefore_of_region (fun c hc => hreads c (hplain c hc)) (back.head?.map Prod.fst)
  refine ⟨region, hregion, ?_⟩
  rw [scan_eq_marksBefore, marksBefore_append, marksBefore_append, Option.or_none, Option.or_none,
    List.head?_append_of_ne_nil _ hne, hfront, List.head?_map, hmarks, hkeeps, hsame, ← h.parts.2]

end Scan

namespace Keyword

theorem Spelling.chars {words : List Text} {spelled : Text} (h : Spelling words spelled)
    (hwords : ∀ word ∈ words, isLetters word) :
    (∀ c ∈ spelled, isAlphanumeric c ∨ isBlank c) ∧ ∃ c ∈ spelled.getLast?, isAlphanumeric c := by
  induction h with
  | @last part word hword =>
    obtain ⟨hne, hall⟩ := isAlphanumeric_of_sameLetters hword (hwords part List.mem_cons_self)
    refine ⟨fun c hc => .inl (hall c hc), word.getLast hne, List.getLast?_eq_some_getLast hne, ?_⟩
    exact hall _ (List.getLast_mem hne)
  | @next part parts word space rest hword hne hspace hrest ih =>
    obtain ⟨hpart, hparts⟩ := List.forall_mem_cons.mp hwords
    obtain ⟨hchars, c, hlast, hc⟩ := ih hparts
    constructor
    · intro d hd
      simp only [List.mem_append] at hd
      rcases hd with hd | hd | hd
      · exact .inl ((isAlphanumeric_of_sameLetters hword hpart).2 d hd)
      · exact .inr (List.all_eq_true.mp hspace d hd)
      · exact hchars d hd
    · have hrestNe : rest ≠ [] := by
        rintro rfl
        cases hlast
      refine ⟨c, ?_, hc⟩
      rwa [List.getLast?_append_of_ne_nil _ (by simp [hrestNe]),
        List.getLast?_append_of_ne_nil _ hrestNe]

end Keyword

namespace Selection.IsSortSuffix

variable {suffix : Text} (h : IsSortSuffix suffix)
include h

theorem chars : (∀ c ∈ suffix, isAlphanumeric c ∨ isBlank c) ∧
    ∃ c ∈ suffix.getLast?, isAlphanumeric c := by
  obtain ⟨space, words, spelled, rfl, -, hspace, hwords, hspelled⟩ := h
  have hfolded := isFolded_of_mem_sortSuffixes hwords
  obtain ⟨hchars, c, hlast, hc⟩ := hspelled.chars fun word hword => (hfolded word hword).letters
  constructor
  · intro d hd
    rcases List.mem_append.mp hd with hd | hd
    · exact .inr (List.all_eq_true.mp hspace d hd)
    · exact hchars d hd
  · have hne : spelled ≠ [] := by
      rintro rfl
      cases hlast
    exact ⟨c, by rwa [List.getLast?_append_of_ne_nil _ hne], hc⟩

theorem ne_nil : suffix ≠ [] := by
  obtain ⟨-, c, hlast, -⟩ := h.chars
  rintro rfl
  cases hlast

theorem isPlain : ∀ c ∈ suffix, isPlain c := by
  intro c hc
  exact (h.chars.1 c hc).elim isPlain_of_isAlphanumeric isPlain_of_isBlank

theorem noWord {boundary : Text} (hboundary : boundary ∈ Clause.ordering.boundaries) :
    NoWord boundary (asCode suffix) := by
  obtain ⟨space, words, spelled, rfl, -, hspace, hwords, hspelled⟩ := h
  have hother : ∀ words ∈ sortSuffixes, ∀ word ∈ words, ∀ boundary ∈ Clause.ordering.boundaries,
      sameLetters word boundary = false := by
    decide
  have hspaceWord : ∀ mark ∈ asCode space, mark.isWord = false := by
    intro mark hmark
    obtain ⟨c, hc, rfl⟩ := List.mem_map.mp hmark
    exact Marked.isWord_of_isBlank (List.all_eq_true.mp hspace c hc)
  have hfolded := isFolded_of_mem_sortSuffixes hwords
  have hspells := (hspelled.spells fun word hword => (hfolded word hword).letters).1
  rw [asCode_append]
  refine (noWord_of_not_word hspaceWord).append (noWord_of_spells hspells ?_) ?_
  · exact fun word hword => hother words hwords word hword boundary hboundary
  · exact .inl fun mark hmark => hspaceWord mark (List.mem_of_getLast? hmark)

end Selection.IsSortSuffix

/-- Marks of a sort suffix behind a key: they separate no items, end visibly and not with a
semicolon, begin with no word, and have no word that ends the clause. -/
structure SuffixMarks (marks : List Marked) : Prop where
  list : ∀ mark ∈ marks, mark.isListMark = false
  last : ∃ mark ∈ marks.getLast?, mark.isVisible ∧ mark.1 ≠ ';'
  head : ∀ mark ∈ marks.head?, mark.isWord = false
  words : ∀ boundary ∈ Clause.ordering.boundaries, ∃ part, fields boundary = [part] ∧
    NoWord part marks

theorem Selection.IsSortSuffix.suffixMarks {suffix : Text} (h : IsSortSuffix suffix)
    {region : Region} (hregion : region ≠ .comment) :
    SuffixMarks (suffix.map (·, region)) := by
  obtain ⟨hchars, c, hlast, hc⟩ := h.chars
  have hsemicolon : isAlphanumeric ';' = false := by decide
  have hseparators : ['(', ')', ','].all fun d => !isAlphanumeric d && !isBlank d := by decide
  constructor
  · intro mark hmark
    obtain ⟨d, hd, rfl⟩ := List.mem_map.mp hmark
    by_contra hlist
    have hmem : d ∈ ['(', ')', ','] := by
      rcases Marked.isListMark_iff.mp (by simpa using hlist) with hmark | hmark | hmark <;>
        simp [(Prod.mk.inj hmark).1]
    have hnot := List.all_eq_true.mp hseparators d hmem
    rcases hchars d hd with halpha | hblank
    · simp [halpha] at hnot
    · simp [hblank] at hnot
  · refine ⟨(c, region), by simp [Option.mem_def.mp hlast], ?_, ?_⟩
    · have hblank : isBlank c = false := by
        by_contra hblank
        simp [(not_isAlphanumeric_of_isBlank (by simpa using hblank)).1] at hc
      simp [Marked.isVisible, hregion, hblank]
    · rintro rfl
      simp [hsemicolon] at hc
  · intro mark hmark
    rw [List.head?_map] at hmark
    obtain ⟨d, hd, rfl⟩ := Option.map_eq_some_iff.mp hmark
    exact Marked.isWord_of_isBlank (h.mem_sortSuffixes.1 d hd)
  · intro boundary hboundary
    have hfields : ∀ boundary ∈ Clause.ordering.boundaries, fields boundary = [boundary] := by
      decide
    refine ⟨boundary, hfields boundary hboundary, ?_⟩
    by_cases hcode : region = .code
    · rw [hcode]
      exact h.noWord hboundary
    · apply noWord_of_not_word
      intro mark hmark
      obtain ⟨d, -, rfl⟩ := List.mem_map.mp hmark
      simp [Marked.isWord, hcode]

/-- A statement with more text right behind a part of it. -/
def withSuffix (text : Text) (part : Span) (suffix : Text) : Text :=
  text.take part.start ++ ((part.slice text ++ suffix) ++ text.drop part.stop)

theorem scan_withSuffix {text suffix : Text} {front item back : List Marked}
    (hscan : scan text = front ++ (item ++ back)) (hne : item ≠ [])
    (hlast : ∀ mark ∈ item.getLast?, mark.isVisible) (hsuffix : Selection.IsSortSuffix suffix) :
    ∃ more, more.map Prod.fst = suffix ∧ SuffixMarks more ∧
      scan (withSuffix text ⟨front.length, front.length + item.length⟩ suffix) =
        (front ++ item) ++ (more ++ back) := by
  have hvisible : ∃ mark ∈ (front ++ item).getLast?, mark.isVisible := by
    obtain ⟨init, last, rfl⟩ := (List.eq_nil_or_concat' item).resolve_left hne
    exact ⟨last, by simp [← List.append_assoc], hlast last (by simp)⟩
  have hscanned : Scanned ((front ++ item) ++ back) := by
    rw [List.append_assoc, ← hscan]
    exact scanned_scan text
  obtain ⟨region, hregion, hmore⟩ := scan_insert hscanned hvisible hsuffix.ne_nil
    hsuffix.mem_sortSuffixes.1 hsuffix.isPlain
  have htext : text = front.map Prod.fst ++ (item.map Prod.fst ++ back.map Prod.fst) := by
    rw [← Scan.map_fst_scan text, hscan, List.map_append, List.map_append]
  have hedit : withSuffix text ⟨front.length, front.length + item.length⟩ suffix =
      (front ++ item).map Prod.fst ++ (suffix ++ back.map Prod.fst) := by
    simp [withSuffix, Span.slice, htext, List.drop_append]
  refine ⟨suffix.map fun c => (c, region), by simp [Function.comp_def],
    hsuffix.suffixMarks hregion, ?_⟩
  rw [hedit, hmore]

/-- A sort suffix behind a key is a part of the key's item, and of nothing else in the statement. -/
theorem exists_suffixed {text suffix : Text} {key : Span} (hkey : key ∈ sortKeys text)
    (hloose : ∀ mark ∈ ((scan text).drop key.stop).head?, mark.isWord = false)
    (hsuffix : Selection.IsSortSuffix suffix) :
    ∃ front more back, scan text = front ++ back ∧
      scan (withSuffix text key suffix) = front ++ (more ++ back) ∧ front.length = key.stop ∧
      SuffixMarks more ∧ ∃ ordering ordering' : Text, ∃ earlier later,
        ClauseReader.lexical.clause text .ordering = some ordering ∧
        ClauseReader.lexical.clause (withSuffix text key suffix) .ordering = some ordering' ∧
        splitItems ordering = earlier ++ key.slice text :: later ∧
        splitItems ordering' = earlier ++ (key.slice text ++ suffix) :: later := by
  obtain ⟨before, keyword, front, item, back, rest, ordering, earlier, later, hat⟩ :=
    exists_sortKeyAt hkey
  have hscan : scan text = (before ++ (keyword ++ front)) ++ (item ++ (back ++ rest)) := by
    simp [hat.split]
  have hfront : scan text = ((before ++ (keyword ++ front)) ++ item) ++ (back ++ rest) :=
    hscan.trans (List.append_assoc _ _ _).symm
  have hslice := slice_of_drop_eq (drop_of_scan_eq hscan)
  have hafter : ∀ mark ∈ (back ++ rest).head?, mark.isWord = false := by
    rwa [hat.place_eq, ← List.length_append, hfront, List.drop_left] at hloose
  obtain ⟨more, rfl, hmore, hscan'⟩ := scan_withSuffix hscan hat.ne_nil hat.last hsuffix
  rw [← hat.place_eq] at hslice hscan'
  have hclause : ClauseAt Clause.ordering.opening Clause.ordering.boundaries before keyword
      (front ++ (item ++ (more ++ back))) rest := by
    have hbody := hat.clauseAt
    rw [← List.append_assoc] at hbody ⊢
    exact hbody.insert (by simp [hat.ne_nil]) hafter hmore.head hmore.words
  have hsplit : scan (withSuffix text key (more.map Prod.fst)) =
      before ++ (keyword ++ ((front ++ (item ++ (more ++ back))) ++ rest)) := by
    rw [hscan']
    simp
  have hitems := hat.insert more hmore.list hmore.last
    (hclause.scanned_body (hsplit ▸ scanned_scan _))
  refine ⟨_, more, back ++ rest, hfront, hscan', ?_, hmore, ordering, _, earlier, later, hat.clause,
    extractClause_eq_some hsplit hclause, ?_, ?_⟩
  · rw [hat.place_eq, List.length_append]
  · rw [hslice, hat.items]
  · rw [hslice, hitems, List.map_append]

theorem fields_from : fields "FROM" = ["FROM"] := by decide

namespace Rule

theorem checkOrdering_ne_digits (text : Text) {digits : Text} (hdigits : digits.all Char.isDigit) :
    checkOrdering .lexical text ≠ some (.danglingOrderBy digits) := by
  intro h
  obtain ⟨ordering, -, projection, -, key, -, hdangling, hfinding⟩ := checkOrdering_eq_some h
  rw [← Finding.danglingOrderBy_injective hfinding] at hdangling
  simp [isDangling, hdigits] at hdangling

/-- The sort keys of a statement are the items of its ORDER BY body. A sort suffix behind one that
has none changes nothing about sort columns, as long as no word follows the key directly: the same
one is reported, and with the same text. A position stays what it is with every suffix, and is
reported in no statement. -/
theorem checkOrdering_withSuffix {text suffix : Text} {selection ordering key : Span}
    (hselection : clauseSpan? text Clause.selection.opening Clause.selection.boundaries =
      some selection)
    (hordering : clauseSpan? text Clause.ordering.opening Clause.ordering.boundaries =
      some ordering)
    (hbehind : selection.stop < ordering.start) (hkey : key ∈ sortKeys text)
    (hbare : Selection.sortColumn (key.slice text) = key.slice text)
    (hloose : ∀ mark ∈ ((scan text).drop key.stop).head?, mark.isWord = false)
    (hsuffix : Selection.IsSortSuffix suffix) :
    (∀ body ∈ ClauseReader.lexical.clause text .ordering,
        (sortKeys text).map (·.slice text) = splitItems body) ∧
      check .danglingOrderBy .lexical (withSuffix text key suffix) =
        check .danglingOrderBy .lexical text ∧
      ∀ digits : Text, digits.all Char.isDigit →
        Selection.sortColumn (digits ++ suffix) = digits ∧
          ∀ statement, check .danglingOrderBy .lexical statement ≠ some (.danglingOrderBy digits) := by
  refine ⟨fun _ => map_slice_sortKeys, ?_, fun digits hdigits => ?_⟩
  swap
  · exact ⟨Selection.sortColumn_digits hdigits hsuffix,
      fun statement => checkOrdering_ne_digits statement hdigits⟩
  obtain ⟨front, more, back, hscan, hscan', hstop, hmore, body, body', earlier, later, hbody,
    hbody', hitems, hitems'⟩ := exists_suffixed hkey hloose hsuffix
  have hback : ∀ mark ∈ back.head?, mark.isWord = false := by
    rwa [← hstop, hscan, List.drop_left] at hloose
  have hlt : selection.stop < front.length := by
    have hbounds := bounds_of_mem_sortKeys hordering hkey
    omega
  have hprojection : ClauseReader.lexical.projection (withSuffix text key suffix) =
      ClauseReader.lexical.projection text := by
    have hclause : ClauseReader.lexical.clause (withSuffix text key suffix) .selection =
        ClauseReader.lexical.clause text .selection :=
      extractClause_insert fields_from hselection hscan hscan' hlt hback hmore.head
    rw [ClauseReader.projection, hclause]
    rfl
  have hcolumns : (splitItems body').map Selection.sortColumn =
      (splitItems body).map Selection.sortColumn := by
    rw [hitems, hitems']
    simp only [List.map_append, List.map_cons, Selection.sortColumn_append hbare hsuffix, hbare]
  rw [check, checkOrdering, checkOrdering, hbody, hbody', hprojection]
  simp only [Option.bind_eq_bind, Option.bind_some, hcolumns]

theorem checkOrdering_withSuffix_desc :
    let text : Text := "SELECT a FROM t ORDER BY 'asc' || b, 2 LIMIT 5"
    sortKeys text = [⟨25, 35⟩, ⟨37, 38⟩] ∧
      withSuffix text ⟨25, 35⟩ " desc  NULLS\nLast" =
        "SELECT a FROM t ORDER BY 'asc' || b desc  NULLS\nLast, 2 LIMIT 5".toList ∧
      check .danglingOrderBy .lexical (withSuffix text ⟨25, 35⟩ " desc  NULLS\nLast") =
        some (.danglingOrderBy "'asc' || b") := by
  intro text
  have hkeys : sortKeys text = [⟨25, 35⟩, ⟨37, 38⟩] := by decide +kernel
  have hwords : Spelling ["desc".toList, "nulls".toList, "last".toList]
      ("desc".toList ++ ("  ".toList ++ ("NULLS".toList ++ ("\n".toList ++ "Last".toList)))) :=
    .next (by decide) (by decide) (by decide)
      (.next (by decide) (by decide) (by decide) (.last (by decide)))
  have hsuffix : Selection.IsSortSuffix " desc  NULLS\nLast".toList :=
    ⟨" ".toList, _, _, rfl, by decide, by decide, by decide, hwords⟩
  have hselection : clauseSpan? text Clause.selection.opening Clause.selection.boundaries =
      some ⟨6, 9⟩ := by
    decide +kernel
  have hordering : clauseSpan? text Clause.ordering.opening Clause.ordering.boundaries =
      some ⟨24, 39⟩ := by
    decide +kernel
  have hbare : Selection.sortColumn (Span.slice ⟨25, 35⟩ text) = Span.slice ⟨25, 35⟩ text := by
    decide +kernel
  have hloose : ∀ mark ∈ ((scan text).drop 35).head?, mark.isWord = false := by decide +kernel
  obtain ⟨-, hsame, -⟩ := checkOrdering_withSuffix hselection hordering (by decide)
    (by simp [hkeys]) hbare hloose hsuffix
  exact ⟨hkeys, by decide +kernel, hsame.trans (by decide +kernel)⟩

/-- Behind a key that a boundary follows directly, a sort suffix and the boundary become one word,
so that the clause goes on. -/
theorem not_forall_checkOrdering_withSuffix :
    ¬∀ (text suffix : Text) (selection ordering key : Span),
      clauseSpan? text Clause.selection.opening Clause.selection.boundaries = some selection →
      clauseSpan? text Clause.ordering.opening Clause.ordering.boundaries = some ordering →
      selection.stop < ordering.start → key ∈ sortKeys text →
      Selection.sortColumn (key.slice text) = key.slice text →
      Selection.IsSortSuffix suffix →
        check .danglingOrderBy .lexical (withSuffix text key suffix) =
          check .danglingOrderBy .lexical text := by
  intro hall
  have hsuffix : Selection.IsSortSuffix " DESC".toList :=
    ⟨" ".toList, ["desc".toList], _, rfl, by decide, by decide, by decide, .last (by decide)⟩
  have hsame := hall "SELECT a FROM t ORDER BY \"b\"LIMIT 5" " DESC" ⟨6, 9⟩ ⟨24, 28⟩ ⟨25, 28⟩
    (by decide +kernel) (by decide +kernel) (by decide) (by decide +kernel) (by decide +kernel)
    hsuffix
  have hdiffer : check .danglingOrderBy .lexical
        (withSuffix "SELECT a FROM t ORDER BY \"b\"LIMIT 5" ⟨25, 28⟩ " DESC") ≠
      check .danglingOrderBy .lexical "SELECT a FROM t ORDER BY \"b\"LIMIT 5" := by
    decide +kernel
  exact hdiffer hsame

end Rule

end QueryLint
